-- SUMMARY: Quoted identifiers are read back, and statements determine theirs.
import RelMap.Proofs.Sql.Erasure
import RelMap.Proofs.Sql.Statements

/-!
# Identifiers

A scan reads a quoted identifier off the front of a text and stops behind its closing quote,
whatever the identifier holds. A list of columns can be read in the same way, and so can the head
of a statement. Main statement: statements with the same text name the same table and the same
columns.
-/
namespace RelMap

namespace Dialect

/-! ## Scanning -/

section Scan

variable {quote : Char}

theorem closeQuote?_cons_of_ne {c : Char} (h : c ≠ quote) (cs : List Char) :
    closeQuote? quote (c :: cs) =
      (closeQuote? quote cs).map fun (id, rest) => (c :: id, rest) := by
  cases cs with
  | nil => simp [closeQuote?, h]
  | cons c' cs => simp [closeQuote?, h]

/-- A scan stops at the closing quote. -/
theorem closeQuote?_doubled (cs : List Char) {rest : List Char} (h : rest.head? ≠ some quote) :
    closeQuote? quote (doubled quote cs ++ quote :: rest) = some (cs, rest) := by
  induction cs with
  | nil =>
    cases rest with
    | nil => simp [doubled, closeQuote?]
    | cons c rest =>
      have hc : c ≠ quote := fun hc => h (congrArg some hc)
      simp [doubled, closeQuote?, hc]
  | cons c cs ih =>
    by_cases hc : c = quote
    · subst hc
      simp [doubled, closeQuote?, ih]
    · simp [doubled, hc, closeQuote?_cons_of_ne, ih]

/-- A scan that stops has read a doubled text and its closing quote. -/
theorem eq_of_closeQuote? {text cs rest : List Char}
    (h : closeQuote? quote text = some (cs, rest)) :
    text = doubled quote cs ++ quote :: rest ∧ rest.head? ≠ some quote := by
  fun_induction closeQuote? quote text generalizing cs rest with
  | case1 => cases h
  | case2 => cases h; simp [doubled]
  | case3 => cases h
  | case4 text ih =>
    obtain ⟨⟨id, rest'⟩, hread, heq⟩ := Option.map_eq_some_iff.mp h
    cases heq
    obtain ⟨rfl, hrest⟩ := ih hread
    exact ⟨by simp [doubled], hrest⟩
  | case5 c text hc =>
    cases h
    exact ⟨by simp [doubled], by simpa using hc⟩
  | case6 c c' text hc ih =>
    obtain ⟨⟨id, rest'⟩, hread, heq⟩ := Option.map_eq_some_iff.mp h
    cases heq
    obtain ⟨hcs, hrest⟩ := ih hread
    exact ⟨by simp [doubled, hc, hcs], hrest⟩

end Scan

section Read

variable (d : Dialect)

theorem toList_quote (name : String) :
    (d.quote name).toList = d.quoteChar :: doubled d.quoteChar name.toList ++ [d.quoteChar] :=
  String.toList_ofList

/-- What a scan reads off the front of a text is the identifier that is quoted there. -/
theorem unquote?_eq_some_iff {text rest : List Char} {name : String} :
    d.unquote? text = some (name.toList, rest) ↔
      text = (d.quote name).toList ++ rest ∧ rest.head? ≠ some d.quoteChar := by
  rw [toList_quote]
  constructor
  · intro h
    unfold unquote? at h
    split at h
    · cases h
    · next c cs =>
      split at h
      · next hc =>
        obtain ⟨rfl, hrest⟩ := eq_of_closeQuote? h
        exact ⟨by simp [hc], hrest⟩
      · cases h
  · rintro ⟨rfl, hrest⟩
    have hclose := closeQuote?_doubled name.toList hrest
    simp [unquote?, hclose]

end Read

variable {d : Dialect}

/-! ## Lists of columns -/

/-- A quoted identifier does not run into what stands behind it. -/
theorem quote_append_inj {name name' : String} {rest rest' : List Char}
    (hrest : rest.head? ≠ some d.quoteChar) (hrest' : rest'.head? ≠ some d.quoteChar)
    (h : (d.quote name).toList ++ rest = (d.quote name').toList ++ rest') :
    name = name' ∧ rest = rest' := by
  have hread : d.unquote? ((d.quote name).toList ++ rest) = some (name.toList, rest) :=
    d.unquote?_eq_some_iff.mpr ⟨rfl, hrest⟩
  have hread' : d.unquote? ((d.quote name).toList ++ rest) = some (name'.toList, rest') :=
    d.unquote?_eq_some_iff.mpr ⟨h, hrest'⟩
  obtain ⟨hname, hrest⟩ := Prod.mk.inj (Option.some.inj (hread.symm.trans hread'))
  exact ⟨String.toList_inj.mp hname, hrest⟩

theorem quote_inj {name name' : String} (h : d.quote name = d.quote name') : name = name' := by
  have hnil : ([] : List Char).head? ≠ some d.quoteChar := nofun
  exact (quote_append_inj hnil hnil (by rw [h])).1

/-- The text of the columns behind the first one. -/
def laterColumns (d : Dialect) : List String → List Char
  | [] => []
  | column :: columns => ',' :: ' ' :: (d.quote column).toList ++ laterColumns d columns

theorem toList_render_columnList (bound : Nat) (column : String) (columns : List String) :
    (d.render bound (d.columnList (column :: columns))).toList =
      (d.quote column).toList ++ d.laterColumns columns := by
  induction columns generalizing column with
  | nil => simp [columnList, Piece.separated, render, renderPiece, laterColumns]
  | cons next columns ih =>
    have hrest : d.columnList (column :: next :: columns) =
      .text (d.quote column) :: .text ", " :: d.columnList (next :: columns) := rfl
    simp [hrest, render, renderPiece, Piece.args, ih, laterColumns]

/-- Text that neither doubles the last quote of a list of columns nor continues the list. -/
structure Follows (d : Dialect) (rest : List Char) : Prop where
  quote : rest.head? ≠ some d.quoteChar
  comma : rest.head? ≠ some ','

theorem follows_of_head? {rest : List Char} (h : rest.head? = some ' ' ∨ rest.head? = some ')') :
    d.Follows rest := by
  rcases h with h | h <;> cases d <;> exact ⟨by simp [h, quoteChar], by simp [h]⟩

theorem head?_laterColumns_append (columns : List String) {rest : List Char}
    (h : d.Follows rest) : (d.laterColumns columns ++ rest).head? ≠ some d.quoteChar := by
  cases columns with
  | nil => exact h.quote
  | cons column columns => cases d <;> simp [laterColumns, quoteChar]

/-- Columns do not run into each other, nor into what stands behind them. -/
theorem laterColumns_append_inj {columns columns' : List String} {rest rest' : List Char}
    (hrest : d.Follows rest) (hrest' : d.Follows rest')
    (h : d.laterColumns columns ++ rest = d.laterColumns columns' ++ rest') :
    columns = columns' ∧ rest = rest' := by
  induction columns generalizing columns' with
  | nil =>
    cases columns' with
    | nil => exact ⟨rfl, h⟩
    | cons column' columns' => exact absurd (congrArg List.head? h) hrest.comma
  | cons column columns ih =>
    cases columns' with
    | nil => exact absurd (congrArg List.head? h.symm) hrest'.comma
    | cons column' columns' =>
      simp only [laterColumns, List.cons_append, List.cons.injEq, true_and, List.append_assoc] at h
      obtain ⟨rfl, hlater⟩ := quote_append_inj (head?_laterColumns_append columns hrest)
        (head?_laterColumns_append columns' hrest') h
      obtain ⟨rfl, rfl⟩ := ih hlater
      exact ⟨rfl, rfl⟩

theorem columnList_append_inj {columns columns' : List String} (hne : columns ≠ [])
    (hne' : columns' ≠ []) {rest rest' : List Char} (hrest : d.Follows rest)
    (hrest' : d.Follows rest')
    (h : (d.render 0 (d.columnList columns)).toList ++ rest =
      (d.render 0 (d.columnList columns')).toList ++ rest') :
    columns = columns' ∧ rest = rest' := by
  obtain ⟨column, columns, rfl⟩ := List.exists_cons_of_ne_nil hne
  obtain ⟨column', columns', rfl⟩ := List.exists_cons_of_ne_nil hne'
  simp only [toList_render_columnList, List.append_assoc] at h
  obtain ⟨rfl, hlater⟩ := quote_append_inj (head?_laterColumns_append columns hrest)
    (head?_laterColumns_append columns' hrest') h
  obtain ⟨rfl, rfl⟩ := laterColumns_append_inj hrest hrest' hlater
  exact ⟨rfl, rfl⟩

/-! ## Rows to insert -/

variable {values values' : Assignments}

theorem exists_toList_insertRow (h : values ≠ []) : ∃ tail,
    (d.render 0 (d.insertRow values)).toList =
      ' ' :: '(' :: ((d.render 0 (d.columnList (values.map (·.1)))).toList ++ ')' :: tail) := by
  have hempty : values.isEmpty = false := List.isEmpty_eq_false_iff.mpr h
  simp [insertRow, hempty, render, render_append, renderPiece, Piece.args]

theorem head?_insertRow_append (values : Assignments) (rest : List Char) :
    ((d.render 0 (d.insertRow values)).toList ++ rest).head? ≠ some d.quoteChar := by
  by_cases h : values = []
  · subst h
    cases d <;> simp [insertRow, render, renderPiece, quoteChar]
  · obtain ⟨tail, htail⟩ := exists_toList_insertRow (d := d) h
    rw [htail]
    cases d <;> simp [quoteChar]

/-- A row of defaults does not read as a row with columns. -/
theorem insertRow_nil_append_ne (h : values ≠ []) (rest rest' : List Char) :
    (d.render 0 (d.insertRow [])).toList ++ rest ≠
      (d.render 0 (d.insertRow values)).toList ++ rest' := by
  obtain ⟨⟨column, v⟩, values, rfl⟩ := List.exists_cons_of_ne_nil h
  obtain ⟨tail, htail⟩ := exists_toList_insertRow (d := d) h
  rw [htail, List.map_cons, toList_render_columnList, toList_quote]
  cases d <;> simp [insertRow, render, renderPiece, quoteChar]

theorem columns_of_insertRow {rest rest' : List Char}
    (h : (d.render 0 (d.insertRow values)).toList ++ rest =
      (d.render 0 (d.insertRow values')).toList ++ rest') :
    values.map (·.1) = values'.map (·.1) := by
  by_cases hne : values = []
  · subst hne
    by_cases hne' : values' = []
    · rw [hne']
    · exact absurd h (insertRow_nil_append_ne hne' rest rest')
  · by_cases hne' : values' = []
    · subst hne'
      exact absurd h.symm (insertRow_nil_append_ne hne rest' rest)
    · obtain ⟨tail, htail⟩ := exists_toList_insertRow (d := d) hne
      obtain ⟨tail', htail'⟩ := exists_toList_insertRow (d := d) hne'
      simp only [htail, htail', List.cons_append, List.cons.injEq, true_and,
        List.append_assoc] at h
      exact (columnList_append_inj (by simpa using hne) (by simpa using hne')
        (follows_of_head? (.inr rfl)) (follows_of_head? (.inr rfl)) h).1

/-! ## Statements -/

variable {table table' : String} {returning returning' : Option String}

theorem toList_insert_sql : (d.insert table values returning).sql.toList =
    "INSERT INTO ".toList ++ ((d.quote table).toList ++
      ((d.render 0 (d.insertRow values)).toList ++
        (d.render values.length (d.insertResult returning)).toList)) := by
  simp [insert, assemble, insertPieces_eq, render, renderPiece, render_append, args_insertRow,
    Piece.args]

/-- The text of an INSERT depends on the columns and not on their values. -/
theorem insert_sql_congr (h : values.map (·.1) = values'.map (·.1)) :
    (d.insert table values returning).sql = (d.insert table values' returning).sql := by
  have herased : values.erased = values'.erased := by
    have hmap (vs : Assignments) :
        vs.erased = (vs.map (·.1)).map fun column => (column, Value.null) := by
      rw [List.map_map]
      rfl
    rw [hmap, hmap, h]
  have hrender (vs : Assignments) : (d.insert table vs returning).sql =
      d.render 0 (d.insertPieces table vs.erased returning) := by
    rw [insertPieces_erased, render_erased]
    rfl
  rw [hrender, hrender, herased]

theorem insertResult_inj (bound : Nat) (h : d.render bound (d.insertResult returning) =
    d.render bound (d.insertResult returning')) : returning = returning' := by
  cases returning with
  | none =>
    cases returning' with
    | none => rfl
    | some column' =>
      have := congrArg String.toList h
      simp [insertResult, render, renderPiece] at this
  | some column =>
    cases returning' with
    | none =>
      have := congrArg String.toList h
      simp [insertResult, render, renderPiece] at this
    | some column' =>
      have hquote : d.quote column = d.quote column' := by
        simpa [insertResult, render, renderPiece] using h
      rw [quote_inj hquote]

/-- The text of an INSERT tells its identifiers, and nothing else. -/
theorem insert_sql_eq_iff :
    (d.insert table values returning).sql = (d.insert table' values' returning').sql ↔
      table = table' ∧ values.map (·.1) = values'.map (·.1) ∧ returning = returning' := by
  constructor
  · intro h
    have htext := congrArg String.toList h
    rw [toList_insert_sql, toList_insert_sql] at htext
    obtain ⟨rfl, hrow⟩ := quote_append_inj (head?_insertRow_append values _)
      (head?_insertRow_append values' _) (List.append_cancel_left htext)
    have hcolumns := columns_of_insertRow hrow
    refine ⟨rfl, hcolumns, ?_⟩
    rw [← insert_sql_congr hcolumns] at h
    have htext := congrArg String.toList h
    rw [toList_insert_sql, toList_insert_sql] at htext
    have hresult := List.append_cancel_left (List.append_cancel_left (List.append_cancel_left htext))
    exact insertResult_inj values.length (String.toList_inj.mp hresult)
  · rintro ⟨rfl, hcolumns, rfl⟩
    exact insert_sql_congr hcolumns

variable {columns columns' : List String} {filter filter' : Filter} {lookup lookup' : Lookup}
  {s s' : Statement}

/-- Without a filter a SELECT is its head. -/
theorem toList_select_sql (hfilter : filter.isEmpty = true)
    (h : d.select table columns filter lookup = .ok s) :
    columns ≠ [] ∧ s.sql.toList = "SELECT ".toList ++
      ((d.render 0 (d.columnList columns)).toList ++
        (" FROM ".toList ++ (d.quote table).toList)) := by
  have hselect : filter.select lookup = .ok ⟨none, .none⟩ := by
    cases filter with
    | none => rfl
    | condition c => cases hfilter
    | raw clause args => exact if_pos hfilter
  unfold select at h
  split at h
  · cases h
  · next hne =>
    rw [withFilter, hselect] at h
    cases h
    refine ⟨by simpa using hne, ?_⟩
    simp [assemble, selectHead, Selection.tail, RowLimit.pieces, render, render_append,
      renderPiece, Piece.args, args_columnList]

/-- The text of a SELECT without a filter tells its identifiers, and nothing else. -/
theorem select_sql_eq_iff (hfilter : filter.isEmpty = true) (hfilter' : filter'.isEmpty = true)
    (h : d.select table columns filter lookup = .ok s)
    (h' : d.select table' columns' filter' lookup' = .ok s') :
    s.sql = s'.sql ↔ table = table' ∧ columns = columns' := by
  obtain ⟨hne, htext⟩ := toList_select_sql hfilter h
  obtain ⟨hne', htext'⟩ := toList_select_sql hfilter' h'
  constructor
  · intro hsql
    rw [hsql, htext'] at htext
    have hfrom (rest : List Char) : d.Follows (" FROM ".toList ++ rest) :=
      follows_of_head? (.inl (by simp))
    obtain ⟨rfl, hrest⟩ := columnList_append_inj hne hne' (hfrom _) (hfrom _)
      (List.append_cancel_left htext).symm
    exact ⟨quote_inj (String.toList_inj.mp (List.append_cancel_left hrest)), rfl⟩
  · rintro ⟨rfl, rfl⟩
    exact String.toList_inj.mp (htext.trans htext'.symm)

/-- Quoting loses nothing and cannot be escaped. A scan reads an identifier off the front of a
text exactly where the identifier is quoted there and no further quote follows. So the text of an
INSERT tells the table, the columns and what is returned, and the text of a SELECT without a filter
tells the table and the columns. -/
theorem identifiers_of_text (d : Dialect) :
    (∀ (name : String) (text rest : List Char),
      d.unquote? text = some (name.toList, rest) ↔
        text = (d.quote name).toList ++ rest ∧ rest.head? ≠ some d.quoteChar) ∧
      (∀ (table table' : String) (values values' : Assignments)
        (returning returning' : Option String),
        (d.insert table values returning).sql = (d.insert table' values' returning').sql ↔
          table = table' ∧ values.map (·.1) = values'.map (·.1) ∧ returning = returning') ∧
      ∀ (table table' : String) (columns columns' : List String) (filter filter' : Filter)
        (lookup lookup' : Lookup) (s s' : Statement),
        filter.isEmpty = true → filter'.isEmpty = true →
          d.select table columns filter lookup = .ok s →
            d.select table' columns' filter' lookup' = .ok s' →
              (s.sql = s'.sql ↔ table = table' ∧ columns = columns') :=
  ⟨fun _ _ _ => d.unquote?_eq_some_iff, fun _ _ _ _ _ _ => insert_sql_eq_iff,
    fun _ _ _ _ _ _ _ _ _ _ hfilter hfilter' h h' => select_sql_eq_iff hfilter hfilter' h h'⟩

/-- One identifier that spells out two columns is not taken for them, and neither is a table that
spells out a column. -/
theorem identifiers_of_text_spelledColumns :
    postgresql.unquote? "\"a\"\", \"\"b\", \"\"".toList =
        some ("a\", \"b".toList, ", \"\"".toList) ∧
      (mysql.insert "t\x60 (\x60a" [] none).sql ≠ (mysql.insert "t" [("a", .null)] none).sql ∧
      ∃ s s', sqlite.select "t" ["a\", \"b"] .none (fun _ => none) = .ok s ∧
        sqlite.select "t" ["a", "b"] (.raw " - " [.null]) (fun _ => some .null) = .ok s' ∧
        s.sql ≠ s'.sql := by
  refine ⟨?_, fun h => ?_, _, _, rfl, rfl, fun h => ?_⟩
  · exact ((identifiers_of_text postgresql).1 "a\", \"b" _ _).mpr ⟨by decide, by decide⟩
  · have hcolumns := (((identifiers_of_text mysql).2.1 _ _ _ _ _ _).mp h).2.1
    cases hcolumns
  · have hcolumns := (((identifiers_of_text sqlite).2.2 "t" "t" ["a\", \"b"] ["a", "b"] .none
      (.raw " - " [.null]) (fun _ => none) (fun _ => some .null) _ _ rfl (by decide) rfl rfl).mp
        h).2
    exact absurd hcolumns (by decide)

end Dialect

end RelMap
