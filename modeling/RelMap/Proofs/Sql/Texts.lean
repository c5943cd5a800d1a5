-- SUMMARY: The texts of the statements that write rows.
import RelMap.Proofs.Sql.Attachment

/-!
# Texts of statements that write

A statement names the columns that it writes with commas between them, and the value of a column
has the placeholder of its position. Main statements: the text and the arguments of an INSERT,
and those of an UPDATE up to its filter.
-/
namespace RelMap

namespace Dialect

variable (d : Dialect)

/-- The placeholder of argument `n`, counted from one. -/
def placeholder (n : Nat) : String :=
  if d.numbersPlaceholders then String.ofList (Placeholder.numbered n) else "?"

/-- The text of a row with values for the columns; without columns it has their defaults. -/
def rowText (columns : List String) : String :=
  if columns = [] then
    match d with
    | .mysql => " () VALUES ()"
    | .postgresql | .sqlite => " DEFAULT VALUES"
  else
    " (" ++ ", ".intercalate (columns.map d.quote) ++ ") VALUES (" ++
      ", ".intercalate ((List.range columns.length).map fun i => d.placeholder (i + 1)) ++ ")"

/-- The text of an INSERT into columns, and possibly of the column that it yields. -/
def insertText (table : String) (columns : List String) (returning : Option String) : String :=
  "INSERT INTO " ++ d.quote table ++ d.rowText columns ++
    match returning with
    | some column => " RETURNING " ++ d.quote column
    | none => ""

/-- The text of an UPDATE of columns, up to its filter. -/
def updateText (table : String) (columns : List String) : String :=
  "UPDATE " ++ d.quote table ++ " SET " ++ ", ".intercalate
    (columns.zipIdx.map fun (column, i) => d.quote column ++ " = " ++ d.placeholder (i + 1))

/-- What a filter adds to a statement behind `bound` arguments. -/
def tailText (filter : Filter) (lookup : Lookup) (bound : Nat) : String :=
  match filter.select lookup with
  | .ok selection => d.render bound (selection.tail d)
  | .error _ => ""

/-! ## Lists -/

/-- Parts that bind equally many values each are numbered by their positions. -/
theorem render_separated {f : α → List Piece} {width : Nat}
    (hwidth : ∀ a, ((f a).flatMap Piece.args).length = width) (separator : String)
    (parts : List α) (i : Nat) :
    d.render (width * i) (Piece.separated separator (parts.map f)) =
      separator.intercalate ((parts.zipIdx i).map fun p => d.render (width * p.2) (f p.1)) := by
  induction parts generalizing i with
  | nil => exact String.intercalate_nil.symm
  | cons a parts ih =>
    by_cases hnil : parts = []
    · rw [hnil]
      exact String.intercalate_singleton.symm
    · have hparts : parts.map f ≠ [] := by simpa using hnil
      have htexts : ((parts.zipIdx (i + 1)).map fun p => d.render (width * p.2) (f p.1)) ≠ [] := by
        simpa using hnil
      rw [List.map_cons, Piece.separated_cons _ _ hparts, List.zipIdx_cons, List.map_cons,
        String.intercalate_cons_of_ne_nil htexts, render_append, hwidth, ← Nat.mul_succ, ← ih,
        String.append_assoc]
      rfl

theorem render_columnList (columns : List String) :
    d.render 0 (d.columnList columns) = ", ".intercalate (columns.map d.quote) := by
  have hpart : (fun p : String × Nat => d.render (0 * p.2) [.text (d.quote p.1)]) =
      d.quote ∘ Prod.fst := by
    funext p
    simp [render, renderPiece]
  have htext := d.render_separated (f := fun column => [.text (d.quote column)]) (fun _ => rfl)
    ", " columns 0
  rw [hpart, ← List.map_map, List.zipIdx_map_fst] at htext
  exact htext

theorem render_list (vs : List Value) :
    d.render 0 (Predicate.list vs) =
      ", ".intercalate ((List.range vs.length).map fun i => d.placeholder (i + 1)) := by
  have hpart : (fun p : Value × Nat => d.render (1 * p.2) [.bind p.1]) =
      (fun i => d.placeholder (i + 1)) ∘ Prod.snd := by
    funext p
    simp [render, renderPiece, placeholder]
  have htext := d.render_separated (f := fun v => [.bind v]) (fun _ => rfl) ", " vs 0
  rw [hpart, ← List.map_map, List.zipIdx_map_snd, ← List.range_eq_range'] at htext
  exact htext

/-! ## Statements -/

theorem render_insertRow (values : Assignments) :
    d.render 0 (d.insertRow values) = d.rowText (values.map (·.1)) := by
  by_cases hnil : values = []
  · rw [hnil]
    cases d <;> rfl
  · have hcolumns : values.map (·.1) ≠ [] := by simpa using hnil
    have hlength : (values.map (·.1)).length = (values.map (·.2)).length := by simp
    unfold insertRow rowText
    rw [if_neg (by simpa using hnil), if_neg hcolumns, ← render_columnList, hlength,
      ← render_list]
    simp [render, renderPiece, render_append, args_columnList, Piece.args, String.append_assoc]

/-- An INSERT has the values of its columns as arguments. -/
theorem insert_eq (table : String) (values : Assignments) (returning : Option String) :
    d.insert table values returning =
      ⟨d.insertText table (values.map (·.1)) returning, values.map (·.2)⟩ := by
  have hargs : (d.insertPieces table values returning).flatMap Piece.args = values.map (·.2) :=
    Request.args_head d (.insert table values returning)
  rw [insert, assemble, hargs, insertPieces_eq]
  unfold insertText
  rw [← render_insertRow]
  cases returning <;>
    simp [render, renderPiece, render_append, insertResult, Piece.args, String.append_assoc]

theorem render_updateHead (table : String) (assignments : Assignments) :
    d.render 0 (d.updateHead table assignments) =
      d.updateText table (assignments.map (·.1)) := by
  have hpart : (fun p : (String × Value) × Nat =>
        d.render (1 * p.2) [.text (d.quote p.1.1 ++ " = "), .bind p.1.2]) =
      (fun p : String × Nat => d.quote p.1 ++ " = " ++ d.placeholder (p.2 + 1)) ∘
        Prod.map Prod.fst id := by
    funext p
    simp [render, renderPiece, placeholder, Piece.args]
  have htext := d.render_separated
    (f := fun p : String × Value => [.text (d.quote p.1 ++ " = "), .bind p.2]) (fun _ => rfl)
    ", " assignments 0
  rw [hpart, ← List.map_map, List.map_zipIdx] at htext
  rw [updateText, ← htext]
  rfl

variable {d} {table : String} {assignments : Assignments} {filter : Filter} {lookup : Lookup}

theorem attaches_update (hassignments : assignments ≠ []) :
    (Request.update table assignments filter).Attaches filter :=
  ⟨rfl, if_neg (by simpa using hassignments), fun _ _ => rfl⟩

/-- An UPDATE fails as its filter does on its own. -/
theorem update_of_compile_error (hassignments : assignments ≠ []) {e : Error}
    (hown : d.compile filter lookup = .error e) :
    d.update table assignments filter lookup = .error e :=
  (attaches_update hassignments).render_error hown

/-- An UPDATE is its assignments and then what its filter adds behind their values. -/
theorem update_of_compile (hassignments : assignments ≠ []) {own : Statement}
    (hown : d.compile filter lookup = .ok own) :
    d.update table assignments filter lookup =
      .ok ⟨d.updateText table (assignments.map (·.1)) ++
          d.tailText filter lookup assignments.length,
        assignments.map (·.2) ++ own.args⟩ := by
  unfold compile at hown
  cases hselect : filter.select lookup with
  | error m => rw [hselect] at hown; cases hown
  | ok selection =>
    rw [hselect] at hown
    cases hown
    have hattaches : (Request.update table assignments filter).Attaches filter :=
      attaches_update hassignments
    have hupdate := hattaches.render_ok (d := d) hselect
    rw [Request.head, render_updateHead] at hupdate
    rw [tailText, hselect]
    exact hupdate

end Dialect

end RelMap
