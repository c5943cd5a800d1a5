-- SUMMARY: The pieces around a filter: heads of statements, keywords and limits.
import RelMap.Proofs.Sql.Parts

/-!
# Heads and tails

What holds of the pieces of a checked filter holds of the pieces of a whole request:
they ask for what its parts ask for, they are as plain as its parts, and no digit runs
into a placeholder.
-/
namespace RelMap

/-! ## Selections -/

namespace RowLimit

theorem startsClear_pieces (d : Dialect) {lead : String} (hlead : lead = "" ∨ lead = " ")
    (l : RowLimit) : ∀ p ∈ (l.pieces d lead).head?, p.StartsClear := by
  have hlimit : (Piece.text (lead ++ "LIMIT ")).StartsClear := by
    rcases hlead with rfl | rfl
    · exact startsClear_text rfl rfl
    · exact startsClear_text rfl rfl
  intro p hp
  cases l with
  | none => cases hp
  | count n => cases hp; exact hlimit
  | page skipped n => cases d <;> cases hp <;> exact hlimit

end RowLimit

namespace Selection

variable (d : Dialect) (s : Selection)

theorem isChain_predicatePieces : s.predicatePieces.IsChain Piece.Apart := by
  unfold predicatePieces
  split
  · next p _ => exact p.isChain_pieces
  · exact .nil

/-- The pieces before a limit stay apart from it. -/
theorem isChain_append_limit {ps : List Piece} (h : ps.IsChain Piece.Apart) {lead : String}
    (hlead : lead = "" ∨ lead = " ") : (ps ++ s.limit.pieces d lead).IsChain Piece.Apart :=
  h.append (s.limit.isChain_pieces d lead) fun _ _ q hq =>
    .inr (s.limit.startsClear_pieces d hlead q hq)

theorem isChain_clause : (s.clause d).IsChain Piece.Apart := by
  refine s.isChain_append_limit d s.isChain_predicatePieces ?_
  split
  · exact .inl rfl
  · exact .inr rfl

theorem tail_eq : s.tail d =
    (if s.predicate.isSome then [.text " WHERE "] else []) ++ s.predicatePieces ++
      s.limit.pieces d " " := by
  obtain ⟨predicate, limit⟩ := s
  cases predicate <;> rfl

theorem isChain_tail : (s.tail d).IsChain Piece.Apart := by
  rw [tail_eq]
  refine s.isChain_append_limit d ?_ (.inr rfl)
  split
  · exact Piece.isChain_text_cons s.isChain_predicatePieces
  · exact s.isChain_predicatePieces

theorem startsClear_tail : ∀ p ∈ (s.tail d).head?, p.StartsClear := by
  obtain ⟨predicate, limit⟩ := s
  cases predicate with
  | none => exact limit.startsClear_pieces d (.inr rfl)
  | some predicate =>
    intro p hp
    cases hp
    exact startsClear_text rfl rfl

theorem demands_clause : (s.clause d).flatMap Piece.demands =
    s.predicatePieces.flatMap Piece.demands ++ List.replicate s.limit.values.length ⟨1, 1⟩ := by
  rw [clause, List.flatMap_append, RowLimit.demands_pieces]

theorem demands_tail : (s.tail d).flatMap Piece.demands =
    s.predicatePieces.flatMap Piece.demands ++ List.replicate s.limit.values.length ⟨1, 1⟩ := by
  rw [tail_eq, List.flatMap_append, List.flatMap_append, RowLimit.demands_pieces]
  split <;> rfl

variable {d s} {T : String → Prop} {F : String → Nat → Prop}

theorem satisfies_clause (hT : TextProperty T) (h : ∀ q ∈ s.predicatePieces, q.Satisfies T F) :
    ∀ q ∈ s.clause d, q.Satisfies T F := by
  intro q hq
  rcases List.mem_append.mp hq with hq | hq
  · exact h q hq
  · refine RowLimit.satisfies_pieces hT d ?_ s.limit q hq
    split <;> decide

theorem satisfies_tail (hT : TextProperty T) (h : ∀ q ∈ s.predicatePieces, q.Satisfies T F) :
    ∀ q ∈ s.tail d, q.Satisfies T F := by
  intro q hq
  rw [tail_eq] at hq
  rcases List.mem_append.mp hq with hq | hq
  · rcases List.mem_append.mp hq with hq | hq
    · split at hq
      · cases List.mem_singleton.mp hq
        exact hT.of_bare (by decide)
      · cases hq
    · exact h q hq
  · exact RowLimit.satisfies_pieces hT d (by decide) s.limit q hq

end Selection

/-! ## Heads of statements -/

namespace Dialect

theorem mem_of_mem_doubled {quote c : Char} {cs : List Char} (h : c ∈ doubled quote cs) :
    c ∈ cs := by
  induction cs with
  | nil => exact h
  | cons c' cs ih =>
    rw [doubled] at h
    split at h
    · next heq =>
      simp only [List.mem_cons] at h ⊢
      rcases h with rfl | rfl | h
      · exact .inl heq.symm
      · exact .inl heq.symm
      · exact .inr (ih h)
    · rcases List.mem_cons.mp h with rfl | h
      · exact .head _
      · exact .tail _ (ih h)

/-- Quoting adds quote characters only. -/
theorem dollar_not_mem_quote (d : Dialect) {name : String} (h : '$' ∉ name.toList) :
    '$' ∉ (d.quote name).toList := by
  have hquote : '$' ≠ d.quoteChar := by cases d <;> decide
  simp only [quote, String.toList_ofList, List.cons_append, List.mem_cons, List.mem_append,
    List.not_mem_nil, or_false, not_or]
  exact ⟨hquote, fun hname => h (mem_of_mem_doubled hname), hquote⟩

variable (d : Dialect)

theorem isChain_columnList (columns : List String) :
    (d.columnList columns).IsChain Piece.Apart := by
  refine Piece.isChain_separated (startsClear_text rfl rfl) fun ps hps => ?_
  obtain ⟨name, -, rfl⟩ := List.mem_map.mp hps
  exact .singleton _

/-- Identifiers contribute nothing that fixed text does not. -/
theorem flatMap_columnList {f : Piece → List α} (h : ∀ sql, f (.text sql) = [])
    (columns : List String) : (d.columnList columns).flatMap f = [] := by
  rw [columnList, Piece.flatMap_separated (h _), List.flatMap_map]
  exact List.flatMap_eq_nil_iff.mpr fun name _ => by simp [h]

theorem demands_columnList (columns : List String) :
    (d.columnList columns).flatMap Piece.demands = [] :=
  d.flatMap_columnList (fun _ => rfl) columns

theorem args_columnList (columns : List String) :
    (d.columnList columns).flatMap Piece.args = [] :=
  d.flatMap_columnList (fun _ => rfl) columns

theorem plain_columnList {columns : List String} (h : ∀ name ∈ columns, '$' ∉ name.toList) :
    ∀ q ∈ d.columnList columns, q.Plain := by
  intro q hq
  rcases Piece.mem_separated hq with rfl | ⟨ps, hps, hq⟩
  · simp [Piece.Plain]
  · obtain ⟨name, hname, rfl⟩ := List.mem_map.mp hps
    cases List.mem_singleton.mp hq
    exact d.dollar_not_mem_quote (h name hname)

/-- The pieces of the row of an INSERT. -/
def insertRow (values : Assignments) : List Piece :=
  if values.isEmpty then
    match d with
    | .mysql => [.text " () VALUES ()"]
    | .postgresql | .sqlite => [.text " DEFAULT VALUES"]
  else
    .text " (" :: d.columnList (values.map (·.1)) ++
      .text ") VALUES (" :: Predicate.list (values.map (·.2)) ++ [.text ")"]

/-- The pieces of the result of an INSERT. -/
def insertResult : Option String → List Piece
  | some column => [.text (" RETURNING " ++ d.quote column)]
  | none => []

theorem insertPieces_eq (table : String) (values : Assignments) (returning : Option String) :
    d.insertPieces table values returning =
      .text ("INSERT INTO " ++ d.quote table) :: d.insertRow values ++
        d.insertResult returning := by
  cases returning <;> rfl

theorem isChain_insertRow (values : Assignments) : (d.insertRow values).IsChain Piece.Apart := by
  unfold insertRow
  split
  · cases d <;> exact .singleton _
  · rw [List.append_assoc]
    exact Piece.isChain_text_cons (Piece.isChain_append_text (startsClear_text rfl rfl)
      (d.isChain_columnList _) (Piece.isChain_append_text (startsClear_text rfl rfl)
        (Predicate.isChain_list _) .nil))

theorem isChain_insertPieces (table : String) (values : Assignments)
    (returning : Option String) :
    (d.insertPieces table values returning).IsChain Piece.Apart := by
  rw [insertPieces_eq]
  refine Piece.isChain_text_cons ?_
  cases returning with
  | none => simpa [insertResult] using d.isChain_insertRow values
  | some column =>
    exact Piece.isChain_append_text (startsClear_append (startsClear_text rfl rfl) _)
      (d.isChain_insertRow values) .nil

theorem demands_insertRow (values : Assignments) :
    (d.insertRow values).flatMap Piece.demands = List.replicate values.length ⟨1, 1⟩ := by
  unfold insertRow
  split
  · next hempty =>
    rw [List.isEmpty_iff.mp hempty]
    cases d <;> rfl
  · simp [demands_columnList, Predicate.demands_list, Piece.demands]

theorem args_insertRow (values : Assignments) :
    (d.insertRow values).flatMap Piece.args = values.map (·.2) := by
  unfold insertRow
  split
  · next hempty =>
    rw [List.isEmpty_iff.mp hempty]
    cases d <;> rfl
  · simp [args_columnList, Predicate.args_list, Piece.args]

theorem plain_insertRow {values : Assignments} (h : ∀ a ∈ values, '$' ∉ a.1.toList) :
    ∀ q ∈ d.insertRow values, q.Plain := by
  intro q hq
  unfold insertRow at hq
  split at hq
  · cases d <;> simp only [List.mem_singleton] at hq <;> subst hq <;> simp [Piece.Plain]
  · simp only [List.cons_append, List.append_assoc, List.mem_cons, List.mem_append,
      List.not_mem_nil, or_false] at hq
    rcases hq with rfl | hq | rfl | hq | rfl
    · simp [Piece.Plain]
    · refine d.plain_columnList (fun name hname => ?_) q hq
      obtain ⟨a, ha, rfl⟩ := List.mem_map.mp hname
      exact h a ha
    · simp [Piece.Plain]
    · exact Piece.plain_iff_satisfies.mpr (Predicate.satisfies_list textProperty_plain _ q hq)
    · simp [Piece.Plain]

end Dialect

theorem Part.demands_identifiers (names : List String) :
    (names.map Part.identifier).flatMap Part.demands = [] := by
  rw [List.flatMap_map]
  exact List.flatMap_eq_nil_iff.mpr fun _ _ => rfl

namespace Request

variable (d : Dialect) (r : Request)

/-- Within the head of a request no digit runs into a placeholder. -/
theorem isChain_head : (r.head d).IsChain Piece.Apart := by
  cases r with
  | compile filter => exact .nil
  | insert table values returning => exact d.isChain_insertPieces table values returning
  | select table columns filter =>
    exact Piece.isChain_text_cons (Piece.isChain_append_text
      (startsClear_append (startsClear_text rfl rfl) _) (d.isChain_columnList columns) .nil)
  | update table assignments filter =>
    refine Piece.isChain_text_cons (Piece.isChain_separated (startsClear_text rfl rfl) ?_)
    intro ps hps
    obtain ⟨a, -, rfl⟩ := List.mem_map.mp hps
    exact Piece.isChain_text_cons (.singleton (Piece.bind a.2))
  | delete table filter => exact .singleton _
  | count table filter => exact .singleton _

/-- The head of a request asks for what its parts ask for. -/
theorem demands_head : (r.head d).flatMap Piece.demands = r.headParts.flatMap Part.demands := by
  cases r with
  | compile filter => rfl
  | insert table values returning =>
    have hcolumns : (values.map fun a => Part.identifier a.1).flatMap Part.demands = [] := by
      simpa using Part.demands_identifiers (values.map (·.1))
    rw [head, headParts, Dialect.insertPieces_eq]
    cases returning <;>
      simp [Dialect.demands_insertRow, Dialect.insertResult, hcolumns, Part.demands_values,
        Piece.demands, Part.demands]
  | select table columns filter =>
    simp [head, headParts, Dialect.selectHead, Dialect.demands_columnList,
      Part.demands_identifiers, Piece.demands, Part.demands]
  | update table assignments filter =>
    simp only [head, headParts, Dialect.updateHead, List.flatMap_cons]
    rw [Piece.flatMap_separated rfl, List.flatMap_map, List.flatMap_assoc]
    rfl
  | delete table filter => rfl
  | count table filter => rfl

/-- The arguments of the head are the assigned values. -/
theorem args_head : (r.head d).flatMap Piece.args = r.assignments.map (·.2) := by
  cases r with
  | compile filter => rfl
  | insert table values returning =>
    rw [head, assignments, Dialect.insertPieces_eq]
    cases returning <;> simp [Dialect.args_insertRow, Dialect.insertResult, Piece.args]
  | select table columns filter =>
    simp [head, assignments, Dialect.selectHead, Dialect.args_columnList, Piece.args]
  | update table assignments filter =>
    simp only [head, Request.assignments, Dialect.updateHead, List.flatMap_cons]
    rw [Piece.flatMap_separated rfl, List.flatMap_map, List.map_eq_flatMap]
    rfl
  | delete table filter => rfl
  | count table filter => rfl

variable {r}

theorem plain_head (h : ∀ p ∈ r.headParts, p.Plain) : ∀ q ∈ r.head d, q.Plain := by
  have quoted {name : String} (hname : .identifier name ∈ r.headParts) :
      '$' ∉ (d.quote name).toList := d.dollar_not_mem_quote (h (.identifier name) hname)
  intro q hq
  cases r with
  | compile filter => cases hq
  | insert table values returning =>
    rw [head, Dialect.insertPieces_eq] at hq
    rcases List.mem_append.mp hq with hq | hq
    · rcases List.mem_cons.mp hq with rfl | hq
      · simp [Piece.Plain, quoted (.head _)]
      · refine d.plain_insertRow (fun a ha => h (.identifier a.1) ?_) q hq
        simp only [headParts, List.cons_append, List.append_assoc, List.mem_cons, List.mem_append]
        exact .inr (.inl (List.mem_map_of_mem ha))
    · cases returning with
      | none => cases hq
      | some column =>
        cases List.mem_singleton.mp hq
        have hcolumn : '$' ∉ (d.quote column).toList := quoted (by simp [headParts])
        simp [Piece.Plain, hcolumn]
  | select table columns filter =>
    simp only [head, Dialect.selectHead, List.cons_append, List.mem_cons, List.mem_append,
      List.not_mem_nil, or_false] at hq
    rcases hq with rfl | hq | rfl
    · simp [Piece.Plain]
    · refine d.plain_columnList (fun name hname => h (.identifier name) ?_) q hq
      exact List.mem_append_left _ (List.mem_map_of_mem hname)
    · have htable : '$' ∉ (d.quote table).toList := quoted (by simp [headParts])
      simp [Piece.Plain, htable]
  | update table assignments filter =>
    rcases List.mem_cons.mp hq with rfl | hq
    · simp [Piece.Plain, quoted (.head _)]
    · rcases Piece.mem_separated hq with rfl | ⟨ps, hps, hq⟩
      · simp [Piece.Plain]
      · obtain ⟨a, ha, rfl⟩ := List.mem_map.mp hps
        have hcolumn : '$' ∉ (d.quote a.1).toList :=
          quoted (.tail _ (List.mem_flatMap.mpr ⟨a, ha, .head _⟩))
        rcases List.mem_pair.mp hq with rfl | rfl
        · simp [Piece.Plain, hcolumn]
        · trivial
  | delete table filter =>
    cases List.mem_singleton.mp hq
    simp [Piece.Plain, quoted (.head _)]
  | count table filter =>
    cases List.mem_singleton.mp hq
    simp [Piece.Plain, quoted (.head _)]

end Request

/-! ## Requests -/

namespace Request

variable {d : Dialect} {lookup : Lookup} {r : Request} {selection : Selection}

theorem isChain_pieces : (r.head d ++ r.tail d selection).IsChain Piece.Apart := by
  cases r with
  | compile filter => exact selection.isChain_clause d
  | _ =>
    exact (isChain_head d _).append (selection.isChain_tail d) fun _ _ q hq =>
      .inr (selection.startsClear_tail d q hq)

theorem demands_tail (h : r.filter.select lookup = .ok selection) :
    (r.tail d selection).flatMap Piece.demands = r.filter.parts.flatMap Part.demands := by
  rw [← Filter.demands_of_select h]
  cases r with
  | compile filter => exact selection.demands_clause d
  | _ => exact selection.demands_tail d

theorem plain_tail (h : r.filter.select lookup = .ok selection)
    (hparts : ∀ p ∈ r.filter.parts, p.Plain) : ∀ q ∈ r.tail d selection, q.Plain := by
  have hpieces := Filter.satisfies_of_select textProperty_plain h fun p hp =>
    (hparts p hp).satisfies
  intro q hq
  rw [Piece.plain_iff_satisfies]
  cases r with
  | compile filter => exact Selection.satisfies_clause textProperty_plain hpieces q hq
  | _ => exact Selection.satisfies_tail textProperty_plain hpieces q hq

/-- A rendered request consists of plain pieces that stay apart and ask for what the
parts of the request ask for. -/
theorem pieces_of_render {s : Statement} (h : r.render d lookup = .ok s)
    (plain : ∀ p ∈ r.parts, p.Plain) :
    ∃ tail : List Piece, s = d.assemble (r.head d ++ tail) ∧
      (r.head d ++ tail).IsChain Piece.Apart ∧ (∀ q ∈ r.head d ++ tail, q.Plain) ∧
      (r.head d ++ tail).flatMap Piece.demands = r.parts.flatMap Part.demands := by
  obtain ⟨selection, hselect, rfl⟩ := render_eq_ok h
  obtain ⟨hhead, hfilter⟩ := List.forall_mem_append.mp plain
  refine ⟨r.tail d selection, rfl, isChain_pieces, ?_, ?_⟩
  · exact List.forall_mem_append.mpr ⟨plain_head d hhead, plain_tail hselect hfilter⟩
  · rw [List.flatMap_append, demands_head, demands_tail hselect, parts, List.flatMap_append]

end Request

end RelMap
