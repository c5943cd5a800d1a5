-- SUMMARY: Every statement attaches a filter in the same way.
import RelMap.Proofs.Sql.Formula
import RelMap.Proofs.Sql.Statements

/-!
# Attaching filters

The shape of a filter alone decides how it stands behind the head of a statement: not at all, as
a limit, or as a predicate with its keyword. Main statement: all statements fail as the filter on
its own does, and otherwise end in the same tail, which is the text of the filter on its own
behind what its shape asks for.
-/
namespace RelMap

/-! ## Shapes -/

/-- How a filter stands behind the head of a statement. -/
inductive Attachment where
  | nothing
  /-- A limit without a predicate. -/
  | limit
  /-- A predicate, and possibly a limit behind it. -/
  | predicate
  deriving DecidableEq, Repr

/-- The tail of a statement, from the text of its filter. -/
def Attachment.tail (sql : String) : Attachment → String
  | .nothing => ""
  | .limit => " " ++ sql
  | .predicate => " WHERE " ++ sql

/-- The operands of the limit that a condition consists of, as a whole or as the one clause of
a conjunction. -/
def Condition.soleLimit? (c : Condition) : Option (List Operand) :=
  match c.kind, c.args with
  | .limit, args => some args
  | .junction .and, [.node .limit _ _ args] => some args
  | _, _ => none

/-- How a filter stands behind the head of a statement, by its shape. -/
def Filter.attachment : Filter → Attachment
  | .none => .nothing
  | .raw clause _ => if isBlank clause then .nothing else .predicate
  | .condition c =>
    match c.soleLimit? with
    | some [] => .nothing
    | some (_ :: _) => .limit
    | Option.none => .predicate

/-- How a checked filter stands behind the head of a statement. -/
def Selection.attachment (s : Selection) : Attachment :=
  match s.predicate, s.limit.values with
  | some _, _ => .predicate
  | none, [] => .nothing
  | none, _ :: _ => .limit

theorem Condition.soleLimit?_eq_some {c : Condition} {limitArgs : List Operand}
    (h : c.soleLimit? = some limitArgs) :
    c.kind = .limit ∨
      c.kind = .junction .and ∧ ∃ left right, c.args = [.node .limit left right limitArgs] := by
  unfold soleLimit? at h
  split at h
  · next hkind => exact .inl hkind
  · next left right args hkind hargs =>
    cases h
    exact .inr ⟨hkind, left, right, hargs⟩
  · cases h

/-- The text of the predicate of a filter that checks. -/
def Filter.predicateText? (d : Dialect) (lookup : Lookup) (filter : Filter) : Option String :=
  match filter.select lookup with
  | .ok selection => selection.predicate.map fun p => d.render 0 p.pieces
  | .error _ => Option.none

variable {lookup : Lookup}

/-- A condition that reads as a clause consists of no limit. -/
theorem Resolves.soleLimit?_eq_none {c : Condition} {p : Predicate}
    (h : Resolves lookup c.toOperand p) : c.soleLimit? = none := by
  obtain ⟨kind, left, right, args⟩ := c
  refine Option.eq_none_iff_forall_ne_some.mpr fun limitArgs hsole => ?_
  rcases Condition.soleLimit?_eq_some hsole with rfl | ⟨rfl, l, r, rfl⟩
  · cases h.isLimit_eq_false
  · obtain ⟨clauses, hargs, -, each, -⟩ := Resolves.junction_inv h
    have hnone := Condition.among_map_fst each
    rw [← hargs] at hnone
    cases hnone

/-- A checked filter stands behind the head of a statement as its shape says. -/
theorem Selects.attachment_eq {c : Condition} {s : Selection} (h : Selects lookup c s) :
    (Filter.condition c).attachment = s.attachment := by
  cases h with
  | limit l => cases l <;> rfl
  | @limited left right limitLeft limitRight l before after each =>
    by_cases hnil : before ++ after = []
    · obtain ⟨rfl, rfl⟩ := List.append_eq_nil_iff.mp hnil
      cases l <;> rfl
    · have hsole : Condition.soleLimit? ⟨.junction .and, left, right, before.map Prod.fst ++
          .node .limit limitLeft limitRight (l.values.map .value) :: after.map Prod.fst⟩ =
            none := by
        refine Option.eq_none_iff_forall_ne_some.mpr fun limitArgs hsole => hnil ?_
        rcases Condition.soleLimit?_eq_some hsole with hkind | ⟨-, l, r, hargs⟩
        · cases hkind
        · have hlength := congrArg List.length hargs
          simp only [List.length_append, List.length_map, List.length_cons,
            List.length_nil] at hlength
          exact List.length_eq_zero_iff.mp (by rw [List.length_append]; omega)
      have hmap : (before ++ after).map Prod.snd ≠ [] := by simpa using hnil
      rw [Filter.attachment, hsole, Predicate.conjunction?_of_ne_nil hmap]
      rfl
  | unlimited whole =>
    rw [Filter.attachment, whole.soleLimit?_eq_none]
    rfl

theorem Filter.attachment_of_select {filter : Filter} {s : Selection}
    (h : filter.select lookup = .ok s) : filter.attachment = s.attachment := by
  cases filter with
  | none => cases h; rfl
  | raw clause args =>
    simp only [select] at h
    split at h
    · next hblank => cases h; exact if_pos hblank
    · next hblank => cases h; exact if_neg hblank
  | condition c => exact (Condition.select_eq_ok_iff.mp h).attachment_eq

/-! ## Texts -/

theorem Placeholder.numberFrom_eq_nil_iff {start : Nat} {quoted : Bool} {cs : List Char} :
    numberFrom start quoted cs = [] ↔ cs = [] := by
  cases cs with
  | nil => simp [numberFrom]
  | cons c cs =>
    rw [numberFrom]
    split
    · simp
    · split <;> simp [numbered]

namespace Dialect

variable (d : Dialect)

/-- The pieces that show nothing are those that render no text. -/
theorem renderPiece_eq_empty_iff {bound : Nat} {p : Piece} :
    d.renderPiece bound p = "" ↔ p.isEmpty = true := by
  cases p with
  | text sql => exact String.isEmpty_iff.symm
  | bind v =>
    simp only [renderPiece, Piece.isEmpty, Bool.false_eq_true, iff_false]
    split
    · simp [Placeholder.numbered]
    · decide
  | fragment sql args =>
    simp only [renderPiece, Piece.isEmpty, String.isEmpty_iff]
    split
    · rw [Placeholder.number, String.ofList_eq_empty_iff, Placeholder.numberFrom_eq_nil_iff,
        String.toList_eq_nil_iff]
    · exact Iff.rfl

theorem render_eq_empty_iff {bound : Nat} {ps : List Piece} :
    d.render bound ps = "" ↔ ps.all Piece.isEmpty = true := by
  induction ps generalizing bound with
  | nil => simp [render]
  | cons p ps ih => simp [render, String.append_eq_empty_iff, renderPiece_eq_empty_iff, ih]

/-- Where placeholders carry no numbers, a text does not depend on what stands before it. -/
theorem render_of_not_numbered {d : Dialect} (h : d.numbersPlaceholders = false)
    (bound bound' : Nat) (ps : List Piece) : d.render bound ps = d.render bound' ps := by
  induction ps generalizing bound bound' with
  | nil => rfl
  | cons p ps ih =>
    have hpiece : d.renderPiece bound p = d.renderPiece bound' p := by
      cases p <;> simp [renderPiece, h]
    rw [render, render, hpiece, ih]

/-- Text that leads a piece of text leads what is rendered. -/
theorem render_text_append (bound : Nat) (lead sql : String) (ps : List Piece) :
    d.render bound (.text (lead ++ sql) :: ps) = lead ++ d.render bound (.text sql :: ps) :=
  String.append_assoc

end Dialect

/-! ## Tails -/

/-- A lead stands before a limit that has values, and shows nowhere else. -/
theorem RowLimit.render_pieces (d : Dialect) (bound : Nat) (lead : String) (l : RowLimit) :
    d.render bound (l.pieces d lead) =
      if l.values = [] then "" else lead ++ d.render bound (l.pieces d "") := by
  cases l with
  | none => rfl
  | count n => exact d.render_text_append bound lead "LIMIT " _
  | page skipped n => cases d <;> exact Dialect.render_text_append _ bound lead "LIMIT " _

namespace Selection

/-- A selection binds the same values on its own and behind the head of a statement. -/
theorem args_tail (d : Dialect) (s : Selection) :
    (s.tail d).flatMap Piece.args = (s.clause d).flatMap Piece.args := by
  rw [tail_eq, clause, List.flatMap_append, List.flatMap_append, List.flatMap_append,
    RowLimit.args_pieces, RowLimit.args_pieces]
  split <;> rfl

/-- The tail that a selection gives a statement is its own text behind what its shape asks for.
A predicate that shows nothing is the exception: a limit is kept apart from the keyword, but on
its own it stands first. -/
theorem render_tail {d : Dialect} {s : Selection}
    (hshows : s.attachment = .predicate → d.render 0 s.predicatePieces ≠ "") :
    d.render 0 (s.tail d) = s.attachment.tail (d.render 0 (s.clause d)) := by
  obtain ⟨predicate, limit⟩ := s
  cases predicate with
  | none =>
    have htail := limit.render_pieces d 0 " "
    cases limit with
    | none => rfl
    | count n => exact htail
    | page skipped n => exact htail
  | some p =>
    have hall : p.pieces.all Piece.isEmpty = false :=
      Bool.eq_false_iff.mpr fun hall => hshows rfl ((d.render_eq_empty_iff).mpr hall)
    simp only [tail, clause, predicatePieces, hall]
    rfl

end Selection

/-! ## Statements -/

namespace Request

variable {d : Dialect} {r : Request} {filter : Filter} {selection : Selection}

/-- A request with the filter behind its head, and with enough to name. -/
structure Attaches (r : Request) (filter : Filter) : Prop where
  filter : r.filter = filter
  named : r.missing? = none
  tail : ∀ (d : Dialect) selection, r.tail d selection = selection.tail d

/-- A request fails with the error of its filter on its own. -/
theorem Attaches.render_error (h : r.Attaches filter) {e : Error}
    (hown : d.compile filter lookup = .error e) : r.render d lookup = .error e := by
  rw [render_eq, h.named, h.filter]
  unfold Dialect.compile at hown
  cases hselect : filter.select lookup with
  | ok selection => rw [hselect] at hown; cases hown
  | error m => rw [hselect] at hown; exact hown

/-- A request is its head and then the tail that its filter gives, numbered behind the
arguments of the head. -/
theorem Attaches.render_ok (h : r.Attaches filter)
    (hselect : filter.select lookup = .ok selection) :
    r.render d lookup = .ok
      ⟨d.render 0 (r.head d) ++ d.render r.assignments.length (selection.tail d),
        r.assignments.map (·.2) ++ (selection.clause d).flatMap Piece.args⟩ := by
  rw [render_eq, h.named, h.filter, hselect]
  simp only [h.tail, Dialect.assemble, Dialect.render_append, List.flatMap_append,
    Request.args_head, List.length_map, Nat.zero_add, Selection.args_tail]

end Request

/-- Statements attach a filter alike. Where the filter on its own fails, all of them fail with
its error. Otherwise all of them succeed, with the arguments of the filter behind those of an
assignment list; a SELECT, a DELETE and a count have one common tail behind their heads, and so
has an UPDATE where placeholders carry no numbers. The tail is what the shape of the filter asks
for, provided that a predicate shows something. -/
theorem Dialect.statements_attach_alike (d : Dialect) (filter : Filter) (lookup : Lookup)
    (table : String) {columns : List String} (hcolumns : columns ≠ [])
    {assignments : Assignments} (hassignments : assignments ≠ []) :
    (∀ e, d.compile filter lookup = .error e →
      d.select table columns filter lookup = .error e ∧
        d.delete table filter lookup = .error e ∧ d.count table filter lookup = .error e ∧
        d.update table assignments filter lookup = .error e) ∧
      ∀ own, d.compile filter lookup = .ok own → ∃ tail,
        d.select table columns filter lookup =
            .ok ⟨d.render 0 (d.selectHead table columns) ++ tail, own.args⟩ ∧
          d.delete table filter lookup =
            .ok ⟨d.render 0 (d.deleteHead table) ++ tail, own.args⟩ ∧
          d.count table filter lookup =
            .ok ⟨d.render 0 (d.countHead table) ++ tail, own.args⟩ ∧
          ((filter.attachment = .predicate → filter.predicateText? d lookup ≠ some "") →
            tail = filter.attachment.tail own.sql) ∧
          ∃ updateTail,
            d.update table assignments filter lookup =
              .ok ⟨d.render 0 (d.updateHead table assignments) ++ updateTail,
                assignments.map (·.2) ++ own.args⟩ ∧
            (d.numbersPlaceholders = false → updateTail = tail) := by
  have hselect : (Request.select table columns filter).Attaches filter :=
    ⟨rfl, if_neg (by simpa using hcolumns), fun _ _ => rfl⟩
  have hupdate : (Request.update table assignments filter).Attaches filter :=
    ⟨rfl, if_neg (by simpa using hassignments), fun _ _ => rfl⟩
  have hdelete : (Request.delete table filter).Attaches filter := ⟨rfl, rfl, fun _ _ => rfl⟩
  have hcount : (Request.count table filter).Attaches filter := ⟨rfl, rfl, fun _ _ => rfl⟩
  refine ⟨fun e he => ?_, fun own hown => ?_⟩
  · exact ⟨hselect.render_error he, hdelete.render_error he, hcount.render_error he,
      hupdate.render_error he⟩
  · unfold compile at hown
    cases hchecked : filter.select lookup with
    | error m => rw [hchecked] at hown; cases hown
    | ok selection =>
      rw [hchecked] at hown
      cases hown
      refine ⟨d.render 0 (selection.tail d), hselect.render_ok hchecked,
        hdelete.render_ok hchecked, hcount.render_ok hchecked, fun hshows => ?_,
        d.render assignments.length (selection.tail d), hupdate.render_ok hchecked,
        fun hnumbers => render_of_not_numbered hnumbers _ _ _⟩
      rw [Filter.attachment_of_select hchecked] at hshows ⊢
      refine Selection.render_tail fun hpredicate hempty => hshows hpredicate ?_
      rw [Filter.predicateText?, hchecked]
      obtain ⟨predicate, limit⟩ := selection
      cases predicate with
      | none => cases limit <;> cases hpredicate
      | some p => exact congrArg some hempty

/-- A conjunction of a limit and a comparison. -/
def Filter.limitedMatch : Filter :=
  .condition (.junction .and [(Condition.limit .null).toOperand,
    (Condition.compare .eq "name" (.string "ann")).toOperand])

/-- A conjunction of nothing. -/
def Filter.emptyConjunction : Filter := .condition (.junction .and [])

theorem Dialect.statements_attach_alike_limitedMatch :
    (∃ e, sqlite.compile .emptyConjunction (fun _ => none) = .error e ∧
        sqlite.delete "users" .emptyConjunction (fun _ => none) = .error e ∧
        sqlite.update "users" [("age", .null)] .emptyConjunction (fun _ => none) = .error e) ∧
      ∃ own, sqlite.compile .limitedMatch (fun _ => none) = .ok own ∧
        own.sql = "name = ? LIMIT ?" ∧ Filter.limitedMatch.attachment = .predicate ∧
        Filter.limitedMatch.predicateText? .sqlite (fun _ => none) ≠ some "" ∧
        sqlite.select "users" ["id"] .limitedMatch (fun _ => none) =
          .ok ⟨sqlite.render 0 (sqlite.selectHead "users" ["id"]) ++ " WHERE name = ? LIMIT ?",
            own.args⟩ ∧
        sqlite.delete "users" .limitedMatch (fun _ => none) =
          .ok ⟨sqlite.render 0 (sqlite.deleteHead "users") ++ " WHERE name = ? LIMIT ?",
            own.args⟩ ∧
        sqlite.update "users" [("age", .null)] .limitedMatch (fun _ => none) =
          .ok ⟨sqlite.render 0 (sqlite.updateHead "users" [("age", .null)]) ++
            " WHERE name = ? LIMIT ?", .null :: own.args⟩ := by
  have hcolumns : ["id"] ≠ [] := by decide
  have hassignments : [("age", Value.null)] ≠ [] := List.cons_ne_nil _ _
  constructor
  · have hown : sqlite.compile .emptyConjunction (fun _ => none) =
        .error (Malformed.noClauses .and).toError := rfl
    obtain ⟨-, hdelete, -, hupdate⟩ := (sqlite.statements_attach_alike .emptyConjunction _ "users"
      hcolumns hassignments).1 _ hown
    exact ⟨_, hown, hdelete, hupdate⟩
  · have hown : sqlite.compile .limitedMatch (fun _ => none) =
        .ok ⟨"name = ? LIMIT ?", [.string "ann", .null]⟩ := rfl
    have hshows : Filter.limitedMatch.predicateText? .sqlite (fun _ => none) ≠ some "" := by
      have htext : Filter.limitedMatch.predicateText? .sqlite (fun _ => none) =
          some "name = ?" := rfl
      rw [htext]
      decide
    obtain ⟨tail, hselect, hdelete, -, htail, updateTail, hupdate, hsame⟩ :=
      (sqlite.statements_attach_alike .limitedMatch _ "users" hcolumns hassignments).2 _ hown
    obtain rfl := htail fun _ => hshows
    rw [hsame rfl] at hupdate
    exact ⟨_, hown, rfl, rfl, hshows, hselect, hdelete, hupdate⟩

end RelMap
