-- SUMMARY: The numbers of the placeholders in a rendered request.
import RelMap.Proofs.Sql.Statements

/-!
# Placeholders of requests

The numbered placeholders of a rendered request are those that its parts call for,
one part after the other. Main statements: where each fragment is given the arguments
that it asks for, they count all arguments from one; in general they increase exactly
if no part asks while question marks before it still wait for arguments.
-/
namespace RelMap

/-! ## Counting all arguments -/

theorem Piece.total_demands (ps : List Piece) :
    Demand.total (ps.flatMap Piece.demands) = (ps.flatMap Piece.args).length := by
  induction ps with
  | nil => rfl
  | cons p ps ih =>
    rw [List.flatMap_cons, List.flatMap_cons, List.length_append, Demand.total_append, ih]
    cases p <;> rfl

/-- Pieces that are given what they ask for count their arguments. -/
theorem Dialect.tokens_render_of_balanced {ps : List Piece} (plain : ∀ q ∈ ps, q.Plain)
    (apart : ps.IsChain Piece.Apart)
    (balanced : ∀ x ∈ ps.flatMap Piece.demands, x.asked = x.given) (bound : Nat) :
    Placeholder.tokens (postgresql.render bound ps).toList =
      (List.range' (bound + 1) (ps.flatMap Piece.args).length).map Placeholder.numbered := by
  rw [tokens_render plain apart, Demand.numbers_of_balanced balanced, Piece.total_demands]

/-- Where each fragment is given the arguments that it asks for, the placeholders count
all arguments. The filter goes on where the assignments of the head end. -/
theorem Request.placeholders_count_args {r : Request} {lookup : Lookup} {s : Statement}
    (h : r.render .postgresql lookup = .ok s) (plain : ∀ p ∈ r.parts, p.Plain)
    (balanced : ∀ p ∈ r.parts, p.Balanced) :
    Placeholder.tokens s.sql.toList =
        (List.range' 1 s.args.length).map Placeholder.numbered ∧
      ∃ tail : String, s.sql = (Dialect.postgresql.assemble (r.head .postgresql)).sql ++ tail ∧
        Placeholder.tokens (Dialect.postgresql.assemble (r.head .postgresql)).sql.toList =
          (List.range' 1 r.assignments.length).map Placeholder.numbered ∧
        Placeholder.tokens tail.toList =
          (List.range' (r.assignments.length + 1) (s.args.length - r.assignments.length)).map
            Placeholder.numbered := by
  obtain ⟨tail, rfl, hchain, hplain, hdemands⟩ := pieces_of_render h plain
  have hbalanced : ∀ x ∈ (r.head .postgresql ++ tail).flatMap Piece.demands,
      x.asked = x.given := by
    intro x hx
    rw [hdemands] at hx
    obtain ⟨p, hp, hx⟩ := List.mem_flatMap.mp hx
    exact Part.asked_eq_given (balanced p hp) hx
  have hwhole := Dialect.tokens_render_of_balanced hplain hchain hbalanced 0
  -- The head and the tail have the same three properties, each on its own.
  obtain ⟨hplainHead, hplainTail⟩ := List.forall_mem_append.mp hplain
  obtain ⟨hchainHead, hchainTail, -⟩ := List.isChain_append.mp hchain
  rw [List.flatMap_append] at hbalanced
  obtain ⟨hbalancedHead, hbalancedTail⟩ := List.forall_mem_append.mp hbalanced
  have hassigned : ((r.head .postgresql).flatMap Piece.args).length = r.assignments.length := by
    rw [args_head, List.length_map]
  have hhead := Dialect.tokens_render_of_balanced hplainHead hchainHead hbalancedHead 0
  have htail := Dialect.tokens_render_of_balanced hplainTail hchainTail hbalancedTail
    r.assignments.length
  have hlength : (Dialect.postgresql.assemble (r.head .postgresql ++ tail)).args.length =
      r.assignments.length + (tail.flatMap Piece.args).length := by
    rw [Dialect.assemble, List.flatMap_append, List.length_append, hassigned]
  refine ⟨hwhole, Dialect.postgresql.render r.assignments.length tail, ?_, ?_, ?_⟩
  · rw [Dialect.assemble, Dialect.render_append, hassigned, Nat.zero_add]
    rfl
  · rw [hassigned] at hhead
    exact hhead
  · rw [htail, hlength, Nat.add_sub_cancel_left]

/-- An UPDATE with a LIMIT among the clauses of its filter, which bind values in
several ways. -/
def Request.pagedUpdate : Request :=
  .update "people" [("name", .string "ann"), ("age", .null)]
    (.condition (.junction .and [(Condition.limitOffset .null .null).toOperand,
      (Condition.custom "a = ? OR b = '?'" [.bool true]).toOperand,
      (Condition.inValues false "c" [.null, .null]).toOperand, .column "id"]))

theorem Request.placeholders_count_args_pagedUpdate :
    ∃ s, pagedUpdate.render .postgresql (fun _ => some .null) = .ok s ∧
      Placeholder.tokens s.sql.toList = (List.range' 1 8).map Placeholder.numbered := by
  have hrender : pagedUpdate.render .postgresql (fun _ => some .null) = .ok _ := rfl
  exact ⟨_, hrender, (placeholders_count_args hrender (by decide) (by decide)).1⟩

/-! ## Increasing numbers -/

/-- The numbers of the placeholders increase from left to right exactly if no part
asks while question marks before it still wait for arguments. -/
theorem Request.placeholders_increase_iff {r : Request} {lookup : Lookup} {s : Statement}
    (h : r.render .postgresql lookup = .ok s) (plain : ∀ p ∈ r.parts, p.Plain) :
    (Placeholder.numbers s.sql.toList).Pairwise (· < ·) ↔
      Demand.Settled 0 (r.parts.flatMap Part.demands) := by
  obtain ⟨tail, rfl, hchain, hplain, hdemands⟩ := pieces_of_render h plain
  have htokens := Dialect.tokens_render hplain hchain 0
  rw [hdemands] at htokens
  rw [← Demand.pairwise_numbers_zero_iff, ← Placeholder.numbers_eq htokens]
  rfl

/-- A question mark that waits, an argument too many that settles it, and a comparison. -/
def Request.settledFragments : Request :=
  .compile (.condition (.junction .and [.raw "b = ?",
    (Condition.custom "c IS NULL" [.bool true]).toOperand,
    (Condition.compare .eq "a" .null).toOperand]))

theorem Request.placeholders_increase_settledFragments :
    ∃ s, settledFragments.render .postgresql (fun _ => none) = .ok s ∧
      (Placeholder.numbers s.sql.toList).Pairwise (· < ·) := by
  have hrender : settledFragments.render .postgresql (fun _ => none) = .ok _ := rfl
  exact ⟨_, hrender, (placeholders_increase_iff hrender (by decide)).mpr (by decide)⟩

/-- A comparison after a question mark that waits. -/
def Request.waitingFragment : Request :=
  .compile (.condition (.junction .and [.raw "b = ?",
    (Condition.compare .eq "a" .null).toOperand]))

/-- The comparison takes the number of the question mark again. -/
theorem Request.placeholders_repeat :
    ∃ s, waitingFragment.render .postgresql (fun _ => none) = .ok s ∧
      (∀ p ∈ waitingFragment.parts, p.Plain) ∧ s.sql = "b = $1 AND a = $1" ∧
      ¬ (Placeholder.numbers s.sql.toList).Pairwise (· < ·) :=
  ⟨_, rfl, by decide, rfl, by decide⟩

end RelMap
