-- SUMMARY: What an error shows of clones of its context being in use.
import RelMap.Proofs.Error.Contexts
import RelMap.Proofs.Error.Texts

/-!
# Clones of contexts

`Holder.observe` is all that can be seen of an error: its text, its categories, and the texts of the
errors behind it. Main statement: in two programs that add the same context to the same error, with
clones of the context in use or not, the results have the same text and the same categories; but the
errors behind the context are seen only where it is in use nowhere else. Everything else that the
programs hold stays as it was.
-/
namespace RelMap

namespace Error

/-! ## Observations -/

/-- What can be seen of an error. -/
structure Observation where
  /-- The text, to display the error and to debug it alike. -/
  text : String
  is : Category → Bool
  /-- The texts of the errors behind the outermost cause. -/
  sources : List String

/-- What is seen of an error that is not in memory. -/
def observe (e : Error) : Observation := ⟨e.message, e.is, e.sources⟩

/-- Whether a context is in use elsewhere shows in the errors behind it only. -/
theorem observe_add (e c : Error) (shared : Bool) :
    (e.add c shared).observe =
      { (e.context c).observe with sources := if shared then [] else c.sources } := by
  cases shared <;> rfl

namespace Heap

/-- The texts of all causes on a walk. -/
def message (h : Heap) (a : Address) : String :=
  Cause.chainText ((h.chain a).map Cause.message)

/-- The texts of the errors behind the cause of a node. -/
def sources (h : Heap) (a : Address) : List String :=
  (h.node? a).elim [] fun n => n.cause.sources

end Heap

namespace Holder

/-- What is seen of the error in a slot. -/
def observe (s : Holder) (i : Nat) : Option Observation :=
  (s.pointer? i).map fun a => ⟨s.heap.message a, s.heap.is a, s.heap.sources a⟩

variable {s : Holder} {i j k i' k' : Nat} {e c : Error}

theorem observe_of_reads (hs : s.Sound) (hr : s.Reads i e) : s.observe i = some e.observe := by
  obtain ⟨a, hp, hchain⟩ := hr
  obtain ⟨n, hn⟩ := hs.exists_node (mem_held hp)
  have htext : s.heap.message a = e.message := by
    rw [Heap.message, hchain]
    rfl
  have hcategories : s.heap.is a = e.is := funext (Heap.is_of_chain hchain)
  have hsources : s.heap.sources a = e.sources := by
    rw [Heap.sources, hn, Option.elim_some, ← Heap.outermost_of_chain hn hchain]
    rfl
  rw [observe, hp, Option.map_some, htext, hcategories, hsources]
  rfl

/-- A context in use elsewhere is one that its slot does not own alone. -/
theorem reads_add (hs : s.Sound) (hr : s.Reads i e) (hc : s.Reads k c) (hne : i ≠ k) :
    (s.step (.context i (.error k))).Reads i (e.add c (decide (s.owners k ≠ 1))) := by
  have hadded := reads_context_error hs hr hc hne
  rw [add]
  split at hadded
  · next hsole => simpa [hsole] using hadded
  · next hshared => simpa [hshared] using hadded

/-- All that is seen in the other slots stays as it was when a context is added. -/
theorem observe_kept (hs : s.Sound) (hr : s.Reads i e) (hc : s.Reads k c) (hne : i ≠ k)
    (hji : j ≠ i) (hjk : j ≠ k) :
    (s.step (.context i (.error k))).observe j = s.observe j := by
  obtain ⟨a, hp, -⟩ := hr
  obtain ⟨b, hb, -⟩ := hc
  have hinto : (s.take i).intoError (.error k) = some (b, (s.take i).take k) := by
    rw [intoError, pointer?_take_of_ne hne, hb, Option.map_some]
  cases hq : s.pointer? j with
  | none =>
    have hpointer : (s.step (.context i (.error k))).pointer? j = none := by
      rw [step_context hp hinto, pointer?_set_of_ne hji.symm, pointer?_take_of_ne hjk.symm,
        pointer?_take_of_ne hji.symm, hq]
    rw [observe, hpointer, observe, hq, Option.map_none, Option.map_none]
  | some q =>
    obtain ⟨x, hx⟩ := reads_of_pointer? hs hq
    have hkept := reads_context_other hs hp hinto hx hji.symm fun heq =>
      hjk (Context.error.inj heq).symm
    rw [observe_of_reads (sound_step hs _) hkept, observe_of_reads hs hx]

/-- What is seen of an error with a context: all that is seen of it in whatever way the context is
used otherwise, but for the errors behind the context. -/
theorem observe_context (hs : s.Sound) (hr : s.Reads i e) (hc : s.Reads k c) (hne : i ≠ k) :
    (s.step (.context i (.error k))).observe i = some
      { (e.context c).observe with sources := if s.owners k = 1 then c.sources else [] } := by
  rw [observe_of_reads (sound_step hs _) (reads_add hs hr hc hne), observe_add]
  by_cases hsole : s.owners k = 1 <;> simp [hsole]

/-- Two programs add the same context to the same error. Whatever clones of the context each of
them holds, the results have the same text and are of the same categories. The errors behind the
context are seen if there are no clones and are not seen otherwise, so the results differ in them
exactly if there are such errors and one of the programs holds clones and the other does not. The
clones, and all else that is held, stay as they were. -/
theorem clones_show_in_sources {before before' : List Event}
    (he : (run {} before).Reads i e) (hc : (run {} before).Reads k c) (hne : i ≠ k)
    (he' : (run {} before').Reads i' e) (hc' : (run {} before').Reads k' c) (hne' : i' ≠ k') :
    (∃ o o' : Observation,
      (run {} (before ++ [.context i (.error k)])).observe i = some o ∧
      (run {} (before' ++ [.context i' (.error k')])).observe i' = some o' ∧
      o.text = o'.text ∧ o.is = o'.is ∧
      o.sources = (if (run {} before).owners k = 1 then c.sources else []) ∧
      (o.sources = o'.sources ↔
        c.sources = [] ∨ ((run {} before).owners k = 1 ↔ (run {} before').owners k' = 1))) ∧
      ∀ j, j ≠ i → j ≠ k →
        (run {} (before ++ [.context i (.error k)])).observe j = (run {} before).observe j := by
  have hs : (run {} before).Sound := sound_run (s := {}) rfl before
  have hs' : (run {} before').Sound := sound_run (s := {}) rfl before'
  have hrun (events : List Event) (ev : Event) :
      run {} (events ++ [ev]) = (run {} events).step ev := List.foldl_append
  rw [hrun, hrun]
  refine ⟨⟨_, _, observe_context hs he hc hne, observe_context hs' he' hc' hne', rfl, rfl, rfl, ?_⟩,
    fun j hji hjk => observe_kept hs he hc hne hji hjk⟩
  by_cases hsole : (run {} before).owners k = 1 <;>
    by_cases hsole' : (run {} before').owners k' = 1 <;> simp [hsole, hsole']

/-- A driver error with a cause, in use elsewhere or not. -/
theorem clones_show_in_sources_driver :
    let before : List Event := [.create (.adhoc "root"), .create (.driver "failed" ["disk full"])]
    (∃ o o' : Observation, (run {} (before ++ [.context 0 (.error 1)])).observe 0 = some o ∧
      (run {} (before ++ [.clone 1] ++ [.context 0 (.error 1)])).observe 0 = some o' ∧
      o.text = o'.text ∧ o.sources ≠ o'.sources) ∧
      (run {} (before ++ [.clone 1] ++ [.context 0 (.error 1)])).observe 2 =
        some (ofCause (.driver "failed" ["disk full"])).observe := by
  intro before
  let e := ofCause (.adhoc "root")
  let c := ofCause (.driver "failed" ["disk full"])
  have he : (run {} before).Reads 0 e := ⟨_, rfl, rfl⟩
  have hc : (run {} before).Reads 1 c := ⟨_, rfl, rfl⟩
  have he' : (run {} (before ++ [.clone 1])).Reads 0 e := ⟨_, rfl, rfl⟩
  have hc' : (run {} (before ++ [.clone 1])).Reads 1 c := ⟨_, rfl, rfl⟩
  have hne : 0 ≠ 1 := Nat.zero_ne_one
  obtain ⟨⟨o, o', ho, ho', htext, -, -, hsources⟩, -⟩ :=
    clones_show_in_sources he hc hne he' hc' hne
  obtain ⟨-, hkept⟩ := clones_show_in_sources he' hc' hne he hc hne
  refine ⟨⟨o, o', ho, ho', htext, ?_⟩, (hkept 2 (by decide) (by decide)).trans rfl⟩
  rw [ne_eq, hsources]
  decide

/-- Without a clone the errors behind a context are seen, and with one they are not. -/
theorem clone_hides_sources :
    let before : List Event := [.create (.adhoc "root"), .create (.driver "failed" ["disk full"])]
    ((run {} (before ++ [.context 0 (.error 1)])).observe 0).map Observation.sources =
        some ["failed: disk full", "failed", "disk full"] ∧
      ((run {} (before ++ [.clone 1, .context 0 (.error 1)])).observe 0).map
        Observation.sources = some [] :=
  ⟨rfl, rfl⟩

end Holder

end Error

end RelMap
