-- SUMMARY: What the text of an error keeps of the contexts that are added to it.
import RelMap.Error

/-!
# Texts of contexts

An added context comes first in the text of an error. Main statement: of a context that has contexts
itself only the outermost cause is shown, whether or not the context is in use elsewhere; so the
texts of all contexts are kept exactly if none of them has a context itself.
-/
namespace RelMap

/-! ## Chains -/

namespace Cause

theorem chainText_cons {m : String} {ms : List String} (h : ms ≠ []) :
    chainText (m :: ms) = m ++ ": " ++ chainText ms :=
  String.intercalate_cons_of_ne_nil h

/-- What a chain ends with may be a chain already put together. -/
theorem chainText_append (ms : List String) {ms' : List String} (h : ms' ≠ []) :
    chainText (ms ++ ms') = chainText (ms ++ [chainText ms']) := by
  induction ms with
  | nil => exact String.intercalate_singleton.symm
  | cons m ms ih =>
    rw [List.cons_append, List.cons_append, chainText_cons (by simp [h]), chainText_cons (by simp), ih]

theorem length_chainText_cons {m : String} {ms : List String} (h : ms ≠ []) :
    (chainText (m :: ms)).length = m.length + 2 + (chainText ms).length := by
  have hseparator : (": " : String).length = 2 := rfl
  rw [chainText_cons h, String.length_append, String.length_append, hseparator]

end Cause

namespace Error

open Cause (chainText)

/-! ## Single contexts -/

/-- Add a context. Of one that is in use elsewhere only the text can be taken. -/
def add (e c : Error) (shared : Bool) : Error := if shared then e.contextShared c else e.context c

/-- Add contexts one after the other, each with whether it is in use elsewhere. -/
def addAll (e : Error) (cs : List (Error × Bool)) : Error :=
  cs.foldl (fun e c => e.add c.1 c.2) e

/-- The messages of all causes, outermost first. -/
def messages (e : Error) : List String := e.causes.map Cause.message

theorem messages_ne_nil (e : Error) : e.messages ≠ [] := by simp [messages, causes]

theorem messages_add (e c : Error) (shared : Bool) :
    (e.add c shared).messages = c.outermost.message :: e.messages := by
  cases shared <;> rfl

theorem root_add (e c : Error) (shared : Bool) : (e.add c shared).root = e.root := by
  cases shared <;> rfl

/-- The text of an error is longer than that of its outermost cause if it has contexts. -/
theorem length_outermost (c : Error) :
    c.outermost.message.length ≤ c.message.length ∧
      (c.outermost.message.length = c.message.length ↔ c.contexts = []) := by
  obtain ⟨root, _ | ⟨cause, contexts⟩⟩ := c
  · simp [message, causes, outermost, chainText]
  · have hlength : (message ⟨root, cause :: contexts⟩).length =
        cause.message.length + 2 + (message ⟨root, contexts⟩).length :=
      Cause.length_chainText_cons (messages_ne_nil ⟨root, contexts⟩)
    simp only [outermost, List.headD_cons]
    exact ⟨by omega, iff_of_false (by omega) (by simp)⟩

/-! ## Sequences of contexts -/

theorem messages_addAll (e : Error) (cs : List (Error × Bool)) :
    (e.addAll cs).messages = cs.reverse.map (fun c => c.1.outermost.message) ++ e.messages := by
  induction cs generalizing e with
  | nil => rfl
  | cons c cs ih =>
    show ((e.add c.1 c.2).addAll cs).messages = _
    rw [ih, messages_add, List.reverse_cons, List.map_append, List.append_assoc]
    rfl

theorem root_addAll (e : Error) (cs : List (Error × Bool)) : (e.addAll cs).root = e.root := by
  induction cs generalizing e with
  | nil => rfl
  | cons c cs ih => exact (ih (e.add c.1 c.2)).trans (root_add e c.1 c.2)

/-- The text of an error ends with that of its root cause. -/
theorem message_eq_append_root (e : Error) : ∃ front : String, e.message = front ++ e.root.message := by
  obtain ⟨root, contexts⟩ := e
  induction contexts with
  | nil => exact ⟨"", by simp [message, causes, chainText]⟩
  | cons cause contexts ih =>
    obtain ⟨front, hfront⟩ := ih
    have htext : message ⟨root, cause :: contexts⟩ =
        cause.message ++ ": " ++ message ⟨root, contexts⟩ :=
      Cause.chainText_cons (messages_ne_nil ⟨root, contexts⟩)
    exact ⟨cause.message ++ ": " ++ front, by rw [htext, hfront, ← String.append_assoc]⟩

theorem message_addAll (e : Error) (cs : List (Error × Bool)) :
    (e.addAll cs).message =
      chainText (cs.reverse.map (fun c => c.1.outermost.message) ++ [e.message]) := by
  show chainText (e.addAll cs).messages = _
  rw [messages_addAll, Cause.chainText_append _ e.messages_ne_nil]
  rfl

/-- Whole texts of contexts make a text at least as long as those of their outermost causes, and as
long only if none of them has a context. -/
theorem length_chainText_le (cs : List (Error × Bool)) (last : String) :
    (chainText (cs.map (fun c => c.1.outermost.message) ++ [last])).length ≤
        (chainText (cs.map (·.1.message) ++ [last])).length ∧
      ((chainText (cs.map (fun c => c.1.outermost.message) ++ [last])).length =
        (chainText (cs.map (·.1.message) ++ [last])).length → ∀ c ∈ cs, c.1.contexts = []) := by
  induction cs with
  | nil => simp
  | cons c cs ih =>
    obtain ⟨hle, heq⟩ := c.1.length_outermost
    obtain ⟨hrest, heach⟩ := ih
    rw [List.map_cons, List.map_cons, List.cons_append, List.cons_append,
      Cause.length_chainText_cons (List.concat_ne_nil _ _),
      Cause.length_chainText_cons (List.concat_ne_nil _ _)]
    refine ⟨by omega, fun hlength => ?_⟩
    exact List.forall_mem_cons.mpr ⟨heq.mp (by omega), heach (by omega)⟩

theorem message_of_contexts_eq_nil {c : Error} (h : c.contexts = []) :
    c.message = c.outermost.message := by
  obtain ⟨root, contexts⟩ := c
  cases h
  simp [message, causes, outermost, chainText]

/-- The text of an error with contexts is made of their texts if none of them has a context, and
otherwise is not. -/
theorem message_addAll_iff (e : Error) (cs : List (Error × Bool)) :
    (e.addAll cs).message = chainText (cs.reverse.map (·.1.message) ++ [e.message]) ↔
      ∀ c ∈ cs, c.1.contexts = [] := by
  rw [message_addAll]
  constructor
  · intro htext c hc
    have hlength := congrArg String.length htext
    exact (length_chainText_le cs.reverse e.message).2 hlength c (List.mem_reverse.mpr hc)
  · intro hnone
    have hmap : cs.map (fun c => c.1.outermost.message) = cs.map (·.1.message) :=
      List.map_congr_left fun c hc => (message_of_contexts_eq_nil (hnone c hc)).symm
    rw [List.map_reverse, List.map_reverse, hmap]

/-- Adding a context puts the text of its outermost cause in front. That is its whole text only if
it has no context itself. The same holds of contexts that are added one after the other: the text
lists one text for each of them, outermost first, and ends with that of the root cause; but the
texts of their own contexts are kept exactly if there are none. -/
theorem context_text (e : Error) :
    (∀ (c : Error) (shared : Bool),
      (e.add c shared).message = c.outermost.message ++ ": " ++ e.message ∧
        ((e.add c shared).message = c.message ++ ": " ++ e.message ↔ c.contexts = [])) ∧
      ∀ cs : List (Error × Bool),
        (e.addAll cs).message =
            chainText (cs.reverse.map (fun c => c.1.outermost.message) ++ [e.message]) ∧
          ((e.addAll cs).message = chainText (cs.reverse.map (·.1.message) ++ [e.message]) ↔
            ∀ c ∈ cs, c.1.contexts = []) ∧
          ∃ front : String, (e.addAll cs).message = front ++ e.root.message := by
  refine ⟨fun c shared => ⟨?_, ?_⟩, fun cs => ⟨e.message_addAll cs, e.message_addAll_iff cs, ?_⟩⟩
  · simpa [addAll, chainText] using e.message_addAll [(c, shared)]
  · simpa [addAll, chainText] using e.message_addAll_iff [(c, shared)]
  · obtain ⟨front, hfront⟩ := (e.addAll cs).message_eq_append_root
    exact ⟨front, by rw [hfront, root_addAll]⟩

/-- Of a context around another message that message is lost. -/
theorem context_of_context_lost :
    let c := (adhoc "inner").context (adhoc "outer")
    ((adhoc "root").context c).message = "outer: root" ∧
      ((adhoc "root").contextShared c).message = "outer: root" ∧
      ((adhoc "root").context c).message ≠ c.message ++ ": " ++ (adhoc "root").message := by
  refine ⟨rfl, rfl, ?_⟩
  decide

end Error

end RelMap
