-- SUMMARY: What is displayed of driver errors that are made of driver errors.
import Mathlib.Algebra.Ring.Nat
import Mathlib.Logic.Function.Iterate
import RelMap.Error.Nesting
import RelMap.Proofs.Error.Texts

/-!
# Wrapped errors

A driver error displays what it was made of and then all errors behind that. Main statement: made
of an error of another library, it shows each message of its chain once. Made of one of this
library, it shows what that shows, and after it once more what the sources show, if there are any;
and each further wrapping shows three times what was shown before.
-/
namespace RelMap

namespace Cause

/-- Chains that are put together to a chain are one chain. -/
theorem chainText_map_chainText {mss : List (List String)} (h : ∀ ms ∈ mss, ms ≠ []) :
    chainText (mss.map chainText) = chainText mss.flatten := by
  induction mss with
  | nil => rfl
  | cons ms mss ih =>
    obtain ⟨hms, hrest⟩ := List.forall_mem_cons.mp h
    rw [List.map_cons, List.flatten_cons]
    by_cases hmss : mss = []
    · simp [hmss, chainText]
    · have hflatten : mss.flatten ≠ [] := by
        obtain ⟨ms', hms'⟩ := List.exists_mem_of_ne_nil mss hmss
        exact fun hnil => hrest ms' hms' (List.flatten_eq_nil_iff.mp hnil ms' hms')
      rw [chainText_cons (by simpa using hmss), ih hrest]
      exact (String.intercalate_append_of_ne_nil hms hflatten).symm

theorem chainText_replicate {m : String} {j k : Nat} (hk : k ≠ 0) :
    chainText (List.replicate j (chainText (List.replicate k m))) =
      chainText (List.replicate (j * k) m) := by
  have hne : ∀ ms ∈ List.replicate j (List.replicate k m), ms ≠ [] := fun ms hms => by
    simp [(List.mem_replicate.mp hms).2, hk]
  have hjoin := chainText_map_chainText hne
  rwa [List.map_replicate, List.flatten_replicate_replicate] at hjoin

end Cause

namespace Error

open Cause (chainText)

/-! ## Texts in place of errors -/

theorem append_trail (m : String) (ms : List String) : m ++ trail ms = chainText (m :: ms) := by
  induction ms generalizing m with
  | nil => simp [trail, chainText]
  | cons m' ms ih =>
    rw [Cause.chainText_cons (List.cons_ne_nil _ _), ← ih, trail]
    simp only [String.append_assoc]

theorem Link.text_eq (l : Link) : l.text = l.cause.message := by
  cases l with
  | plain c _ => rfl
  | foreign f => rfl
  | driver f => exact append_trail f.text f.sources

theorem Link.sources_eq (l : Link) : l.sources = l.cause.sources := by
  cases l with
  | plain c alone => exact alone.symm
  | foreign f => rfl
  | driver f => exact congrArg (· :: f.text :: f.sources) (append_trail f.text f.sources)

namespace Chain

theorem text_eq : (e : Chain) → e.text = e.error.message
  | root l => by
    rw [text, l.text_eq]
    simp [error, message, causes, ofCause, chainText]
  | context l behind => by
    rw [text, l.text_eq, text_eq behind]
    exact (Cause.chainText_cons behind.error.messages_ne_nil).symm

theorem sources_eq (e : Chain) : e.sources = e.error.sources := by
  cases e with
  | root l => exact l.sources_eq
  | context l behind => exact l.sources_eq

/-- To wrap an error is to wrap it with texts in place of the errors that it was made of. -/
theorem error_wrap (e : Chain) : e.wrap.error = e.error.driver := by
  show ofCause (.driver e.text e.sources) = _
  rw [text_eq, sources_eq, driver]

theorem error_iterate_wrap (e : Chain) (n : Nat) : (wrap^[n] e).error = driver^[n] e.error := by
  induction n generalizing e with
  | zero => rfl
  | succ n ih => rw [Function.iterate_succ_apply, ih, error_wrap, Function.iterate_succ_apply]

end Chain

/-! ## Driver errors of driver errors -/

theorem message_driver (e : Error) : e.driver.message = chainText (e.message :: e.sources) := by
  show chainText [chainText (e.message :: e.sources)] = _
  exact String.intercalate_singleton

theorem message_driver_of_sources_eq_nil {e : Error} (h : e.sources = []) :
    e.driver.message = e.message := by
  rw [message_driver, h]
  exact String.intercalate_singleton

theorem length_message_driver {e : Error} (h : e.sources ≠ []) :
    e.message.length < e.driver.message.length := by
  rw [message_driver, Cause.length_chainText_cons h]
  omega

/-- A driver error shows what it was made of, and that alone if it has no source. -/
theorem message_driver_eq_iff (e : Error) : e.driver.message = e.message ↔ e.sources = [] := by
  refine ⟨fun heq => ?_, message_driver_of_sources_eq_nil⟩
  by_contra hne
  exact absurd (heq ▸ length_message_driver hne) (Nat.lt_irrefl _)

/-- A driver error that is made of a driver error shows three times what that shows: as what it was
made of, as the source of that, and by the errors behind the source. -/
theorem message_driver_driver (e : Error) :
    e.driver.driver.message = chainText (List.replicate 3 e.driver.message) := by
  have hsources : e.driver.sources = e.driver.message :: e.message :: e.sources := by
    rw [message_driver]
    rfl
  rw [message_driver e.driver, hsources]
  show chainText ([e.driver.message, e.driver.message] ++ e.message :: e.sources) = _
  rw [Cause.chainText_append _ (List.cons_ne_nil _ _), ← message_driver]
  rfl

/-- Each wrapping after the first triples the text. -/
theorem message_iterate_driver (e : Error) (n : Nat) :
    (driver^[n + 1] e).message = chainText (List.replicate (3 ^ n) e.driver.message) := by
  induction n with
  | zero => simp [chainText]
  | succ n ih =>
    have hne : 3 ^ n ≠ 0 := Nat.ne_of_gt (Nat.pow_pos (by decide))
    rw [Function.iterate_succ_apply', Function.iterate_succ_apply', message_driver_driver,
      ← Function.iterate_succ_apply' driver, ih, Cause.chainText_replicate hne, Nat.pow_succ']

theorem length_message_iterate_driver (e : Error) (n : Nat) :
    e.message.length ≤ (driver^[n] e).message.length := by
  induction n with
  | zero => exact Nat.le_refl _
  | succ n ih =>
    rw [Function.iterate_succ_apply']
    by_cases h : (driver^[n] e).sources = []
    · rw [message_driver_of_sources_eq_nil h]
      exact ih
    · exact Nat.le_of_lt (Nat.lt_of_le_of_lt ih (length_message_driver h))

/-- No text is kept by two wrappings, since a driver error has a source. -/
theorem message_iterate_driver_ne (e : Error) (n : Nat) :
    (driver^[n + 2] e).message ≠ e.message := by
  have hlonger := length_message_driver (e := driver^[n + 1] e) (by
    rw [Function.iterate_succ_apply']
    exact List.cons_ne_nil _ _)
  have hlength := length_message_iterate_driver e (n + 1)
  rw [← Function.iterate_succ_apply' driver] at hlonger
  exact fun heq => absurd (heq ▸ hlonger) (Nat.not_lt.mpr hlength)

/-- An error of another library with the messages of its chain, outermost first. -/
def Failure.foreign (m : String) : List String → Failure
  | [] => .last m
  | m' :: ms => .after m (foreign m' ms)

theorem Failure.text_foreign (m : String) (ms : List String) : (foreign m ms).text = m := by
  cases ms <;> rfl

theorem Failure.sources_foreign (m : String) (ms : List String) : (foreign m ms).sources = ms := by
  induction ms generalizing m with
  | nil => rfl
  | cons m' ms ih =>
    show (foreign m' ms).text :: (foreign m' ms).sources = _
    rw [text_foreign, ih]

theorem Chain.text_ofFailure (f : Failure) : (ofFailure f).text = chainText (f.text :: f.sources) :=
  append_trail f.text f.sources

/-- A driver error that is made of an error of another library shows each message of the chain once.
One that is made of an error of this library shows what that does exactly if the outermost cause was
made of no other error. Otherwise it shows the sources behind the text. Each further wrapping shows
three times what was shown before, so two of them never keep a text. -/
theorem driver_text (m : String) (ms : List String) (e : Chain) :
    (Chain.ofFailure (.foreign m ms)).text = chainText (m :: ms) ∧
      (∀ n, (Chain.wrap^[n] e).text = (driver^[n] e.error).message) ∧
      e.wrap.text = chainText (e.text :: e.sources) ∧
      (e.wrap.text = e.text ↔ e.error.outermost.sources = []) ∧
      (∀ n, (Chain.wrap^[n + 1] e).text = chainText (List.replicate (3 ^ n) e.wrap.text)) ∧
      ∀ n, (Chain.wrap^[n + 2] e).text ≠ e.text := by
  have hiterate (n : Nat) : (Chain.wrap^[n] e).text = (driver^[n] e.error).message := by
    rw [Chain.text_eq, Chain.error_iterate_wrap]
  have hwrap : e.wrap.text = e.error.driver.message := hiterate 1
  refine ⟨?_, hiterate, Chain.text_ofFailure (.own e), ?_, fun n => ?_, fun n => ?_⟩
  · rw [Chain.text_ofFailure, Failure.text_foreign, Failure.sources_foreign]
  · rw [hwrap, e.text_eq]
    exact message_driver_eq_iff e.error
  · rw [hiterate, hwrap]
    exact message_iterate_driver e.error n
  · rw [hiterate, e.text_eq]
    exact message_iterate_driver_ne e.error n

/-- What is behind a driver error is shown again by another one around it. -/
theorem driver_text_repeats :
    let e := ofCause (.driver "failed" ["disk full"])
    e.message = "failed: disk full" ∧
      e.driver.message = "failed: disk full: failed: disk full: failed: disk full" := ⟨rfl, rfl⟩

end Error

end RelMap
