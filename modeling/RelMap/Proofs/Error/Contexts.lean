-- SUMMARY: Errors keep their category whatever context is added to them.
import Mathlib.Data.List.ReduceOption
import RelMap.Proofs.Error.Ownership

/-!
# Errors in a program

`Holder.Reads` says which error is in a slot. `reads_step` says what becomes of it in one event: it
stays as it is, or has one context more, of which either the cause or only the text was taken. Main
statement: whatever a program does with its errors, one that stays in its slot keeps its category.
-/
namespace RelMap

namespace Error

/-! ## Categories -/

/-- What an error becomes by contexts that are put around it, one after the other. -/
inductive Extends (e : Error) : Error → Prop where
  | refl : Extends e e
  | context {e' : Error} (h : Extends e e') (c : Error) : Extends e (e'.context c)
  | contextShared {e' : Error} (h : Extends e e') (c : Error) : Extends e (e'.contextShared c)

theorem Extends.trans {e e' e'' : Error} (h : e.Extends e') (h' : e'.Extends e'') :
    e.Extends e'' := by
  induction h' with
  | refl => exact h
  | context _ c ih => exact ih.context c
  | contextShared _ c ih => exact ih.contextShared c

theorem Extends.category_eq {e e' : Error} (h : e.Extends e') : e'.category = e.category := by
  induction h with
  | refl => rfl
  | context _ c ih => rw [category_context, ih]
  | contextShared _ c ih => rw [category_contextShared, ih]

/-- The error with a context of which a node has the outermost cause. -/
def around (e : Error) (n : Node) (c : Error) : Error :=
  if n.owners = 1 then e.context c else e.contextShared c

theorem causes_around {n : Node} {c : Error} (hc : c.outermost = n.cause) (e : Error) :
    (e.around n c).causes = n.contribution :: e.causes := by
  rw [around, Node.contribution, ← hc]
  split <;> rfl

theorem extends_around (e : Error) (n : Node) (c : Error) : e.Extends (e.around n c) := by
  rw [around]
  split
  · exact .context .refl c
  · exact .contextShared .refl c

theorem head?_causes (e : Error) : e.causes.head? = some e.outermost := by
  obtain ⟨root, contexts⟩ := e
  cases contexts <;> rfl

theorem getLast?_causes (e : Error) : e.causes.getLast? = some e.root :=
  List.getLast?_concat

/-- Causes in a row are those of an error. -/
theorem exists_causes {cs : List Cause} (h : cs ≠ []) : ∃ e : Error, cs = e.causes :=
  ⟨⟨cs.getLast h, cs.dropLast⟩, (List.dropLast_append_getLast h).symm⟩

namespace Heap

variable {h : Heap} {a : Address} {n : Node} {e : Error}

/-- A walk asks for the category of the error that it goes through. -/
theorem is_of_chain (hchain : h.chain a = e.causes) (c : Category) : h.is a c = e.is c := by
  rw [is, root?, hchain, getLast?_causes]
  rfl

/-- A walk goes through some error. -/
theorem exists_error (hn : h.node? a = some n) : ∃ e : Error, h.chain a = e.causes := by
  refine exists_causes fun hnil => ?_
  have hhead := head?_chain hn
  rw [hnil] at hhead
  cases hhead

/-- The node at which a walk starts has the outermost cause of the error. -/
theorem outermost_of_chain (hn : h.node? a = some n) (hchain : h.chain a = e.causes) :
    e.outermost = n.cause := by
  have hhead := head?_chain hn
  rw [hchain, head?_causes] at hhead
  exact Option.some.inj hhead

end Heap

namespace Holder

/-! ## Slots -/

/-- The pointers in the slots. -/
def held (s : Holder) : List Address := s.slots.reduceOption

/-- Whether the nodes count the pointers in the slots. -/
def Sound (s : Holder) : Prop := s.heap.Balanced s.held

/-- The error in a slot. -/
def Reads (s : Holder) (i : Nat) (e : Error) : Prop :=
  ∃ a, s.pointer? i = some a ∧ s.heap.chain a = e.causes

variable {s s' : Holder} {i k : Nat} {a p : Address} {x : Option Address} {e : Error} {h : Heap}
variable {c : Context}

theorem pointer?_eq_some : s.pointer? i = some a ↔ s.slots[i]? = some (some a) := by
  rw [pointer?, Option.join_eq_some_iff]

theorem lt_length_of_pointer? (hp : s.pointer? i = some a) : i < s.slots.length :=
  (List.getElem?_eq_some_iff.mp (pointer?_eq_some.mp hp)).1

theorem pointer?_set_of_ne (hne : i ≠ k) : pointer? ⟨h, s.slots.set i x⟩ k = s.pointer? k := by
  rw [pointer?, List.getElem?_set_ne hne, pointer?]

theorem pointer?_take_of_ne (hne : i ≠ k) : (s.take i).pointer? k = s.pointer? k :=
  pointer?_set_of_ne hne

theorem pointer?_push (hp : s.pointer? k = some p) :
    pointer? ⟨h, s.slots ++ [x]⟩ k = some p := by
  rw [pointer?, List.getElem?_append_left (lt_length_of_pointer? hp)]
  exact hp

theorem mem_held (hp : s.pointer? i = some a) : a ∈ s.held :=
  List.reduceOption_mem_iff.mpr (List.mem_of_getElem? (pointer?_eq_some.mp hp))

theorem reduceOption_cons (xs : List (Option α)) (x : Option α) :
    (x :: xs).reduceOption = x.toList ++ xs.reduceOption := by
  cases x <;> rfl

/-- What a slot is set to comes in place of what was in it. -/
theorem perm_reduceOption_set {slots : List (Option Address)} (hi : slots[i]? = some x)
    (y : Option Address) :
    (x.toList ++ (slots.set i y).reduceOption).Perm (y.toList ++ slots.reduceOption) := by
  -- Counts turn the four lists into sums.
  refine List.perm_iff_count.mpr fun a => ?_
  induction slots generalizing i with
  | nil => cases hi
  | cons z slots ih =>
    cases i with
    | zero =>
      cases hi
      simp only [List.set_cons_zero, reduceOption_cons, List.count_append]
      omega
    | succ i =>
      have hrest := ih (i := i) hi
      simp only [List.set_cons_succ, reduceOption_cons, List.count_append] at hrest ⊢
      omega

/-- A pointer that is taken out of its slot is held beside those that are left. -/
theorem balanced_take (held : List Address) (hp : s.pointer? i = some a)
    (hbal : h.Balanced (held ++ s.held)) : h.Balanced (a :: (held ++ (s.take i).held)) := by
  have hperm := perm_reduceOption_set (pointer?_eq_some.mp hp) none
  exact hbal.perm ((hperm.symm.append_left held).trans List.perm_middle)

/-- A pointer that is put into an empty slot is among those that are held. -/
theorem balanced_put (hi : s.slots[i]? = some none) (hbal : h.Balanced (a :: s.held)) :
    Sound ⟨h, s.slots.set i (some a)⟩ :=
  hbal.perm (perm_reduceOption_set hi (some a)).symm

theorem balanced_push (hbal : h.Balanced (a :: s.held)) : Sound ⟨h, s.slots ++ [some a]⟩ := by
  refine hbal.perm ?_
  show (a :: s.slots.reduceOption).Perm (s.slots ++ [some a]).reduceOption
  rw [List.reduceOption_append]
  exact (List.perm_append_singleton a _).symm

theorem reads_of_pointer? (hs : s.Sound) (hp : s.pointer? i = some a) : ∃ e, s.Reads i e := by
  obtain ⟨n, hn⟩ := hs.exists_node (mem_held hp)
  obtain ⟨e, he⟩ := Heap.exists_error hn
  exact ⟨e, a, hp, he⟩

theorem is_of_reads (hr : s.Reads i e) (c : Category) : s.is i c = e.is c := by
  obtain ⟨a, hp, hchain⟩ := hr
  rw [is, hp, Option.any_some, Heap.is_of_chain hchain]

/-! ## Contexts -/

/-- Making an error of a context adds its pointer to those that are held. -/
theorem balanced_intoError (hbal : s.heap.Balanced (a :: s.held))
    (hinto : s.intoError c = some (p, s')) :
    s'.heap.Balanced (p :: a :: s'.held) ∧
      ∀ q ∈ a :: s.held, s'.heap.chain q = s.heap.chain q := by
  cases c with
  | text message =>
    cases hinto
    exact ⟨Heap.Balanced.alloc _ none hbal,
      fun q hq => Heap.chain_alloc (hbal.lt_length hq) _ _⟩
  | error j =>
    obtain ⟨b, hb, heq⟩ := Option.map_eq_some_iff.mp hinto
    cases heq
    exact ⟨balanced_take [a] hb hbal, fun q _ => rfl⟩

/-- An empty slot stays empty while an error is made of a context. -/
theorem intoError_empty (hi : s.slots[i]? = some none) (hinto : s.intoError c = some (p, s')) :
    s'.slots[i]? = some none := by
  cases c with
  | text message => cases hinto; exact hi
  | error j =>
    obtain ⟨b, -, heq⟩ := Option.map_eq_some_iff.mp hinto
    cases heq
    obtain ⟨hlt, -⟩ := List.getElem?_eq_some_iff.mp hi
    by_cases hj : j = i
    · rw [hj]
      exact List.getElem?_set_self hlt
    · exact (List.getElem?_set_ne hj).trans hi

/-- Only the slot of a context loses its error when the context is made one. -/
theorem pointer?_intoError (hc : c ≠ .error i) (hinto : s.intoError c = some (p, s')) :
    s'.pointer? i = s.pointer? i := by
  cases c with
  | text message => cases hinto; rfl
  | error j =>
    obtain ⟨b, -, heq⟩ := Option.map_eq_some_iff.mp hinto
    cases heq
    exact pointer?_take_of_ne fun hj => hc (hj ▸ rfl)

/-- A context is added if there are both an error and a context. -/
theorem step_context (hp : s.pointer? i = some a) (hinto : (s.take i).intoError c = some (p, s')) :
    s.step (.context i c) =
      ⟨(s'.heap.context a p).2, s'.slots.set i (some (s'.heap.context a p).1)⟩ := by
  rw [step, hp, hinto]

/-- Adding a context changes nothing, or there are both an error and a context. -/
theorem step_context_cases (s : Holder) (i : Nat) (c : Context) :
    s.step (.context i c) = s ∨
      ∃ a p s', s.pointer? i = some a ∧ (s.take i).intoError c = some (p, s') := by
  cases hp : s.pointer? i with
  | none => exact .inl (by rw [step, hp])
  | some a =>
    cases hinto : (s.take i).intoError c with
    | none => exact .inl (by rw [step, hp, hinto])
    | some r => exact .inr ⟨a, r.1, r.2, rfl, rfl⟩

/-- What is known when a context is about to be added: the nodes count the error and the context
among their owners, the slot of the error is empty, and all walks go on as before. -/
theorem about_to_add (hs : s.Sound) (hp : s.pointer? i = some a)
    (hinto : (s.take i).intoError c = some (p, s')) :
    s'.heap.Balanced (p :: a :: s'.held) ∧ s'.slots[i]? = some none ∧
      ∀ q ∈ s.held, s'.heap.chain q = s.heap.chain q := by
  have hperm := perm_reduceOption_set (pointer?_eq_some.mp hp) none
  obtain ⟨hbal, hkept⟩ := balanced_intoError (s := s.take i) (balanced_take [] hp hs) hinto
  have hempty : (s.take i).slots[i]? = some none :=
    List.getElem?_set_self (lt_length_of_pointer? hp)
  exact ⟨hbal, intoError_empty hempty hinto, fun q hq => hkept q (hperm.symm.subset hq)⟩

/-! ## Events -/

theorem sound_step (hs : s.Sound) (ev : Event) : (s.step ev).Sound := by
  cases ev with
  | create cause => exact balanced_push (Heap.Balanced.alloc cause none hs)
  | clone i =>
    rw [step]
    split
    · next a hp => exact balanced_push (hs.clone (mem_held hp))
    · exact hs
  | drop i =>
    rw [step]
    split
    · next a hp => exact Heap.Balanced.release (balanced_take [] hp hs)
    · exact hs
  | context i c =>
    obtain heq | ⟨a, p, s', hp, hinto⟩ := step_context_cases s i c
    · rw [heq]
      exact hs
    · obtain ⟨hbal, hempty, -⟩ := about_to_add hs hp hinto
      rw [step_context hp hinto]
      exact balanced_put hempty hbal.context

theorem sound_run (hs : s.Sound) (events : List Event) : (s.run events).Sound := by
  induction events generalizing s with
  | nil => exact hs
  | cons ev events ih => exact ih (sound_step hs ev)

/-- The error that a context is added to has one context more. -/
theorem reads_context_self {n : Node} {c' : Error} (hs : s.Sound) (hp : s.pointer? i = some a)
    (hinto : (s.take i).intoError c = some (p, s')) (hchain : s.heap.chain a = e.causes)
    (hn : s'.heap.node? p = some n) (hchain' : s'.heap.chain p = c'.causes) :
    (s.step (.context i c)).Reads i (e.around n c') := by
  obtain ⟨hbal, hempty, hkept⟩ := about_to_add hs hp hinto
  rw [step_context hp hinto]
  refine ⟨(s'.heap.context a p).1, ?_, ?_⟩
  · obtain ⟨hlt, -⟩ := List.getElem?_eq_some_iff.mp hempty
    exact pointer?_eq_some.mpr (List.getElem?_set_self hlt)
  · rw [Heap.chain_context hbal hn, hkept a (mem_held hp), hchain,
      causes_around (Heap.outermost_of_chain hn hchain')]

/-- Of a text a new error is made, which is taken apart. -/
theorem reads_context_text (hs : s.Sound) (hr : s.Reads i e) (message : String) :
    (s.step (.context i (.text message))).Reads i (e.context (.adhoc message)) := by
  obtain ⟨a, hp, hchain⟩ := hr
  let h := (s.heap.alloc (.adhoc message) none).2
  have hinto : (s.take i).intoError (.text message) =
      some (s.heap.length, { s.take i with heap := h }) := rfl
  have hn : h.node? s.heap.length = some ⟨.adhoc message, none, 1⟩ := if_pos rfl
  have hchain' : h.chain s.heap.length = (Error.adhoc message).causes := Heap.chain_newest _ _
  exact reads_context_self hs hp hinto hchain hn hchain'

/-- An error that nothing else points to is taken apart, and of any other only the text is added. -/
theorem reads_context_error {c : Error} (hs : s.Sound) (hr : s.Reads i e) (hc : s.Reads k c)
    (hne : i ≠ k) :
    (s.step (.context i (.error k))).Reads i
      (if s.owners k = 1 then e.context c else e.contextShared c) := by
  obtain ⟨a, hp, hchain⟩ := hr
  obtain ⟨b, hb, hchain'⟩ := hc
  obtain ⟨n, hn⟩ := hs.exists_node (mem_held hb)
  have hinto : (s.take i).intoError (.error k) = some (b, (s.take i).take k) := by
    rw [intoError, pointer?_take_of_ne hne, hb, Option.map_some]
  have howners : s.owners k = n.owners := by
    rw [owners, hb, Option.bind_some, hn, Option.elim_some]
  rw [howners]
  exact reads_context_self hs hp hinto hchain hn hchain'

/-- A context that is added to an error leaves those in other slots as they are. -/
theorem reads_context_other (hs : s.Sound) (hp : s.pointer? i = some a)
    (hinto : (s.take i).intoError c = some (p, s')) (hr : s.Reads k e) (hne : i ≠ k)
    (hc : c ≠ .error k) : (s.step (.context i c)).Reads k e := by
  obtain ⟨q, hq, hchain⟩ := hr
  obtain ⟨hbal, -, hkept⟩ := about_to_add hs hp hinto
  have hq' : s'.pointer? k = some q := by
    rw [pointer?_intoError hc hinto, pointer?_take_of_ne hne, hq]
  rw [step_context hp hinto]
  refine ⟨q, (pointer?_set_of_ne hne).trans hq', ?_⟩
  rw [Heap.chain_context_of_mem hbal (mem_held hq'), hkept q (mem_held hq), hchain]

/-- An error that is not taken out of its slot is kept there, with one context more at most. -/
theorem reads_step {ev : Event} (hs : s.Sound) (hr : s.Reads k e) (hev : ¬ ev.Takes k) :
    ∃ e', e.Extends e' ∧ (s.step ev).Reads k e' := by
  have ⟨q, hq, hchain⟩ := hr
  cases ev with
  | create cause =>
    have hlt := hs.lt_length (mem_held hq)
    exact ⟨e, .refl, q, pointer?_push hq, (Heap.chain_alloc hlt _ _).trans hchain⟩
  | clone i =>
    rw [step]
    split
    · exact ⟨e, .refl, q, pointer?_push hq, Heap.chain_clone.trans hchain⟩
    · exact ⟨e, .refl, hr⟩
  | drop i =>
    rw [step]
    split
    · next a hp =>
      have hq' : (s.take i).pointer? k = some q := (pointer?_take_of_ne hev).trans hq
      have hbal := balanced_take [] hp hs
      exact ⟨e, .refl, q, hq', (Heap.chain_release hbal (mem_held hq')).trans hchain⟩
    · exact ⟨e, .refl, hr⟩
  | context i c =>
    obtain heq | ⟨a, p, s', hp, hinto⟩ := step_context_cases s i c
    · rw [heq]
      exact ⟨e, .refl, hr⟩
    · by_cases hi : i = k
      · subst hi
        cases hp.symm.trans hq
        obtain ⟨n, hn⟩ := (about_to_add hs hp hinto).1.exists_node List.mem_cons_self
        obtain ⟨c', hc'⟩ := Heap.exists_error hn
        exact ⟨e.around n c', e.extends_around n c', reads_context_self hs hp hinto hchain hn hc'⟩
      · have hc : c ≠ .error k := fun hc => hev (by rw [hc]; rfl)
        exact ⟨e, .refl, reads_context_other hs hp hinto hr hi hc⟩

/-- An error that stays in its slot has more contexts in the end, and is the same behind them. -/
theorem reads_run {events : List Event} (hs : s.Sound) (hr : s.Reads k e)
    (hevents : ∀ ev ∈ events, ¬ ev.Takes k) :
    ∃ e', e.Extends e' ∧ (s.run events).Reads k e' := by
  induction events generalizing s e with
  | nil => exact ⟨e, .refl, hr⟩
  | cons ev events ih =>
    obtain ⟨e', hstep, hr'⟩ := reads_step hs hr (hevents ev List.mem_cons_self)
    have hrest : ∀ ev ∈ events, ¬ ev.Takes k := fun ev hmem =>
      hevents ev (List.mem_cons_of_mem _ hmem)
    obtain ⟨e'', hrun, hr''⟩ := ih (sound_step hs ev) hr' hrest
    exact ⟨e'', hstep.trans hrun, hr''⟩

/-! ## Predicates -/

/-- A new error is in a slot of its own, with its cause and no context. -/
theorem reads_create (s : Holder) (cause : Cause) :
    (s.step (.create cause)).Reads s.slots.length (ofCause cause) :=
  ⟨s.heap.length, pointer?_eq_some.mpr List.getElem?_concat_length, Heap.chain_newest _ _⟩

/-- A new error is of the category of its cause. -/
theorem is_create (s : Holder) (cause : Cause) (c : Category) :
    (s.step (.create cause)).is s.slots.length c = (cause.category == some c) :=
  is_of_reads (s.reads_create cause) c

/-- An error of a program stays of the category that it is of, and of no other, while contexts of any
kind are put around it and whatever becomes of the errors that it shares nodes with, as long as the
program does not drop it or use it up as a context itself. -/
theorem predicates_kept (before after : List Event) (i : Nat)
    (hi : (run {} before).Holds i) (hafter : ∀ ev ∈ after, ¬ ev.Takes i) :
    (run {} (before ++ after)).Holds i ∧
      (∀ c, (run {} (before ++ after)).is i c = (run {} before).is i c) ∧
      (∀ c d, (run {} (before ++ after)).is i c → (run {} (before ++ after)).is i d → c = d) := by
  have hs : (run {} before).Sound := sound_run (s := {}) rfl before
  obtain ⟨a, hp⟩ := Option.isSome_iff_exists.mp hi
  obtain ⟨e, hr⟩ := reads_of_pointer? hs hp
  obtain ⟨e', hextends, hr'⟩ := reads_run hs hr hafter
  have hrun : run {} (before ++ after) = (run {} before).run after := List.foldl_append
  rw [hrun]
  refine ⟨?_, fun c => ?_, fun c d hc hd => ?_⟩
  · obtain ⟨b, hb, -⟩ := hr'
    exact Option.isSome_iff_exists.mpr ⟨b, hb⟩
  · rw [is_of_reads hr', is_of_reads hr, Error.is, Error.is, hextends.category_eq]
  · rw [is_of_reads hr'] at hc hd
    exact eq_of_is hc hd

/-- The contexts are a text, an error that there is a second pointer to, and one of another category
that has a context itself. -/
theorem predicates_kept_recordNotFound :
    let before : List Event := [.create (.recordNotFound "table=users"),
      .create (.driver "timed out" []), .clone 1,
      .create (.malformedCondition "no value"), .context 3 (.text "filter")]
    let after : List Event :=
      [.context 0 (.text "User.find()"), .context 0 (.error 2), .context 0 (.error 3)]
    (run {} before).Holds 0 ∧ (∀ ev ∈ after, ¬ ev.Takes 0) ∧
      (run {} (before ++ after)).is 0 .recordNotFound = true ∧
      (run {} (before ++ after)).is 0 .driver = false := by
  intro before after
  have hi : (run {} before).Holds 0 := by decide
  have hafter : ∀ ev ∈ after, ¬ ev.Takes 0 := by decide
  obtain ⟨-, hkept, -⟩ := predicates_kept before after 0 hi hafter
  refine ⟨hi, hafter, ?_, ?_⟩
  · rw [hkept]
    decide
  · rw [hkept]
    decide

end Holder

end Error

end RelMap
