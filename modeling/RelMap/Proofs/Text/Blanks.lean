-- SUMMARY: Text with blanks around it, and what trimming makes of it.
import RelMap.Text.Blank

/-!
# Text between blanks

A text encloses a core if nothing but blanks stands before and behind it. Main statements: every
text encloses its trimming, and trimming a text is trimming the core that it encloses; so the
trimming is the one core that has no blanks around it.
-/
namespace RelMap.Text

/-- Nothing but blank characters. -/
def Blanks (cs : List Char) : Prop := ∀ c ∈ cs, isBlank c = true

instance (cs : List Char) : Decidable (Blanks cs) :=
  decidable_of_iff (cs.all isBlank = true) List.all_eq_true

/-- The text is the core with blanks before and behind it. -/
def Encloses (cs core : List Char) : Prop :=
  ∃ front back, Blanks front ∧ Blanks back ∧ cs = front ++ core ++ back

variable {cs core front back : List Char}

theorem trimStart_append (h : Blanks front) (cs : List Char) :
    trimStart (front ++ cs) = trimStart cs :=
  List.dropWhile_append_of_pos h

theorem trimEnd_append (h : Blanks back) (cs : List Char) : trimEnd (cs ++ back) = trimEnd cs := by
  rw [trimEnd, List.reverse_append,
    List.dropWhile_append_of_pos fun c hc => h c (List.mem_reverse.mp hc), trimEnd]

theorem trimStart_of_blanks (h : Blanks cs) : trimStart cs = [] := by
  have hdrop := trimStart_append h []
  rwa [List.append_nil] at hdrop

theorem Encloses.trim_eq (h : Encloses cs core) : trim cs = trim core := by
  obtain ⟨front, back, hfront, hback, rfl⟩ := h
  rw [trim, List.append_assoc, trimStart_append hfront, trimStart, List.dropWhile_append]
  split
  · next hempty =>
    -- a core of blanks is dropped with the blanks behind it
    have hcore : trimStart core = [] := List.isEmpty_iff.mp hempty
    change trimEnd (trimStart back) = _
    rw [trimStart_of_blanks hback, trim, hcore]
  · exact trimEnd_append hback _

/-- Only blanks are dropped at the front. -/
theorem exists_trimStart (cs : List Char) : ∃ front, Blanks front ∧ cs = front ++ trimStart cs :=
  ⟨cs.takeWhile isBlank, fun c hc => List.all_eq_true.mp List.all_takeWhile c hc,
    List.takeWhile_append_dropWhile.symm⟩

/-- Only blanks are dropped at the back. -/
theorem exists_trimEnd (cs : List Char) : ∃ back, Blanks back ∧ cs = trimEnd cs ++ back := by
  obtain ⟨front, hfront, hsplit⟩ := exists_trimStart cs.reverse
  refine ⟨front.reverse, fun c hc => hfront c (List.mem_reverse.mp hc), ?_⟩
  have hback := congrArg List.reverse hsplit
  rwa [List.reverse_reverse, List.reverse_append] at hback

theorem encloses_trimStart (cs : List Char) : Encloses cs (trimStart cs) := by
  obtain ⟨front, hfront, hsplit⟩ := exists_trimStart cs
  exact ⟨front, [], hfront, List.forall_mem_nil _, by rwa [List.append_nil]⟩

theorem encloses_trimEnd (cs : List Char) : Encloses cs (trimEnd cs) := by
  obtain ⟨back, hback, hsplit⟩ := exists_trimEnd cs
  exact ⟨[], back, List.forall_mem_nil _, hback, hsplit⟩

theorem encloses_trim (cs : List Char) : Encloses cs (trim cs) := by
  obtain ⟨front, hfront, hsplit⟩ := exists_trimStart cs
  obtain ⟨back, hback, hsplit'⟩ := exists_trimEnd (trimStart cs)
  refine ⟨front, back, hfront, hback, ?_⟩
  rw [trim, List.append_assoc, ← hsplit', ← hsplit]

/-- A character that is not blank keeps trimming from going past it. -/
theorem trim_append_cons {c : Char} (h : isBlank c = false) (cs cs' : List Char) :
    trim (cs ++ c :: cs') = trimStart cs ++ c :: trimEnd cs' := by
  have hstart : trimStart (cs ++ c :: cs') = trimStart cs ++ c :: cs' := by
    rw [trimStart, List.dropWhile_append, List.dropWhile_cons_of_neg (by simp [h])]
    split
    · next hempty => rw [trimStart, List.isEmpty_iff.mp hempty, List.nil_append]
    · rfl
  rw [trim, hstart, trimEnd, List.reverse_append, List.reverse_cons, List.append_assoc,
    List.singleton_append, List.dropWhile_append, List.dropWhile_cons_of_neg (by simp [h])]
  split
  · next hempty => simp [trimEnd, List.isEmpty_iff.mp hempty]
  · simp [trimEnd]

/-! ## No blanks around -/

/-- Neither the first character nor the last one is blank. -/
def Unpadded (cs : List Char) : Prop :=
  (∀ c ∈ cs.head?, isBlank c = false) ∧ ∀ c ∈ cs.getLast?, isBlank c = false

instance (cs : List Char) : Decidable (Unpadded cs) :=
  decidable_of_iff
    (cs.head?.all (fun c => !isBlank c) = true ∧ cs.getLast?.all (fun c => !isBlank c) = true)
    (by simp [Unpadded, Option.all_eq_true])

theorem dropWhile_isBlank (h : ∀ c ∈ cs.head?, isBlank c = false) : cs.dropWhile isBlank = cs := by
  cases cs with
  | nil => rfl
  | cons c cs => exact List.dropWhile_cons_of_neg (by simp [h c rfl])

theorem head?_dropWhile_isBlank (cs : List Char) :
    ∀ c ∈ (cs.dropWhile isBlank).head?, isBlank c = false := by
  intro c hc
  have hnot := List.head?_dropWhile_not isBlank cs
  rwa [Option.mem_def.mp hc] at hnot

theorem Unpadded.trim_eq (h : Unpadded cs) : trim cs = cs := by
  have hback : ∀ c ∈ cs.reverse.head?, isBlank c = false := by
    rw [List.head?_reverse]
    exact h.2
  rw [trim, trimStart, dropWhile_isBlank h.1, trimEnd, dropWhile_isBlank hback,
    List.reverse_reverse]

theorem unpadded_trim (cs : List Char) : Unpadded (trim cs) := by
  obtain ⟨back, -, hsplit⟩ := exists_trimEnd (trimStart cs)
  refine ⟨fun c hc => head?_dropWhile_isBlank cs c ?_, ?_⟩
  · -- What is left at the end starts as it did before the blanks behind it were dropped.
    have hfirst : (trimEnd (trimStart cs)).head? = some c := hc
    have hhead := congrArg List.head? hsplit
    rwa [List.head?_append, hfirst, Option.some_or] at hhead
  · rw [trim, trimEnd, List.getLast?_reverse]
    exact head?_dropWhile_isBlank _

/-- The trimming of a text is the core without blanks around it. -/
theorem trim_eq_iff : trim cs = core ↔ Encloses cs core ∧ Unpadded core := by
  constructor
  · rintro rfl
    exact ⟨encloses_trim cs, unpadded_trim cs⟩
  · rintro ⟨hencloses, hunpadded⟩
    rw [hencloses.trim_eq, hunpadded.trim_eq]

/-- Trimming leaves nothing of blanks, and something of any other text. -/
theorem trim_eq_nil_iff : trim cs = [] ↔ Blanks cs := by
  rw [trim_eq_iff]
  constructor
  · rintro ⟨⟨front, back, hfront, hback, rfl⟩, -⟩
    rw [List.append_nil]
    exact List.forall_mem_append.mpr ⟨hfront, hback⟩
  · intro h
    exact ⟨⟨cs, [], h, List.forall_mem_nil _, by simp⟩, by decide⟩

end RelMap.Text
