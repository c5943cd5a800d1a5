-- SUMMARY: Maps of options are known by the values of their keys.
import Mathlib.Data.List.Nodup
import Mathlib.Data.String.Basic
import RelMap.Schema.Options

/-!
# Maps of options

A map lists each key once, in ascending order. Main statements: setting keys keeps this, of several
values that are set for one key the last stands, and two maps are equal if each key has the same
value in both.
-/
namespace RelMap.Options

/-- The keys in ascending order, each of them once. -/
def Ascending (m : Options) : Prop := m.Pairwise fun e e' => e.1 < e'.1

instance (m : Options) : Decidable m.Ascending :=
  inferInstanceAs (Decidable (List.Pairwise _ _))

variable {m m' : Options} {entries : List (String × String)} {key value : String}

/-! ## Values of keys -/

theorem get?_append (key : String) (m m' : Options) :
    get? key (m ++ m') = (m.get? key).or (m'.get? key) := by
  induction m with
  | nil => rfl
  | cons e m ih =>
    obtain ⟨k, v⟩ := e
    by_cases h : key = k
    · simp [get?, h]
    · simpa [get?, h] using ih

theorem get?_eq_none_iff : m.get? key = none ↔ ∀ e ∈ m, e.1 ≠ key := by
  induction m with
  | nil => simp [get?]
  | cons e m ih =>
    obtain ⟨k, v⟩ := e
    by_cases h : key = k
    · simp [get?, h]
    · simp [get?, h, ih, Ne.symm h]

/-- The first value counts. -/
theorem get?_eq_some_iff : m.get? key = some value ↔
    ∃ before after, m = before ++ (key, value) :: after ∧ ∀ e ∈ before, e.1 ≠ key := by
  constructor
  · intro h
    induction m with
    | nil => cases h
    | cons e m ih =>
      obtain ⟨k, v⟩ := e
      rw [get?] at h
      split at h
      · next heq =>
        cases h
        exact ⟨[], m, by rw [heq, List.nil_append], List.forall_mem_nil _⟩
      · next hne =>
        obtain ⟨before, after, rfl, hbefore⟩ := ih h
        exact ⟨(k, v) :: before, after, rfl,
          List.forall_mem_cons.mpr ⟨fun heq => hne heq.symm, hbefore⟩⟩
  · rintro ⟨before, after, rfl, hbefore⟩
    rw [get?_append, get?_eq_none_iff.mpr hbefore, Option.none_or, get?, if_pos rfl]

theorem mem_of_get? (h : m.get? key = some value) : (key, value) ∈ m := by
  obtain ⟨before, after, rfl, -⟩ := get?_eq_some_iff.mp h
  exact List.mem_append_right before List.mem_cons_self

/-- Where each key stands once, its value is the one that it stands with. -/
theorem get?_eq_some_iff_mem (h : (m.map Prod.fst).Nodup) :
    m.get? key = some value ↔ (key, value) ∈ m := by
  refine ⟨mem_of_get?, fun hmem => ?_⟩
  obtain ⟨before, after, rfl⟩ := List.append_of_mem hmem
  rw [List.map_append, List.nodup_append] at h
  refine get?_eq_some_iff.mpr ⟨before, after, rfl, fun e he heq => ?_⟩
  exact h.2.2 e.1 (List.mem_map_of_mem he) key (by simp) heq

theorem get?_perm (h : (m.map Prod.fst).Nodup) (hperm : m.Perm m') (key : String) :
    m.get? key = m'.get? key := by
  have h' : (m'.map Prod.fst).Nodup := (hperm.map Prod.fst).nodup_iff.mp h
  refine Option.ext fun value => ?_
  rw [get?_eq_some_iff_mem h, get?_eq_some_iff_mem h', hperm.mem_iff]

/-! ## Order -/

theorem Ascending.nodup_keys (h : m.Ascending) : (m.map Prod.fst).Nodup :=
  List.pairwise_map.mpr (h.imp ne_of_lt)

/-- Maps with the same entries are equal. -/
theorem Ascending.eq_of_perm (h : m.Ascending) (h' : m'.Ascending) (hperm : m.Perm m') : m = m' :=
  hperm.eq_of_pairwise (fun _ _ _ _ hlt hgt => absurd hgt (String.lt_asymm hlt)) h h'

/-- Maps with the same values are equal. -/
theorem Ascending.ext (h : m.Ascending) (h' : m'.Ascending)
    (hget : ∀ key, m.get? key = m'.get? key) : m = m' := by
  have hnodup : m.Nodup := h.nodup_keys.of_map
  refine h.eq_of_perm h' ((List.perm_ext_iff_of_nodup hnodup h'.nodup_keys.of_map).mpr ?_)
  rintro ⟨key, value⟩
  rw [← get?_eq_some_iff_mem h.nodup_keys, ← get?_eq_some_iff_mem h'.nodup_keys, hget]

/-! ## Setting keys -/

theorem get?_insert (m : Options) (key value k : String) :
    (m.insert key value).get? k = if k = key then some value else m.get? k := by
  induction m with
  | nil => rfl
  | cons e m ih =>
    obtain ⟨k', v⟩ := e
    rw [insert]
    split
    · rfl
    · split
      · next heq =>
        subst heq
        simp only [get?]
        split <;> rfl
      · next hne =>
        rw [get?, get?, ih]
        by_cases hk : k = k'
        · rw [if_pos hk, if_pos hk, if_neg fun heq => hne (heq.symm.trans hk)]
        · rw [if_neg hk, if_neg hk]

theorem mem_insert {e : String × String} (h : e ∈ m.insert key value) :
    e = (key, value) ∨ e ∈ m := by
  induction m with
  | nil => exact .inl (List.mem_singleton.mp h)
  | cons e' m ih =>
    obtain ⟨k, v⟩ := e'
    rw [insert] at h
    split at h
    · exact List.mem_cons.mp h
    · split at h
      · exact (List.mem_cons.mp h).imp_right (List.mem_cons_of_mem _)
      · rcases List.mem_cons.mp h with rfl | h
        · exact .inr List.mem_cons_self
        · exact (ih h).imp_right (List.mem_cons_of_mem _)

theorem Ascending.insert (h : m.Ascending) (key value : String) :
    (m.insert key value).Ascending := by
  induction m with
  | nil => exact List.pairwise_singleton _ _
  | cons e m ih =>
    obtain ⟨k, v⟩ := e
    obtain ⟨hfirst, hrest⟩ := List.pairwise_cons.mp h
    rw [Options.insert]
    split
    · next hlt =>
      refine List.pairwise_cons.mpr ⟨List.forall_mem_cons.mpr ⟨hlt, fun e he => ?_⟩, h⟩
      exact String.lt_trans hlt (hfirst e he)
    · next hnot =>
      split
      · next heq => exact List.pairwise_cons.mpr ⟨heq ▸ hfirst, hrest⟩
      · next hne =>
        have hgt : k < key := ((lt_trichotomy key k).resolve_left hnot).resolve_left hne
        refine List.pairwise_cons.mpr ⟨fun e he => ?_, ih hrest⟩
        rcases mem_insert he with rfl | he
        · exact hgt
        · exact hfirst e he

theorem insertAll_cons (e : String × String) (entries : List (String × String))
    (m : Options) : insertAll (e :: entries) m = insertAll entries (m.insert e.1 e.2) := rfl

theorem Ascending.insertAll (h : m.Ascending) (entries : List (String × String)) :
    (insertAll entries m).Ascending := by
  induction entries generalizing m with
  | nil => exact h
  | cons e entries ih => exact ih (h.insert e.1 e.2)

/-- Of several values that are set for one key the last stands. -/
theorem get?_insertAll (entries : List (String × String)) (m : Options) (key : String) :
    (insertAll entries m).get? key = (get? key entries.reverse).or (m.get? key) := by
  induction entries generalizing m with
  | nil => rfl
  | cons e entries ih =>
    obtain ⟨k, v⟩ := e
    rw [insertAll_cons, ih, get?_insert, List.reverse_cons, get?_append, Option.or_assoc]
    congr 1
    rw [get?]
    split <;> rfl

theorem mem_insertAll {e : String × String} (h : e ∈ insertAll entries m) :
    e ∈ entries ∨ e ∈ m := by
  induction entries generalizing m with
  | nil => exact .inr h
  | cons e' entries ih =>
    rcases ih h with h | h
    · exact .inl (List.mem_cons_of_mem _ h)
    · rcases mem_insert h with rfl | h
      · exact .inl List.mem_cons_self
      · exact .inr h

/-! ## Overriding -/

/-- The map with the entries of another one set over its own. -/
def override (m m' : Options) : Options := insertAll m' m

theorem Ascending.override (h : m.Ascending) (m' : Options) : (m.override m').Ascending :=
  h.insertAll m'

theorem get?_override (h' : m'.Ascending) (m : Options) (key : String) :
    (m.override m').get? key = (m'.get? key).or (m.get? key) := by
  rw [Options.override, get?_insertAll, ← get?_perm h'.nodup_keys (List.reverse_perm m').symm]

/-- Entries of which no two have the same key are set in any order. -/
theorem insertAll_of_perm (h : m.Ascending) (hperm : entries.Perm m) :
    insertAll entries [] = m := by
  have hempty : Ascending [] := List.Pairwise.nil
  refine (hempty.insertAll entries).ext h fun key => ?_
  rw [get?_insertAll, get?, Option.or_none]
  exact (get?_perm h.nodup_keys (hperm.symm.trans (List.reverse_perm entries).symm) key).symm

end RelMap.Options
