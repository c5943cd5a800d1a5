-- SUMMARY: Owners are counted right, and errors keep what they say while others are made and dropped.
import RelMap.Error.Ownership

/-!
# Counted owners

`Heap.Balanced` says that each node counts its owners right: the pointers that are held, and those
of newer nodes. Every operation on the heap keeps it, and leaves the walks from all other pointers as
they were.
-/
namespace RelMap

namespace Error

namespace Heap

variable {h older : Heap} {n : Node} {held held' : List Address} {a p : Address}

/-! ## Balance -/

/-- Each node counts its owners right where `held` are the pointers to the heap from outside. Of the
newest node all owners are among them. Without it, what it points to is held in its place. -/
def Balanced : Heap → List Address → Prop
  | [], held => held = []
  | none :: older, held => older.length ∉ held ∧ Balanced older held
  | some n :: older, held =>
    n.owners = held.count older.length ∧
      Balanced older (n.behind.toList ++ held.filter (· ≠ older.length))

theorem Balanced.perm (hbal : h.Balanced held) (hperm : held.Perm held') : h.Balanced held' := by
  induction h generalizing held held' with
  | nil =>
    cases hbal
    exact List.nil_perm.mp hperm
  | cons entry older ih =>
    cases entry with
    | none => exact ⟨fun hmem => hbal.1 (hperm.mem_iff.mpr hmem), ih hbal.2 hperm⟩
    | some n =>
      exact ⟨hbal.1.trans (hperm.count_eq _),
        ih hbal.2 ((List.Perm.refl _).append (hperm.filter _))⟩

/-- A pointer that is held points to a node. -/
theorem Balanced.lt_length (hbal : h.Balanced held) (hp : p ∈ held) : p < h.length := by
  induction h generalizing held with
  | nil => cases hbal; cases hp
  | cons entry older ih =>
    rw [List.length_cons]
    cases entry with
    | none => exact Nat.lt_succ_of_lt (ih hbal.2 hp)
    | some n =>
      by_cases heq : p = older.length
      · exact heq ▸ Nat.lt_succ_self _
      · have hmem : p ∈ n.behind.toList ++ held.filter (· ≠ older.length) :=
          List.mem_append_right _ (List.mem_filter.mpr ⟨hp, by simpa using heq⟩)
        exact Nat.lt_succ_of_lt (ih hbal.2 hmem)

theorem Balanced.exists_node (hbal : h.Balanced held) (hp : p ∈ held) :
    ∃ n, h.node? p = some n := by
  induction h generalizing held with
  | nil => cases hbal; cases hp
  | cons entry older ih =>
    rw [node?]
    cases entry with
    | none =>
      have hne : p ≠ older.length := fun heq => hbal.1 (heq ▸ hp)
      rw [if_neg hne]
      exact ih hbal.2 hp
    | some n =>
      split
      · exact ⟨n, rfl⟩
      · next hne =>
        exact ih hbal.2 (List.mem_append_right _ (List.mem_filter.mpr ⟨hp, by simpa using hne⟩))

/-! ## New nodes -/

theorem Balanced.alloc (cause : Cause) (behind : Option Address)
    (hbal : h.Balanced (behind.toList ++ held)) :
    (h.alloc cause behind).2.Balanced ((h.alloc cause behind).1 :: held) := by
  have hfresh : h.length ∉ held := fun hmem =>
    Nat.lt_irrefl _ (hbal.lt_length (List.mem_append_right _ hmem))
  have hkeep : held.filter (· ≠ h.length) = held :=
    List.filter_eq_self.mpr fun p hp => decide_eq_true fun heq => hfresh (heq ▸ hp)
  refine ⟨?_, ?_⟩
  · simp [Heap.alloc, List.count_eq_zero.mpr hfresh]
  · show h.Balanced (behind.toList ++ (h.length :: held).filter (· ≠ h.length))
    rw [List.filter_cons_of_neg (by simp), hkeep]
    exact hbal

theorem chain_alloc (hp : p < h.length) (cause : Cause) (behind : Option Address) :
    (h.alloc cause behind).2.chain p = h.chain p := by
  rw [alloc, chain, if_neg (Nat.ne_of_lt hp)]

/-! ## Clones -/

theorem length_clone : (h.clone a).length = h.length := by
  induction h with
  | nil => rfl
  | cons entry older ih =>
    rw [clone]
    split
    · rfl
    · rw [List.length_cons, ih, List.length_cons]

theorem Balanced.clone (hbal : h.Balanced held) (ha : a ∈ held) :
    (h.clone a).Balanced (a :: held) := by
  induction h generalizing held with
  | nil => cases hbal; cases ha
  | cons entry older ih =>
    rw [Heap.clone]
    cases entry with
    | none =>
      have hne : a ≠ older.length := fun heq => hbal.1 (heq ▸ ha)
      rw [if_neg hne]
      refine ⟨?_, ih hbal.2 ha⟩
      rw [length_clone]
      exact fun hmem => (List.mem_cons.mp hmem).elim (fun heq => hne heq.symm) hbal.1
    | some n =>
      split
      · next heq =>
        subst heq
        refine ⟨?_, ?_⟩
        · simp [hbal.1]
        · simpa using hbal.2
      · next hne =>
        have hmem : a ∈ n.behind.toList ++ held.filter (· ≠ older.length) :=
          List.mem_append_right _ (List.mem_filter.mpr ⟨ha, by simpa using hne⟩)
        refine ⟨?_, ?_⟩
        · rw [length_clone, List.count_cons_of_ne hne]
          exact hbal.1
        · rw [length_clone, List.filter_cons_of_pos (by simpa using hne)]
          exact (ih hbal.2 hmem).perm List.perm_middle.symm

theorem chain_clone : (h.clone a).chain p = h.chain p := by
  induction h generalizing p with
  | nil => rfl
  | cons entry older ih =>
    rw [clone]
    split
    · cases entry <;> rfl
    · simp only [chain, length_clone, ih]

/-! ## Releases -/

theorem length_release : (h.release a).length = h.length := by
  induction h generalizing a with
  | nil => rfl
  | cons entry older ih =>
    unfold release
    split
    · split
      · split
        · rfl
        · split
          · rw [List.length_cons, ih, List.length_cons]
          · rfl
      · rfl
    · rw [List.length_cons, ih, List.length_cons]

/-- One owner of the newest node less: the node is kept for its other owners, or goes and is an
owner no longer. -/
theorem release_newest : release (some n :: older) older.length =
    if 1 < n.owners then some { n with owners := n.owners - 1 } :: older
    else none :: n.behind.elim older older.release := by
  rw [release, if_pos rfl]
  split
  · rfl
  · cases n.behind <;> rfl

theorem release_older {entry : Option Node} (h : a ≠ older.length) :
    release (entry :: older) a = entry :: release older a := by
  cases entry <;> simp [release, h]

/-- Without the newest node, what it points to is held beside what was held. -/
theorem Balanced.pop (hbal : Balanced (some n :: older) (a :: held)) (hne : a ≠ older.length) :
    older.Balanced (a :: (n.behind.toList ++ held.filter (· ≠ older.length))) := by
  have hfilter := hbal.2
  rw [List.filter_cons_of_pos (by simpa using hne)] at hfilter
  exact hfilter.perm List.perm_middle

/-- A newest node that loses its last owner is held by no one. -/
theorem Balanced.gone (hbal : Balanced (some n :: older) (older.length :: held))
    (hsole : ¬ 1 < n.owners) :
    older.length ∉ held ∧ older.Balanced (n.behind.toList ++ held) := by
  obtain ⟨howners, hbal⟩ := hbal
  rw [List.count_cons_self] at howners
  rw [List.filter_cons_of_neg (by simp)] at hbal
  have hgone : older.length ∉ held := List.count_eq_zero.mp (by omega)
  have hkeep : held.filter (· ≠ older.length) = held :=
    List.filter_eq_self.mpr fun p hp => decide_eq_true fun heq => hgone (heq ▸ hp)
  exact ⟨hgone, hkeep ▸ hbal⟩

theorem Balanced.release (hbal : h.Balanced (a :: held)) : (h.release a).Balanced held := by
  induction h generalizing a held with
  | nil => cases hbal
  | cons entry older ih =>
    cases entry with
    | none =>
      obtain ⟨hgap, hbal⟩ := hbal
      have hne : a ≠ older.length := fun heq => hgap (heq ▸ List.mem_cons_self)
      rw [release_older hne]
      refine ⟨?_, ih hbal⟩
      rw [length_release]
      exact fun hmem => hgap (List.mem_cons_of_mem _ hmem)
    | some n =>
      by_cases heq : a = older.length
      · subst heq
        rw [release_newest]
        split
        -- Others own the node as well, and it stays.
        · obtain ⟨howners, hbal⟩ := hbal
          rw [List.count_cons_self] at howners
          rw [List.filter_cons_of_neg (by simp)] at hbal
          refine ⟨?_, hbal⟩
          show n.owners - 1 = _
          omega
        -- The node goes. What it pointed to is then held from outside, and released in turn.
        · next hsole =>
          obtain ⟨hgone, hbal⟩ := Balanced.gone hbal hsole
          cases hbehind : n.behind with
          | none =>
            rw [hbehind] at hbal
            exact ⟨hgone, hbal⟩
          | some b =>
            rw [hbehind] at hbal
            refine ⟨?_, ih hbal⟩
            rw [Option.elim_some, length_release]
            exact hgone
      · rw [release_older heq]
        refine ⟨?_, ?_⟩
        · rw [length_release]
          exact hbal.1.trans (List.count_cons_of_ne heq)
        · rw [length_release]
          exact ih (Balanced.pop hbal heq)

theorem chain_newest (n : Node) (older : Heap) :
    chain (some n :: older) older.length = n.cause :: n.behind.elim [] older.chain := by
  simp only [chain, if_true]
  cases n.behind <;> rfl

theorem chain_older {entry : Option Node} (h : p ≠ older.length) :
    chain (entry :: older) p = chain older p := by
  simp only [chain, if_neg h]

/-- A pointer that is given up takes nothing from the walks of those that are still held. -/
theorem chain_release (hbal : h.Balanced (a :: held)) (hp : p ∈ held) :
    (h.release a).chain p = h.chain p := by
  induction h generalizing a held p with
  | nil => cases hbal
  | cons entry older ih =>
    have hlength (a : Address) : (release older a).length = older.length := length_release
    cases entry with
    | none =>
      obtain ⟨hgap, hbal⟩ := hbal
      have hne : a ≠ older.length := fun heq => hgap (heq ▸ List.mem_cons_self)
      have hne' : p ≠ older.length := fun heq => hgap (heq ▸ List.mem_cons_of_mem _ hp)
      rw [release_older hne, chain_older (hlength a ▸ hne'), chain_older hne', ih hbal hp]
    | some n =>
      by_cases heq : a = older.length
      · subst heq
        rw [release_newest]
        split
        · simp only [chain]
        · next hsole =>
          obtain ⟨hgone, hbal⟩ := Balanced.gone hbal hsole
          have hne : p ≠ older.length := fun heq => hgone (heq ▸ hp)
          cases hbehind : n.behind with
          | none => rw [Option.elim_none, chain_older hne, chain_older hne]
          | some b =>
            rw [hbehind] at hbal
            rw [Option.elim_some, chain_older (hlength b ▸ hne), chain_older hne, ih hbal hp]
      -- The newest node stays. A walk may start there, and goes on behind it.
      · have hpop := Balanced.pop hbal heq
        rw [release_older heq]
        by_cases hnewest : p = older.length
        · subst hnewest
          rw [chain_newest]
          have hwalk := chain_newest n (release older a)
          rw [hlength] at hwalk
          rw [hwalk]
          cases hbehind : n.behind with
          | none => rfl
          | some b => rw [Option.elim_some, Option.elim_some, ih hpop (by simp [hbehind])]
        · have hmem : p ∈ n.behind.toList ++ held.filter (· ≠ older.length) :=
            List.mem_append_right _ (List.mem_filter.mpr ⟨hp, by simpa using hnewest⟩)
          rw [chain_older (hlength a ▸ hnewest), chain_older hnewest, ih hpop hmem]

/-! ## Contexts -/

/-- A walk starts at the node that the pointer points to. -/
theorem head?_chain (hn : h.node? a = some n) : (h.chain a).head? = some n.cause := by
  induction h with
  | nil => cases hn
  | cons entry older ih =>
    by_cases heq : a = older.length
    · subst heq
      simp only [node?, if_true] at hn
      rw [hn, chain_newest]
      rfl
    · simp only [node?, if_neg heq] at hn
      rw [chain_older heq]
      exact ih hn

variable {c : Address}

theorem context_eq (hn : h.node? c = some n) (a : Address) :
    h.context a c = (h.release c).alloc n.contribution (some a) := by
  rw [context, hn]

theorem Balanced.context (hbal : h.Balanced (c :: a :: held)) :
    (h.context a c).2.Balanced ((h.context a c).1 :: held) := by
  obtain ⟨n, hn⟩ := hbal.exists_node List.mem_cons_self
  rw [context_eq hn]
  exact Balanced.alloc n.contribution (some a) (Balanced.release hbal)

/-- The walk from an error with a context starts with what the context contributes, and goes on from
the error as before. -/
theorem chain_context (hbal : h.Balanced (c :: a :: held)) (hn : h.node? c = some n) :
    (h.context a c).2.chain (h.context a c).1 = n.contribution :: h.chain a := by
  rw [context_eq hn]
  have hwalk := chain_newest ⟨n.contribution, some a, 1⟩ (h.release c)
  rw [Option.elim_some, chain_release hbal List.mem_cons_self] at hwalk
  exact hwalk

theorem chain_context_of_mem (hbal : h.Balanced (c :: a :: held)) (hp : p ∈ held) :
    (h.context a c).2.chain p = h.chain p := by
  obtain ⟨n, hn⟩ := hbal.exists_node List.mem_cons_self
  have hlt : p < (h.release c).length := by
    rw [length_release]
    exact hbal.lt_length (List.mem_cons_of_mem _ (List.mem_cons_of_mem _ hp))
  rw [context_eq hn, chain_alloc hlt, chain_release hbal (List.mem_cons_of_mem _ hp)]

end Heap

end Error

end RelMap
