-- SUMMARY: What a registry holds after registrations.
import Mathlib.Data.Finset.Card
import RelMap.Session

/-!
# Registrations

`Registry.enter` carries out registrations one after the other. Main statements: of each type the
registry holds the schema of the latest registration, and it counts the types, not the
registrations.
-/
namespace RelMap

/-! ## Registrations that succeed -/

namespace Registration

/-- A registration fails before it changes anything, or enters the schema. -/
theorem run_program (r : Registration) (m : Memory) :
    (r.isBlank = true ∧ r.program.run m = (.error (.invalidArgument
        ("table name for \x60" ++ r.model.name ++ "\x60 must not be empty")), m)) ∨
      r.isBlank = false ∧ r.program.run m =
        (.ok (), { m with registry := m.registry.insert r.model.id r.schema }) := by
  cases hblank : r.isBlank with
  | true =>
    refine .inl ⟨rfl, ?_⟩
    simp only [program, hblank, if_true]
    rfl
  | false =>
    refine .inr ⟨rfl, ?_⟩
    simp only [program, hblank, Bool.false_eq_true, if_false]
    rfl

end Registration

namespace Registry

variable {registry : Registry} {id : TypeId} {s : Schema}

/-! ## One registration -/

/-- The registered types. -/
def types (registry : Registry) : List TypeId := registry.map (·.1)

theorem types_insert : (registry.insert id s).types =
    if id ∈ registry.types then registry.types else registry.types ++ [id] := by
  induction registry with
  | nil => rfl
  | cons entry rest ih =>
    obtain ⟨i, t⟩ := entry
    by_cases hi : i = id
    · subst hi
      simp [insert, types]
    · have hcons : (insert id s ((i, t) :: rest)).types = i :: (insert id s rest).types := by
        simp [insert, types, hi]
      rw [hcons, ih]
      by_cases hmem : id ∈ types rest <;> simp_all [types, Ne.symm hi]

theorem nodup_types_insert (h : registry.types.Nodup) : (registry.insert id s).types.Nodup := by
  rw [types_insert]
  split
  · exact h
  · next hmem => simpa using h.concat hmem

theorem toFinset_types_insert : (registry.insert id s).types.toFinset =
    {id} ∪ registry.types.toFinset := by
  rw [types_insert]
  split
  · next hmem => simp [hmem]
  · simp [Finset.union_comm]

/-- Entering a schema that is there already changes nothing. -/
theorem insert_of_get? (h : registry.get? id = some s) : registry.insert id s = registry := by
  induction registry with
  | nil => cases h
  | cons entry rest ih =>
    obtain ⟨i, t⟩ := entry
    by_cases hi : i = id
    · subst hi
      simp [get?] at h
      simp [insert, h]
    · have hne : (id == i) = false := beq_eq_false_iff_ne.mpr (Ne.symm hi)
      simp only [get?, List.lookup_cons, hne] at h
      simp only [insert, hi, if_false, ih h]

/-! ## Registrations one after the other -/

/-- The registry after registrations. -/
def enter (registry : Registry) (rs : List Registration) : Registry :=
  rs.foldl (fun registry r => registry.insert r.model.id r.schema) registry

variable {rs : List Registration}

@[simp] theorem enter_nil : registry.enter [] = registry := rfl

@[simp] theorem enter_cons {r : Registration} :
    registry.enter (r :: rs) = (registry.insert r.model.id r.schema).enter rs := rfl

theorem enter_append {rs' : List Registration} :
    registry.enter (rs ++ rs') = (registry.enter rs).enter rs' := List.foldl_append

/-- Registrations of other types leave an entry as it is. -/
theorem get?_enter_of_ne (h : ∀ r ∈ rs, r.model.id ≠ id) :
    (registry.enter rs).get? id = registry.get? id := by
  induction rs generalizing registry with
  | nil => rfl
  | cons r rs ih =>
    obtain ⟨hr, hrs⟩ := List.forall_mem_cons.mp h
    rw [enter_cons, ih hrs, get?_insert_of_ne registry r.schema hr.symm]

/-- The latest registration of a type counts. -/
theorem get?_enter_latest {before after : List Registration} {r : Registration}
    (h : ∀ r' ∈ after, r'.model.id ≠ r.model.id) :
    (registry.enter (before ++ r :: after)).get? r.model.id = some r.schema := by
  rw [enter_append, enter_cons, get?_enter_of_ne h, get?_insert_self]

/-- Each type has one entry. -/
theorem nodup_types_enter (h : registry.types.Nodup) : (registry.enter rs).types.Nodup := by
  induction rs generalizing registry with
  | nil => exact h
  | cons r rs ih => exact ih (nodup_types_insert h)

theorem toFinset_types_enter : (registry.enter rs).types.toFinset =
    registry.types.toFinset ∪ (rs.map (·.model.id)).toFinset := by
  induction rs generalizing registry with
  | nil => simp
  | cons r rs ih =>
    rw [enter_cons, ih, toFinset_types_insert, List.map_cons, List.toFinset_cons,
      Finset.insert_eq]
    ac_rfl

/-- A registry counts the types that were registered. -/
theorem size_enter : (enter [] rs).size = (rs.map (·.model.id)).toFinset.card := by
  have hiodup : (types []).Nodup := List.nodup_nil
  calc (enter [] rs).size
    _ = (enter [] rs).types.length := (List.length_map _).symm
    _ = (enter [] rs).types.toFinset.card :=
      (List.toFinset_card_of_nodup (nodup_types_enter hiodup)).symm
    _ = (rs.map (·.model.id)).toFinset.card := by
      rw [toFinset_types_enter]
      simp [types]

end Registry

end RelMap
