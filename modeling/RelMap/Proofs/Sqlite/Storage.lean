-- SUMMARY: A value that SQLite can store is converted back to itself after it is loaded.
import Mathlib.Data.List.Forall2
import RelMap.Proofs.Coercion
import RelMap.Proofs.Number.Rounding
import RelMap.Proofs.Time.Reading
import RelMap.Sqlite.Storage

/-!
# Values in SQLite

Storing a value takes it to one of a few storage classes, and coercion takes what is loaded
back to the kind of its field. Main statements: a value other than NaN that can be bound comes
back as itself, and only integers beyond 64 bits with a sign cannot be bound.
-/
namespace RelMap

namespace Value

/-- The value is a float that is not a number. -/
def isNaN : Value → Bool
  | .f32 x => x = .nan
  | .f64 x => x = .nan
  | _ => false

/-- The value is an integer that is greater than all integers of 64 bits with a sign. -/
def Oversized : Value → Prop
  | .int n => IntType.i64.max < n.val
  | _ => False

instance (v : Value) : Decidable v.Oversized := by
  cases v <;> unfold Oversized <;> infer_instance

end Value

/-! ## Integers and floats -/

theorem FixedInt.val_ofInt64_ofInt {n : Int} (h : IntType.i64.Holds n) :
    (FixedInt.ofInt64 (.ofInt n)).val = n :=
  Int64.toInt_ofInt_of_le h.1 (Int.lt_of_le_of_lt h.2 (by decide))

theorem FixedInt.holds_i64_iff {n : FixedInt} :
    IntType.i64.Holds n.val ↔ n.val ≤ IntType.i64.max := by
  obtain ⟨t, m, hlow, -⟩ := n
  have hmin : IntType.i64.min ≤ t.min := by cases t <;> decide
  exact ⟨fun h => h.2, fun h => ⟨Int.le_trans hmin hlow, h⟩⟩

namespace Sqlite.Storage

theorem ofReal_of_ne {x : Binary64} (h : x ≠ .nan) : ofReal x = .real x := by
  cases x with
  | nan => exact absurd rfl h
  | signed negative k hk => rfl

end Sqlite.Storage

theorem Binary.widen_ne_nan {x : Binary32} (h : x ≠ .nan) : x.widen ≠ .nan := by
  intro hwiden
  have hnarrow := x.narrow_widen
  rw [hwiden] at hnarrow
  exact h hnarrow.symm

/-! ## One value -/

namespace Sqlite.Storage

variable {k : Kind} {v : Value}

/-- A value that is bound and loaded comes back as itself. -/
theorem coerce_load_of_bind {x : Storage} (hk : k.represents v = true) (hnan : v.isNaN = false)
    (h : bind v = .ok x) : k.coerce x.load = .ok (some v) := by
  cases v with
  | bool b =>
    obtain rfl := beq_iff_eq.mp hk
    cases h
    cases b <;> rfl
  | int n =>
    rw [bind] at h
    split at h
    · next hholds =>
      cases h
      have hread : (load (.integer (.ofInt n.val))).toInt? n.type = some n := by
        simp only [load, Value.toInt?, FixedInt.val_ofInt64_ofInt hholds, FixedInt.ofInt?_val]
      rw [Kind.coerce, Kind.convert?_of_intType? (beq_iff_eq.mp hk), hread]
      rfl
    · cases h
  | f32 x =>
    obtain rfl := beq_iff_eq.mp hk
    cases h
    have hreal := ofReal_of_ne (Binary.widen_ne_nan (of_decide_eq_false hnan))
    have hload : (ofReal x.widen).load = .f64 x.widen := by rw [hreal]; rfl
    rw [hload]
    exact congrArg (fun y => Except.ok (some (Value.f32 y))) x.narrow_widen
  | f64 x =>
    obtain rfl := beq_iff_eq.mp hk
    cases h
    rw [ofReal_of_ne (of_decide_eq_false hnan)]
    rfl
  | string s =>
    obtain rfl := beq_iff_eq.mp hk
    cases h
    rw [load_text_ofText]
    rfl
  | bytes b =>
    obtain rfl := beq_iff_eq.mp hk
    cases h
    rfl
  | timestamp t =>
    obtain rfl := beq_iff_eq.mp hk
    cases h
    rw [load_text_ofText, Kind.coerce, Kind.convert?, Value.toTimestamp?_text]
    rfl
  | list items => cases hk
  | null => cases hk

/-- A value of a kind is bound unless it is too large an integer. -/
theorem bind_of_represents (hk : k.represents v = true) :
    (v.Oversized → bind v = .error .tooLarge) ∧ (¬v.Oversized → ∃ x, bind v = .ok x) := by
  cases v with
  | int n =>
    refine ⟨fun hlarge => if_neg ?_, fun hfits => ⟨_, if_pos ?_⟩⟩
    · rw [FixedInt.holds_i64_iff]
      exact Int.not_le.mpr hlarge
    · exact FixedInt.holds_i64_iff.mpr (Int.not_lt.mp hfits)
  | list items => cases hk
  | null => cases hk
  | _ => exact ⟨False.elim, fun _ => ⟨_, rfl⟩⟩

/-! ## Several values -/

variable {vs : List Value} {xs : List Storage}

theorem bindAll_eq_ok_iff :
    bindAll vs = .ok xs ↔ List.Forall₂ (fun v x => bind v = .ok x) vs xs := by
  induction vs generalizing xs with
  | nil => cases xs <;> simp [bindAll]
  | cons v vs ih =>
    rw [bindAll, List.forall₂_cons_left_iff]
    cases bind v with
    | error e => simp
    | ok x =>
      cases hvs : bindAll vs with
      | error e => simp [← ih, hvs]
      | ok ys =>
        simp only [← ih, hvs, Except.ok.injEq]
        constructor
        · rintro rfl
          exact ⟨x, ys, rfl, rfl, rfl⟩
        · rintro ⟨x', ys', rfl, rfl, rfl⟩
          rfl

theorem exists_bindAll (h : ∀ v ∈ vs, ∃ x, bind v = .ok x) : ∃ xs, bindAll vs = .ok xs := by
  induction vs with
  | nil => exact ⟨[], rfl⟩
  | cons v vs ih =>
    obtain ⟨x, hx⟩ := h v (.head _)
    obtain ⟨xs, hxs⟩ := ih fun w hw => h w (.tail _ hw)
    exact ⟨x :: xs, by rw [bindAll, hx, hxs]⟩

/-- Arguments that can fail in one way only fail in that way, wherever one of them does. -/
theorem bindAll_eq_error {e : BindError} (honly : ∀ v ∈ vs, ∀ e', bind v = .error e' → e' = e)
    (hfails : ∃ v ∈ vs, bind v = .error e) : bindAll vs = .error e := by
  induction vs with
  | nil => obtain ⟨v, hv, -⟩ := hfails; cases hv
  | cons v vs ih =>
    rw [bindAll]
    cases hbind : bind v with
    | error e' =>
      obtain rfl := honly v (.head _) e' hbind
      rfl
    | ok x =>
      have hrest : bindAll vs = .error e := by
        refine ih (fun w hw => honly w (.tail _ hw)) ?_
        obtain ⟨w, hw, hfail⟩ := hfails
        rcases List.mem_cons.mp hw with rfl | hw
        · rw [hbind] at hfail; cases hfail
        · exact ⟨w, hw, hfail⟩
      simp only [hrest]

theorem bindAll_append_of_error {e : BindError} (h : bindAll vs = .error e) (ws : List Value) :
    bindAll (vs ++ ws) = .error e := by
  induction vs with
  | nil => cases h
  | cons v vs ih =>
    rw [bindAll] at h
    rw [List.cons_append, bindAll]
    cases hbind : bind v with
    | error e' => rw [hbind] at h; exact h
    | ok x =>
      rw [hbind] at h
      cases hvs : bindAll vs with
      | error e' =>
        rw [hvs] at h
        cases h
        simp only [ih hvs]
      | ok xs => rw [hvs] at h; cases h

end Sqlite.Storage

end RelMap
