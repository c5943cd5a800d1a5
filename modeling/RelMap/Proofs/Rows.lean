-- SUMMARY: A row hands each of its values out once, in whichever order it is read.
import Mathlib.Data.List.Induction
import RelMap.Executor

/-!
# Rows that are read

A row is read by taking values out of it, by looking at them, and by asking for its size.
`Row.without` is the row with null in place of every value that some accesses take. Main
statement: that row is what any accesses leave, so the first take of a column gives its value
and every later one null.
-/
namespace RelMap.Row

/-- One reading of a row. -/
inductive Access where
  | take (i : Nat)
  | get (i : Nat)
  | size
  deriving DecidableEq

/-- What a reading of a row gives. -/
inductive Reply where
  | taken (v : Value)
  /-- The value that was looked at, if its column is in the row. -/
  | found (v? : Option Value)
  | counted (n : Nat)

/-- The reply to an access, and the row after it. -/
def access (row : Row) : Access → Reply × Row
  | .take i => let (v, row) := row.take i; (.taken v, row)
  | .get i => (.found (row.get? i), row)
  | .size => (.counted row.size, row)

/-- The row after accesses. -/
def after (row : Row) (steps : List Access) : Row :=
  steps.foldl (fun row a => (row.access a).2) row

/-- The replies to accesses, each made on the row that the ones before it left. -/
def replies : Row → List Access → List Reply
  | _, [] => []
  | row, a :: steps => (row.access a).1 :: (row.access a).2.replies steps

/-- The row with null in place of every value that accesses take. -/
def without (row : Row) (steps : List Access) : Row :=
  ⟨row.values.mapIdx fun i v => if .take i ∈ steps then .null else v⟩

variable {row : Row} {steps : List Access} {a : Access} {i k : Nat}

/-! ## One access -/

theorem eq_of_getElem? {row row' : Row} (h : ∀ i : Nat, row.values[i]? = row'.values[i]?) :
    row = row' :=
  congrArg Row.mk (List.ext_getElem? h)

theorem getElem?_without (row : Row) (steps : List Access) (i : Nat) :
    (row.without steps).values[i]? =
      row.values[i]?.map fun v => if .take i ∈ steps then .null else v :=
  List.getElem?_mapIdx

theorem length_without (row : Row) (steps : List Access) :
    (row.without steps).values.length = row.values.length :=
  List.length_mapIdx

theorem without_nil (row : Row) : row.without [] = row := by
  apply eq_of_getElem?
  intro i
  rw [getElem?_without]
  simp

theorem without_congr {steps' : List Access} (h : ∀ i, .take i ∈ steps ↔ .take i ∈ steps') :
    row.without steps = row.without steps' := by
  apply eq_of_getElem?
  intro i
  simp only [getElem?_without, h i]

/-- Taking a value leaves null in its column. There is nothing to leave in a column that is
not in the row. -/
theorem take_without (row : Row) (steps : List Access) (i : Nat) :
    ((row.without steps).take i).2 = row.without (steps ++ [.take i]) := by
  apply eq_of_getElem?
  intro j
  have hset : ((row.without steps).take i).2.values = (row.without steps).values.set i .null := rfl
  rw [hset, List.getElem?_set, getElem?_without, getElem?_without, length_without]
  by_cases hij : i = j
  · subst hij
    rw [if_pos rfl]
    have htaken : Access.take i ∈ steps ++ [.take i] := List.mem_append_right _ (.head _)
    simp only [htaken, if_true]
    by_cases hi : i < row.values.length
    · rw [if_pos hi, List.getElem?_eq_getElem hi, Option.map_some]
    · rw [if_neg hi, List.getElem?_eq_none (Nat.le_of_not_lt hi), Option.map_none]
  · have hother : Access.take j ∈ steps ++ [.take i] ↔ .take j ∈ steps := by
      simp [Ne.symm hij]
    simp only [if_neg hij, hother]

/-- An access leaves the row without what the accesses before it took, and without what it takes
itself. -/
theorem access_without (row : Row) (steps : List Access) (a : Access) :
    ((row.without steps).access a).2 = row.without (steps ++ [a]) := by
  cases a with
  | take i => exact row.take_without steps i
  | get i => exact without_congr fun j => by simp
  | size => exact without_congr fun j => by simp

theorem reply_take (row : Row) (i : Nat) :
    (row.access (.take i)).1 = .taken (row.values[i]?.getD .null) :=
  congrArg Reply.taken List.getD_eq_getElem?_getD

theorem reply_get (row : Row) (i : Nat) : (row.access (.get i)).1 = .found row.values[i]? := rfl

theorem reply_size (row : Row) : (row.access .size).1 = .counted row.values.length := rfl

/-! ## Runs of accesses -/

theorem after_append_singleton (row : Row) (steps : List Access) (a : Access) :
    row.after (steps ++ [a]) = ((row.after steps).access a).2 :=
  List.foldl_append

/-- Whatever a row is read for, only what was taken is missing. -/
theorem after_eq_without (row : Row) (steps : List Access) :
    row.after steps = row.without steps := by
  induction steps using List.reverseRecOn with
  | nil => exact row.without_nil.symm
  | append_singleton steps a ih =>
    rw [after_append_singleton, ih, access_without]

theorem length_replies (row : Row) (steps : List Access) :
    (row.replies steps).length = steps.length := by
  induction steps generalizing row with
  | nil => rfl
  | cons a steps ih => exact congrArg (· + 1) (ih (row.access a).2)

/-- An access sees the row that the accesses before it left. -/
theorem getElem?_replies (row : Row) (steps : List Access) (k : Nat) :
    (row.replies steps)[k]? = steps[k]?.map fun a => ((row.after (steps.take k)).access a).1 := by
  induction steps generalizing row k with
  | nil => rfl
  | cons a steps ih =>
    cases k with
    | zero => rfl
    | succ k => exact ih (row.access a).2 k

theorem reply_eq (h : steps[k]? = some a) :
    (row.replies steps)[k]? = some ((row.without (steps.take k)).access a).1 := by
  rw [getElem?_replies, h, after_eq_without]
  rfl

/-- Every reply of a run of accesses, and the row that is left. The first take of a column in the
row gives its value and every later one null; looking at a column finds its value, or null once it
was taken. A column that is not in the row is taken as null and not found. -/
theorem values_handed_out_once (row : Row) (steps : List Access) :
    (row.replies steps).length = steps.length ∧
      (∀ (k i : Nat) v, row.values[i]? = some v →
        (steps[k]? = some (.take i) → (row.replies steps)[k]? =
          some (.taken (if .take i ∈ steps.take k then .null else v))) ∧
        (steps[k]? = some (.get i) → (row.replies steps)[k]? =
          some (.found (some (if .take i ∈ steps.take k then .null else v))))) ∧
      (∀ k i : Nat, row.values.length ≤ i →
        (steps[k]? = some (.take i) → (row.replies steps)[k]? = some (.taken .null)) ∧
        (steps[k]? = some (.get i) → (row.replies steps)[k]? = some (.found none))) ∧
      (∀ k : Nat, steps[k]? = some .size →
        (row.replies steps)[k]? = some (.counted row.values.length)) ∧
      (row.after steps).values.length = row.values.length ∧
      (row.after steps).values =
        row.values.mapIdx fun i v => if .take i ∈ steps then .null else v := by
  refine ⟨row.length_replies steps, fun k i v hv => ⟨fun h => ?_, fun h => ?_⟩,
    fun k i hi => ⟨fun h => ?_, fun h => ?_⟩, fun k h => ?_, ?_, ?_⟩
  · rw [reply_eq h, reply_take, getElem?_without, hv]
    rfl
  · rw [reply_eq h, reply_get, getElem?_without, hv]
    rfl
  · rw [reply_eq h, reply_take, getElem?_without, List.getElem?_eq_none hi]
    rfl
  · rw [reply_eq h, reply_get, getElem?_without, List.getElem?_eq_none hi]
    rfl
  · rw [reply_eq h, reply_size, length_without]
  · rw [after_eq_without, length_without]
  · rw [after_eq_without, without]

/-- A column is looked at, taken twice and looked at again, and so is one behind the row. -/
theorem values_handed_out_once_pair :
    let row : Row := ⟨[.string "ann", .bool true]⟩
    let steps : List Access :=
      [.get 1, .take 1, .size, .take 1, .get 1, .take 2, .get 2]
    (row.replies steps)[0]? = some (.found (some (.bool true))) ∧
      (row.replies steps)[1]? = some (.taken (.bool true)) ∧
      (row.replies steps)[2]? = some (.counted 2) ∧
      (row.replies steps)[3]? = some (.taken .null) ∧
      (row.replies steps)[4]? = some (.found (some .null)) ∧
      (row.replies steps)[5]? = some (.taken .null) ∧
      (row.replies steps)[6]? = some (.found none) ∧
      (row.after steps).values = [.string "ann", .null] := by
  intro row steps
  obtain ⟨-, hinside, houtside, hsize, -, hleft⟩ := values_handed_out_once row steps
  have hcolumn : row.values[1]? = some (.bool true) := rfl
  have hbehind : row.values.length ≤ 2 := Nat.le_refl 2
  exact ⟨(hinside 0 1 _ hcolumn).2 rfl, (hinside 1 1 _ hcolumn).1 rfl, hsize 2 rfl,
    (hinside 3 1 _ hcolumn).1 rfl, (hinside 4 1 _ hcolumn).2 rfl, (houtside 5 2 hbehind).1 rfl,
    (houtside 6 2 hbehind).2 rfl, hleft⟩

end RelMap.Row
