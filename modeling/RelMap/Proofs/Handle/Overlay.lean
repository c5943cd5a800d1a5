-- SUMMARY: A find and a find of all rows lay the same values over a record.
import Mathlib.Data.List.Forall2
import RelMap.Proofs.Handle.Find

/-!
# Rows over records

`Schema.overlay` is a record with the columns of one row written over its mapped fields. `find`
converts all columns and then writes them, `findAll` converts and writes them one by one. Main
statement: both give the overlay of a row, or its error.
-/
namespace RelMap

/-! ## Overlays -/

namespace Row

/-- The value of a column; a column that is not in the row is null. -/
def cell (row : Row) (i : Nat) : Value := (row.get? i).getD .null

theorem take_fst (row : Row) (i : Nat) : (row.take i).1 = row.cell i :=
  List.getD_eq_getElem?_getD

/-- Taking the value of one column leaves the others. -/
theorem cell_take_of_ne (row : Row) {i j : Nat} (h : i ≠ j) :
    (row.take i).2.cell j = row.cell j := by
  simp [cell, get?, take, List.getElem?_set_ne h]

/-- The columns from `i` on are those of another row. -/
def AgreesFrom (row : Row) (i : Nat) (row' : Row) : Prop := ∀ j, i ≤ j → row.cell j = row'.cell j

theorem agreesFrom_self (row : Row) {i : Nat} : row.AgreesFrom i row := fun _ _ => rfl

theorem AgreesFrom.take {i : Nat} {row row' : Row} (h : row.AgreesFrom i row') :
    (row.take i).2.AgreesFrom (i + 1) row' := by
  intro j hj
  rw [row.cell_take_of_ne (Nat.ne_of_lt hj)]
  exact h j (Nat.le_of_succ_le hj)

end Row

namespace Descriptor

/-- The record with the field replaced by the value of column `i`, in the representation of
the field's kind; null leaves the field as it is. -/
def overlay (d : Descriptor) (row : Row) (i : Nat) (r : Record) : Result Record :=
  match d.kind.coerce (row.cell i) with
  | .error e => .error e
  | .ok none => .ok r
  | .ok (some w) => .ok (r.set d.index w)

/-- A field is set to what a value is coerced to; null leaves it as it is. -/
theorem set_eq (d : Descriptor) (r : Record) (v : Value) :
    d.set r v =
      match d.kind.coerce v with
      | .error e => .error e
      | .ok none => .ok r
      | .ok (some w) => .ok (r.set d.index w) := by
  by_cases hnull : v.isNull = true
  · rw [set, if_pos hnull, Kind.coerce_eq_ok_none_iff.mpr hnull]
  · rw [set, if_neg hnull, Kind.load]
    cases hcoerce : d.kind.coerce v with
    | error e => rfl
    | ok w =>
      cases w with
      | none => exact absurd (Kind.coerce_eq_ok_none_iff.mp hcoerce) hnull
      | some w => simp only [Kind.represents_of_coerce hcoerce, if_true]

/-- Setting a field to the value of a column overlays that column. -/
theorem set_cell (d : Descriptor) (row : Row) (i : Nat) (r : Record) :
    d.set r (row.cell i) = d.overlay row i r :=
  d.set_eq r (row.cell i)

end Descriptor

namespace Schema

/-- The record with the fields of descriptors replaced by the values of the columns from `i`
on, up to the first column that cannot be converted. -/
def overlayFrom (row : Row) (ds : List Descriptor) (i : Nat) (r : Record) : Result Record :=
  (ds.zipIdx i).foldlM (fun r (d, i) => d.overlay row i r) r

/-- The record with each mapped field replaced by the value of its column. -/
def overlay (s : Schema) (r : Record) (row : Row) : Result Record :=
  overlayFrom row s.descriptors 0 r

variable {row row' : Row} {d : Descriptor} {ds : List Descriptor} {i : Nat} {r : Record}

@[simp] theorem overlayFrom_nil : overlayFrom row [] i r = .ok r := rfl

@[simp] theorem overlayFrom_cons :
    overlayFrom row (d :: ds) i r = (d.overlay row i r).bind (overlayFrom row ds (i + 1)) := rfl

/-! ## The two ways to load a row -/

theorem fill_cons : fill (d :: ds) i row r =
    (d.set r (row.take i).1).bind (fill ds (i + 1) (row.take i).2) := by
  rcases htake : row.take i with ⟨v, rest⟩
  simp only [fill, htake]
  cases d.set r v <;> rfl

theorem convertRow_eq : convertRow (d :: ds) i row =
    (d.kind.coerce (row.take i).1).bind fun w =>
      (convertRow ds (i + 1) (row.take i).2).map (w :: ·) := by
  rcases htake : row.take i with ⟨v, rest⟩
  simp only [convertRow, htake]
  cases d.kind.coerce v with
  | error e => rfl
  | ok w =>
    cases convertRow ds (i + 1) rest <;> rfl

/-- Writing the columns one by one overlays them, whatever was taken from the row before. -/
theorem fill_eq_overlayFrom (hrow : row'.AgreesFrom i row) :
    fill ds i row' r = overlayFrom row ds i r := by
  induction ds generalizing i row' r with
  | nil => rfl
  | cons d ds ih =>
    rw [fill_cons, overlayFrom_cons, Row.take_fst, hrow i (Nat.le_refl i), Descriptor.set_cell]
    cases d.overlay row i r with
    | error e => rfl
    | ok r => exact ih hrow.take

/-- Converting all columns before any is written overlays them as well. -/
theorem overlayFrom_eq_convertRow (hrow : row'.AgreesFrom i row) :
    overlayFrom row ds i r =
      (convertRow ds i row').map fun values => (writeAll (ds.zip values) r).record := by
  induction ds generalizing i row' r with
  | nil => rfl
  | cons d ds ih =>
    rw [overlayFrom_cons, Descriptor.overlay, convertRow_eq, Row.take_fst, hrow i (Nat.le_refl i)]
    cases hcoerce : d.kind.coerce (row.cell i) with
    | error e => rfl
    | ok w =>
      cases w with
      | none =>
        simp only [Except.bind, ih hrow.take]
        cases convertRow ds (i + 1) (row'.take i).2 <;> rfl
      | some w =>
        have hset := Descriptor.set_of_represents (Kind.represents_of_coerce hcoerce) r
        simp only [Except.bind, ih hrow.take]
        cases convertRow ds (i + 1) (row'.take i).2 with
        | error e => rfl
        | ok values => simp only [Except.map, List.zip_cons_cons, writeAll, hset]

theorem overlay_eq_error_iff {s : Schema} {e : Error} :
    s.overlay r row = .error e ↔ convertRow s.descriptors 0 row = .error e := by
  rw [overlay, overlayFrom_eq_convertRow row.agreesFrom_self]
  cases convertRow s.descriptors 0 row <;> simp [Except.map]

/-! ## The fields of an overlay -/

theorem overlayFrom_cons_eq_ok {r' : Record} (h : overlayFrom row (d :: ds) i r = .ok r') :
    ∃ w r₁, d.kind.coerce (row.cell i) = .ok w ∧ r₁ = (w.map (r.set d.index)).getD r ∧
      overlayFrom row ds (i + 1) r₁ = .ok r' := by
  rw [overlayFrom_cons, Descriptor.overlay] at h
  cases hcoerce : d.kind.coerce (row.cell i) with
  | error e => rw [hcoerce] at h; cases h
  | ok w =>
    rw [hcoerce] at h
    cases w with
    | none => exact ⟨none, r, rfl, rfl, h⟩
    | some w => exact ⟨some w, _, rfl, rfl, h⟩

/-- A field that no descriptor stands for is kept. -/
theorem getElem?_overlayFrom_of_not_mem {r' : Record} {j : Nat}
    (h : overlayFrom row ds i r = .ok r') (hj : ∀ d ∈ ds, d.index ≠ j) : r'[j]? = r[j]? := by
  induction ds generalizing i r with
  | nil => cases h; rfl
  | cons d ds ih =>
    obtain ⟨w, r₁, -, rfl, hrest⟩ := overlayFrom_cons_eq_ok h
    rw [ih hrest fun d' hd' => hj d' (.tail _ hd')]
    cases w with
    | none => rfl
    | some w => exact List.getElem?_set_ne (hj d (.head _))

/-- Where every descriptor has a field of its own, that field takes the value of its column. -/
theorem get_overlayFrom {r' : Record} (h : overlayFrom row ds i r = .ok r')
    (hown : ds.Pairwise fun d d' => d.index ≠ d'.index) (hlt : ∀ d ∈ ds, d.index < r.length) :
    ∀ p ∈ ds.zipIdx i, ∃ w, p.1.kind.coerce (row.cell p.2) = .ok w ∧
      p.1.get r' = w.getD (p.1.get r) := by
  induction ds generalizing i r with
  | nil => intro p hp; cases hp
  | cons d ds ih =>
    obtain ⟨w, r₁, hcoerce, rfl, hrest⟩ := overlayFrom_cons_eq_ok h
    obtain ⟨hd, hown⟩ := List.pairwise_cons.mp hown
    have hlength : ((w.map (r.set d.index)).getD r).length = r.length := by cases w <;> simp
    intro p hp
    rcases List.mem_cons.mp hp with rfl | hp
    · refine ⟨w, hcoerce, ?_⟩
      have hkept := getElem?_overlayFrom_of_not_mem hrest fun d' hd' => (hd d' hd').symm
      rw [Descriptor.get, List.getD_eq_getElem?_getD, hkept]
      cases w with
      | none => exact List.getD_eq_getElem?_getD.symm
      | some w => simp [hlt d (.head _)]
    · obtain ⟨w', hw', hget⟩ := ih hrest hown (fun d' hd' => by
        rw [hlength]; exact hlt d' (.tail _ hd')) p hp
      refine ⟨w', hw', ?_⟩
      have hne : d.index ≠ p.1.index := hd p.1 (List.fst_mem_of_mem_zipIdx hp)
      rw [hget]
      cases w with
      | none => rfl
      | some w =>
        simp [Descriptor.get, List.getD_eq_getElem?_getD, List.getElem?_set_ne hne]

theorem exists_overlayFrom (h : ∀ p ∈ ds.zipIdx i, ∃ w, p.1.kind.coerce (row.cell p.2) = .ok w) :
    ∃ r', overlayFrom row ds i r = .ok r' := by
  induction ds generalizing i r with
  | nil => exact ⟨r, rfl⟩
  | cons d ds ih =>
    obtain ⟨w, hw⟩ := h (d, i) (.head _)
    rw [overlayFrom_cons, Descriptor.overlay, hw]
    cases w with
    | none => exact ih fun p hp => h p (.tail _ hp)
    | some w => exact ih fun p hp => h p (.tail _ hp)

/-! ## All rows -/

/-- A row that was fetched, laid over a blank record. -/
def overlayFetched (s : Schema) (blank : Record) (row : Result Row) : Result Record :=
  row.bind (s.overlay blank)

/-- Whether a row can be loaded does not depend on the record. -/
theorem overlayFetched_eq_error_congr {s : Schema} {r r' : Record} {row : Result Row}
    {e : Error} : s.overlayFetched r row = .error e ↔ s.overlayFetched r' row = .error e := by
  cases row with
  | error e' => exact Iff.rfl
  | ok row => exact overlay_eq_error_iff.trans overlay_eq_error_iff.symm

theorem records_cons {s : Schema} {blank : Record} {row : Result Row} {rows : Rows} :
    s.records blank (row :: rows) =
      (s.overlayFetched blank row).bind fun r => (s.records blank rows).map (r :: ·) := by
  cases row with
  | error e => rfl
  | ok row =>
    rw [records, fill_eq_overlayFrom row.agreesFrom_self]
    change _ = (overlayFrom row s.descriptors 0 blank).bind _
    cases overlayFrom row s.descriptors 0 blank with
    | error e => rfl
    | ok r => cases s.records blank rows <;> rfl

/-- The records of rows are the overlays of the rows, in order. -/
theorem records_eq_ok_iff {s : Schema} {blank : Record} {rows : Rows} {rs : List Record} :
    s.records blank rows = .ok rs ↔
      List.Forall₂ (fun row r => s.overlayFetched blank row = .ok r) rows rs := by
  induction rows generalizing rs with
  | nil => cases rs <;> simp [records]
  | cons row rows ih =>
    rw [records_cons, List.forall₂_cons_left_iff]
    cases hrow : s.overlayFetched blank row with
    | error e => simp [Except.bind]
    | ok r =>
      cases hrows : s.records blank rows with
      | error e => simp [Except.bind, Except.map, ← ih, hrows]
      | ok rs' =>
        simp only [Except.bind, Except.map, ← ih, hrows, Except.ok.injEq]
        constructor
        · rintro rfl
          exact ⟨r, rs', rfl, rfl, rfl⟩
        · rintro ⟨r', rs'', hr, rfl, rfl⟩
          cases hr
          rfl

/-- The error of rows is that of the first row that cannot be loaded. -/
theorem records_eq_error_iff {s : Schema} {blank : Record} {rows : Rows} {e : Error} :
    s.records blank rows = .error e ↔
      ∃ before row after, rows = before ++ row :: after ∧
        (∀ row' ∈ before, ∃ r, s.overlayFetched blank row' = .ok r) ∧
        s.overlayFetched blank row = .error e := by
  induction rows with
  | nil => simp [records]
  | cons row rows ih =>
    rw [records_cons]
    cases hrow : s.overlayFetched blank row with
    | error e' =>
      constructor
      · rintro ⟨⟩
        exact ⟨[], row, rows, rfl, by simp, hrow⟩
      · rintro ⟨before, row', after, heq, hbefore, hrow'⟩
        cases before with
        | nil => cases heq; rw [hrow] at hrow'; cases hrow'; rfl
        | cons first before =>
          cases heq
          obtain ⟨r, hr⟩ := hbefore row (.head _)
          rw [hrow] at hr
          cases hr
    | ok r =>
      have hmap : (Except.ok r : Result Record).bind
          (fun r => (s.records blank rows).map (r :: ·)) = .error e ↔
            s.records blank rows = .error e := by
        cases s.records blank rows <;> simp [Except.bind, Except.map]
      rw [hmap, ih]
      constructor
      · rintro ⟨before, row', after, rfl, hbefore, hrow'⟩
        exact ⟨row :: before, row', after, rfl, List.forall_mem_cons.mpr ⟨⟨r, hrow⟩, hbefore⟩,
          hrow'⟩
      · rintro ⟨before, row', after, heq, hbefore, hrow'⟩
        cases before with
        | nil => cases heq; rw [hrow] at hrow'; cases hrow'
        | cons first before =>
          cases heq
          exact ⟨before, row', after, rfl, fun x hx => hbefore x (.tail _ hx), hrow'⟩

end Schema

/-! ## Finding one and finding all -/

/-- The outcome of an operation that replaces a record or leaves it as it was. -/
def Outcome.settle (old : Record) : Result Record → Outcome Unit
  | .ok r => ⟨.ok (), r⟩
  | .error e => ⟨.error e, old⟩

/-- An executor whose queries yield rows. -/
def Executor.yielding (rows : Rows) : Executor where
  exec _ := .ok ⟨0, none⟩
  query _ := .ok rows

theorem Outcome.result_settle_eq_error_iff {old : Record} {x : Result Record} {e : Error} :
    (Outcome.settle old x).result = .error e ↔ x = .error e := by
  cases x <;> simp [settle]

namespace Handle

variable {h : Handle} {filter : Filter} {executor : Executor} {s : Schema} {statement : Statement}
  {rows : Rows}

theorem run_findAll_eq (hschema : h.schema = .ok s)
    (hselect : h.selectStatement s filter = .ok statement)
    (hquery : executor.query statement = .ok rows) :
    (h.findAll filter).run executor = s.records h.model.fresh rows := by
  simp only [findAll, hschema, hselect, Plan.run, hquery]

theorem run_find_nil (hschema : h.schema = .ok s)
    (hselect : h.selectStatement s filter = .ok statement)
    (hquery : executor.query statement = .ok []) :
    (h.find filter).run executor =
      ⟨.error (.recordNotFound ("table=" ++ s.table)), h.record⟩ := by
  simp only [find, hschema, hselect, Plan.run, hquery, Rows.first]

theorem run_find_cons {row : Result Row} (hschema : h.schema = .ok s)
    (hselect : h.selectStatement s filter = .ok statement)
    (hquery : executor.query statement = .ok (row :: rows)) :
    (h.find filter).run executor = .settle h.record (s.overlayFetched h.record row) := by
  simp only [find, hschema, hselect, Plan.run, hquery]
  cases row with
  | error e => rfl
  | ok row =>
    change _ = Outcome.settle h.record (Schema.overlayFrom row s.descriptors 0 h.record)
    rw [Schema.overlayFrom_eq_convertRow row.agreesFrom_self]
    cases hvalues : Schema.convertRow s.descriptors 0 row with
    | error e => simp only [Rows.first, hvalues]; rfl
    | ok values =>
      have hok := Schema.writeAll_ok (fun _ _ => Schema.represents_of_convertRow hvalues) h.record
      simp only [Rows.first, hvalues, Except.map, Outcome.settle, ← hok]

/-- Finding one record and finding all of them load rows in the same way. All rows give their
overlays on new instances of the type, whatever these start from, in order, or the error of the
first that cannot be loaded. One record gives its overlay by the first row, or stays as it was,
with the error that all rows would give if that row were the only one. -/
theorem find_agrees_findAll (hschema : h.schema = .ok s)
    (hselect : h.selectStatement s filter = .ok statement)
    (hquery : executor.query statement = .ok rows) :
    (∀ records, (h.findAll filter).run executor = .ok records ↔
        List.Forall₂ (fun row r => s.overlayFetched h.model.fresh row = .ok r)
          rows records) ∧
      (∀ e, (h.findAll filter).run executor = .error e ↔
        ∃ before row after, rows = before ++ row :: after ∧
          (∀ row' ∈ before, ∃ r, s.overlayFetched h.model.fresh row' = .ok r) ∧
          s.overlayFetched h.model.fresh row = .error e) ∧
      (rows = [] → (h.find filter).run executor =
        ⟨.error (.recordNotFound ("table=" ++ s.table)), h.record⟩) ∧
      ∀ first rest, rows = first :: rest →
        (h.find filter).run executor = .settle h.record (s.overlayFetched h.record first) ∧
          ∀ alone : Executor, alone.query statement = .ok [first] → ∀ e,
            ((h.find filter).run executor).result = .error e ↔
              (h.findAll filter).run alone = .error e := by
  have hall := run_findAll_eq hschema hselect hquery
  refine ⟨fun records => ?_, fun e => ?_, fun hnil => ?_, fun first rest hcons => ?_⟩
  · rw [hall]
    exact Schema.records_eq_ok_iff
  · rw [hall]
    exact Schema.records_eq_error_iff
  · subst hnil
    exact run_find_nil hschema hselect hquery
  · subst hcons
    have hfind := run_find_cons hschema hselect hquery
    refine ⟨hfind, fun alone halone e => ?_⟩
    rw [hfind, run_findAll_eq hschema hselect halone, Schema.records_cons]
    calc (Outcome.settle h.record (s.overlayFetched h.record first)).result = .error e
      _ ↔ s.overlayFetched h.record first = .error e := Outcome.result_settle_eq_error_iff
      _ ↔ s.overlayFetched h.model.fresh first = .error e :=
        Schema.overlayFetched_eq_error_congr
      _ ↔ _ := by
        cases s.overlayFetched h.model.fresh first <;>
          simp [Except.bind, Except.map, Schema.records]

/-- A user of a type whose instances start at an age of eighteen. -/
def adultUser : Handle :=
  { namedUser with
    model := { namedUser.model with start := ⟨[.string "", .ofInt .u8 18 (by decide)]⟩ } }

/-- Of three rows the second is short and the third has an age out of range. -/
def userRows : Rows :=
  [.ok ⟨[.string "ann", .int (.ofInt64 30), .null]⟩, .ok ⟨[.string "bo"]⟩,
    .ok ⟨[.string "cy", .int (.ofInt64 300)]⟩]

theorem find_agrees_findAll_userRows :
    adultUser.schema = .ok (.ofFields "users" userFields) ∧
      (∃ statement, adultUser.selectStatement (.ofFields "users" userFields) .none =
        .ok statement) ∧
      (adultUser.find .none).run (.yielding userRows) =
        ⟨.ok (), [.string "ann", .ofInt .u8 30 (by decide)]⟩ ∧
      (adultUser.findAll .none).run (.yielding (userRows.take 2)) =
        .ok [[.string "ann", .ofInt .u8 30 (by decide)],
          [.string "bo", .ofInt .u8 18 (by decide)]] ∧
      (adultUser.findAll .none).run (.yielding userRows) =
        .error ((Kind.int .u8).mismatch (.int (.ofInt64 300))) ∧
      (adultUser.find .none).run (.yielding []) =
        ⟨.error (.recordNotFound "table=users"), adultUser.record⟩ := by
  have hselect : adultUser.selectStatement (.ofFields "users" userFields) .none =
      .ok (Dialect.sqlite.assemble (Dialect.sqlite.selectHead "users" ["name", "age"])) := rfl
  have hyields (rows : Rows) : (Executor.yielding rows).query (Dialect.sqlite.assemble
      (Dialect.sqlite.selectHead "users" ["name", "age"])) = .ok rows := rfl
  have hall := find_agrees_findAll rfl hselect (hyields userRows)
  have hfront := find_agrees_findAll rfl hselect (hyields (userRows.take 2))
  have hnone := find_agrees_findAll rfl hselect (hyields [])
  refine ⟨rfl, ⟨_, hselect⟩, ?_, ?_, ?_, hnone.2.2.1 rfl⟩
  · exact (hall.2.2.2 _ _ rfl).1
  · exact (hfront.1 _).mpr (.cons rfl (.cons rfl .nil))
  · refine (hall.2.1 _).mpr ⟨userRows.take 2, _, [], rfl, ?_, rfl⟩
    intro row hrow
    rcases List.mem_pair.mp hrow with rfl | rfl
    · exact ⟨_, rfl⟩
    · exact ⟨_, rfl⟩

end Handle

end RelMap
