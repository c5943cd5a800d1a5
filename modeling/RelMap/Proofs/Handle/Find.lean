-- SUMMARY: A find writes all columns of a row, or none.
import RelMap.Handle
import RelMap.Proofs.Coercion

/-!
# Loading a record

`find` converts the columns of a row before it writes any of them, and what was converted can
always be written. Main statement: a find that fails has written nothing.
-/
namespace RelMap

namespace Descriptor

/-- A value of the variant of the field's kind can be written into any record. -/
theorem set_of_represents {d : Descriptor} {v : Value} (h : d.kind.represents v = true)
    (r : Record) : d.set r v = .ok (r.set d.index v) := by
  simp only [set, Kind.isNull_of_represents h, Kind.load_of_represents h]
  rfl

end Descriptor

namespace Schema

theorem convertRow_cons {d : Descriptor} {ds : List Descriptor} {i : Nat} {row : Row}
    {values : List (Option Value)} (h : convertRow (d :: ds) i row = .ok values) :
    ∃ w ws, values = w :: ws ∧ d.kind.coerce (row.take i).1 = .ok w ∧
      convertRow ds (i + 1) (row.take i).2 = .ok ws := by
  simp only [convertRow] at h
  split at h
  · cases h
  · next w hw =>
    split at h
    · cases h
    · next ws hws =>
      cases h
      exact ⟨w, ws, rfl, hw, hws⟩

/-- Each value that a row is converted to is of the variant of its field's kind. -/
theorem represents_of_convertRow {ds : List Descriptor} {i : Nat} {row : Row}
    {values : List (Option Value)} (h : convertRow ds i row = .ok values) {d : Descriptor}
    {v : Value} (mem : (d, some v) ∈ ds.zip values) : d.kind.represents v = true := by
  induction ds generalizing i row values with
  | nil => cases mem
  | cons d' ds ih =>
    obtain ⟨w, ws, rfl, hw, hws⟩ := convertRow_cons h
    rw [List.zip_cons_cons] at mem
    rcases List.mem_cons.mp mem with heq | mem
    · cases heq
      exact Kind.represents_of_coerce hw
    · exact ih hws mem

/-- Values of the variants of their fields' kinds are all written. -/
theorem writeAll_ok {pairs : List (Descriptor × Option Value)}
    (h : ∀ d v, (d, some v) ∈ pairs → d.kind.represents v = true) (r : Record) :
    (writeAll pairs r).result = .ok () := by
  induction pairs generalizing r with
  | nil => rfl
  | cons pair pairs ih =>
    have hrest := ih fun d v mem => h d v (List.mem_cons_of_mem pair mem)
    obtain ⟨d, w⟩ := pair
    cases w with
    | none => exact hrest r
    | some v =>
      have hd := h d v List.mem_cons_self
      rw [writeAll, Descriptor.set_of_represents hd]
      exact hrest _

end Schema

/-- An executor whose queries yield one row. -/
def Executor.replying (row : Row) : Executor where
  exec _ := .ok ⟨0, none⟩
  query _ := .ok [.ok row]

namespace Handle

/-- The row that the executor answers a find with. -/
structure Finds (h : Handle) (filter : Filter) (executor : Executor) (s : Schema) (row : Row) :
    Prop where
  schema : h.schema = .ok s
  reply : ∃ statement rows, h.selectStatement s filter = .ok statement ∧
    executor.query statement = .ok rows ∧ rows.first = .ok (some row)

/-- A find fails before it writes, or writes the converted columns of the row. -/
theorem run_find (h : Handle) (filter : Filter) (executor : Executor) :
    (∃ e, (h.find filter).run executor = ⟨.error e, h.record⟩) ∨
      ∃ s row values, h.Finds filter executor s row ∧
        Schema.convertRow s.descriptors 0 row = .ok values ∧
        (h.find filter).run executor = Schema.writeAll (s.descriptors.zip values) h.record := by
  unfold find
  cases hschema : h.schema with
  | error e => exact .inl ⟨e, rfl⟩
  | ok s =>
    cases hselect : h.selectStatement s filter with
    | error e => exact .inl ⟨e, by simp [hselect, Plan.run]⟩
    | ok statement =>
      simp only [hselect, Plan.run]
      split
      · exact .inl ⟨_, rfl⟩
      · next rows hrows =>
        split
        · exact .inl ⟨_, rfl⟩
        · exact .inl ⟨_, rfl⟩
        · next row hrow =>
          split
          · exact .inl ⟨_, rfl⟩
          · next values hvalues =>
            have hfinds : h.Finds filter executor s row :=
              ⟨hschema, statement, rows, hselect, hrows, hrow⟩
            exact .inr ⟨s, row, values, hfinds, hvalues, rfl⟩

/-- A find is all or nothing: one that fails leaves the record as it was, one that succeeds
has written every column of the row. Once all columns are converted, each of them can be
written, into any record. -/
theorem find_atomic (h : Handle) (filter : Filter) (executor : Executor) :
    (∀ e, ((h.find filter).run executor).result = .error e →
        ((h.find filter).run executor).record = h.record) ∧
      (((h.find filter).run executor).result = .ok () →
        ∃ s row values, h.Finds filter executor s row ∧
          Schema.convertRow s.descriptors 0 row = .ok values ∧
          (h.find filter).run executor = Schema.writeAll (s.descriptors.zip values) h.record) ∧
      ∀ (s : Schema) row values, Schema.convertRow s.descriptors 0 row = .ok values →
        ∀ d v, (d, some v) ∈ s.descriptors.zip values → ∀ r, ∃ r', d.set r v = .ok r' := by
  refine ⟨fun e he => ?_, fun hok => ?_, fun s row values hvalues d v mem r => ?_⟩
  · rcases h.run_find filter executor with ⟨e', hrun⟩ | ⟨s, row, values, _, hvalues, hrun⟩
    · rw [hrun]
    · have hok := Schema.writeAll_ok (fun _ _ => Schema.represents_of_convertRow hvalues) h.record
      rw [hrun, hok] at he
      cases he
  · rcases h.run_find filter executor with ⟨e', hrun⟩ | hfound
    · rw [hrun] at hok
      cases hok
    · exact hfound
  · have hd := Schema.represents_of_convertRow hvalues mem
    exact ⟨r.set d.index v, Descriptor.set_of_represents hd r⟩

/-- The fields of a user. -/
def userFields : List FieldDef :=
  [⟨0, "name", some "name", none, .string, true⟩, ⟨1, "age", some "age", none, .int .u8, true⟩]

/-- A user to be read from a table. -/
def namedUser : Handle :=
  ⟨.sqlite, ⟨"User", userFields⟩, .ok (.ofFields "users" userFields),
    [.string "before", .int (.zero .u8)]⟩

theorem find_atomic_namedUser :
    let old : Executor := .replying ⟨[.string "ann", .int (.ofInt64 300)]⟩
    let young : Row := ⟨[.string "ann", .int (.ofInt64 30), .null]⟩
    (∃ e, ((namedUser.find .none).run old).result = .error e ∧
        ((namedUser.find .none).run old).record = namedUser.record) ∧
      (((namedUser.find .none).run (.replying young)).result = .ok () ∧
        ∃ s row values, namedUser.Finds .none (.replying young) s row ∧
          Schema.convertRow s.descriptors 0 row = .ok values ∧
          (namedUser.find .none).run (.replying young) =
            Schema.writeAll (s.descriptors.zip values) namedUser.record) ∧
      ∃ (s : Schema) (values : List (Option Value)), namedUser.schema = .ok s ∧
        Schema.convertRow s.descriptors 0 young = .ok values ∧
        ∀ d v, (d, some v) ∈ s.descriptors.zip values → ∀ r, ∃ r', d.set r v = .ok r' := by
  intro old young
  refine ⟨?_, ?_, ?_⟩
  · have he : ((namedUser.find .none).run old).result =
        .error ((Kind.int .u8).mismatch (.int (.ofInt64 300))) := rfl
    exact ⟨_, he, (find_atomic namedUser .none old).1 _ he⟩
  · have hok : ((namedUser.find .none).run (.replying young)).result = .ok () := rfl
    exact ⟨hok, (find_atomic namedUser .none (.replying young)).2.1 hok⟩
  · refine ⟨_, _, rfl, rfl, ?_⟩
    exact (find_atomic namedUser .none old).2.2 _ young _ rfl

end Handle

end RelMap
