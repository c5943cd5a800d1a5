-- SUMMARY: A save writes every stored field of a record, an update those that are set.
import RelMap.Proofs.Defaults
import RelMap.Proofs.Handle.Discipline
import RelMap.Proofs.Records
import RelMap.Proofs.Sql.Texts

/-!
# Updates and saves

A save writes all stored columns to matching rows, an update those whose fields differ from the
default of their type. Main statement: each makes one request for an UPDATE of its columns, or
none where it has none, and the two are one where all stored fields are set.
-/
namespace RelMap

/-! ## Fields that are set -/

namespace Descriptor

variable {d : Descriptor} {r : Record}

/-- Whether a field of a record equals the default of its type. -/
def isUnset (d : Descriptor) (r : Record) : Bool :=
  match Kind.Native.ofValue? d.kind (d.get r), Kind.Native.default? d.kind with
  | some x, some z => x.equals z
  | _, _ => false

/-- A field is unset if it shows as a zero. -/
theorem isUnset_eq (h : d.kind.represents (d.get r) = true) :
    d.isUnset r = (d.get r).isZero := by
  obtain ⟨x, hx⟩ := Kind.represents_iff.mp h
  obtain ⟨z, hz⟩ := Kind.Native.exists_default x
  rw [isUnset, hx, Kind.Native.ofValue?_toValue, hz, Kind.Native.isZero_toValue hz]

end Descriptor

namespace Schema

variable {s : Schema} {r : Record}

/-- Assignments of the fields of a record to their columns. -/
def assigned (ds : List Descriptor) (r : Record) : Assignments :=
  ds.map fun d => (d.column, d.get r)

theorem assignments_eq (s : Schema) (r : Record) : s.assignments r = assigned s.stored r := rfl

/-- The assignments that are not of zeros are those of fields that are set. -/
theorem filter_assignments
    (hkinds : ∀ d ∈ s.descriptors, d.kind.represents (d.get r) = true) :
    ((s.assignments r).filter fun (_, v) => !v.isZero) =
      assigned (s.stored.filter (!·.isUnset r)) r := by
  rw [assignments_eq, assigned, assigned, List.filter_map]
  refine congrArg _ (List.filter_congr fun d hd => ?_)
  rw [Descriptor.isUnset_eq (hkinds d (mem_stored.mp hd).1)]
  rfl

end Schema

/-! ## Writing -/

namespace Operation

variable {op : Operation} {h : Handle} {s : Schema}

/-- An operation that assigns to matching rows has an UPDATE for its statement. -/
theorem statement_eq_update {filter : Filter} {assignments : Assignments}
    (hfilter : op.filter? = some filter) (hassigned : op.assignments? h s = some assignments) :
    op.affects = true ∧
      op.statement h s = h.dialect.update s.table assignments filter (s.lookup h.record) := by
  cases op with
  | update _ | save _ => cases hfilter; cases hassigned; exact ⟨rfl, rfl⟩
  | _ => cases hassigned

end Operation

/-- An operation writes the fields of descriptors to the rows that match a filter. Without any
it does nothing. Otherwise it fails as the filter does on its own, or makes one request: an
UPDATE of their columns, with the values of the fields before the arguments of the filter. -/
structure Handle.Writes (h : Handle) (s : Schema) (filter : Filter) (op : Operation)
    (chosen : List Descriptor) : Prop where
  idle : chosen = [] → ∀ server registry past,
    h.perform server op registry past = (.ok (.affected 0), ⟨registry, h.record, past⟩)
  malformed : chosen ≠ [] → ∀ e, h.dialect.compile filter (s.lookup h.record) = .error e →
    ∀ server registry past,
      h.perform server op registry past = (.error e, ⟨registry, h.record, past⟩)
  written : chosen ≠ [] → ∀ own, h.dialect.compile filter (s.lookup h.record) = .ok own →
    ∃ statement : Statement,
      statement.sql = h.dialect.updateText s.table (chosen.map (·.column)) ++
        h.dialect.tailText filter (s.lookup h.record) chosen.length ∧
      statement.args = chosen.map (·.get h.record) ++ own.args ∧
      ∀ server registry past, h.perform server op registry past =
        ((server.exec past statement).map fun reply => .affected reply.rowsAffected,
          ⟨registry, h.record, past ++ [.exec statement]⟩)

namespace Handle

variable {h : Handle} {s : Schema} {op : Operation} {filter : Filter} {chosen : List Descriptor}

/-- What an operation assigns is what it writes. -/
theorem writes_of_assignments (hschema : h.schema = .ok s) (hfilter : op.filter? = some filter)
    (hchosen : op.assignments? h s = some (Schema.assigned chosen h.record)) :
    h.Writes s filter op chosen := by
  obtain ⟨haffects, hstatement⟩ := Operation.statement_eq_update hfilter hchosen
  have hassigned (hne : chosen ≠ []) : Schema.assigned chosen h.record ≠ [] := by
    simpa [Schema.assigned] using hne
  have hsome (hne : chosen ≠ []) : op.assignments? h s ≠ some [] := by
    rw [hchosen]
    exact fun heq => hassigned hne (Option.some.inj heq)
  constructor
  case idle =>
    rintro rfl server registry past
    exact Operation.perform_of_done h registry
      (Operation.Unready.idle hschema hchosen).plan_eq
  case malformed =>
    intro hne e hown server registry past
    have hfails := hstatement.trans (Dialect.update_of_compile_error (hassigned hne) hown)
    exact Operation.perform_of_done h registry
      (Operation.plan_of_statement_error hschema (hsome hne) hfails)
  case written =>
    intro hne own hown
    have hwrites := hstatement.trans (Dialect.update_of_compile (hassigned hne) hown)
    have hplan := Operation.plan_of_affects hschema haffects (hsome hne)
    rw [hwrites] at hplan
    refine ⟨_, ?_, ?_, fun server registry past =>
      Operation.perform_of_affect h registry hplan⟩
    · simp [Schema.assigned, Function.comp_def]
    · simp [Schema.assigned, Function.comp_def]

/-- A record whose fields were never set has nothing for an update to write. -/
theorem update_of_initial {table : String} {fields : List FieldDef}
    (hschema : h.schema = .ok (.ofFields table fields)) (hnumbered : FieldDef.Numbered fields)
    (hrecord : h.record = .initial fields) (server : Server) (registry : Registry)
    (past : List Ask) :
    h.perform server (.update filter) registry past =
      (.ok (.affected 0), ⟨registry, h.record, past⟩) := by
  have hkinds : ∀ d ∈ (Schema.ofFields table fields).descriptors,
      d.kind.represents (d.get h.record) = true := fun d hd =>
    (Schema.represents_get hnumbered (hrecord ▸ Record.fits_initial fields) hd).2
  have hunset : (Schema.ofFields table fields).stored.filter (!·.isUnset h.record) = [] := by
    refine List.filter_eq_nil_iff.mpr fun d hd => ?_
    have hmapped := (Schema.mem_stored.mp hd).1
    rw [Descriptor.isUnset_eq (hkinds d hmapped), hrecord, Schema.get_initial hnumbered hmapped,
      Kind.isZero_default]
    simp
  have hwrites : h.Writes (.ofFields table fields) filter (.update filter) _ :=
    writes_of_assignments hschema rfl (congrArg some (Schema.filter_assignments hkinds))
  exact hwrites.idle hunset server registry past

/-- A save writes all stored columns of a model, an update those whose fields are set, each in
the order of the fields and with their current values. No generated column is among them. Where
all stored fields are set, the two are one. -/
theorem save_and_update {table : String} {fields : List FieldDef} (hs : s = .ofFields table fields)
    (hschema : h.schema = .ok s) (hnumbered : FieldDef.Numbered fields)
    (hfits : h.record.Fits fields) (filter : Filter) :
    h.Writes s filter (.save filter) s.stored ∧
      h.Writes s filter (.update filter) (s.stored.filter (!·.isUnset h.record)) ∧
      (∀ d ∈ s.stored, d.isAutoIncrement = false) ∧
      (s.columns.Nodup → ∀ d ∈ s.descriptors, d.isAutoIncrement = true →
        d.column ∉ s.stored.map (·.column)) ∧
      ((∀ d ∈ s.stored, d.isUnset h.record = false) → ∀ server registry past,
        h.perform server (.update filter) registry past =
          h.perform server (.save filter) registry past) := by
  have hkinds : ∀ d ∈ s.descriptors, d.kind.represents (d.get h.record) = true := by
    subst hs
    exact fun d hd => (Schema.represents_get hnumbered hfits hd).2
  have hchanged := Schema.filter_assignments hkinds
  refine ⟨writes_of_assignments hschema rfl rfl,
    writes_of_assignments hschema rfl (congrArg some hchanged),
    fun d hd => (Schema.mem_stored.mp hd).2,
    fun hcolumns d hd => Schema.column_not_mem_stored hcolumns hd,
    fun hset server registry past => ?_⟩
  have hall : s.stored.filter (!·.isUnset h.record) = s.stored :=
    List.filter_eq_self.mpr fun d hd => by rw [hset d hd]; rfl
  rw [hall, ← Schema.assignments_eq] at hchanged
  simp only [Handle.perform, Operation.program, Operation.writeProgram, Program.run_bind,
    Program.run_ofResult, hschema, Program.run_get, hchanged, id]

/-- The fields of a rating, whose number the database generates. -/
def ratingFields : List FieldDef :=
  [⟨0, "id", some "id", some "autoIncrement", .int .i64, true⟩,
    ⟨1, "score", some "score", none, .f64, true⟩, ⟨2, "mean", some "mean", none, .f64, true⟩,
    ⟨3, "seen", some "seen", none, .timestamp, true⟩]

/-- A rating with a score and a mean that was seen at an instant. -/
def rating (score mean : Binary64) (seen : Timestamp) : Handle :=
  ⟨.postgresql, ⟨"Rating", ratingFields⟩, .ok (.ofFields "ratings" ratingFields),
    [.int (.zero .i64), .f64 score, .f64 mean, .timestamp seen]⟩

theorem numbered_ratingFields : FieldDef.Numbered ratingFields := rfl

theorem fits_rating (score mean : Binary64) (seen : Timestamp) :
    (rating score mean seen).record.Fits ratingFields :=
  .cons (fun _ => rfl) (.cons (fun _ => rfl) (.cons (fun _ => rfl) (.cons (fun _ => rfl) .nil)))

theorem save_and_update_rating :
    let filter : Filter := .condition (.compare .eq "id" (.int (.ofInt64 7)))
    let reply : ExecReply := ⟨1, none⟩
    let server : Server := .ofExecutor fun _ => ⟨fun _ => .ok reply, fun _ => .ok []⟩
    let zero : Binary64 := .signed true 0 (Nat.zero_le _)
    (∃ statement : Statement,
        statement.sql = "UPDATE \"ratings\" SET \"mean\" = $1 WHERE id = $2" ∧
        statement.args = [.f64 .nan, .int (.ofInt64 7)] ∧
        (rating zero .nan .epoch).perform server (.update filter) [] [] =
          (.ok (.affected 1), ⟨[], (rating zero .nan .epoch).record, [.exec statement]⟩)) ∧
      (∃ statement : Statement,
        statement.sql =
          "UPDATE \"ratings\" SET \"score\" = $1, \"mean\" = $2, \"seen\" = $3 WHERE id = $4" ∧
        statement.args =
          [.f64 zero, .f64 .nan, .timestamp .epoch, .int (.ofInt64 7)] ∧
        (rating zero .nan .epoch).perform server (.save filter) [] [] =
          (.ok (.affected 1), ⟨[], (rating zero .nan .epoch).record, [.exec statement]⟩)) ∧
      (rating zero zero .epoch).perform server (.update filter) [] [] =
        (.ok (.affected 0), ⟨[], (rating zero zero .epoch).record, []⟩) := by
  intro filter reply server zero
  have hsome := save_and_update (h := rating zero .nan .epoch) rfl rfl numbered_ratingFields
    (fits_rating zero .nan .epoch) filter
  have hnone := save_and_update (h := rating zero zero .epoch) rfl rfl numbered_ratingFields
    (fits_rating zero zero .epoch) filter
  have hown : Dialect.postgresql.compile filter
      ((Schema.ofFields "ratings" ratingFields).lookup (rating zero .nan .epoch).record) =
        .ok ⟨"id = $1", [.int (.ofInt64 7)]⟩ := rfl
  obtain ⟨hsave, hupdate, -⟩ := hsome
  refine ⟨?_, ?_, hnone.2.1.idle rfl server [] []⟩
  · obtain ⟨statement, hsql, hargs, hperform⟩ := hupdate.written (by decide) _ hown
    exact ⟨statement, hsql.trans (by decide +kernel), hargs, hperform server [] []⟩
  · obtain ⟨statement, hsql, hargs, hperform⟩ := hsave.written (by decide) _ hown
    exact ⟨statement, hsql.trans (by decide +kernel), hargs, hperform server [] []⟩

end Handle

end RelMap
