-- SUMMARY: Creating a record inserts its stored columns and changes the generated field alone.
import RelMap.Proofs.Handle.Overlay
import RelMap.Proofs.Handle.Programs
import RelMap.Proofs.Records
import RelMap.Proofs.Sql.Texts

/-!
# Creating records

An INSERT leaves the generated columns to the database, and the first of them takes the id that
the server reports. Main statement: the INSERT has the stored columns of the record, the record
changes in that one field if at all, and not where the operation fails.
-/
namespace RelMap

/-! ## Reported ids -/

/-- The id that a server reports for an INSERT: the first value of the row that the statement
yields, or the id of the last insert. -/
def Server.reportedId (server : Server) (past : List Ask) (statement : Statement)
    (yields : Bool) : Result (Option Value) :=
  if yields then (server.queryRow past statement).map fun row => row.map (·.cell 0)
  else (server.exec past statement).map fun reply => reply.lastInsertId.map .int

/-- The request for an INSERT, which yields a row or not. -/
def Ask.insert (statement : Statement) (yields : Bool) : Ask :=
  if yields then .queryRow statement else .exec statement

namespace Handle

variable {h : Handle} {s : Schema}

/-- What is left of creating a record once the id is reported. -/
def storeReported (h : Handle) (s : Schema) : Result (Option Value) → Outcome Unit
  | .error e => ⟨.error e, h.record⟩
  | .ok id => h.storeId s id

/-- Creating a record makes the one request for its INSERT and stores the reported id. -/
theorem perform_create_eq (hschema : h.schema = .ok s) (server : Server) (registry : Registry)
    (past : List Ask) :
    h.perform server .create registry past =
      let yields := (h.returning? s).isSome
      let outcome := h.storeReported s (server.reportedId past (h.insertStatement s) yields)
      (outcome.result.map fun _ => .done,
        ⟨registry, outcome.record, past ++ [.insert (h.insertStatement s) yields]⟩) := by
  simp only [Handle.perform, Operation.program, Operation.createProgram, Program.run_bind,
    Program.run_ofResult, hschema, Operation.run_current, Server.reportedId, Ask.insert]
  cases h.returning? s with
  | none =>
    simp only [Option.isSome_none, Bool.false_eq_true, if_false, Program.run_bind, Program.exec,
      Program.run_ask]
    cases server.exec past (h.insertStatement s) with
    | error e => rfl
    | ok reply =>
      simp only [Operation.run_storeId, Program.run_pure, Except.map, storeReported]
      cases (h.storeId s (reply.lastInsertId.map .int)).result <;> rfl
  | some column =>
    simp only [Option.isSome_some, if_true, Program.run_bind, Program.queryRow, Program.run_ask]
    cases server.queryRow past (h.insertStatement s) with
    | error e => rfl
    | ok row =>
      simp only [Operation.run_storeId, Program.run_pure, Except.map, storeReported, Row.take_fst]
      cases (h.storeId s (row.map (·.cell 0))).result <;> rfl

/-- The INSERT of a record. -/
theorem insertStatement_eq (h : Handle) (s : Schema) :
    h.insertStatement s =
      ⟨h.dialect.insertText s.table (s.stored.map (·.column)) (h.returning? s),
        s.stored.map (·.get h.record)⟩ := by
  rw [insertStatement, Dialect.insert_eq]
  simp [Schema.assignments, Schema.stored, Function.comp_def]

/-! ## Storing a generated id -/

theorem storeReported_plain (hplain : s.autoIncrement? = none) (id : Option Value) :
    h.storeReported s (.ok id) = ⟨.ok (), h.record⟩ := by
  simp only [storeReported, storeId, hplain]

theorem storeReported_absent : h.storeReported s (.ok none) = ⟨.ok (), h.record⟩ := by
  simp only [storeReported, storeId]
  cases s.autoIncrement? <;> rfl

/-- The first generated field takes an id as its kind coerces it. -/
theorem storeReported_some {d : Descriptor} (hd : s.autoIncrement? = some d) (v : Value) :
    h.storeReported s (.ok (some v)) =
      match d.kind.coerce v with
      | .error e => ⟨.error e, h.record⟩
      | .ok none => ⟨.ok (), h.record⟩
      | .ok (some w) => ⟨.ok (), h.record.set d.index w⟩ := by
  simp only [storeReported, storeId, hd, Descriptor.set_eq]
  rcases d.kind.coerce v with e | _ | w <;> rfl

/-- The record is kept, or the first generated field is set and that is a success. -/
theorem storeReported_cases (h : Handle) (s : Schema) (reported : Result (Option Value)) :
    (h.storeReported s reported).record = h.record ∨
      ∃ d w, s.autoIncrement? = some d ∧
        h.storeReported s reported = ⟨.ok (), h.record.set d.index w⟩ := by
  rcases reported with e | _ | v
  · exact .inl rfl
  · exact .inl (by rw [storeReported_absent])
  · cases hd : s.autoIncrement? with
    | none => exact .inl (by rw [storeReported_plain hd])
    | some d =>
      rw [storeReported_some hd]
      rcases d.kind.coerce v with e | _ | w
      · exact .inl rfl
      · exact .inl rfl
      · exact .inr ⟨d, w, rfl, rfl⟩

/-- What a creation answers and leaves as the record, from what the server reports. -/
structure Created (h : Handle) (s : Schema) (reported : Result (Option Value))
    (answer : Result Answer) (record : Record) : Prop where
  /-- The error of the server is passed on. -/
  refused : ∀ e, reported = .error e → answer = .error e
  /-- A creation that fails changes nothing. -/
  failed : ∀ e, answer = .error e → record = h.record
  /-- Only the first generated field can change. -/
  others : ∀ j, (∀ d, s.autoIncrement? = some d → d.index ≠ j) → record[j]? = h.record[j]?
  /-- Without a generated field a reply is all that is wanted. -/
  plain : s.autoIncrement? = none → ∀ id, reported = .ok id → answer = .ok .done
  /-- Where no id is reported, or null, the field stays as it is. -/
  absent : reported = .ok none ∨ reported = .ok (some .null) →
    answer = .ok .done ∧ record = h.record
  /-- The field becomes what the id is coerced to. -/
  stored : ∀ d v w, s.autoIncrement? = some d → reported = .ok (some v) →
    d.kind.coerce v = .ok (some w) → answer = .ok .done ∧ d.get record = w
  /-- An id that cannot be coerced is refused. -/
  unfit : ∀ d v e, s.autoIncrement? = some d → reported = .ok (some v) →
    d.kind.coerce v = .error e → answer = .error e

/-- The record changes as the kind of the first generated field takes the reported id. -/
theorem created_storeReported
    (hindex : ∀ d, s.autoIncrement? = some d → d.index < h.record.length)
    (reported : Result (Option Value)) :
    h.Created s reported ((h.storeReported s reported).result.map fun _ => .done)
      (h.storeReported s reported).record := by
  have hcases := h.storeReported_cases s reported
  constructor
  case refused => rintro e rfl; rfl
  case failed =>
    intro e he
    rcases hcases with hkept | ⟨d, w, -, hset⟩
    · exact hkept
    · rw [hset] at he
      cases he
  case others =>
    intro j hj
    rcases hcases with hkept | ⟨d, w, hd, hset⟩
    · rw [hkept]
    · rw [hset]
      exact List.getElem?_set_ne (hj d hd)
  case plain =>
    rintro hplain id rfl
    rw [storeReported_plain hplain]
    rfl
  case absent =>
    rintro (rfl | rfl)
    · rw [storeReported_absent]
      exact ⟨rfl, rfl⟩
    · cases hd : s.autoIncrement? with
      | none =>
        rw [storeReported_plain hd]
        exact ⟨rfl, rfl⟩
      | some d =>
        rw [storeReported_some hd, Kind.coerce_eq_ok_none_iff.mpr rfl]
        exact ⟨rfl, rfl⟩
  case stored =>
    rintro d v w hd rfl hw
    rw [storeReported_some hd, hw]
    exact ⟨rfl, by simp [Descriptor.get, hindex d hd]⟩
  case unfit =>
    rintro d v e hd rfl he
    rw [storeReported_some hd, he]
    rfl

/-! ## Creating -/

/-- A creation that fails leaves the record as it was. -/
theorem record_of_create_error {server : Server} {registry : Registry} {past : List Ask}
    {e : Error} (he : (h.perform server .create registry past).1 = .error e) :
    (h.perform server .create registry past).2.record = h.record := by
  cases hschema : h.schema with
  | error e' =>
    simp only [Handle.perform, Operation.program, Operation.createProgram, Program.run_bind,
      Program.run_ofResult, hschema]
  | ok s =>
    rw [perform_create_eq hschema] at he ⊢
    rcases h.storeReported_cases s (server.reportedId past (h.insertStatement s)
      (h.returning? s).isSome) with hkept | ⟨d, w, -, hset⟩
    · exact hkept
    · dsimp only at he
      rw [hset] at he
      cases he

/-- Creating a record of a model makes one request, for an INSERT of its stored columns in the
order of the fields, with the values of the fields as arguments. It yields the first generated
column where the dialect is that of PostgreSQL and there is one. What the server reports changes
the first generated field alone. A creation that fails leaves every record as it was. -/
theorem create_changes_generated_only (h : Handle) (server : Server) (registry : Registry)
    (past : List Ask) :
    (∀ e, (h.perform server .create registry past).1 = .error e →
        (h.perform server .create registry past).2.record = h.record) ∧
      ∀ (s : Schema) (table : String) (fields : List FieldDef), s = .ofFields table fields →
        h.schema = .ok s → FieldDef.Numbered fields → h.record.Fits fields →
        let yielded :=
          if h.dialect = .postgresql then s.autoIncrement?.map (·.column) else none
        let statement : Statement :=
          ⟨h.dialect.insertText s.table (s.stored.map (·.column)) yielded,
            s.stored.map (·.get h.record)⟩
        ∃ answer record, h.perform server .create registry past =
            (answer, ⟨registry, record, past ++ [.insert statement yielded.isSome]⟩) ∧
          h.Created s (server.reportedId past statement yielded.isSome) answer record := by
  refine ⟨fun e => record_of_create_error, ?_⟩
  rintro s table fields hs hschema hnumbered hfits
  have hindex : ∀ d, s.autoIncrement? = some d → d.index < h.record.length := by
    subst hs
    exact fun d hd =>
      (Schema.represents_get hnumbered hfits (List.mem_of_find?_eq_some hd)).1
  have hperform := perform_create_eq hschema server registry past
  rw [insertStatement_eq] at hperform
  exact ⟨_, _, hperform, created_storeReported hindex _⟩

/-- The fields of a ticket, whose number and batch the database generates. -/
def ticketFields : List FieldDef :=
  [⟨0, "holder", some "holder", none, .string, true⟩,
    ⟨1, "number", some "number", some "autoIncrement", .int .i8, true⟩,
    ⟨2, "batch", some "batch", some "autoIncrement", .int .i64, true⟩]

/-- A ticket that is not numbered yet. -/
def ticket (d : Dialect) : Handle :=
  ⟨d, ⟨"Ticket", ticketFields⟩, .ok (.ofFields "tickets" ticketFields),
    [.string "ann", .int (.zero .i8), .int (.zero .i64)]⟩

theorem numbered_ticketFields : FieldDef.Numbered ticketFields := rfl

theorem fits_ticket (d : Dialect) : (ticket d).record.Fits ticketFields :=
  .cons (fun _ => rfl) (.cons (fun _ => rfl) (.cons (fun _ => rfl) .nil))

theorem create_changes_generated_only_ticket :
    let reported (n : Int64) : Value := .int (.ofInt64 n)
    let server (n : Int64) : Server := .ofExecutor fun _ =>
      ⟨fun _ => .ok ⟨1, some (.ofInt64 n)⟩, fun _ => .ok [.ok ⟨[reported n]⟩]⟩
    (∃ (statement : Statement) (record : Record),
        statement.sql = "INSERT INTO \"tickets\" (\"holder\") VALUES ($1) RETURNING \"number\"" ∧
        statement.args = [.string "ann"] ∧
        (ticket .postgresql).perform (server 7) .create [] [] =
          (.ok .done, ⟨[], record, [.queryRow statement]⟩) ∧
        record[0]? = some (.string "ann") ∧ record.getD 1 .null = .ofInt .i8 7 (by decide) ∧
        record[2]? = some (.int (.zero .i64))) ∧
      (∃ (statement : Statement) (e : Error),
        statement.sql = "INSERT INTO \"tickets\" (\"holder\") VALUES (?)" ∧
        statement.args = [.string "ann"] ∧
        (ticket .sqlite).perform (server 300) .create [] [] =
          (.error e, ⟨[], (ticket .sqlite).record, [.exec statement]⟩)) := by
  intro reported server
  constructor
  · obtain ⟨answer, record, hperform, hcreated⟩ :=
      ((ticket .postgresql).create_changes_generated_only (server 7) [] []).2 _ "tickets"
        ticketFields rfl rfl numbered_ticketFields (fits_ticket .postgresql)
    obtain ⟨rfl, hnumber⟩ := hcreated.stored _ (reported 7) (.ofInt .i8 7 (by decide)) rfl rfl rfl
    have hkept (j : Nat) (hj : 1 ≠ j) : record[j]? = (ticket .postgresql).record[j]? :=
      hcreated.others j fun d hd => by cases hd; exact hj
    exact ⟨_, record, by decide +kernel, rfl, hperform, hkept 0 (by decide), hnumber,
      hkept 2 (by decide)⟩
  · obtain ⟨answer, record, hperform, hcreated⟩ :=
      ((ticket .sqlite).create_changes_generated_only (server 300) [] []).2 _ "tickets"
        ticketFields rfl rfl numbered_ticketFields (fits_ticket .sqlite)
    obtain rfl := hcreated.unfit _ (reported 300) _ rfl rfl rfl
    obtain rfl := hcreated.failed _ rfl
    exact ⟨_, _, by decide +kernel, rfl, hperform⟩

end Handle

end RelMap
