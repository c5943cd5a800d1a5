-- SUMMARY: Handles keep the schemas that they were bound with.
import RelMap.Proofs.Handle.Discipline
import RelMap.Proofs.Registrations

/-!
# Snapshots of the registry

`Session.StepsTo` says what an event can come to, and `db_run` and `binds_run` what events leave
behind: the registry holds what the registrations that succeeded have entered, and handles stay
bound as they were. Main statement: a handle works with the schema that its type had when it was
loaded, for its whole life.
-/
namespace RelMap

/-- What a handle was bound with. -/
structure Handle.Binds (h : Handle) (dialect : Dialect) (m : ModelType) (schema : Result Schema) :
    Prop where
  dialect : h.dialect = dialect
  model : h.model = m
  schema : h.schema = schema

/-- An operation leaves the registry as it is. -/
theorem Handle.registry_perform (server : Server) (h : Handle) (op : Operation)
    (registry : Registry) (past : List Ask) :
    (h.perform server op registry past).2.registry = registry := by
  obtain ⟨executor, hreplies⟩ := op.exists_repliesAs server past
  rw [Operation.perform_eq h registry hreplies]
  rfl

namespace Session

variable {server : Server} {s : Session}

/-! ## One event -/

/-- A registration fails and changes nothing, or enters the schema. -/
theorem register_cases (s : Session) (r : Registration) :
    (r.isBlank = true ∧ s.register r = (.error (.invalidArgument
        ("table name for \x60" ++ r.model.name ++ "\x60 must not be empty")), s)) ∨
      r.isBlank = false ∧ s.register r =
        (.ok (), { s with db := { s.db with registry := s.db.registry.enter [r] } }) := by
  rcases r.run_program ⟨s.db.registry, [], s.asked⟩ with ⟨hblank, hrun⟩ | ⟨hblank, hrun⟩
  · exact .inl ⟨hblank, by simp only [register, hrun]⟩
  · exact .inr ⟨hblank, by simp only [register, hrun]; rfl⟩

/-- What can come of an event, with the session after it. -/
inductive StepsTo (s : Session) : Reply × Session → Prop where
  /-- A registration that fails. -/
  | refused {r : Registration} {e : Error} : StepsTo s (.registered r (.error e), s)
  | entered {r : Registration} (named : r.isBlank = false) :
    StepsTo s (.registered r (.ok ()),
      { s with db := { s.db with registry := s.db.registry.enter [r] } })
  | loaded {m : ModelType} {record : Record} :
    StepsTo s (.loaded, { s with handles := s.handles ++ [s.db.load m record] })
  | answered {i : Nat} {h : Handle} {answer : Result Answer} {record : Record} {asked : List Ask}
      (handle : s.handles[i]? = some h) :
    StepsTo s (.answered answer,
      { s with asked, handles := s.handles.set i { h with record } })
  | noHandle : StepsTo s (.noHandle, s)

theorem stepsTo_register (s : Session) (r : Registration) :
    s.StepsTo (.registered r (s.register r).1, (s.register r).2) := by
  rcases s.register_cases r with ⟨-, hr⟩ | ⟨named, hr⟩
  · rw [hr]
    exact .refused
  · rw [hr]
    exact .entered named

theorem stepsTo_step (s : Session) (e : Event) : s.StepsTo (s.step server e) := by
  cases e with
  | register m table => exact s.stepsTo_register _
  | enroll m table => exact s.stepsTo_register _
  | load m record => exact .loaded
  | operate i op =>
    simp only [step]
    cases handle : s.handles[i]? with
    | none => exact .noHandle
    | some h =>
      simp only [operate, Handle.registry_perform]
      exact .answered handle

namespace StepsTo

variable {next : Reply × Session}

/-- The database after an event, by what came of it. -/
theorem db_eq (hsteps : s.StepsTo next) :
    next.2.db = { s.db with registry := s.db.registry.enter next.1.success?.toList } := by
  cases hsteps <;> rfl

/-- What an event reports as a success has a table to its name. -/
theorem isBlank_of_success {r : Registration} (hsteps : s.StepsTo next)
    (hr : next.1.success? = some r) : r.isBlank = false := by
  cases hsteps with
  | entered named => cases hr; exact named
  | _ => cases hr

/-- An event leaves handles bound as they were. -/
theorem binds {i : Nat} {h : Handle} {dialect : Dialect} {m : ModelType} {schema : Result Schema}
    (hsteps : s.StepsTo next) (hi : s.handles[i]? = some h) (hbinds : h.Binds dialect m schema) :
    ∃ h', next.2.handles[i]? = some h' ∧ h'.Binds dialect m schema := by
  have hlt : i < s.handles.length := (List.getElem?_eq_some_iff.mp hi).1
  cases hsteps with
  | refused => exact ⟨h, hi, hbinds⟩
  | entered named => exact ⟨h, hi, hbinds⟩
  | loaded => exact ⟨h, (List.getElem?_append_left hlt).trans hi, hbinds⟩
  | @answered j h' _ _ _ handle =>
    by_cases hij : j = i
    · subst hij
      obtain rfl := Option.some.inj (hi.symm.trans handle)
      exact ⟨_, List.getElem?_set_self hlt, hbinds.dialect, hbinds.model, hbinds.schema⟩
    · exact ⟨h, (List.getElem?_set_ne hij).trans hi, hbinds⟩
  | noHandle => exact ⟨h, hi, hbinds⟩

end StepsTo

/-! ## Events one after the other -/

@[simp] theorem run_cons (e : Event) (events : List Event) :
    s.run server (e :: events) = (s.step server e).2.run server events := rfl

theorem run_append (before after : List Event) :
    s.run server (before ++ after) = (s.run server before).run server after :=
  List.foldl_append

theorem successes_cons (e : Event) (events : List Event) :
    s.successes server (e :: events) =
      (s.step server e).1.success?.toList ++ (s.step server e).2.successes server events := by
  rw [successes, replies, List.filterMap_cons]
  cases (s.step server e).1.success? <;> rfl

/-- The database after events: the registrations that succeeded have been entered. -/
theorem db_run (events : List Event) : (s.run server events).db =
    { s.db with registry := s.db.registry.enter (s.successes server events) } := by
  induction events generalizing s with
  | nil => rfl
  | cons e events ih =>
    rw [run_cons, ih, (s.stepsTo_step e).db_eq, successes_cons, Registry.enter_append]

theorem isBlank_of_mem_successes {events : List Event} {r : Registration}
    (hr : r ∈ s.successes server events) : r.isBlank = false := by
  induction events generalizing s with
  | nil => cases hr
  | cons e events ih =>
    rw [successes_cons] at hr
    rcases List.mem_append.mp hr with hr | hr
    · exact (s.stepsTo_step e).isBlank_of_success (Option.mem_toList.mp hr)
    · exact ih hr

variable {i : Nat} {h : Handle} {dialect : Dialect} {m : ModelType} {schema : Result Schema}

/-- Events leave handles bound as they were. -/
theorem binds_run (events : List Event) (hi : s.handles[i]? = some h)
    (hbinds : h.Binds dialect m schema) :
    ∃ h', (s.run server events).handles[i]? = some h' ∧ h'.Binds dialect m schema := by
  induction events generalizing s h with
  | nil => exact ⟨h, hi, hbinds⟩
  | cons e events ih =>
    obtain ⟨h', hi', hbinds'⟩ := (s.stepsTo_step e).binds hi hbinds
    exact ih hi' hbinds'

/-! ## Registrations with a database -/

/-- A registration in a session is one with the registry, and one that fails is one that has
changed nothing. -/
theorem register_eq (s : Session) (r : Registration) :
    s.register r =
      match s.db.registry.register r.model r.table with
      | .ok registry => (.ok (), { s with db := { s.db with registry } })
      | .error e => (.error e, s) := by
  rcases s.register_cases r with ⟨hblank, hr⟩ | ⟨hblank, hr⟩
  · simp only [Registration.isBlank] at hblank
    simp only [hr, Registry.register, hblank, if_true]
  · simp only [Registration.isBlank] at hblank
    simp only [hr, Registry.register, hblank, Bool.false_eq_true, if_false]
    rfl

theorem step_register (m : ModelType) (table : String) :
    s.step server (.register m table) =
      match s.db.register m table with
      | .ok db => (.registered (s.db.registration m table) (.ok ()), { s with db })
      | .error e => (.registered (s.db.registration m table) (.error e), s) := by
  simp only [step, register_eq, Database.register, Database.registration]
  cases s.db.registry.register m (if table.isEmpty then "" else s.db.tablePrefix ++ table) <;> rfl

/-- Registering models when a database is built is registering them one after the other. -/
theorem run_registerAll {models : List (ModelType × String)} {db : Database}
    (hdb : s.db.registerAll models = .ok db) :
    s.run server (models.map fun p => .register p.1 p.2) = { s with db } := by
  induction models generalizing s with
  | nil => cases hdb; rfl
  | cons p models ih =>
    obtain ⟨m, table⟩ := p
    simp only [Database.registerAll] at hdb
    rw [List.map_cons, run_cons, step_register]
    cases hregister : s.db.register m table with
    | error e => rw [hregister] at hdb; cases hdb
    | ok db' =>
      rw [hregister] at hdb
      exact ih hdb

/-! ## Snapshots -/

/-- A registration that was the latest of its type succeeds again and changes nothing. -/
theorem register_again {r : Registration} (hblank : r.isBlank = false)
    (hentry : s.db.registry.get? r.model.id = some r.schema) : s.register r = (.ok (), s) := by
  rcases s.register_cases r with ⟨hblank', -⟩ | ⟨-, hr⟩
  · rw [hblank] at hblank'
    cases hblank'
  · rw [hr, Registry.enter_cons, Registry.enter_nil, Registry.insert_of_get? hentry]

/-- Registering a type leaves the entries of other types as they are. -/
theorem get_register_of_ne {r : Registration} (hne : m.id ≠ r.model.id) :
    (s.register r).2.db.registry.get m = s.db.registry.get m := by
  rcases s.register_cases r with ⟨-, hr⟩ | ⟨-, hr⟩
  · rw [hr]
  · simp only [hr, Registry.get, Registry.enter_cons, Registry.enter_nil,
      Registry.get?_insert_of_ne _ _ hne]

/-- An operation of a handle that is ready makes requests, with its statement by the schema that
the handle was bound with. Without a schema it fails with the error of the binding and changes
nothing. -/
theorem step_operate (op : Operation) (hi : s.handles[i]? = some h)
    (hbinds : h.Binds dialect m schema) :
    ∃ answer s', s.step server (.operate i op) = (.answered answer, s') ∧
      (∃ asked, s'.asked = s.asked ++ asked ∧ (asked ≠ [] ↔ ∃ bound, op.Ready h bound) ∧
        ∀ request ∈ asked, ∃ bound, schema = .ok bound ∧
          op.statement h bound = .ok request.statement) ∧
      ∀ e, schema = .error e → answer = .error e ∧ s' = s := by
  obtain ⟨executor, hreplies⟩ := op.exists_repliesAs server s.asked
  have hdisciplined := op.disciplined_plan (h := h) hreplies
  have hrun := Operation.perform_eq h s.db.registry hreplies
  have hbound : h.schema = schema := hbinds.schema
  have hstep : s.step server (.operate i op) =
      (.answered ((op.plan h).run executor).result,
        { s with
          asked := s.asked ++ (op.plan h).calls.map op.ask
          handles := s.handles.set i { h with record := ((op.plan h).run executor).record } }) := by
    simp only [step, hi, operate, hrun, Operation.settle]
  refine ⟨_, _, hstep, ⟨_, rfl, hdisciplined.ready, fun request hrequest => ?_⟩, fun e he => ?_⟩
  · obtain ⟨bound, hschema, hwhole⟩ := hdisciplined.whole request hrequest
    exact ⟨bound, hbound.symm.trans hschema, hwhole⟩
  · obtain ⟨hanswer, hasked⟩ := hdisciplined.unready _ (.unbound (hbound.trans he))
    have hkept := hdisciplined.kept (.inl hasked)
    obtain ⟨hlt, hself⟩ := List.getElem?_eq_some_iff.mp hi
    have hset : s.handles.set i h = s.handles := hself ▸ List.set_getElem_self hlt
    rw [hasked, hkept, List.append_nil]
    exact ⟨hanswer, congrArg (Session.mk s.db s.asked) hset⟩

/-- Handles are snapshots of the registry, whatever happens in a session. -/
theorem run_snapshots (server : Server) (dialect : Dialect) (tablePrefix : String)
    (events : List Event) :
    let start := opened dialect tablePrefix
    let s := start.run server events
    -- The latest registration of a type counts, and made once more it changes nothing.
    (∀ before r after, start.successes server events = before ++ r :: after →
        (∀ r' ∈ after, r'.model.id ≠ r.model.id) →
          (∀ m, m.id = r.model.id → s.db.registry.get m = .ok r.schema) ∧
            s.register r = (.ok (), s)) ∧
      -- Other types are not registered.
      (∀ m, (∀ r ∈ start.successes server events, r.model.id ≠ m.id) →
        s.db.registry.get m = .error (.notRegistered m.name)) ∧
      -- Types are counted, not registrations.
      s.db.registry.size =
        ((start.successes server events).map (·.model.id)).toFinset.card ∧
      -- A registration fails if the name of its table is blank, and then it changes nothing. None
      -- changes the entry of another type.
      (∀ r, (s.register r).1 = .ok () ↔ r.isBlank = false) ∧
      (∀ r e, (s.register r).1 = .error e → (s.register r).2 = s) ∧
      (∀ r m, m.id ≠ r.model.id →
        (s.register r).2.db.registry.get m = s.db.registry.get m) ∧
      -- An operation of a handle that is ready by the schema that was there when the handle was
      -- loaded makes requests, with its statement by that schema. If there was none, it fails.
      ∀ before m record after, events = before ++ .load m record :: after →
        let loaded := start.run server before
        ∃ h, s.handles[loaded.handles.length]? = some h ∧
          h.Binds dialect m (loaded.db.registry.get m) ∧
          ∀ op, ∃ answer s',
            s.step server (.operate loaded.handles.length op) = (.answered answer, s') ∧
            (∃ asked, s'.asked = s.asked ++ asked ∧
              (asked ≠ [] ↔ ∃ schema, op.Ready h schema) ∧
              ∀ request ∈ asked, ∃ schema, loaded.db.registry.get m = .ok schema ∧
                op.statement h schema = .ok request.statement) ∧
            ((∀ r ∈ start.successes server before, r.model.id ≠ m.id) →
              answer = .error (.notRegistered m.name) ∧ s' = s) := by
  intro start s
  have hregistry (events : List Event) : (start.run server events).db.registry =
      Registry.enter [] (start.successes server events) := by rw [db_run]; rfl
  have hunregistered (events : List Event) (m : ModelType)
      (hnone : ∀ r ∈ start.successes server events, r.model.id ≠ m.id) :
      (start.run server events).db.registry.get m = .error (.notRegistered m.name) := by
    rw [hregistry, Registry.get, Registry.get?_enter_of_ne hnone]
    rfl
  refine ⟨fun before r after hsuccesses hlatest => ?_, hunregistered events, ?_, fun r => ?_,
    fun r e he => ?_, fun r m hne => get_register_of_ne hne,
    fun before m record after hevents => ?_⟩
  · have hentry : s.db.registry.get? r.model.id = some r.schema := by
      rw [hregistry, hsuccesses]
      exact Registry.get?_enter_latest hlatest
    have hmem : r ∈ start.successes server events := by simp [hsuccesses]
    refine ⟨fun m hm => ?_, register_again (isBlank_of_mem_successes hmem) hentry⟩
    rw [Registry.get, hm, hentry]
  · rw [hregistry]
    exact Registry.size_enter
  · rcases s.register_cases r with ⟨hblank, hr⟩ | ⟨hblank, hr⟩ <;> simp [hr, hblank]
  · rcases s.register_cases r with ⟨-, hr⟩ | ⟨-, hr⟩
    · rw [hr]
    · rw [hr] at he
      cases he
  · intro loaded
    have hloaded : (loaded.step server (.load m record)).2.handles[loaded.handles.length]? =
        some (loaded.db.load m record) := List.getElem?_concat_length
    have hdialect : loaded.db.dialect = dialect := by rw [db_run]; rfl
    obtain ⟨h, hi, hbinds⟩ := binds_run after hloaded ⟨hdialect, rfl, rfl⟩
    have hrun : s = (loaded.step server (.load m record)).2.run server after := by
      rw [show s = start.run server events from rfl, hevents, run_append, run_cons]
    rw [← hrun] at hi
    refine ⟨h, hi, hbinds, fun op => ?_⟩
    obtain ⟨answer, s', hstep, hasked, hunbound⟩ := step_operate op hi hbinds
    exact ⟨answer, s', hstep, hasked, fun hnone => hunbound _ (hunregistered before m hnone)⟩

/-- A user is loaded, registered, loaded again, and registered again in another table. -/
def movedUser : List Event :=
  let user := Handle.namedUser.model
  let record := Handle.namedUser.record
  [.load user record, .register user "users", .load user record, .enroll user " ",
    .register user "people"]

theorem run_snapshots_movedUser :
    let server : Server := .refusing (.driverMessage "down")
    let s := (opened .sqlite "app_").run server movedUser
    let user := Handle.namedUser.model
    s.db.registry.get user = .ok (.ofFields "app_people" user.fields) ∧
      s.db.registry.size = 1 ∧
      (∀ op, s.step server (.operate 0 op) = (.answered (.error (.notRegistered "User")), s)) ∧
      ∀ op, ∃ h answer s', s.step server (.operate 1 op) = (.answered answer, s') ∧
        ∃ asked, s'.asked = s.asked ++ asked ∧ ∀ request ∈ asked,
          op.statement h (.ofFields "app_users" user.fields) = .ok request.statement := by
  have hsuccesses : (opened .sqlite "app_").successes (.refusing (.driverMessage "down"))
      movedUser = [⟨Handle.namedUser.model, "app_users"⟩] ++
        ⟨Handle.namedUser.model, "app_people"⟩ :: [] := rfl
  have hfront : (opened .sqlite "app_").successes (.refusing (.driverMessage "down"))
      (movedUser.take 2) = [] ++ ⟨Handle.namedUser.model, "app_users"⟩ :: [] := rfl
  have hposition : ((opened .sqlite "app_").run (.refusing (.driverMessage "down"))
      (movedUser.take 2)).handles.length = 1 := by decide +kernel
  dsimp only
  obtain ⟨hlatest, -, hsize, -, -, -, hhandles⟩ :=
    run_snapshots (.refusing (.driverMessage "down")) .sqlite "app_" movedUser
  refine ⟨(hlatest _ _ _ hsuccesses (List.forall_mem_nil _)).1 _ rfl, ?_, fun op => ?_,
    fun op => ?_⟩
  · rw [hsize, hsuccesses]
    decide +kernel
  · obtain ⟨h, -, -, hops⟩ := hhandles [] Handle.namedUser.model _ _ rfl
    obtain ⟨answer, s', hstep, -, hunbound⟩ := hops op
    obtain ⟨rfl, rfl⟩ := hunbound (List.forall_mem_nil _)
    exact hstep
  · obtain ⟨h, -, -, hops⟩ := hhandles (movedUser.take 2) Handle.namedUser.model _ _ rfl
    obtain ⟨hlatest, -⟩ :=
      run_snapshots (.refusing (.driverMessage "down")) .sqlite "app_" (movedUser.take 2)
    have hschema := (hlatest _ _ _ hfront (List.forall_mem_nil _)).1 Handle.namedUser.model rfl
    obtain ⟨answer, s', hstep, ⟨asked, hasked, -, hwhole⟩, -⟩ := hops op
    rw [hposition] at hstep
    refine ⟨h, answer, s', hstep, asked, hasked, fun request hrequest => ?_⟩
    obtain ⟨schema, hbound, hstatement⟩ := hwhole request hrequest
    obtain rfl := Except.ok.inj (hbound.symm.trans hschema)
    exact hstatement

end Session

end RelMap
