-- SUMMARY: Operations make one request at most, and only once they are prepared.
import RelMap.Proofs.Handle.Overlay
import RelMap.Proofs.Handle.Programs

/-!
# Prepared requests

`Operation.Ready` is what an operation needs before it makes its request. Main statement: an
operation that is ready makes exactly one request, with its whole statement. One that is not
makes none, changes nothing, and answers with the reason.
-/
namespace RelMap

/-! ## Filters that do not compile -/

namespace Dialect

variable {d : Dialect} {filter : Filter} {lookup : Lookup}

/-- A statement fails with the error of its filter on its own. -/
theorem withFilter_of_compile_error {e : Error} (h : d.compile filter lookup = .error e)
    (head : List Piece) : d.withFilter head filter lookup = .error e := by
  unfold compile at h
  unfold withFilter
  cases hselect : filter.select lookup with
  | ok selection => rw [hselect] at h; cases h
  | error m => rw [hselect] at h; exact h

theorem exists_withFilter_of_compile {own : Statement} (h : d.compile filter lookup = .ok own)
    (head : List Piece) : ∃ statement, d.withFilter head filter lookup = .ok statement := by
  unfold compile at h
  unfold withFilter
  cases hselect : filter.select lookup with
  | ok selection => exact ⟨_, rfl⟩
  | error m => rw [hselect] at h; cases h

end Dialect

/-! ## Operations that are ready -/

/-- The statement of a request. -/
def Ask.statement : Ask → Statement
  | .exec statement | .query statement | .queryRow statement => statement

/-- The error that a server refuses a request with. -/
def Server.Refuses (server : Server) (past : List Ask) (e : Error) : Ask → Prop
  | .exec statement => server.exec past statement = .error e
  | .query statement => server.query past statement = .error e
  | .queryRow statement => server.queryRow past statement = .error e

namespace Operation

/-- The filter of an operation on rows that are there. -/
def filter? : Operation → Option Filter
  | .create => none
  | .find filter | .findAll filter | .update filter | .save filter | .delete filter
  | .count filter => some filter

/-- Whether an operation reads the mapped columns. -/
def selects : Operation → Bool
  | .find _ | .findAll _ => true
  | _ => false

/-- Whether an operation can change the bound record. -/
def loads : Operation → Bool
  | .create | .find _ => true
  | _ => false

/-- Whether an operation changes matching rows. -/
def affects : Operation → Bool
  | .update _ | .save _ | .delete _ => true
  | _ => false

/-- What an operation assigns to matching rows. -/
def assignments? (h : Handle) (s : Schema) : Operation → Option Assignments
  | .update _ => some ((s.assignments h.record).filter fun (_, v) => !v.isZero)
  | .save _ => some (s.assignments h.record)
  | _ => none

/-- The statement of an operation. -/
def statement (h : Handle) (s : Schema) : Operation → Result Statement
  | .create => .ok (h.insertStatement s)
  | .find filter | .findAll filter => h.selectStatement s filter
  | .update filter => h.dialect.update s.table
    ((s.assignments h.record).filter fun (_, v) => !v.isZero) filter (s.lookup h.record)
  | .save filter => h.dialect.update s.table (s.assignments h.record) filter (s.lookup h.record)
  | .delete filter => h.dialect.delete s.table filter (s.lookup h.record)
  | .count filter => h.dialect.count s.table filter (s.lookup h.record)

/-- The parts of a statement are there: columns where they are read, assignments where rows are
written. -/
structure HasParts (op : Operation) (h : Handle) (s : Schema) : Prop where
  columns : op.selects = true → s.descriptors ≠ []
  assignments : op.assignments? h s ≠ some []

/-- What an operation needs before it makes its request. -/
structure Ready (op : Operation) (h : Handle) (s : Schema) : Prop extends op.HasParts h s where
  bound : h.schema = .ok s
  compiles : ∀ filter, op.filter? = some filter →
    ∃ own, h.dialect.compile filter (s.lookup h.record) = .ok own

variable {op : Operation} {h : Handle} {s : Schema} {filter : Filter}

/-- With its parts there, the statement of an operation on matching rows is a head and then the
filter. -/
theorem HasParts.statement_eq (parts : op.HasParts h s) (hfilter : op.filter? = some filter) :
    ∃ head, op.statement h s = h.dialect.withFilter head filter (s.lookup h.record) := by
  have hassignments := parts.assignments
  cases op with
  | create => cases hfilter
  | find _ | findAll _ =>
    cases hfilter
    exact ⟨_, if_neg (by simpa [Schema.columns] using parts.columns rfl)⟩
  | update _ | save _ =>
    cases hfilter
    exact ⟨_, if_neg (by simpa [assignments?] using hassignments)⟩
  | delete _ | count _ =>
    cases hfilter
    exact ⟨_, rfl⟩

/-- Without mapped columns there is nothing to read. -/
theorem statement_of_bare (hselects : op.selects = true) (hnone : s.descriptors = []) :
    op.statement h s = .error (Dialect.noColumns "SELECT from" s.table "column") := by
  cases op with
  | find _ | findAll _ => exact if_pos (by simp [Schema.columns, hnone])
  | _ => cases hselects

/-! ## Operations that are not ready -/

/-- What an operation answers when it is not ready. -/
inductive Unready (op : Operation) (h : Handle) : Result Answer → Prop where
  /-- Binding failed. -/
  | unbound {e : Error} (bound : h.schema = .error e) : Unready op h (.error e)
  /-- There is nothing to write. -/
  | idle {s : Schema} (bound : h.schema = .ok s) (nothing : op.assignments? h s = some []) :
    Unready op h (.ok (.affected 0))
  /-- There is no column to read. -/
  | bare {s : Schema} (bound : h.schema = .ok s) (selects : op.selects = true)
      (columns : s.descriptors = []) :
    Unready op h (.error (Dialect.noColumns "SELECT from" s.table "column"))
  /-- The filter does not compile. -/
  | malformed {s : Schema} {filter : Filter} {e : Error} (bound : h.schema = .ok s)
      (parts : op.HasParts h s) (filtered : op.filter? = some filter)
      (compiled : h.dialect.compile filter (s.lookup h.record) = .error e) :
    Unready op h (.error e)

/-- An operation is ready, or there is a reason why it is not. -/
theorem ready_or_unready (op : Operation) (h : Handle) :
    (∃ s, op.Ready h s) ∨ ∃ answer, op.Unready h answer := by
  cases bound : h.schema with
  | error e => exact .inr ⟨_, .unbound bound⟩
  | ok s =>
    -- Missing parts come before the filter: a statement without them is refused unread.
    by_cases nothing : op.assignments? h s = some []
    · exact .inr ⟨_, .idle bound nothing⟩
    by_cases bare : op.selects = true ∧ s.descriptors = []
    · exact .inr ⟨_, .bare bound bare.1 bare.2⟩
    have parts : op.HasParts h s := ⟨fun selects columns => bare ⟨selects, columns⟩, nothing⟩
    cases filtered : op.filter? with
    | none => exact .inl ⟨s, parts, bound, fun _ h => nomatch filtered.symm.trans h⟩
    | some filter =>
      cases compiled : h.dialect.compile filter (s.lookup h.record) with
      | error e => exact .inr ⟨_, .malformed bound parts filtered compiled⟩
      | ok own =>
        refine .inl ⟨s, parts, bound, fun filter' filtered' => ?_⟩
        obtain rfl := Option.some.inj (filtered.symm.trans filtered')
        exact ⟨own, compiled⟩

/-! ## Plans -/

section Plans

variable (bound : h.schema = .ok s)

include bound

theorem write_of_nil {choose : Assignments → Assignments}
    (hnil : choose (s.assignments h.record) = []) : h.write choose filter = .done (.ok 0) := by
  simp only [Handle.write, bound, hnil]

theorem write_of_ne_nil {choose : Assignments → Assignments} {assignments : Assignments}
    (hchosen : choose (s.assignments h.record) = assignments) (hne : assignments ≠ []) :
    h.write choose filter =
      Handle.affect (h.dialect.update s.table assignments filter (s.lookup h.record)) := by
  simp only [Handle.write, bound, hchosen]

/-- The operations that change matching rows are alike. -/
theorem plan_of_affects (haffects : op.affects = true)
    (hassignments : op.assignments? h s ≠ some []) :
    op.plan h =
      (Handle.affect (op.statement h s)).map fun r => ⟨r.map .affected, h.record⟩ := by
  cases op with
  | update filter =>
    have hupdate : h.update filter = Handle.affect (statement h s (.update filter)) :=
      write_of_ne_nil bound rfl fun hnil => hassignments (congrArg some hnil)
    rw [plan, hupdate]
  | save filter =>
    have hsave : h.save filter = Handle.affect (statement h s (.save filter)) :=
      write_of_ne_nil bound rfl fun hnil => hassignments (congrArg some hnil)
    rw [plan, hsave]
  | delete filter => simp only [plan, Handle.delete, bound, statement]
  | _ => cases haffects

/-- Without a statement there is nothing to request. -/
theorem plan_of_statement_error {e : Error} (hassignments : op.assignments? h s ≠ some [])
    (hstatement : op.statement h s = .error e) : op.plan h = .done ⟨.error e, h.record⟩ := by
  cases op with
  | create => cases hstatement
  | find filter =>
    have hselect : h.selectStatement s filter = .error e := hstatement
    simp only [plan, Handle.find, bound, hselect, Plan.map, Except.map]
  | findAll filter =>
    have hselect : h.selectStatement s filter = .error e := hstatement
    simp only [plan, Handle.findAll, bound, hselect, Plan.map, Except.map]
  | update _ | save _ | delete _ =>
    rw [plan_of_affects bound rfl hassignments, hstatement]
    rfl
  | count filter =>
    have hcount : h.dialect.count s.table filter (s.lookup h.record) = .error e := hstatement
    simp only [plan, Handle.count, bound, hcount, Plan.map, Except.map]

end Plans

theorem plan_of_unbound {e : Error} (bound : h.schema = .error e) :
    op.plan h = .done ⟨.error e, h.record⟩ := by
  cases op <;> simp only [plan, Handle.create, Handle.find, Handle.findAll, Handle.update,
    Handle.save, Handle.write, Handle.delete, Handle.count, bound, Plan.map, Except.map]

/-- The plan of an operation that is not ready is done. -/
theorem Unready.plan_eq {answer : Result Answer} (hunready : op.Unready h answer) :
    op.plan h = .done ⟨answer, h.record⟩ := by
  cases hunready with
  | unbound bound => exact plan_of_unbound bound
  | idle bound nothing =>
    cases op with
    | update filter =>
      have hupdate : h.update filter = _ := write_of_nil bound (Option.some.inj nothing)
      rw [plan, hupdate]
      rfl
    | save filter =>
      have hsave : h.save filter = _ := write_of_nil bound (Option.some.inj nothing)
      rw [plan, hsave]
      rfl
    | _ => cases nothing
  | @bare s bound selects columns =>
    have hassignments : op.assignments? h s ≠ some [] := by
      cases op with
      | find _ | findAll _ =>
        intro heq
        cases heq
      | _ => cases selects
    exact plan_of_statement_error bound hassignments (statement_of_bare selects columns)
  | malformed bound parts filtered compiled =>
    obtain ⟨head, heq⟩ := parts.statement_eq filtered
    exact plan_of_statement_error bound parts.assignments
      (heq.trans (Dialect.withFilter_of_compile_error compiled head))

/-- A plan that makes a request with a statement and goes on with the reply. An operation passes
on the error that it is refused with, and one that loads nothing keeps the record. -/
inductive Requests (op : Operation) (h : Handle) (statement : Statement) :
    Plan (Outcome Answer) → Prop where
  | exec {next : Result ExecReply → Outcome Answer}
      (refused : ∀ e, next (.error e) = ⟨.error e, h.record⟩)
      (kept : op.loads = false → ∀ reply, (next reply).record = h.record) :
    Requests op h statement (.exec statement next)
  | query {next : Result Rows → Outcome Answer}
      (refused : ∀ e, next (.error e) = ⟨.error e, h.record⟩)
      (unfetched : op.fetchesRow = true → ∀ rows e, rows.first = .error e →
        next (.ok rows) = ⟨.error e, h.record⟩)
      (kept : op.loads = false → ∀ reply, (next reply).record = h.record) :
    Requests op h statement (.query statement next)

theorem Ready.exists_statement (ready : op.Ready h s) :
    ∃ statement, op.statement h s = .ok statement := by
  cases filtered : op.filter? with
  | none =>
    cases op with
    | create => exact ⟨_, rfl⟩
    | _ => cases filtered
  | some filter =>
    obtain ⟨head, heq⟩ := ready.statement_eq filtered
    obtain ⟨own, hown⟩ := ready.compiles filter filtered
    rw [heq]
    exact Dialect.exists_withFilter_of_compile hown head

/-- The plan of an operation that is ready makes a request. -/
theorem Ready.requests {statement : Statement} (ready : op.Ready h s)
    (hstatement : op.statement h s = .ok statement) : op.Requests h statement (op.plan h) := by
  have bound := ready.bound
  cases op with
  | create =>
    cases hstatement
    simp only [plan, Handle.create, bound]
    cases h.returning? s with
    | none => exact .exec (fun _ => by rfl) fun hloads => by cases hloads
    | some column =>
      refine .query (fun _ => by rfl) (fun _ rows e he => ?_) fun hloads => by cases hloads
      simp only [Function.comp, he]
      rfl
  | find filter =>
    have hselect : h.selectStatement s filter = .ok statement := hstatement
    simp only [plan, Handle.find, bound, hselect]
    refine .query (fun _ => by rfl) (fun _ rows e he => ?_) fun hloads => by cases hloads
    simp only [Function.comp, he]
    rfl
  | findAll filter =>
    have hselect : h.selectStatement s filter = .ok statement := hstatement
    simp only [plan, Handle.findAll, bound, hselect]
    exact .query (fun _ => by rfl) (fun hfetches => by cases hfetches) fun _ _ => by rfl
  | update _ | save _ | delete _ =>
    rw [plan_of_affects bound rfl ready.assignments, hstatement]
    exact .exec (fun _ => by rfl) fun _ _ => by rfl
  | count filter =>
    have hcount : h.dialect.count s.table filter (s.lookup h.record) = .ok statement := hstatement
    simp only [plan, Handle.count, bound, hcount]
    refine .query (fun _ => by rfl) (fun _ rows e he => ?_) fun _ _ => by rfl
    simp only [Function.comp, he]
    rfl

namespace Unready

variable {answer answer' : Result Answer}

/-- An operation that is not ready has one answer. -/
theorem unique (hanswer : op.Unready h answer) (hanswer' : op.Unready h answer') :
    answer = answer' := by
  have hplan := hanswer.plan_eq.symm.trans hanswer'.plan_eq
  cases hplan
  rfl

theorem not_ready (hunready : op.Unready h answer) : ¬ op.Ready h s := by
  intro ready
  obtain ⟨statement, hstatement⟩ := ready.exists_statement
  have hrequests := ready.requests hstatement
  rw [hunready.plan_eq] at hrequests
  cases hrequests

end Unready

namespace Requests

variable {statement : Statement} {plan : Plan (Outcome Answer)} {server : Server}
  {past : List Ask} {executor : Executor}

theorem calls_eq (hrequests : op.Requests h statement plan) :
    ∃ request, plan.calls.map op.ask = [request] ∧ request.statement = statement := by
  cases hrequests with
  | exec _ _ => exact ⟨_, rfl, rfl⟩
  | query _ _ _ =>
    refine ⟨_, rfl, ?_⟩
    simp only [ask]
    split <;> rfl

theorem run_refused (hrequests : op.Requests h statement plan)
    (hreplies : op.RepliesAs server past executor) {request : Ask}
    (hrequest : request ∈ plan.calls.map op.ask) {e : Error}
    (hrefuses : server.Refuses past e request) : plan.run executor = ⟨.error e, h.record⟩ := by
  cases hrequests with
  | exec refused _ =>
    obtain rfl := List.mem_singleton.mp hrequest
    rw [Plan.run, ← hreplies.exec, show server.exec past statement = _ from hrefuses, refused]
  | query refused unfetched _ =>
    obtain rfl := List.mem_singleton.mp hrequest
    rw [Plan.run]
    cases hrow : op.fetchesRow with
    | false =>
      simp only [ask, hrow, Bool.false_eq_true, if_false] at hrefuses
      rw [← hreplies.query hrow, show server.query past statement = _ from hrefuses, refused]
    | true =>
      simp only [ask, hrow, if_true] at hrefuses
      -- The query itself can fail, or the first row cannot be fetched.
      have hfirst : (executor.query statement).bind Rows.first = .error e :=
        (hreplies.queryRow hrow statement).symm.trans hrefuses
      cases hquery : executor.query statement with
      | error e' =>
        rw [hquery] at hfirst
        cases hfirst
        exact refused e
      | ok rows =>
        rw [hquery] at hfirst
        exact unfetched hrow rows e hfirst

theorem run_kept (hrequests : op.Requests h statement plan) (hloads : op.loads = false) :
    (plan.run executor).record = h.record := by
  cases hrequests with
  | exec _ kept => exact kept hloads _
  | query _ _ kept => exact kept hloads _

end Requests

/-- An operation that asks for all rows reads them up to the first that cannot be fetched. -/
theorem run_plan_of_unfetched {server : Server} {past : List Ask} {executor : Executor}
    (hreplies : op.RepliesAs server past executor) {s : Schema} {statement : Statement}
    {before after : Rows} {e : Error} (bound : h.schema = .ok s)
    (hasked : (op.plan h).calls.map op.ask = [.query statement])
    (hquery : server.query past statement = .ok (before ++ .error e :: after))
    (hbefore : ∀ row ∈ before, ∃ r, s.overlayFetched h.model.fresh row = .ok r) :
    ((op.plan h).run executor).result = .error e := by
  have hfetches : op.fetchesRow = false := by
    obtain ⟨call, -, hcall⟩ := List.map_eq_singleton_iff.mp hasked
    cases call with
    | exec _ => cases hcall
    | query _ =>
      simp only [ask] at hcall
      split at hcall
      · cases hcall
      · next hfetches => exact Bool.eq_false_iff.mpr hfetches
  cases op with
  | findAll filter =>
    cases hselect : h.selectStatement s filter with
    | error e' =>
      simp only [plan, Handle.findAll, bound, hselect, Plan.map, Plan.calls] at hasked
      cases hasked
    | ok selected =>
      have hselected : selected = statement := by
        simp only [plan, Handle.findAll, bound, hselect, Plan.map, Plan.calls] at hasked
        cases hasked
        rfl
      subst hselected
      have hrecords : s.records h.model.fresh (before ++ .error e :: after) =
          .error e := Schema.records_eq_error_iff.mpr ⟨before, _, after, rfl, hbefore, rfl⟩
      have hrows := (hreplies.query rfl selected).symm.trans hquery
      simp only [plan, Handle.findAll, bound, hselect, Plan.map, Plan.run, Function.comp, hrows,
        hrecords, Except.map]
  | _ => cases hfetches

/-! ## Discipline -/

/-- What an operation answers, leaves as the record, and has asked for, as far as that does not
depend on what it is for. -/
structure Disciplined (op : Operation) (h : Handle) (server : Server) (past : List Ask)
    (answer : Result Answer) (record : Record) (asked : List Ask) : Prop where
  /-- There is one request at most. -/
  once : asked.length ≤ 1
  /-- A request is made exactly by an operation that is ready. -/
  ready : asked ≠ [] ↔ ∃ s, op.Ready h s
  /-- A request has the whole statement of the operation. -/
  whole : ∀ request ∈ asked, ∃ s, h.schema = .ok s ∧ op.statement h s = .ok request.statement
  /-- An operation that is not ready answers with the reason and asks for nothing. -/
  unready : ∀ reason, op.Unready h reason → answer = reason ∧ asked = []
  /-- The error that a request is refused with is passed on. -/
  refused : ∀ request ∈ asked, ∀ e, server.Refuses past e request →
    answer = .error e ∧ record = h.record
  /-- So is the error of a row that cannot be fetched, behind rows that can be loaded. -/
  unfetched : ∀ s statement before e after, h.schema = .ok s → asked = [.query statement] →
    server.query past statement = .ok (before ++ .error e :: after) →
    (∀ row ∈ before, ∃ r, s.overlayFetched h.model.fresh row = .ok r) →
    answer = .error e
  /-- The record changes only after a request, and only if the operation loads it. -/
  kept : asked = [] ∨ op.loads = false → record = h.record

theorem call_ask (op : Operation) (call : Call) : (op.ask call).call = call := by
  cases call with
  | exec statement => rfl
  | query statement =>
    simp only [ask]
    split <;> rfl

theorem disciplined_plan {server : Server} {past : List Ask} {executor : Executor}
    (hreplies : op.RepliesAs server past executor) :
    op.Disciplined h server past ((op.plan h).run executor).result
      ((op.plan h).run executor).record ((op.plan h).calls.map op.ask) := by
  rcases op.ready_or_unready h with ⟨s, ready⟩ | ⟨reason, hunready⟩
  · obtain ⟨statement, hstatement⟩ := ready.exists_statement
    have hrequests := ready.requests hstatement
    obtain ⟨request, hasked, hwhole⟩ := hrequests.calls_eq
    constructor
    case once => rw [hasked]; exact Nat.le_refl 1
    case ready => rw [hasked]; exact ⟨fun _ => ⟨s, ready⟩, fun _ => List.cons_ne_nil _ _⟩
    case whole =>
      intro request' hrequest'
      rw [hasked] at hrequest'
      obtain rfl := List.mem_singleton.mp hrequest'
      exact ⟨s, ready.bound, hwhole ▸ hstatement⟩
    case unready => exact fun reason hunready => absurd ready hunready.not_ready
    case refused =>
      intro request' hrequest' e hrefuses
      rw [hrequests.run_refused hreplies hrequest' hrefuses]
      exact ⟨rfl, rfl⟩
    case unfetched =>
      exact fun s statement before e after bound hasked hquery hbefore =>
        run_plan_of_unfetched hreplies bound hasked hquery hbefore
    case kept =>
      rintro (hnone | hloads)
      · rw [hasked] at hnone; cases hnone
      · exact hrequests.run_kept hloads
  · rw [hunready.plan_eq]
    constructor
    case once => exact Nat.zero_le 1
    case ready => exact ⟨fun h => absurd rfl h, fun ⟨s, ready⟩ => absurd ready hunready.not_ready⟩
    case whole => exact nofun
    case unready => exact fun reason' hunready' => ⟨hunready.unique hunready', rfl⟩
    case refused => exact nofun
    case unfetched => exact nofun
    case kept => exact fun _ => rfl

end Operation

/-- Operations of handles are disciplined, with every server and after any requests. They leave
the registry as it is, and do what their plans say with every executor that replies as the
server does. -/
theorem Handle.perform_disciplined (server : Server) (h : Handle) (op : Operation)
    (registry : Registry) (past : List Ask) :
    ∃ answer record asked,
      h.perform server op registry past = (answer, ⟨registry, record, past ++ asked⟩) ∧
        op.Disciplined h server past answer record asked ∧
        ∀ executor, op.RepliesAs server past executor →
          ((op.plan h).run executor).result = answer ∧
            ((op.plan h).run executor).record = record ∧
            asked.map Ask.call = (op.plan h).calls := by
  obtain ⟨executor, hreplies⟩ := op.exists_repliesAs server past
  have hrun := Operation.perform_eq h registry hreplies
  refine ⟨_, _, _, hrun, Operation.disciplined_plan hreplies, fun executor' hreplies' => ?_⟩
  have hsame := (Operation.perform_eq h registry hreplies').symm.trans hrun
  simp only [Operation.settle, Prod.mk.injEq, Memory.mk.injEq, true_and, and_true] at hsame
  exact ⟨hsame.1, hsame.2, by simp [Function.comp_def, Operation.call_ask]⟩

/-- A server that refuses every request. -/
def Server.refusing (e : Error) : Server where
  exec _ _ := .error e
  query _ _ := .error e
  queryRow _ _ := .error e

theorem Handle.perform_disciplined_namedUser :
    let down : Error := .driverMessage "down"
    let malformed : Filter := .condition (.junction .and [])
    (∃ request, namedUser.perform (.refusing down) (.delete .none) [] [] =
        (.error down, ⟨[], namedUser.record, [request]⟩)) ∧
      namedUser.perform (.refusing down) (.delete malformed) [] [] =
        (.error (Malformed.noClauses .and).toError, ⟨[], namedUser.record, []⟩) := by
  intro down malformed
  constructor
  · obtain ⟨answer, record, asked, hrun, hdisciplined, -⟩ :=
      namedUser.perform_disciplined (.refusing down) (.delete .none) [] []
    have ready : Operation.Ready (.delete .none) namedUser (.ofFields "users" userFields) :=
      ⟨⟨nofun, nofun⟩, rfl, fun _ h => by cases h; exact ⟨_, rfl⟩⟩
    have hsome : 0 < asked.length := List.length_pos_iff.mpr (hdisciplined.ready.mpr ⟨_, ready⟩)
    obtain ⟨request, rfl⟩ :=
      List.length_eq_one_iff.mp (Nat.le_antisymm hdisciplined.once hsome)
    have hrefuses : (Server.refusing down).Refuses [] down request := by cases request <;> rfl
    obtain ⟨rfl, rfl⟩ := hdisciplined.refused request (.head _) down hrefuses
    exact ⟨request, hrun⟩
  · obtain ⟨answer, record, asked, hrun, hdisciplined, -⟩ :=
      namedUser.perform_disciplined (.refusing down) (.delete malformed) [] []
    have unready : Operation.Unready (.delete malformed) namedUser
        (.error (Malformed.noClauses .and).toError) := .malformed rfl ⟨nofun, nofun⟩ rfl rfl
    obtain ⟨rfl, rfl⟩ := hdisciplined.unready _ unready
    obtain rfl := hdisciplined.kept (.inl rfl)
    exact hrun

end RelMap
