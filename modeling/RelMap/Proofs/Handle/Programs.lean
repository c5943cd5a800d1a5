-- SUMMARY: The programs of operations do what their plans say.
import RelMap.Operation

/-!
# Programs and plans

Running a program is running its plan: the program makes the one request of the plan or none, and
leaves the registry as it is.
-/
namespace RelMap

/-! ## Running programs -/

namespace Program

variable (m : Memory)

theorem run_bind (p : Program α) (f : α → Program β) :
    (p >>= f).run m =
      match (p.run m).1 with
      | .ok a => (f a).run (p.run m).2
      | .error e => (.error e, (p.run m).2) := by
  simp only [run, ExceptT.run_bind, StateT.run_bind]
  rcases StateT.run (ExceptT.run p) m with ⟨_ | _, m'⟩ <;> rfl

theorem run_pure (a : α) : (pure a : Program α).run m = (.ok a, m) := rfl

theorem run_ofResult (r : Result α) : (ofResult r).run m = (r, m) := by
  cases r <;> rfl

theorem run_get : (get : Program Memory).run m = (.ok m, m) := rfl

theorem run_ask (request : Ask) (reply : List Ask → Result α) :
    (ask request reply).run m = (reply m.asked, { m with asked := m.asked ++ [request] }) :=
  run_ofResult _ _

theorem run_assign (d : Descriptor) (v : Value) :
    (assign d v).run m =
      match d.set m.record v with
      | .ok r => (.ok (), { m with record := r })
      | .error e => (.error e, m) := by
  simp only [assign, run_bind, run_get, run_ofResult]
  cases d.set m.record v <;> rfl

theorem run_assignAll (pairs : List (Descriptor × Option Value)) :
    (assignAll pairs).run m =
      ((Schema.writeAll pairs m.record).result,
        { m with record := (Schema.writeAll pairs m.record).record }) := by
  induction pairs generalizing m with
  | nil => rfl
  | cons pair pairs ih =>
    obtain ⟨d, w⟩ := pair
    cases w with
    | none => exact ih m
    | some v =>
      simp only [assignAll, run_bind, run_assign, Schema.writeAll]
      cases d.set m.record v with
      | error e => rfl
      | ok r => exact ih _

end Program

/-! ## Plans of operations -/

namespace Operation

open Program

/-- Whether an operation wants the first row of a query only. -/
def fetchesRow : Operation → Bool
  | .findAll _ => false
  | _ => true

/-- The request of a plan, as the program of the operation makes it. -/
def ask (op : Operation) : Call → Ask
  | .exec statement => .exec statement
  | .query statement => if op.fetchesRow then .queryRow statement else .query statement

/-- An executor that replies to an operation as a server does after some requests. -/
structure RepliesAs (op : Operation) (server : Server) (past : List Ask) (executor : Executor) :
    Prop where
  exec : ∀ statement, server.exec past statement = executor.exec statement
  query : op.fetchesRow = false → ∀ statement,
    server.query past statement = executor.query statement
  queryRow : op.fetchesRow = true → ∀ statement,
    server.queryRow past statement = (executor.query statement).bind Rows.first

/-- For every server there is an executor like that: where only the first row is wanted, its
queries yield no other. -/
theorem exists_repliesAs (op : Operation) (server : Server) (past : List Ask) :
    ∃ executor, op.RepliesAs server past executor := by
  cases hrow : op.fetchesRow with
  | false =>
    exact ⟨⟨server.exec past, server.query past⟩, ⟨fun _ => rfl, fun _ _ => rfl,
      fun h => absurd h (Bool.eq_false_iff.mp hrow)⟩⟩
  | true =>
    refine ⟨⟨server.exec past, fun statement =>
      (server.queryRow past statement).map fun row => (row.map Except.ok).toList⟩,
      ⟨fun _ => rfl, fun h => absurd hrow (Bool.eq_false_iff.mp h), fun _ statement => ?_⟩⟩
    dsimp only
    rcases server.queryRow past statement with _ | _ | _ <;> rfl

/-- What running a plan leaves behind. -/
def settle (op : Operation) (registry : Registry) (past : List Ask) (executor : Executor)
    (plan : Plan (Outcome Answer)) : Result Answer × Memory :=
  ((plan.run executor).result,
    ⟨registry, (plan.run executor).record, past ++ plan.calls.map op.ask⟩)

variable {server : Server} {past : List Ask} {executor : Executor} (h : Handle)
  (registry : Registry)

theorem settle_done (op : Operation) (outcome : Outcome Answer) :
    settle op registry past executor (.done outcome) =
      (outcome.result, ⟨registry, outcome.record, past⟩) := by
  simp [settle, Plan.run, Plan.calls]

/-! ## Operations -/

theorem run_current : (current h).run ⟨registry, h.record, past⟩ =
    (.ok h, ⟨registry, h.record, past⟩) := rfl

theorem run_storeId (s : Schema) (id : Option Value) :
    (storeId s id).run ⟨registry, h.record, past⟩ =
      ((h.storeId s id).result, ⟨registry, (h.storeId s id).record, past⟩) := by
  unfold storeId Handle.storeId
  cases s.autoIncrement? with
  | none => rfl
  | some d =>
    cases id with
    | none => rfl
    | some v =>
      simp only [run_assign]
      cases d.set h.record v <;> rfl

theorem perform_create (hreplies : RepliesAs .create server past executor) :
    h.perform server .create registry past =
      settle .create registry past executor (plan h .create) := by
  simp only [Handle.perform, program, createProgram, run_bind, run_ofResult, plan, Handle.create]
  cases h.schema with
  | error e => simp only [Plan.map, settle_done, Except.map]
  | ok s =>
    simp only [run_current]
    cases h.returning? s with
    | none =>
      simp only [Option.isSome_none, Bool.false_eq_true, if_false, run_bind, exec, run_ask, settle,
        Plan.map, Plan.run, Plan.calls, Function.comp, hreplies.exec]
      cases executor.exec (h.insertStatement s) with
      | error e => rfl
      | ok reply =>
        simp only [run_storeId, run_pure]
        cases (h.storeId s (reply.lastInsertId.map .int)).result <;> rfl
    | some column =>
      simp only [Option.isSome_some, if_true, run_bind, queryRow, run_ask, settle, Plan.map,
        Plan.run, Plan.calls, Function.comp, hreplies.queryRow rfl]
      cases executor.query (h.insertStatement s) with
      | error e => rfl
      | ok rows =>
        simp only [Except.bind]
        cases rows.first with
        | error e => rfl
        | ok row =>
          simp only [run_storeId, run_pure]
          cases (h.storeId s (row.map fun row => (row.take 0).1)).result <;> rfl

theorem perform_find (filter : Filter)
    (hreplies : RepliesAs (.find filter) server past executor) :
    h.perform server (.find filter) registry past =
      settle (.find filter) registry past executor (plan h (.find filter)) := by
  simp only [Handle.perform, program, findProgram, run_bind, run_ofResult, plan, Handle.find]
  cases h.schema with
  | error e => simp only [Plan.map, settle_done, Except.map]
  | ok s =>
    simp only [run_current]
    cases h.selectStatement s filter with
    | error e => simp only [Plan.map, settle_done, Except.map]
    | ok statement =>
      simp only [queryRow, run_ask, settle, Plan.map, Plan.run, Plan.calls, Function.comp,
        hreplies.queryRow rfl]
      cases executor.query statement with
      | error e => rfl
      | ok rows =>
        simp only [Except.bind]
        rcases rows.first with e | _ | row
        · rfl
        · rfl
        · simp only [run_bind, run_ofResult, run_assignAll]
          cases Schema.convertRow s.descriptors 0 row with
          | error e => rfl
          | ok values =>
            simp only [run_pure]
            cases (Schema.writeAll (s.descriptors.zip values) h.record).result <;> rfl

theorem perform_findAll (filter : Filter)
    (hreplies : RepliesAs (.findAll filter) server past executor) :
    h.perform server (.findAll filter) registry past =
      settle (.findAll filter) registry past executor (plan h (.findAll filter)) := by
  simp only [Handle.perform, program, findAllProgram, run_bind, run_ofResult, plan, Handle.findAll]
  cases h.schema with
  | error e => simp only [Plan.map, settle_done, Except.map]
  | ok s =>
    simp only [run_current]
    cases h.selectStatement s filter with
    | error e => simp only [Plan.map, settle_done, Except.map]
    | ok statement =>
      simp only [query, run_ask, settle, Plan.map, Plan.run, Plan.calls, Function.comp,
        hreplies.query rfl]
      cases executor.query statement with
      | error e => rfl
      | ok rows =>
        simp only [run_pure]
        cases s.records h.model.fresh rows <;> rfl

/-- The operations that write rows end alike. -/
theorem run_affectProgram {op : Operation} (hreplies : op.RepliesAs server past executor)
    (statement : Result Statement) :
    (affectProgram server statement).run ⟨registry, h.record, past⟩ =
      settle op registry past executor
        ((Handle.affect statement).map fun r => ⟨r.map .affected, h.record⟩) := by
  simp only [affectProgram, run_bind, run_ofResult, Handle.affect]
  cases statement with
  | error e => simp only [Plan.map, settle_done, Except.map]
  | ok statement =>
    simp only [exec, run_ask, run_pure, settle, Plan.map, Plan.run, Plan.calls, Function.comp,
      hreplies.exec]
    cases executor.exec statement <;> rfl

theorem run_writeProgram {op : Operation} (hreplies : op.RepliesAs server past executor)
    (choose : Assignments → Assignments) (filter : Filter) :
    (writeProgram server h choose filter).run ⟨registry, h.record, past⟩ =
      settle op registry past executor
        ((h.write choose filter).map fun r => ⟨r.map .affected, h.record⟩) := by
  simp only [writeProgram, run_bind, run_ofResult, Handle.write]
  cases h.schema with
  | error e => simp only [Plan.map, settle_done, Except.map]
  | ok s =>
    simp only [run_get]
    cases choose (s.assignments h.record) with
    | nil =>
      simp only [Plan.map, settle_done, Except.map]
      rfl
    | cons assignment rest => exact run_affectProgram h registry hreplies _

theorem perform_delete (filter : Filter)
    (hreplies : RepliesAs (.delete filter) server past executor) :
    h.perform server (.delete filter) registry past =
      settle (.delete filter) registry past executor (plan h (.delete filter)) := by
  simp only [Handle.perform, program, deleteProgram, run_bind, run_ofResult, plan, Handle.delete]
  cases h.schema with
  | error e => simp only [Plan.map, settle_done, Except.map]
  | ok s => exact run_affectProgram h registry hreplies _

theorem perform_count (filter : Filter)
    (hreplies : RepliesAs (.count filter) server past executor) :
    h.perform server (.count filter) registry past =
      settle (.count filter) registry past executor (plan h (.count filter)) := by
  simp only [Handle.perform, program, countProgram, run_bind, run_ofResult, plan, Handle.count]
  cases h.schema with
  | error e => simp only [Plan.map, settle_done, Except.map]
  | ok s =>
    simp only [run_get]
    cases h.dialect.count s.table filter (s.lookup h.record) with
    | error e => simp only [Plan.map, settle_done, Except.map]
    | ok statement =>
      simp only [queryRow, run_ask, run_pure, settle, Plan.map, Plan.run, Plan.calls,
        Function.comp, hreplies.queryRow rfl]
      cases executor.query statement with
      | error e => rfl
      | ok rows =>
        simp only [Except.bind]
        cases rows.first with
        | error e => rfl
        | ok row =>
          dsimp only
          cases Handle.countOf row <;> rfl

/-- Running the program of an operation is running its plan, with any executor that replies to it
as the server does. -/
theorem perform_eq {op : Operation} (hreplies : op.RepliesAs server past executor) :
    h.perform server op registry past = settle op registry past executor (op.plan h) := by
  cases op with
  | create => exact perform_create h registry hreplies
  | find filter => exact perform_find h registry filter hreplies
  | findAll filter => exact perform_findAll h registry filter hreplies
  | update filter | save filter => exact run_writeProgram h registry hreplies _ filter
  | delete filter => exact perform_delete h registry filter hreplies
  | count filter => exact perform_count h registry filter hreplies

/-- An operation that is done makes no request. -/
theorem perform_of_done {op : Operation} {outcome : Outcome Answer}
    (hplan : op.plan h = .done outcome) :
    h.perform server op registry past = (outcome.result, ⟨registry, outcome.record, past⟩) := by
  obtain ⟨executor, hreplies⟩ := op.exists_repliesAs server past
  rw [perform_eq h registry hreplies, hplan, settle_done]

/-- An operation that runs a statement makes that one request. -/
theorem perform_of_affect {op : Operation} {statement : Statement}
    (hplan : op.plan h =
      (Handle.affect (.ok statement)).map fun r => ⟨r.map .affected, h.record⟩) :
    h.perform server op registry past =
      ((server.exec past statement).map fun reply => .affected reply.rowsAffected,
        ⟨registry, h.record, past ++ [.exec statement]⟩) := by
  obtain ⟨executor, hreplies⟩ := op.exists_repliesAs server past
  rw [perform_eq h registry hreplies, hplan, hreplies.exec]
  simp only [settle, Handle.affect, Plan.map, Plan.run, Plan.calls, Function.comp]
  cases executor.exec statement <;> rfl

end Operation

end RelMap
