-- SUMMARY: Over every run of calls on a connection, which row ids the replies report.
import RelMap.Proofs.Text.Blanks
import RelMap.Sqlite.Table

/-!
# Reported row ids

A connection remembers the last row id that was inserted through it, by any call and at any
time, and `exec` decides by the text of its statement alone whether to report it. Main
statement: a reply reports the id of the last row that its own statement inserted, unless the
text reads as an INSERT and nothing was inserted; then it reports what an earlier call left.
-/
namespace RelMap

theorem Text.toLower_of_isBlank {c : Char} (h : Text.isBlank c = true) : c.toLower = c := by
  refine dif_neg fun ⟨hA, hZ⟩ => ?_
  have hlow : 65 ≤ c.toNat := hA
  have hhigh : c.toNat ≤ 90 := hZ
  simp only [Text.isBlank, Bool.or_eq_true, Bool.and_eq_true, decide_eq_true_eq,
    beq_iff_eq] at h
  omega

namespace Sqlite

/-! ## The first word of a statement -/

/-- What a statement that changes rows can start with. -/
inductive Keyword where
  | insert
  | update
  | delete

namespace Keyword

def letters : Keyword → String
  | .insert => "insert"
  | .update => "update"
  | .delete => "delete"

theorem length_letters (k : Keyword) : k.letters.toList.length = 6 := by
  cases k <;> rfl

theorem isBlank_head {k : Keyword} {c : Char} (h : k.letters.toList.head? = some c) :
    Text.isBlank c = false := by
  cases k <;> cases h <;> rfl

theorem letters_inj {k k' : Keyword} (h : k.letters = k'.letters) : k = k' := by
  cases k <;> cases k' <;> first | rfl | exact absurd h (by decide)

/-- Behind blanks, the text starts with the letters of the keyword in any case. -/
def Begins (k : Keyword) (text : String) : Prop :=
  ∃ front head rest, Text.Blanks front ∧ head.map Char.toLower = k.letters.toList ∧
    text.toList = front ++ head ++ rest

variable {k k' : Keyword} {text : String}

theorem begins_iff : k.Begins text ↔
    ((Text.trimStart text.toList).take 6).map Char.toLower = k.letters.toList := by
  rw [← k.length_letters]
  constructor
  · rintro ⟨front, head, rest, hfront, hhead, htext⟩
    -- a blank is its own lower case, so the keyword would start with a blank
    have hdrop : Text.trimStart (head ++ rest) = head ++ rest := by
      refine Text.dropWhile_isBlank fun c hc => Bool.eq_false_iff.mpr fun hblank => ?_
      cases head with
      | nil => exact absurd (congrArg List.length hhead) (by simp [k.length_letters])
      | cons c' cs =>
        obtain rfl := Option.some.inj hc
        have hlower := k.isBlank_head (c := c'.toLower) (by rw [← hhead]; rfl)
        rw [Text.toLower_of_isBlank hblank, hblank] at hlower
        cases hlower
    rw [htext, List.append_assoc, Text.trimStart_append hfront, hdrop, ← hhead, List.length_map,
      List.take_left]
  · intro h
    obtain ⟨front, hfront, hsplit⟩ := Text.exists_trimStart text.toList
    refine ⟨front, _, (Text.trimStart text.toList).drop k.letters.toList.length, hfront, h, ?_⟩
    rwa [List.append_assoc, List.take_append_drop]

theorem Begins.unique (h : k.Begins text) (h' : k'.Begins text) : k = k' :=
  letters_inj (String.toList_injective ((begins_iff.mp h).symm.trans (begins_iff.mp h')))

end Keyword

theorem isInsert_iff {sql : String} : isInsert sql = true ↔ Keyword.insert.Begins sql := by
  rw [Keyword.begins_iff]
  exact beq_iff_eq

/-! ## One call -/

variable {σ : Type} {s : Store σ} {c : Command σ} {args : List Value} {reply : ExecReply}

namespace Store

/-- Every call leaves the connection with what it inserted. -/
theorem connection_step (s : Store σ) (a : Act σ) :
    (s.step a).2.connection = s.connection.after (s.effect a) := by
  cases a with
  | exec c args =>
    simp only [step, exec, effect]
    cases s.execute c args <;> rfl
  | query c args =>
    simp only [step, query, effect]
    cases s.execute c args <;> rfl
  | batch c =>
    simp only [step, batch, effect]
    cases s.execute c [] <;> rfl

/-- There is a reply if the statement ran and did not fail. It is made on the connection as the
statement leaves it. -/
theorem step_eq_reply_iff : (s.step (.exec c args)).1 = .executed (.ok reply) ↔
    ∃ e, s.execute c args = .ok e ∧ e.failure = none ∧
      reply = (s.connection.after e.effect).reply c.sql e.effect := by
  simp only [step, exec, Response.executed.injEq]
  cases s.execute c args with
  | error e => simp
  | ok e =>
    simp only [Except.ok.injEq, exists_eq_left', Execution.result, Connection.report]
    cases e.failure with
    | none => simp [eq_comm]
    | some error => simp

theorem effect_of_execute {e : Execution σ} (h : s.execute c args = .ok e) :
    s.effect (.exec c args) = e.effect := by
  rw [effect, h]
  rfl

/-! ## Runs -/

variable {acts : List (Act σ)}

@[simp] theorem run_cons (s : Store σ) (a : Act σ) (acts : List (Act σ)) :
    s.run (a :: acts) = (s.step a).2.run acts := rfl

/-- A call sees the store that the calls before it left. -/
theorem getElem?_observe (see : Store σ → Act σ → α) (s : Store σ) (acts : List (Act σ))
    (i : Nat) : (s.observe see acts)[i]? = acts[i]?.map (see (s.run (acts.take i))) := by
  induction acts generalizing s i with
  | nil => rfl
  | cons a acts ih =>
    cases i with
    | zero => rfl
    | succ i => exact ih (s.step a).2 i

theorem take_observe (see : Store σ → Act σ → α) (s : Store σ) (acts : List (Act σ)) (i : Nat) :
    (s.observe see acts).take i = s.observe see (acts.take i) := by
  induction acts generalizing s i with
  | nil => simp [observe]
  | cons a acts ih =>
    cases i with
    | zero => rfl
    | succ i => exact congrArg (see s a :: ·) (ih (s.step a).2 i)

theorem run_take_succ {a : Act σ} {i : Nat} (h : acts[i]? = some a) :
    s.run (acts.take (i + 1)) = ((s.run (acts.take i)).step a).2 := by
  rw [run, List.take_add_one, h, List.foldl_append]
  rfl

/-- The last of all ids that were inserted, or the one that there was before. -/
theorem connection_run (s : Store σ) (acts : List (Act σ)) :
    (s.run acts).connection.lastInsertId =
      ((s.effects acts).flatMap Effect.inserted).getLastD s.connection.lastInsertId := by
  induction acts generalizing s with
  | nil => rfl
  | cons a acts ih =>
    rw [run_cons, ih, connection_step, Connection.after, effects, observe, List.flatMap_cons]
    simp only [List.getLastD_eq_getLast?, List.getLast?_append, Option.getD_or]

end Store

/-! ## Reported ids -/

/-- An id that is reported is the last of some ids. -/
def ReportsLast (reply : ExecReply) (ids : List Int64) : Prop :=
  ∀ id, reply.lastInsertId = some id → ∃ last, ids.getLast? = some last ∧ id = .ofInt64 last

namespace Connection

theorem lastInsertId_reply_iff {c : Connection} {sql : String} {e : Effect} {id : FixedInt} :
    (c.reply sql e).lastInsertId = some id ↔
      Keyword.insert.Begins sql ∧ id = .ofInt64 c.lastInsertId := by
  rw [← isInsert_iff, reply, Option.ite_none_right_eq_some, Option.some.injEq,
    eq_comm (a := id)]

/-- An INSERT reports an id even if it inserted nothing, which is not one of its own. -/
theorem reportsLast_reply_iff {c : Connection} {sql : String} {e : Effect} :
    ReportsLast ((c.after e).reply sql e) e.inserted ↔
      ¬(Keyword.insert.Begins sql ∧ e.inserted = []) := by
  simp only [ReportsLast, lastInsertId_reply_iff]
  constructor
  · rintro h ⟨hreads, hnil⟩
    obtain ⟨last, hlast, -⟩ := h _ ⟨hreads, rfl⟩
    rw [hnil] at hlast
    cases hlast
  · rintro h id ⟨hreads, rfl⟩
    obtain hnil | ⟨ids, last, hids⟩ := List.eq_nil_or_concat e.inserted
    · exact absurd ⟨hreads, hnil⟩ h
    · rw [List.concat_eq_append] at hids
      exact ⟨last, by rw [hids, List.getLast?_concat], by rw [lastInsertId_after_append _ hids]⟩

end Connection

/-- The replies of a run. A statement that ran and did not fail has one. Which id it reports depends
on all that was inserted up to then, and whether it reports one on the text alone; so the id is the
statement's own but for INSERTs that inserted nothing. -/
theorem exec_reports_row_id (database : σ) (acts : List (Act σ)) {i : Nat}
    (hact : acts[i]? = some (.exec c args)) :
    let s := Store.opened database
    let effects := s.effects acts
    ((∃ reply, (s.responses acts)[i]? = some (.executed (.ok reply))) ↔
      ∃ e, (s.run (acts.take i)).execute c args = .ok e ∧ e.failure = none) ∧
    ∀ reply, (s.responses acts)[i]? = some (.executed (.ok reply)) →
      ∃ e, effects[i]? = some e ∧ reply.rowsAffected = e.changed ∧
        (ReportsLast reply e.inserted ↔ ¬(Keyword.insert.Begins c.sql ∧ e.inserted = [])) ∧
        (∀ id, reply.lastInsertId = some id ↔ Keyword.insert.Begins c.sql ∧
          id = .ofInt64 (((effects.take (i + 1)).flatMap Effect.inserted).getLastD 0)) ∧
        (Keyword.update.Begins c.sql ∨ Keyword.delete.Begins c.sql →
          reply.lastInsertId = none) := by
  intro s effects
  let before := s.run (acts.take i)
  have hresponse (reply : ExecReply) : (s.responses acts)[i]? = some (.executed (.ok reply)) ↔
      ∃ e, before.execute c args = .ok e ∧ e.failure = none ∧
        reply = (before.connection.after e.effect).reply c.sql e.effect := by
    rw [Store.responses, Store.getElem?_observe, hact, Option.map_some, Option.some.injEq,
      Store.step_eq_reply_iff]
  refine ⟨⟨?_, ?_⟩, fun reply hreply => ?_⟩
  · rintro ⟨reply, hreply⟩
    obtain ⟨e, hexecute, hfailure, -⟩ := (hresponse reply).mp hreply
    exact ⟨e, hexecute, hfailure⟩
  · rintro ⟨e, hexecute, hfailure⟩
    exact ⟨_, (hresponse _).mpr ⟨e, hexecute, hfailure, rfl⟩⟩
  · obtain ⟨e, hexecute, -, rfl⟩ := (hresponse reply).mp hreply
    have heffect := Store.effect_of_execute hexecute
    have hafter : (s.run (acts.take (i + 1))).connection = before.connection.after e.effect := by
      rw [Store.run_take_succ hact, Store.connection_step, heffect]
    refine ⟨e.effect, ?_, rfl, Connection.reportsLast_reply_iff, fun id => ?_, fun hbegins => ?_⟩
    · change (s.effects acts)[i]? = _
      rw [Store.effects, Store.getElem?_observe, hact, Option.map_some, heffect]
    · rw [Connection.lastInsertId_reply_iff, ← hafter, Store.connection_run, Store.effects,
        ← Store.take_observe]
      rfl
    · have hnot : ¬Keyword.insert.Begins c.sql := fun hinsert => by
        rcases hbegins with hbegins | hbegins
        · cases hinsert.unique hbegins
        · cases hinsert.unique hbegins
      rw [Connection.reply, Bool.eq_false_iff.mpr (mt isInsert_iff.mp hnot)]
      rfl

/-- Two rows are inserted after an UPDATE, and the id of the second one is reported. -/
theorem exec_reports_row_id_pair :
    let acts : List (Act Contents) :=
      [.exec (.insert "INSERT" 1) [.int (.ofInt64 7)], .exec .update [.int (.ofInt64 8)],
        .exec (.insert "insert or ignore" 2) [.null, .null]]
    let reply : ExecReply := ⟨2, some (.ofInt64 3)⟩
    ((Store.opened {}).responses acts)[2]? = some (.executed (.ok reply)) ∧
      ((Store.opened {}).effects acts)[2]?.map Effect.inserted = some [2, 3] ∧
      ReportsLast reply [2, 3] := by
  intro acts reply
  have hreply : ((Store.opened {}).responses acts)[2]? = some (.executed (.ok reply)) := rfl
  have hact : acts[2]? = some (.exec (.insert "insert or ignore" 2) [.null, .null]) := rfl
  obtain ⟨-, hreplies⟩ := exec_reports_row_id ({} : Contents) acts hact
  obtain ⟨e, heffect, -, hown, -⟩ := hreplies reply hreply
  have hids : ((Store.opened {}).effects acts)[2]?.map Effect.inserted = some [2, 3] := by decide
  have hinserted : some e.inserted = some [2, 3] :=
    (congrArg (Option.map Effect.inserted) heffect).symm.trans hids
  rw [Option.some.inj hinserted] at hown
  exact ⟨hreply, hids, hown.mpr fun h => nomatch h.2⟩

/-- Every row that an INSERT would copy is there already. It inserts nothing and reports the id
that the INSERT before it left. -/
theorem leftover_id_reported :
    let acts : List (Act Contents) :=
      [.exec (.insert "INSERT" 1) [.int (.ofInt64 7)],
        .exec (.copy " -- INTO t DEFAULT VALUES") []]
    let reply : ExecReply := ⟨0, some (.ofInt64 1)⟩
    ((Store.opened {}).responses acts)[1]? = some (.executed (.ok reply)) ∧
      ((Store.opened {}).effects acts)[1]? = some ⟨0, []⟩ ∧ ¬ReportsLast reply [] := by
  refine ⟨rfl, rfl, fun h => ?_⟩
  obtain ⟨last, hlast, -⟩ := h _ rfl
  cases hlast

end Sqlite

end RelMap
