-- SUMMARY: What is built depends on the last words of the settings, and each database is one of its own.
import RelMap.Proofs.Build.Settings
import RelMap.Site

/-!
# Building by the last words

A build on a site is the build of its builder, with the database put at a new address. Nothing but
settings changes the builder, and nothing but registrations changes a database that is there. Main
statement: after any events, what a build comes to is what the last words of the settings say, and
building once more gives an equal database that nothing else refers to.
-/
namespace RelMap

namespace Site

open Builder (lastChoice lastPrefix queue Settles)
open Registration (Refused)

variable {s : Site} {b : Builder} {dbs : List Database} {db : Database} {a : Address}
variable {source : Source} {fallback : Option Dialect} {ev : Event} {events : List Event}

/-! ## One build -/

/-- A change of the newest database. -/
theorem change_newest (b : Builder) (dbs : List Database) (db : Database)
    (f : Database → Result Database) :
    change ⟨b, dbs ++ [db]⟩ dbs.length f =
      match f db with
      | .ok db' => (.ok (), ⟨b, dbs ++ [db']⟩)
      | .error e => (.error e, ⟨b, dbs ++ [db]⟩) := by
  simp only [change, List.getElem?_concat_length]
  cases f db with
  | ok db' => simp
  | error e => rfl

/-- Replaying with the newest database is registering one after the other, and changes no other
database, not even if it fails. -/
theorem replay_newest (b : Builder) (dbs : List Database) (db : Database)
    (models : List (ModelType × String)) :
    ∃ half, replay ⟨b, dbs ++ [db]⟩ dbs.length models =
      match db.registerAll models with
      | .ok db' => (.ok (), ⟨b, dbs ++ [db']⟩)
      | .error e => (.error e, ⟨b, dbs ++ [half]⟩) := by
  induction models generalizing db with
  | nil => exact ⟨db, rfl⟩
  | cons p models ih =>
    obtain ⟨m, table⟩ := p
    rw [replay, change_newest, Database.registerAll]
    cases db.register m table with
    | ok db' => exact ih db'
    | error e => exact ⟨db, rfl⟩

theorem buildFor_eq (s : Site) (d : Dialect) : s.buildFor d =
    match s.builder.buildFor d with
    | .ok db => (.ok s.databases.length, { s with databases := s.databases ++ [db] })
    | .error e => (.error e, s) := by
  obtain ⟨half, hreplay⟩ := replay_newest s.builder s.databases
    { dialect := d, tablePrefix := s.builder.tablePrefix } s.builder.models
  simp only [buildFor, Builder.buildFor, hreplay]
  cases Database.registerAll { dialect := d, tablePrefix := s.builder.tablePrefix }
      s.builder.models with
  | ok db => rfl
  | error e => simp

/-- A build that succeeds puts the database of the builder at a new address, and one that fails
leaves nothing behind. -/
theorem build_eq (s : Site) (h : source.fallback = .ok fallback) : s.build source =
    match s.builder.build fallback with
    | .ok db => (.ok s.databases.length, { s with databases := s.databases ++ [db] })
    | .error e => (.error e, s) := by
  simp only [build, h, Builder.build, buildFor_eq]
  cases s.builder.dialect fallback <;> rfl

/-- Building on the driver of a URL is connecting. -/
theorem build_url (s : Site) (url : String) : s.build (.url url) =
    match s.builder.connect url with
    | .ok db => (.ok s.databases.length, { s with databases := s.databases ++ [db] })
    | .error e => (.error e, s) := by
  cases hendpoint : Endpoint.ofText url with
  | ok endpoint =>
    have h : (Source.url url).fallback = .ok (some endpoint.dialect) := by
      rw [Source.fallback, hendpoint]
    rw [build_eq s h, Builder.connect, hendpoint]
  | error e => rw [build, Source.fallback, Builder.connect, hendpoint]

/-! ## Events -/

/-- A change changes one database at most. -/
theorem change_cases (s : Site) (a : Address) (f : Database → Result Database) :
    (s.change a f).2 = s ∨ ∃ db, (s.change a f).2 = { s with databases := s.databases.set a db } := by
  unfold change
  split
  · next db _ =>
    cases f db with
    | ok db' => exact .inr ⟨db', rfl⟩
    | error e => exact .inl rfl
  · exact .inl rfl

/-- A build adds one database at most. -/
theorem build_cases (s : Site) (source : Source) :
    (s.build source).2 = s ∨
      ∃ db, (s.build source).2 = { s with databases := s.databases ++ [db] } := by
  cases h : source.fallback with
  | error e => exact .inl (by rw [build, h])
  | ok fallback =>
    rw [build_eq s h]
    cases s.builder.build fallback with
    | ok db => exact .inr ⟨db, rfl⟩
    | error e => exact .inl rfl

/-- What an event does: it makes a setting, or adds a database, or changes one that it registers
with. -/
theorem step_cases (s : Site) (ev : Event) :
    (∃ x, ev.setting? = some x ∧ s.step ev = { s with builder := s.builder.set x }) ∨
      ev.setting? = none ∧ (s.step ev = s ∨
        (∃ db, s.step ev = { s with databases := s.databases ++ [db] }) ∨
        ∃ a db, ev.Changes a ∧ s.step ev = { s with databases := s.databases.set a db }) := by
  have hchange (a : Address) (f : Database → Result Database) (ha : ev.Changes a) :
      (s.change a f).2 = s ∨ (∃ db, (s.change a f).2 = { s with databases := s.databases ++ [db] }) ∨
        ∃ a' db, ev.Changes a' ∧
          (s.change a f).2 = { s with databases := s.databases.set a' db } :=
    (s.change_cases a f).imp_right fun ⟨db, h⟩ => .inr ⟨a, db, ha, h⟩
  cases ev with
  | set x => exact .inl ⟨x, rfl, rfl⟩
  | build source => exact .inr ⟨rfl, (s.build_cases source).imp_right .inl⟩
  | register a m table => exact .inr ⟨rfl, hchange a _ rfl⟩
  | enroll a m table => exact .inr ⟨rfl, hchange a _ rfl⟩

/-- The settings among events. -/
def settings (events : List Event) : List Setting := events.filterMap Event.setting?

/-- A builder has taken up the settings, whatever else has happened. -/
theorem builder_run (s : Site) (events : List Event) :
    (s.run events).builder = (settings events).foldl Builder.set s.builder := by
  induction events generalizing s with
  | nil => rfl
  | cons ev events ih =>
    have hrun : s.run (ev :: events) = (s.step ev).run events := rfl
    rw [hrun, ih]
    obtain ⟨x, hx, hstep⟩ | ⟨hx, hstep⟩ := s.step_cases ev
    · rw [hstep, settings, settings, List.filterMap_cons_some hx, List.foldl_cons]
    · rw [settings, settings, List.filterMap_cons_none hx]
      obtain hstep | ⟨db, hstep⟩ | ⟨a, db, -, hstep⟩ := hstep <;> rw [hstep]

/-- No database is lost. -/
theorem length_step (s : Site) (ev : Event) :
    s.databases.length ≤ (s.step ev).databases.length := by
  obtain ⟨x, -, hstep⟩ | ⟨-, hstep | ⟨db, hstep⟩ | ⟨b, db, -, hstep⟩⟩ := s.step_cases ev <;>
    rw [hstep]
  · rw [List.length_append]
    exact Nat.le_add_right _ _
  · rw [List.length_set]

theorem length_run (s : Site) (events : List Event) :
    s.databases.length ≤ (s.run events).databases.length := by
  induction events generalizing s with
  | nil => exact Nat.le_refl _
  | cons ev events ih => exact (s.length_step ev).trans (ih (s.step ev))

/-- A database that an event does not register with is left as it is. -/
theorem getElem?_step (ha : a < s.databases.length) (hev : ¬ ev.Changes a) :
    (s.step ev).databases[a]? = s.databases[a]? := by
  obtain ⟨x, -, hstep⟩ | ⟨-, hstep | ⟨db, hstep⟩ | ⟨b, db, hb, hstep⟩⟩ := s.step_cases ev <;>
    rw [hstep]
  · exact List.getElem?_append_left ha
  · have hne : b ≠ a := fun heq => hev (heq ▸ hb)
    exact List.getElem?_set_ne hne

theorem getElem?_run (ha : a < s.databases.length) (hevents : ∀ ev ∈ events, ¬ ev.Changes a) :
    (s.run events).databases[a]? = s.databases[a]? := by
  induction events generalizing s with
  | nil => rfl
  | cons ev events ih =>
    obtain ⟨hev, hrest⟩ := List.forall_mem_cons.mp hevents
    have hlt : a < (s.step ev).databases.length := Nat.lt_of_lt_of_le ha (s.length_step ev)
    exact (ih hlt hrest).trans (getElem?_step ha hev)

/-! ## Last words -/

/-- What a build comes to by the last words of settings, where `fallback` is the dialect of the
driver. -/
structure Follows (s : Site) (settings : List Setting) (fallback : Option Dialect)
    (outcome : Result Address × Site) : Prop where
  /-- Nothing is said of the dialect, and there is no driver. -/
  unset : lastChoice settings = none → fallback = none →
    outcome = (.error (.invalidArgument
      "no SQL dialect configured; call \x60dialect\x60 or \x60flavor\x60 on the builder"), s)
  /-- The last word on the dialect is a name that is not known. -/
  unknown : ∀ name, lastChoice settings = some (.named name) →
    (∀ d, Dialect.ofName name ≠ .ok d) → outcome = (.error (.invalidDialect name), s)
  /-- The dialect is settled, and something in the queue is refused: the first of it counts. -/
  refused : ∀ d, Settles settings fallback d →
    ∀ before m table after, queue settings = before ++ (m, table) :: after →
      (∀ p ∈ before, ¬ Refused (lastPrefix settings) p.2) → Refused (lastPrefix settings) table →
        outcome = (.error (.invalidArgument
          ("table name for \x60" ++ m.name ++ "\x60 must not be empty")), s)
  /-- The dialect is settled, and nothing in the queue is refused. -/
  built : ∀ d, Settles settings fallback d →
    (∀ p ∈ queue settings, ¬ Refused (lastPrefix settings) p.2) →
      ∃ db, db.Replays d (lastPrefix settings) (queue settings) ∧
        outcome = (.ok s.databases.length, { s with databases := s.databases ++ [db] })

theorem follows (events : List Event) (h : source.fallback = .ok fallback) :
    (run {} events).Follows (settings events) fallback ((run {} events).build source) := by
  have hbuilder : (run {} events).builder = Builder.ofSettings (settings events) :=
    builder_run {} events
  rw [build_eq _ h, hbuilder]
  exact {
    unset hchoice hfallback := by
      rw [hfallback, Builder.build_unset hchoice]
    unknown name hchoice hunknown := by
      rw [Builder.build_unknown hchoice hunknown]
    refused d hd before m table after hqueue hbefore hrefused := by
      rw [Builder.build_refused hd hqueue hbefore hrefused]
    built d hd hqueued := by
      obtain ⟨db, hdb, hreplays⟩ := Builder.exists_build hd hqueued
      exact ⟨db, hreplays, by rw [hdb, hbuilder]⟩ }

/-! ## Building again -/

/-- A build that succeeds has built the database of the builder. -/
theorem eq_of_build {s₁ : Site} (h : source.fallback = .ok fallback)
    (hbuild : s.build source = (.ok a, s₁)) :
    ∃ db, s.builder.build fallback = .ok db ∧ a = s.databases.length ∧
      s₁ = { s with databases := s.databases ++ [db] } := by
  rw [build_eq s h] at hbuild
  cases hdb : s.builder.build fallback with
  | ok db =>
    rw [hdb] at hbuild
    cases hbuild
    exact ⟨db, rfl, rfl, rfl⟩
  | error e =>
    rw [hdb] at hbuild
    cases hbuild

/-- Two databases that events change apart from each other. -/
structure Apart (s : Site) (a b : Address) : Prop where
  ne : a ≠ b
  left : ∀ events : List Event, (∀ ev ∈ events, ¬ ev.Changes a) →
    (s.run events).databases[a]? = s.databases[a]?
  right : ∀ events : List Event, (∀ ev ∈ events, ¬ ev.Changes b) →
    (s.run events).databases[b]? = s.databases[b]?

theorem apart_of_lt {b : Address} (hab : a < b) (hb : b < s.databases.length) : s.Apart a b where
  ne := Nat.ne_of_lt hab
  left _ hevents := getElem?_run (hab.trans hb) hevents
  right _ hevents := getElem?_run hb hevents

/-- Of a builder only the last words count, whatever else has happened, and it can build again: an
equal database, apart from the one that it has built before. -/
theorem build_last_words (events : List Event) (source : Source) (fallback : Option Dialect)
    (h : source.fallback = .ok fallback) :
    let s := run {} events
    s.Follows (settings events) fallback (s.build source) ∧
      ∀ a s₁, s.build source = (.ok a, s₁) →
        ∀ between source', settings between = [] → source'.fallback = .ok fallback →
          ∃ a' s₂, (s₁.run between).build source' = (.ok a', s₂) ∧
            s₂.databases[a']? = s₁.databases[a]? ∧
            s₂.databases[a]? = (s₁.run between).databases[a]? ∧ s₂.Apart a a' := by
  intro s
  refine ⟨follows events h, ?_⟩
  intro a s₁ hbuild between source' hbetween h'
  obtain ⟨db, hdb, ha, hs₁⟩ := eq_of_build h hbuild
  let t := s₁.run between
  -- The first build and what came between have left the builder as it was.
  have hbuilder : t.builder = s.builder := by
    rw [builder_run, hbetween, hs₁]
    rfl
  have ha₁ : a < s₁.databases.length := by
    rw [hs₁, ha, List.length_append]
    exact Nat.lt_succ_self _
  have hat : a < t.databases.length := Nat.lt_of_lt_of_le ha₁ (s₁.length_run between)
  refine ⟨t.databases.length, { t with databases := t.databases ++ [db] }, ?_, ?_, ?_, ?_⟩
  · rw [build_eq _ h', hbuilder, hdb]
  · rw [hs₁, ha]
    exact List.getElem?_concat_length.trans List.getElem?_concat_length.symm
  · exact List.getElem?_append_left hat
  · refine apart_of_lt hat ?_
    rw [List.length_append]
    exact Nat.lt_succ_self _

/-- A build that fails comes before a better word on the dialect, the prefix comes after the first
registration, and the driver would have another dialect. Between two builds the first database is
changed. -/
theorem build_last_words_people :
    let user : ModelType := ⟨"User", []⟩
    let events : List Event := [.set (.register user "users"), .set (.choose (.named "oracle")),
      .build .executor, .set (.choose (.dialect .mysql)), .set (.tablePrefix "app_"),
      .set (.choose (.named "pg")), .set (.register user "people")]
    let source := Source.url "sqlite::memory:"
    source.fallback = .ok (some .sqlite) ∧
      ∃ db s₁ a s₂, (run {} events).build source = (.ok 0, s₁) ∧ s₁.databases = [db] ∧
        db.dialect = .postgresql ∧ db.registry.get user = .ok (.ofFields "app_people" []) ∧
        (s₁.run [.register 0 user "members"]).build source = (.ok a, s₂) ∧ a ≠ 0 ∧
        s₂.databases[a]? = some db := by
  intro user events source
  have h : source.fallback = .ok (some .sqlite) := by decide +kernel
  have hqueue : queue (settings events) = [(user, "users")] ++ (user, "people") :: [] := rfl
  have hqueued : ∀ p ∈ queue (settings events), ¬ Refused (lastPrefix (settings events)) p.2 := by
    unfold Refused
    decide +kernel
  have hd : Settles (settings events) (some .sqlite) .postgresql := by
    show Dialect.ofName "pg" = .ok .postgresql
    rfl
  have hempty : (run {} events).databases = [] := by decide +kernel
  obtain ⟨hfollows, hagain⟩ := build_last_words events source (some .sqlite) h
  obtain ⟨db, hreplays, hbuild⟩ := hfollows.built .postgresql hd hqueued
  obtain ⟨a, s₂, hbuild', hequal, -, hapart⟩ :=
    hagain _ _ hbuild [.register 0 user "members"] source rfl h
  rw [hempty] at hbuild hbuild' hequal hapart
  refine ⟨h, db, _, a, s₂, hbuild, rfl, hreplays.dialect, ?_, hbuild', hapart.ne.symm, hequal⟩
  exact hreplays.last _ user "people" [] hqueue (List.forall_mem_nil _) user rfl

end Site

end RelMap
