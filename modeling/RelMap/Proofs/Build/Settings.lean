-- SUMMARY: Of the settings of a builder the last words count, and its queue is replayed in order.
import RelMap.Proofs.Registrations

/-!
# Settings

`lastChoice`, `lastPrefix` and `queue` read off a list of settings what a builder should go by. The
fields of a builder hold just that. `Database.Replays` says what a database should hold in the end,
and `registerAll` builds one that does, or fails with the first registration that is refused.
-/
namespace RelMap

/-! ## Last words -/

namespace Setting

/-- What a setting says of the dialect. -/
def choice? : Setting → Option DialectChoice
  | .choose choice => some choice
  | _ => none

/-- What a setting says of the prefix. -/
def tablePrefix? : Setting → Option String
  | .tablePrefix p => some p
  | _ => none

/-- What a setting puts into the queue: a model and the name of its table, without a prefix. -/
def queued? : Setting → Option (ModelType × String)
  | .register m table => some (m, table)
  | _ => none

end Setting

namespace Builder

/-- The last choice of a dialect, by name or not. -/
def lastChoice (settings : List Setting) : Option DialectChoice :=
  (settings.filterMap Setting.choice?).getLast?

/-- The last prefix, which is empty at first. -/
def lastPrefix (settings : List Setting) : String :=
  (settings.filterMap Setting.tablePrefix?).getLast?.getD ""

/-- All that was put into the queue, in order. -/
def queue (settings : List Setting) : List (ModelType × String) :=
  settings.filterMap Setting.queued?

/-- What a builder goes by when it chooses the dialect. -/
def choice (b : Builder) : Option DialectChoice :=
  (b.chosenName.map .named).or (b.chosen.map .dialect)

variable {settings : List Setting} {x : Setting} {d : Dialect} {fallback : Option Dialect}

theorem ofSettings_concat (settings : List Setting) (x : Setting) :
    ofSettings (settings ++ [x]) = (ofSettings settings).set x := List.foldl_append

/-- One more word comes after all others. -/
theorem getLast?_filterMap_concat (settings : List Setting) (x : Setting)
    (f : Setting → Option α) :
    ((settings ++ [x]).filterMap f).getLast? = (f x).or (settings.filterMap f).getLast? := by
  rw [List.filterMap_append, List.getLast?_append]
  cases h : f x <;> simp [h]

/-- A choice takes the place of the one before, of whichever kind the two are. -/
theorem choice_set (b : Builder) (x : Setting) : (b.set x).choice = x.choice?.or b.choice := by
  cases x with
  | choose c => cases c <;> rfl
  | tablePrefix p => rfl
  | register m table => rfl

theorem choice_ofSettings (settings : List Setting) :
    (ofSettings settings).choice = lastChoice settings := by
  induction settings using List.reverseRecOn with
  | nil => rfl
  | append_singleton settings x ih =>
    rw [ofSettings_concat, choice_set, ih, lastChoice, lastChoice, getLast?_filterMap_concat]

theorem tablePrefix_set (b : Builder) (x : Setting) :
    (b.set x).tablePrefix = x.tablePrefix?.getD b.tablePrefix := by
  cases x with
  | choose c => cases c <;> rfl
  | tablePrefix p => rfl
  | register m table => rfl

theorem tablePrefix_ofSettings (settings : List Setting) :
    (ofSettings settings).tablePrefix = lastPrefix settings := by
  induction settings using List.reverseRecOn with
  | nil => rfl
  | append_singleton settings x ih =>
    rw [ofSettings_concat, tablePrefix_set, ih, lastPrefix, lastPrefix, getLast?_filterMap_concat]
    cases x.tablePrefix? <;> rfl

theorem models_set (b : Builder) (x : Setting) :
    (b.set x).models = b.models ++ x.queued?.toList := by
  cases x with
  | choose c => cases c <;> exact (List.append_nil _).symm
  | tablePrefix p => exact (List.append_nil _).symm
  | register m table => rfl

theorem models_ofSettings (settings : List Setting) :
    (ofSettings settings).models = queue settings := by
  induction settings using List.reverseRecOn with
  | nil => rfl
  | append_singleton settings x ih =>
    rw [ofSettings_concat, models_set, ih, queue, queue, List.filterMap_append]
    cases h : x.queued? <;> simp [h]

/-! ## Dialects -/

/-- Whether the last word on the dialect, or else the dialect of the driver, settles it. -/
def Settles (settings : List Setting) (fallback : Option Dialect) (d : Dialect) : Prop :=
  match lastChoice settings with
  | some (.named name) => Dialect.ofName name = .ok d
  | some (.dialect d') => d' = d
  | none => fallback = some d

/-- A name that is not known is given back in the error. -/
theorem ofName_unknown {name : String} (h : ∀ d, Dialect.ofName name ≠ .ok d) :
    Dialect.ofName name = .error (.invalidDialect name) := by
  have hcases : (∃ d, Dialect.ofName name = .ok d) ∨
      Dialect.ofName name = .error (.invalidDialect name) := by
    simp only [Dialect.ofName]
    split
    · next d _ => exact .inl ⟨d, rfl⟩
    · exact .inr rfl
  exact hcases.resolve_left fun ⟨d, hd⟩ => h d hd

theorem dialect_eq (b : Builder) (fallback : Option Dialect) : b.dialect fallback =
    match b.choice, fallback with
    | some (.named name), _ => Dialect.ofName name
    | some (.dialect d), _ => .ok d
    | none, some d => .ok d
    | none, none => .error (.invalidArgument
      "no SQL dialect configured; call \x60dialect\x60 or \x60flavor\x60 on the builder") := by
  obtain ⟨chosen, chosenName, tablePrefix, models⟩ := b
  cases chosenName <;> cases chosen <;> cases fallback <;> rfl

theorem dialect_of_settles (h : Settles settings fallback d) :
    (ofSettings settings).dialect fallback = .ok d := by
  rw [dialect_eq, choice_ofSettings]
  rw [Settles] at h
  split at h
  · next heq => rw [heq]; exact h
  · next heq => rw [heq]; exact congrArg Except.ok h
  · next heq => rw [heq, h]

end Builder

/-! ## Registrations -/

/-- Whether a table cannot have a name: it has none, or with the prefix the name is blank. -/
def Registration.Refused (tablePrefix table : String) : Prop :=
  table = "" ∨ (Text.trim (tablePrefix ++ table).toList).isEmpty = true

namespace Database

open Registration (Refused)

variable {db : Database} {m : ModelType} {table : String} {models : List (ModelType × String)}

theorem register_of_refused (h : Refused db.tablePrefix table) : db.register m table =
    .error (.invalidArgument ("table name for \x60" ++ m.name ++ "\x60 must not be empty")) := by
  have hblank : (Text.trim (if table.isEmpty then "" else db.tablePrefix ++ table).toList).isEmpty =
      true := by
    split
    · rfl
    · next hne => exact h.resolve_left (by simpa using hne)
  simp only [register, Registry.register, hblank, if_true]

theorem register_of_not_refused (h : ¬ Refused db.tablePrefix table) : db.register m table =
    .ok { db with
      registry := db.registry.insert m.id (.ofFields (db.tablePrefix ++ table) m.fields) } := by
  obtain ⟨hne, hblank⟩ := not_or.mp h
  have hne : table.isEmpty = false := by simpa using hne
  simp only [register, Registry.register, hne, hblank, Bool.false_eq_true, if_false]

/-- The registrations that are made of a queue with a prefix. -/
def entries (given : String) (models : List (ModelType × String)) : List Registration :=
  models.map fun p => ⟨p.1, given ++ p.2⟩

theorem entries_append_cons {given : String} {before after : List (ModelType × String)} :
    entries given (before ++ (m, table) :: after) =
      entries given before ++ ⟨m, given ++ table⟩ :: entries given after := List.map_append

/-- Models of which none is refused are all entered. -/
theorem registerAll_of_not_refused (db : Database)
    (h : ∀ p ∈ models, ¬ Refused db.tablePrefix p.2) :
    db.registerAll models =
      .ok { db with registry := db.registry.enter (entries db.tablePrefix models) } := by
  induction models generalizing db with
  | nil => rfl
  | cons p models ih =>
    obtain ⟨hp, hrest⟩ := List.forall_mem_cons.mp h
    rw [registerAll, register_of_not_refused hp]
    exact ih _ hrest

/-- The first model that is refused fails for all. -/
theorem registerAll_of_refused (db : Database) {before after : List (ModelType × String)}
    (hbefore : ∀ p ∈ before, ¬ Refused db.tablePrefix p.2) (h : Refused db.tablePrefix table) :
    db.registerAll (before ++ (m, table) :: after) =
      .error (.invalidArgument ("table name for \x60" ++ m.name ++ "\x60 must not be empty")) := by
  induction before generalizing db with
  | nil => rw [List.nil_append, registerAll, register_of_refused h]
  | cons p before ih =>
    obtain ⟨hp, hrest⟩ := List.forall_mem_cons.mp hbefore
    rw [List.cons_append, registerAll, register_of_not_refused hp]
    exact ih _ hrest h

/-- What a database is when a queue was replayed for it. -/
structure Replays (db : Database) (d : Dialect) (given : String)
    (models : List (ModelType × String)) : Prop where
  dialect : db.dialect = d
  tablePrefix : db.tablePrefix = given
  /-- Of each type the last table counts, with the prefix. -/
  last : ∀ before m table after, models = before ++ (m, table) :: after →
    (∀ p ∈ after, p.1.id ≠ m.id) →
      ∀ m', m'.id = m.id → db.registry.get m' = .ok (.ofFields (given ++ table) m.fields)
  /-- Other types are not registered. -/
  others : ∀ m, (∀ p ∈ models, p.1.id ≠ m.id) →
    db.registry.get m = .error (.notRegistered m.name)

/-- A queue of which nothing is refused can be replayed. -/
theorem exists_replays (d : Dialect) (given : String)
    (h : ∀ p ∈ models, ¬ Refused given p.2) :
    ∃ db, registerAll { dialect := d, tablePrefix := given } models = .ok db ∧
      db.Replays d given models := by
  refine ⟨_, registerAll_of_not_refused _ h, rfl, rfl, ?_, ?_⟩
  · rintro before m table after rfl hlater m' hm'
    have hlater' : ∀ r ∈ entries given after, r.model.id ≠ m.id :=
      List.forall_mem_map.mpr hlater
    have hentry : (Registry.enter [] (entries given (before ++ (m, table) :: after))).get? m.id =
        some (.ofFields (given ++ table) m.fields) := by
      rw [entries_append_cons]
      exact Registry.get?_enter_latest hlater'
    show Registry.get (Registry.enter [] _) m' = _
    rw [Registry.get, hm', hentry]
  · intro m hm
    have hm' : ∀ r ∈ entries given models, r.model.id ≠ m.id := List.forall_mem_map.mpr hm
    show Registry.get (Registry.enter [] _) m = _
    rw [Registry.get, Registry.get?_enter_of_ne hm']
    rfl

end Database

/-! ## Builds -/

namespace Builder

open Registration (Refused)

variable {settings : List Setting} {d : Dialect} {fallback : Option Dialect}

/-- Nothing is said of the dialect, and there is no driver. -/
theorem build_unset (h : lastChoice settings = none) : (ofSettings settings).build none =
    .error (.invalidArgument
      "no SQL dialect configured; call \x60dialect\x60 or \x60flavor\x60 on the builder") := by
  rw [build, dialect_eq, choice_ofSettings, h]

/-- The last word on the dialect is a name that is not known. -/
theorem build_unknown {name : String} (h : lastChoice settings = some (.named name))
    (hname : ∀ d, Dialect.ofName name ≠ .ok d) :
    (ofSettings settings).build fallback = .error (.invalidDialect name) := by
  rw [build, dialect_eq, choice_ofSettings, h]
  dsimp only
  rw [ofName_unknown hname]

theorem build_of_settles (h : Settles settings fallback d) :
    (ofSettings settings).build fallback =
      Database.registerAll { dialect := d, tablePrefix := lastPrefix settings } (queue settings) := by
  rw [build, dialect_of_settles h]
  dsimp only
  rw [buildFor, tablePrefix_ofSettings, models_ofSettings]

/-- The first of the queue that is refused makes the build fail. -/
theorem build_refused {before after : List (ModelType × String)} {m : ModelType} {table : String}
    (hd : Settles settings fallback d) (hqueue : queue settings = before ++ (m, table) :: after)
    (hbefore : ∀ p ∈ before, ¬ Refused (lastPrefix settings) p.2)
    (h : Refused (lastPrefix settings) table) : (ofSettings settings).build fallback =
      .error (.invalidArgument ("table name for \x60" ++ m.name ++ "\x60 must not be empty")) := by
  rw [build_of_settles hd, hqueue]
  exact Database.registerAll_of_refused ⟨d, [], lastPrefix settings⟩ hbefore h

theorem exists_build (hd : Settles settings fallback d)
    (h : ∀ p ∈ queue settings, ¬ Refused (lastPrefix settings) p.2) :
    ∃ db, (ofSettings settings).build fallback = .ok db ∧
      db.Replays d (lastPrefix settings) (queue settings) := by
  rw [build_of_settles hd]
  exact Database.exists_replays d (lastPrefix settings) h

end Builder

end RelMap
