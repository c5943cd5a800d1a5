-- SUMMARY: The names of tables that models cannot be registered with.
import RelMap.Proofs.Build.Settings
import RelMap.Proofs.Handle.Sessions
import RelMap.Proofs.Text.Blanks

/-!
# Names of tables

A database puts its prefix before the name of a table and has the registry look at the whole. Main
statement: a registration is refused, and changes nothing, if the name is empty or if both the name
and the prefix are blank. A blank name behind a prefix that is not blank is entered.
-/
namespace RelMap

open Text (Blanks)

/-- The two tests, of the name alone and of the whole, make one. -/
theorem Registration.refused_iff {given table : String} :
    Refused given table ↔ table = "" ∨ Blanks given.toList ∧ Blanks table.toList := by
  rw [Refused, List.isEmpty_iff, Text.trim_eq_nil_iff, String.toList_append]
  exact or_congr_right List.forall_mem_append

namespace Session

/-- A registration fails and changes nothing if the name of the table is empty, or if both it and
the prefix are blank. Otherwise the type is entered, with the prefix and the name as its table. -/
theorem register_by_name (server : Server) (s : Session) (m : ModelType) (table : String) :
    let refused := table = "" ∨ Blanks s.db.tablePrefix.toList ∧ Blanks table.toList
    let e := Error.invalidArgument ("table name for \x60" ++ m.name ++ "\x60 must not be empty")
    let schema := Schema.ofFields (s.db.tablePrefix ++ table) m.fields
    let r := s.db.registration m table
    refused ∧ s.db.register m table = .error e ∧
        s.step server (.register m table) = (.registered r (.error e), s) ∨
      ¬ refused ∧ ∃ after : Session, s.db.register m table = .ok after.db ∧
        s.step server (.register m table) = (.registered r (.ok ()), after) ∧
        after.db.registry.get m = .ok schema ∧
        after = { s with db := { s.db with registry := s.db.registry.insert m.id schema } } := by
  intro refused e schema r
  by_cases h : refused
  · have hregister : s.db.register m table = .error e :=
      Database.register_of_refused (Registration.refused_iff.mpr h)
    refine .inl ⟨h, hregister, ?_⟩
    rw [step_register, hregister]
  · have hregister : s.db.register m table = .ok { s.db with
        registry := s.db.registry.insert m.id schema } :=
      Database.register_of_not_refused fun hrefused => h (Registration.refused_iff.mp hrefused)
    refine .inr ⟨h, _, hregister, ?_, ?_, rfl⟩
    · rw [step_register, hregister]
    · rw [Registry.get, Registry.get?_insert_self]

/-- A name of nothing but blanks is entered behind a prefix that is not blank. -/
theorem blank_name_entered :
    let s := opened .sqlite "app_"
    let user := Handle.namedUser.model
    Blanks "   ".toList ∧ (s.db.register user "   ").map (fun db => db.registry.get user) =
      .ok (.ok (.ofFields "app_   " user.fields)) := by
  decide

end Session

end RelMap
