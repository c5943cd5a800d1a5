-- SUMMARY: Statements as requests, and the pieces that a rendered request consists of.
import RelMap.Proofs.Sql.Resolution
import RelMap.Sql.Render

/-!
# Requests

A `Request` names a statement and everything that goes into it but the dialect and
the looked-up values. Main statement: a request that names enough, and whose filter
checks, is rendered as its head and then the pieces of its filter.
-/
namespace RelMap

/-- A statement to render. -/
inductive Request where
  | compile (filter : Filter)
  | insert (table : String) (values : Assignments) (returning : Option String)
  | select (table : String) (columns : List String) (filter : Filter)
  | update (table : String) (assignments : Assignments) (filter : Filter)
  | delete (table : String) (filter : Filter)
  | count (table : String) (filter : Filter)

namespace Request

variable (d : Dialect) (lookup : Lookup)

def render : Request → Result Statement
  | .compile filter => d.compile filter lookup
  | .insert table values returning => .ok (d.insert table values returning)
  | .select table columns filter => d.select table columns filter lookup
  | .update table assignments filter => d.update table assignments filter lookup
  | .delete table filter => d.delete table filter lookup
  | .count table filter => d.count table filter lookup

/-- The filter of a request. An INSERT has none. -/
def filter : Request → Filter
  | .insert _ _ _ => .none
  | .compile filter => filter
  | .select _ _ filter => filter
  | .update _ _ filter => filter
  | .delete _ filter => filter
  | .count _ filter => filter

/-- The columns that a request gives values to. -/
def assignments : Request → Assignments
  | .insert _ values _ => values
  | .update _ assignments _ => assignments
  | _ => []

/-- The pieces before those of the filter. -/
def head : Request → List Piece
  | .compile _ => []
  | .insert table values returning => d.insertPieces table values returning
  | .select table columns _ => d.selectHead table columns
  | .update table assignments _ => d.updateHead table assignments
  | .delete table _ => d.deleteHead table
  | .count table _ => d.countHead table

/-- The pieces of a checked filter. -/
def tail (selection : Selection) : Request → List Piece
  | .compile _ => selection.clause d
  | _ => selection.tail d

/-- The error of a request that names no column where it needs one. -/
def missing? : Request → Option Error
  | .select table columns _ =>
    if columns.isEmpty then some (Dialect.noColumns "SELECT from" table "column") else none
  | .update table assignments _ =>
    if assignments.isEmpty then some (Dialect.noColumns "UPDATE of" table "assignment") else none
  | _ => none

/-- A request fails if it names too little or its filter does not check. Otherwise it is
rendered as its head and then the pieces of its filter. -/
theorem render_eq (r : Request) :
    r.render d lookup =
      match r.missing? with
      | some e => .error e
      | none =>
        match r.filter.select lookup with
        | .ok selection => .ok (d.assemble (r.head d ++ r.tail d selection))
        | .error m => .error m.toError := by
  cases r with
  | insert table values returning =>
    exact congrArg (fun ps => Except.ok (d.assemble ps)) (List.append_nil _).symm
  | select table columns filter =>
    simp only [render, Dialect.select, missing?]
    split <;> rfl
  | update table assignments filter =>
    simp only [render, Dialect.update, missing?]
    split <;> rfl
  | _ => rfl

variable {d lookup}

/-- A rendered request is its head and then the pieces of its filter. -/
theorem render_eq_ok {r : Request} {s : Statement} (h : r.render d lookup = .ok s) :
    ∃ selection, r.filter.select lookup = .ok selection ∧
      s = d.assemble (r.head d ++ r.tail d selection) := by
  rw [render_eq] at h
  split at h
  · cases h
  · split at h
    · next selection hselect => cases h; exact ⟨selection, hselect, rfl⟩
    · cases h

end Request

end RelMap
