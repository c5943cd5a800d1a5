-- SUMMARY: Which filters leave a statement without a predicate.
import RelMap.Proofs.Sql.Hoisting

/-!
# Unrestricted statements

A statement that applies to all rows shows no keyword behind its table. Main statement: it is so
for the filters that have nothing to render, and also for those that consist of a limit, although
`Filter.isEmpty` does not hold of these.
-/
namespace RelMap

/-- A text shows the keyword of a predicate somewhere. -/
def ShowsWhere (sql : String) : Prop := ∃ front back : String, sql = front ++ " WHERE " ++ back

/-- Whether a filter consists of a limit, as a whole or as the one clause of a conjunction. -/
def Filter.isLimit : Filter → Bool
  | .condition c => c.soleLimit?.isSome
  | _ => false

theorem Filter.attachment_eq_predicate_iff {filter : Filter} :
    filter.attachment = .predicate ↔ ¬ (filter.isEmpty = true ∨ filter.isLimit = true) := by
  cases filter with
  | none => simp [attachment, isEmpty]
  | raw clause args => cases hblank : isBlank clause <;> simp [attachment, isEmpty, isLimit, hblank]
  | condition c =>
    rcases hsole : c.soleLimit? with _ | _ | ⟨o, limitArgs⟩ <;>
      simp [attachment, isEmpty, isLimit, hsole]

/-! ## Texts of limits -/

theorem Dialect.mem_placeholder {d : Dialect} {n : Nat} {c : Char}
    (h : c ∈ (d.placeholder n).toList) : c = '?' ∨ c = '$' ∨ c.isDigit = true := by
  rw [placeholder] at h
  split at h
  · rw [String.toList_ofList, Placeholder.numbered, List.mem_cons] at h
    rcases h with rfl | h
    · exact .inr (.inl rfl)
    · exact .inr (.inr (Digits.isDigit_of_mem_ofNat h))
  · exact .inl (List.mem_singleton.mp h)

theorem RowLimit.not_mem_text (d : Dialect) (bound : Nat) (l : RowLimit) :
    'W' ∉ (l.text d bound).toList := by
  have hplaceholder (n : Nat) : 'W' ∉ (d.placeholder n).toList := fun h => by
    rcases d.mem_placeholder h with h | h | h <;> revert h <;> decide
  have hseparator : 'W' ∉ d.pageSeparator.toList := by cases d <;> decide
  cases l <;> simp [text, hplaceholder, hseparator]

theorem not_showsWhere {sql : String} (h : 'W' ∉ sql.toList) : ¬ ShowsWhere sql := by
  rintro ⟨front, back, rfl⟩
  simp at h

/-! ## Tails of statements -/

theorem Selection.showsWhere_tail {d : Dialect} {bound : Nat} {s : Selection} :
    ShowsWhere (d.render bound (s.tail d)) ↔ s.attachment = .predicate := by
  obtain ⟨predicate, limit⟩ := s
  cases predicate with
  | some p =>
    refine iff_of_true ⟨"", d.render bound (p.pieces ++ limit.pieces d " "), ?_⟩ rfl
    simp [tail, Dialect.render, Dialect.renderPiece, Piece.args]
  | none =>
    refine iff_of_false (not_showsWhere ?_) ?_
    · show 'W' ∉ (d.render bound (limit.pieces d " ")).toList
      rw [RowLimit.render_pieces_lead]
      split
      · decide
      · simp [limit.not_mem_text d bound]
    · cases limit <;> simp [attachment, RowLimit.values]

namespace Request

variable {d : Dialect} {lookup : Lookup} {r : Request} {filter : Filter} {s : Statement}

/-- Behind its head, a request shows the keyword unless its filter is empty or a limit. -/
theorem Attaches.not_showsWhere_iff (h : r.Attaches filter)
    (hs : r.render d lookup = .ok s) :
    ∃ tail : String, s.sql = d.render 0 (r.head d) ++ tail ∧
      (¬ ShowsWhere tail ↔ filter.isEmpty = true ∨ filter.isLimit = true) := by
  obtain ⟨selection, hselect, -⟩ := render_eq_ok hs
  rw [h.filter] at hselect
  cases hs.symm.trans (h.render_ok hselect)
  refine ⟨_, rfl, ?_⟩
  rw [Selection.showsWhere_tail, ← Filter.attachment_of_select hselect,
    Filter.attachment_eq_predicate_iff, not_not]

end Request

namespace Dialect

/-- The text of a SELECT, up to its filter. -/
def selectText (d : Dialect) (table : String) (columns : List String) : String :=
  "SELECT " ++ ", ".intercalate (columns.map d.quote) ++ " FROM " ++ d.quote table

theorem render_selectHead (d : Dialect) (table : String) (columns : List String) :
    d.render 0 (d.selectHead table columns) = d.selectText table columns := by
  simp [selectHead, selectText, render, renderPiece, render_append, Piece.args,
    ← render_columnList, String.append_assoc]

/-- A statement shows no keyword behind its table exactly if its filter is empty or consists of a
limit. -/
theorem unrestricted_iff (d : Dialect) (filter : Filter) (lookup : Lookup) (table : String) :
    (∀ s, d.delete table filter lookup = .ok s →
        ∃ tail, s.sql = "DELETE FROM " ++ d.quote table ++ tail ∧
          (¬ ShowsWhere tail ↔ filter.isEmpty = true ∨ filter.isLimit = true)) ∧
      (∀ s, d.count table filter lookup = .ok s →
        ∃ tail, s.sql = "SELECT COUNT(*) FROM " ++ d.quote table ++ tail ∧
          (¬ ShowsWhere tail ↔ filter.isEmpty = true ∨ filter.isLimit = true)) ∧
      (∀ columns s, d.select table columns filter lookup = .ok s →
        ∃ tail, s.sql = d.selectText table columns ++ tail ∧
          (¬ ShowsWhere tail ↔ filter.isEmpty = true ∨ filter.isLimit = true)) ∧
      ∀ assignments s, d.update table assignments filter lookup = .ok s →
        ∃ tail, s.sql = d.updateText table (assignments.map (·.1)) ++ tail ∧
          (¬ ShowsWhere tail ↔ filter.isEmpty = true ∨ filter.isLimit = true) := by
  refine ⟨fun s hs => ?_, fun s hs => ?_, fun columns s hs => ?_, fun assignments s hs => ?_⟩
  · have hdelete : (Request.delete table filter).Attaches filter := ⟨rfl, rfl, fun _ _ => rfl⟩
    have hshows := hdelete.not_showsWhere_iff hs
    simpa [Request.head, deleteHead, render, renderPiece] using hshows
  · have hcount : (Request.count table filter).Attaches filter := ⟨rfl, rfl, fun _ _ => rfl⟩
    have hshows := hcount.not_showsWhere_iff hs
    simpa [Request.head, countHead, render, renderPiece] using hshows
  · rw [← render_selectHead]
    have hcolumns : columns.isEmpty = false := by
      cases columns with
      | nil => cases hs
      | cons column columns => rfl
    have hselect : (Request.select table columns filter).Attaches filter :=
      ⟨rfl, if_neg (by simp [hcolumns]), fun _ _ => rfl⟩
    exact hselect.not_showsWhere_iff hs
  · rw [← render_updateHead]
    have hassignments : assignments ≠ [] := by
      rintro rfl
      cases hs
    have hupdate : (Request.update table assignments filter).Attaches filter :=
      attaches_update hassignments
    exact hupdate.not_showsWhere_iff hs

/-- A DELETE with a limit among clauses, one with a limit alone, and a SELECT with a dash. -/
theorem unrestricted_iff_limits :
    let lookup : Lookup := fun _ => none
    (∃ s tail, sqlite.delete "users" .limitedMatch lookup = .ok s ∧
        s.sql = "DELETE FROM " ++ sqlite.quote "users" ++ tail ∧ ShowsWhere tail) ∧
      (∃ s tail, sqlite.delete "users" (.condition (.limit .null)) lookup = .ok s ∧
        s.sql = "DELETE FROM " ++ sqlite.quote "users" ++ tail ∧ ¬ ShowsWhere tail) ∧
      ∃ s tail, sqlite.select "users" ["id"] (.raw " - " []) lookup = .ok s ∧
        s.sql = sqlite.selectText "users" ["id"] ++ tail ∧ ¬ ShowsWhere tail := by
  intro lookup
  have hmatch : sqlite.delete "users" .limitedMatch lookup = .ok _ := rfl
  have hlimit : sqlite.delete "users" (.condition (.limit .null)) lookup = .ok _ := rfl
  have hdash : sqlite.select "users" ["id"] (.raw " - " []) lookup = .ok _ := rfl
  obtain ⟨hdelete, -⟩ := sqlite.unrestricted_iff .limitedMatch lookup "users"
  obtain ⟨tail, hsql, hshows⟩ := hdelete _ hmatch
  obtain ⟨hdelete', -⟩ := sqlite.unrestricted_iff (.condition (.limit .null)) lookup "users"
  obtain ⟨tail', hsql', hshows'⟩ := hdelete' _ hlimit
  obtain ⟨-, -, hselect, -⟩ := sqlite.unrestricted_iff (.raw " - " []) lookup "users"
  obtain ⟨tail'', hsql'', hshows''⟩ := hselect _ _ hdash
  refine ⟨⟨_, tail, hmatch, hsql, ?_⟩, ⟨_, tail', hlimit, hsql', hshows'.mpr (.inr rfl)⟩,
    _, tail'', hdash, hsql'', hshows''.mpr (.inl rfl)⟩
  by_contra hnone
  exact absurd (hshows.mp hnone) (by decide)

/-- A limit alone is no empty filter, and yet a DELETE shows no keyword for it. -/
theorem limit_unrestricted :
    let filter := Filter.condition (.limit .null)
    filter.isEmpty = false ∧ ∃ s tail, sqlite.delete "t" filter (fun _ => none) = .ok s ∧
      s.sql = "DELETE FROM " ++ sqlite.quote "t" ++ tail ∧ tail = " LIMIT ?" ∧
      ¬ ShowsWhere tail :=
  ⟨rfl, _, _, rfl, by decide, rfl, not_showsWhere (by decide)⟩

end Dialect

end RelMap
