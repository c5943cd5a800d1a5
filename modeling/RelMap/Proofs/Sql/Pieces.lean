-- SUMMARY: What the pieces of lists and junctions add up to.
import RelMap.Sql.Selection

/-!
# Pieces with separators

Lists and junctions put fixed text between their parts. Whatever is collected from
pieces and ignores that text is collected part by part.
-/
namespace RelMap

namespace Piece

theorem separated_cons (separator : String) (ps : List Piece) {rest : List (List Piece)}
    (h : rest ≠ []) : separated separator (ps :: rest) =
      ps ++ .text separator :: separated separator rest := by
  cases rest with
  | nil => exact absurd rfl h
  | cons qs rest => rfl

theorem flatMap_separated {f : Piece → List α} {separator : String}
    (h : f (.text separator) = []) (pss : List (List Piece)) :
    (separated separator pss).flatMap f = pss.flatMap fun ps => ps.flatMap f := by
  fun_induction separated separator pss with
  | case1 => rfl
  | case2 ps => simp
  | case3 ps rest _ ih => simp [ih, h]

theorem map_separated {f : Piece → Piece} {separator : String}
    (h : f (.text separator) = .text separator) (pss : List (List Piece)) :
    (separated separator pss).map f = separated separator (pss.map (List.map f)) := by
  fun_induction separated separator pss with
  | case1 => rfl
  | case2 ps => rfl
  | case3 ps rest hrest ih =>
    have hmap : rest.map (List.map f) ≠ [] := fun h => hrest (List.map_eq_nil_iff.mp h)
    rw [List.map_append, List.map_cons, h, ih, List.map_cons, separated_cons _ _ hmap]

theorem mem_separated {separator : String} {pss : List (List Piece)} {p : Piece}
    (h : p ∈ separated separator pss) : p = .text separator ∨ ∃ ps ∈ pss, p ∈ ps := by
  fun_induction separated separator pss with
  | case1 => cases h
  | case2 ps => exact .inr ⟨ps, by simp, h⟩
  | case3 ps rest _ ih =>
    rcases List.mem_append.mp h with hp | h
    · exact .inr ⟨ps, by simp, hp⟩
    · rcases List.mem_cons.mp h with rfl | h
      · exact .inl rfl
      · rcases ih h with rfl | ⟨qs, hqs, hp⟩
        · exact .inl rfl
        · exact .inr ⟨qs, by simp [hqs], hp⟩

end Piece

namespace Predicate

@[simp] theorem piecesOf_eq_map (ps : List Predicate) : piecesOf ps = ps.map pieces := by
  induction ps with
  | nil => rfl
  | cons p ps ih => simp [piecesOf, ih]

theorem flatMap_list {f : Piece → List α} (h : f (.text ", ") = []) (vs : List Value) :
    (list vs).flatMap f = vs.flatMap fun v => f (.bind v) := by
  rw [list, Piece.flatMap_separated h]
  simp [List.flatMap_map]

theorem args_list (vs : List Value) : (list vs).flatMap Piece.args = vs := by
  rw [flatMap_list rfl]
  exact List.flatMap_singleton' vs

theorem mem_list {vs : List Value} {p : Piece} (h : p ∈ list vs) :
    p = .text ", " ∨ ∃ v, p = .bind v := by
  rcases Piece.mem_separated h with rfl | ⟨ps, hps, hp⟩
  · exact .inl rfl
  · obtain ⟨v, _, rfl⟩ := List.mem_map.mp hps
    exact .inr ⟨v, List.mem_singleton.mp hp⟩

end Predicate

end RelMap
