-- SUMMARY: Conditions of NOT, AND, and OR that mean what their text means.
import RelMap.Proofs.Sql.Pieces
import RelMap.Proofs.Sql.Precedence
import RelMap.Proofs.Sql.WellFormed

/-!
# Trees that need no grouping

Only NOT writes parentheses, so a clause of an AND or an OR stands in the text as it is.
`Separable` describes the trees for which that does no harm: no AND has an OR below it, other
than inside a NOT. Main statement: such a tree has as its text a disjunction of conjunctions
of literals, and that text has the truth value of the tree, whatever its atoms have.
-/
namespace RelMap

namespace Operand

/-! ## Trees -/

/-- Whether the operand is a clause that is not made of other clauses. SQL of the caller and
limits are neither. -/
def isAtom : Operand → Bool
  | .column _ => true
  | .node (.junction _) .. | .node .not .. | .node .limit .. | .node .custom .. => false
  | .node .. => true
  | .value _ | .raw _ => false

/-- The sub-trees of an operand. -/
inductive Within (inner : Operand) : Operand → Prop
  | self : Within inner inner
  | junction {op left right args o} (mem : o ∈ args) (h : Within inner o) :
    Within inner (.node (.junction op) left right args)
  | not {o right args} (h : Within inner o) : Within inner (.node .not (some o) right args)

/-- There is an OR at the root, or below it without a NOT in between. -/
inductive ShowsOr : Operand → Prop
  | root {left right args} : ShowsOr (.node (.junction .or) left right args)
  | clause {op left right args o} (mem : o ∈ args) (h : ShowsOr o) :
    ShowsOr (.node (.junction op) left right args)

/-- A tree of AND, OR, and NOT over atoms that check. Below an AND, each OR is inside a NOT
that is below that AND as well. Slots that a kind does not use hold anything. -/
inductive Separable (lookup : Lookup) : Operand → Prop
  | atom {o} (atomic : o.isAtom = true) (valid : ValidClause lookup o) : Separable lookup o
  | junction {op left right args} (nonempty : args ≠ []) (each : ∀ o ∈ args, Separable lookup o)
    (separate : op = .and → ∀ o ∈ args, ¬ o.ShowsOr) :
    Separable lookup (.node (.junction op) left right args)
  | not {o right args} (clause : Separable lookup o) :
    Separable lookup (.node .not (some o) right args)

mutual

/-- The truth value of a tree whose atoms have the given ones. -/
def holds (truth : Operand → Bool) : Operand → Bool
  | .node (.junction op) _ _ args => op.combine (holdsEach truth args)
  | .node .not (some o) _ _ => !(holds truth o)
  | o => truth o

/-- The truth value of each tree. -/
def holdsEach (truth : Operand → Bool) : List Operand → List Bool
  | [] => []
  | o :: os => holds truth o :: holdsEach truth os

end

/-! ## Texts -/

mutual

/-- The text of a tree in words. -/
def words : Operand → List (Word Operand)
  | .node (.junction op) _ _ args => Word.joined op (wordsOfEach args)
  | .node .not (some o) _ _ => .negation :: words o ++ [.closing]
  | o => [.atom o]

/-- The words of each tree. -/
def wordsOfEach : List Operand → List (List (Word Operand))
  | [] => []
  | o :: os => words o :: wordsOfEach os

end

mutual

/-- The literals of a tree, those with no OR between them together. -/
def groups : Operand → List (List Operand)
  | .node (.junction .or) _ _ args => groupsOfAll args
  | .node (.junction .and) _ _ args => [(groupsOfAll args).flatten]
  | o => [[o]]

/-- The groups of all trees. -/
def groupsOfAll : List Operand → List (List Operand)
  | [] => []
  | o :: os => groups o ++ groupsOfAll os

end

/-- The pieces of an operand on its own, where it checks. -/
def rendering (lookup : Lookup) (o : Operand) : List Piece :=
  match o.resolve lookup with
  | .ok p => p.pieces
  | .error _ => []

@[simp] theorem holdsEach_eq_map (truth : Operand → Bool) (os : List Operand) :
    holdsEach truth os = os.map (holds truth) := by
  induction os with
  | nil => rfl
  | cons o os ih => rw [holdsEach, ih, List.map_cons]

@[simp] theorem wordsOfEach_eq_map (os : List Operand) : wordsOfEach os = os.map words := by
  induction os with
  | nil => rfl
  | cons o os ih => rw [wordsOfEach, ih, List.map_cons]

@[simp] theorem groupsOfAll_eq_flatMap (os : List Operand) :
    groupsOfAll os = os.flatMap groups := by
  induction os with
  | nil => rfl
  | cons o os ih => rw [groupsOfAll, ih, List.flatMap_cons]

/-- An atom is its own text, its own group, and has its own value. -/
theorem of_isAtom {o : Operand} (h : o.isAtom = true) :
    o.words = [.atom o] ∧ o.groups = [[o]] ∧ ∀ truth, o.holds truth = truth o := by
  cases o with
  | column name => exact ⟨rfl, rfl, fun _ => rfl⟩
  | value v => cases h
  | raw sql => cases h
  | node kind left right args =>
    cases kind with
    | junction op => cases h
    | not => cases h
    | _ => exact ⟨rfl, rfl, fun _ => rfl⟩

/-! ## Spelling -/

variable {lookup : Lookup}

theorem rendering_of_resolves {o : Operand} {p : Predicate} (h : Resolves lookup o p) :
    o.rendering lookup = p.pieces := by
  rw [rendering, resolve_eq_ok_iff.mpr h]

end Operand

/-- The pieces that a word stands for. -/
def Word.pieces (lookup : Lookup) : Word Operand → List Piece
  | .atom o => o.rendering lookup
  | .junction op => [.text (" " ++ op.keyword ++ " ")]
  | .negation => [.text "NOT ("]
  | .closing => [.text ")"]

/-- The pieces that words spell. -/
def Word.spelled (lookup : Lookup) (ws : List (Word Operand)) : List Piece :=
  ws.flatMap (Word.pieces lookup)

theorem Word.spelled_joined (lookup : Lookup) (op : Junction) (wss : List (List (Word Operand))) :
    spelled lookup (joined op wss) =
      Piece.separated (" " ++ op.keyword ++ " ") (wss.map (spelled lookup)) := by
  fun_induction joined op wss with
  | case1 => rfl
  | case2 ws => rfl
  | case3 ws rest hrest ih =>
    have hmap : rest.map (spelled lookup) ≠ [] := fun h => hrest (List.map_eq_nil_iff.mp h)
    rw [List.map_cons, Piece.separated_cons _ _ hmap, ← ih]
    simp [spelled, pieces]

namespace Operand

variable {lookup : Lookup}

theorem Separable.validClause {o : Operand} (h : Separable lookup o) : ValidClause lookup o := by
  induction h with
  | atom _ valid => exact valid
  | junction nonempty _ _ ih => exact .junction nonempty ih
  | not _ ih => exact .not ih

/-- The words of a tree spell the predicate that it reads as. -/
theorem Separable.spelled_words {o : Operand} {p : Predicate} (h : Separable lookup o)
    (hp : Resolves lookup o p) : Word.spelled lookup o.words = p.pieces := by
  induction h generalizing p with
  | @atom o atomic _ =>
    rw [(of_isAtom atomic).1, Word.spelled, List.flatMap_singleton]
    exact rendering_of_resolves hp
  | junction _ _ _ ih =>
    obtain ⟨clauses, rfl, _, hclauses, rfl⟩ := hp.junction_inv
    have hpieces : clauses.map (fun c => Word.spelled lookup c.1.words) =
        clauses.map fun c => c.2.pieces :=
      List.map_congr_left fun c hc => ih c.1 (List.mem_map_of_mem hc) (hclauses c hc)
    rw [words, Word.spelled_joined, wordsOfEach_eq_map, List.map_map, List.map_map,
      Predicate.pieces, Predicate.piecesOf_eq_map, List.map_map]
    exact congrArg _ hpieces
  | not _ ih =>
    cases hp with
    | not hp =>
      rw [words, Predicate.pieces, ← ih hp]
      simp [Word.spelled, Word.pieces]

/-! ## Literals -/

/-- An operand that the text of `root` has as a literal: an atom or a NOT of it that checks. -/
structure LiteralOf (lookup : Lookup) (root l : Operand) : Prop where
  within : l.Within root
  resolves : ∃ p, l.resolve lookup = .ok p
  shape : l.isAtom = true ∨ ∃ o right args, l = .node .not (some o) right args ∧
    l.rendering lookup = .text "NOT (" :: o.rendering lookup ++ [.text ")"]

theorem LiteralOf.junction {op : Junction} {left right : Option Operand} {args : List Operand}
    {o l : Operand} (h : LiteralOf lookup o l) (mem : o ∈ args) :
    LiteralOf lookup (.node (.junction op) left right args) l :=
  ⟨.junction mem h.within, h.resolves, h.shape⟩

/-- There is a group, there is a literal in each, and nothing else. -/
theorem Separable.literals {o : Operand} (h : Separable lookup o) :
    o.groups ≠ [] ∧ ∀ g ∈ o.groups, g ≠ [] ∧ ∀ l ∈ g, LiteralOf lookup o l := by
  have single {o : Operand} (h : LiteralOf lookup o o) :
      [[o]] ≠ [] ∧ ∀ g ∈ [[o]], g ≠ [] ∧ ∀ l ∈ g, LiteralOf lookup o l := by
    simpa using h
  induction h with
  | @atom o atomic valid =>
    obtain ⟨p, hp⟩ := validClause_iff.mp valid
    rw [(of_isAtom atomic).2.1]
    exact single ⟨.self, ⟨p, resolve_eq_ok_iff.mpr hp⟩, .inl atomic⟩
  | @not o right args clause _ =>
    obtain ⟨p, hp⟩ := validClause_iff.mp clause.validClause
    have hnot : Resolves lookup (.node .not (some o) right args) (.not p) := .not hp
    refine single ⟨.self, ⟨_, resolve_eq_ok_iff.mpr hnot⟩, .inr ⟨o, right, args, rfl, ?_⟩⟩
    rw [rendering_of_resolves hnot, rendering_of_resolves hp, Predicate.pieces]
  | @junction op left right args nonempty _ _ ih =>
    have hgroups : args.flatMap groups ≠ [] := by
      obtain ⟨o, ho⟩ := List.exists_mem_of_ne_nil args nonempty
      obtain ⟨g, hg⟩ := List.exists_mem_of_ne_nil _ (ih o ho).1
      exact List.ne_nil_of_mem (List.mem_flatMap.mpr ⟨o, ho, hg⟩)
    have heach : ∀ g ∈ args.flatMap groups,
        g ≠ [] ∧ ∀ l ∈ g, LiteralOf lookup (.node (.junction op) left right args) l := by
      intro g hg
      obtain ⟨o, ho, hg⟩ := List.mem_flatMap.mp hg
      obtain ⟨hne, hl⟩ := (ih o ho).2 g hg
      exact ⟨hne, fun l hmem => (hl l hmem).junction ho⟩
    cases op with
    | or =>
      rw [groups, groupsOfAll_eq_flatMap]
      exact ⟨hgroups, heach⟩
    | and =>
      rw [groups, groupsOfAll_eq_flatMap]
      refine ⟨List.cons_ne_nil _ _, fun g hg => ?_⟩
      obtain rfl := List.mem_singleton.mp hg
      constructor
      · obtain ⟨g, hg⟩ := List.exists_mem_of_ne_nil _ hgroups
        exact List.flatten_ne_nil_iff.mpr ⟨g, hg, (heach g hg).1⟩
      · intro l hl
        obtain ⟨g, hg, hl⟩ := List.mem_flatten.mp hl
        exact (heach g hg).2 l hl

/-- The words of a tree are its literals, with AND between those of one group and OR between
the groups. A tree that shows no OR is one conjunction. -/
theorem Separable.words_eq {o : Operand} (h : Separable lookup o) :
    o.words = Word.joined .or (o.groups.map fun g => Word.joined .and (g.map words)) ∧
      (¬ o.ShowsOr → o.words = Word.joined .and (o.groups.flatMap (List.map words))) := by
  induction h with
  | atom atomic _ =>
    rw [(of_isAtom atomic).2.1]
    exact ⟨rfl, fun _ => rfl⟩
  | not _ _ => exact ⟨rfl, fun _ => rfl⟩
  | @junction op left right args nonempty each separate ih =>
    -- A clause of an OR brings its groups along; one of an AND has a single group.
    cases op with
    | or =>
      refine ⟨?_, fun h => absurd .root h⟩
      have hargs : args.map words = args.map fun o =>
          Word.joined .or (o.groups.map fun g => Word.joined .and (g.map words)) :=
        List.map_congr_left fun o ho => (ih o ho).1
      rw [words, groups, wordsOfEach_eq_map, groupsOfAll_eq_flatMap, hargs,
        Word.joined_flatMap .or fun o ho h => (each o ho).literals.1 (List.map_eq_nil_iff.mp h),
        List.map_flatMap]
    | and =>
      have hargs : args.map words = args.map fun o =>
          Word.joined .and (o.groups.flatMap (List.map words)) :=
        List.map_congr_left fun o ho => (ih o ho).2 (separate rfl o ho)
      have hliterals : ∀ o ∈ args, o.groups.flatMap (List.map words) ≠ [] := by
        intro o ho h
        obtain ⟨hgroups, hliterals⟩ := (each o ho).literals
        obtain ⟨g, hg⟩ := List.exists_mem_of_ne_nil _ hgroups
        exact (hliterals g hg).1 (List.map_eq_nil_iff.mp (List.flatMap_eq_nil_iff.mp h g hg))
      have hwords : words (.node (.junction .and) left right args) =
          Word.joined .and ((args.flatMap groups).flatten.map words) := by
        rw [words, wordsOfEach_eq_map, hargs, Word.joined_flatMap .and hliterals,
          List.map_flatten, ← List.flatMap_def, List.flatMap_assoc]
      rw [hwords, groups, groupsOfAll_eq_flatMap]
      exact ⟨rfl, fun _ => by rw [List.flatMap_singleton]⟩

theorem Separable.of_within {o l : Operand} (within : l.Within o) (h : Separable lookup o) :
    Separable lookup l := by
  induction within with
  | self => exact h
  | junction mem _ ih =>
    cases h with
    | atom atomic _ => cases atomic
    | junction _ each _ => exact ih (each _ mem)
  | not _ ih =>
    cases h with
    | atom atomic _ => cases atomic
    | not clause => exact ih clause

theorem Separable.spelled_groups {o : Operand} (h : Separable lookup o) :
    Word.spelled lookup o.words = Piece.separated " OR " (o.groups.map fun g =>
      Piece.separated " AND " (g.map (rendering lookup))) := by
  have hgroup : ∀ g ∈ o.groups, Word.spelled lookup (Word.joined .and (g.map words)) =
      Piece.separated " AND " (g.map (rendering lookup)) := by
    intro g hg
    have hliterals : g.map (fun l => Word.spelled lookup l.words) = g.map (rendering lookup) := by
      refine List.map_congr_left fun l hl => ?_
      obtain ⟨within, ⟨p, hp⟩, _⟩ := (h.literals.2 g hg).2 l hl
      have hp := resolve_eq_ok_iff.mp hp
      rw [(h.of_within within).spelled_words hp, rendering_of_resolves hp]
    rw [Word.spelled_joined, List.map_map]
    exact congrArg _ hliterals
  rw [h.words_eq.1, Word.spelled_joined, List.map_map]
  exact congrArg _ (List.map_congr_left hgroup)

/-! ## Reading -/

/-- The text of a tree is read to have the value of the tree, and as a conjunction if it
shows no OR. -/
theorem Separable.reads {o : Operand} (h : Separable lookup o) (truth : Operand → Bool) :
    Reads truth .disjunction o.words (o.holds truth) ∧
      (¬ o.ShowsOr → Reads truth .conjunction o.words (o.holds truth)) := by
  have both {ws b} {q : Prop} (h : Reads truth .conjunction ws b) :
      Reads truth .disjunction ws b ∧ (q → Reads truth .conjunction ws b) :=
    ⟨.conjunction h, fun _ => h⟩
  induction h with
  | atom atomic _ =>
    rw [(of_isAtom atomic).1, (of_isAtom atomic).2.2]
    exact both (.literal (.atom _))
  | @junction op left right args nonempty each separate ih =>
    rw [words, holds, wordsOfEach_eq_map, holdsEach_eq_map]
    cases op with
    | and =>
      have hjoined : Reads truth (Junction.tier .and) _ _ :=
        Reads.joined nonempty fun o ho => (ih o ho).2 (separate rfl o ho)
      exact both hjoined
    | or =>
      have hjoined : Reads truth (Junction.tier .or) _ _ :=
        Reads.joined nonempty fun o ho => (ih o ho).1
      exact ⟨hjoined, fun h => absurd .root h⟩
  | not _ ih =>
    rw [words, holds]
    exact both (.literal (.not ih.1))

end Operand

/-! ## Compiling -/

theorem Dialect.compile_of_resolves {lookup : Lookup} {c : Condition} {p : Predicate}
    (d : Dialect) (h : Resolves lookup c.toOperand p) :
    d.compile (.condition c) lookup = .ok (d.assemble p.pieces) := by
  have hselect : c.select lookup = .ok ⟨some p, .none⟩ :=
    Condition.select_eq_ok_iff.mpr (.unlimited h)
  rw [compile, Filter.select, hselect]
  simp [Selection.clause, Selection.predicatePieces, RowLimit.pieces]

/-- A tree that needs no grouping compiles to a disjunction of conjunctions of atoms and
negated texts. As words, the text can be read in one way, and then has the truth value of the
tree. -/
theorem Dialect.compile_of_separable (d : Dialect) {lookup : Lookup} {c : Condition}
    (h : c.toOperand.Separable lookup) :
    d.compile (.condition c) lookup =
        .ok (d.assemble (Piece.separated " OR " (c.toOperand.groups.map fun g =>
          Piece.separated " AND " (g.map (Operand.rendering lookup))))) ∧
      (c.toOperand.groups ≠ [] ∧
        ∀ g ∈ c.toOperand.groups, g ≠ [] ∧ ∀ l ∈ g, Operand.LiteralOf lookup c.toOperand l) ∧
      d.compile (.condition c) lookup =
        .ok (d.assemble (Word.spelled lookup c.toOperand.words)) ∧
      ∀ truth b, Reads truth .disjunction c.toOperand.words b ↔ b = c.toOperand.holds truth := by
  obtain ⟨p, hp⟩ := validClause_iff.mp h.validClause
  have hcompile := d.compile_of_resolves hp
  rw [← h.spelled_words hp] at hcompile
  refine ⟨?_, h.literals, hcompile, fun truth b => ?_⟩
  · rw [hcompile, h.spelled_groups]
  · have hreads := (h.reads truth).1
    exact ⟨fun h => h.eq hreads, fun hb => hb ▸ hreads⟩

/-- An OR inside a NOT. -/
def Condition.negatedChoice : Condition :=
  .negate (Condition.junction .or [
    (Condition.between false "b" (.bool false) (.bool true)).toOperand, .column "c"]).toOperand

/-- An OR of two junctions, one with a negated OR below its AND, the other of one clause. -/
def Condition.nestedJunctions : Condition :=
  .junction .or [
    (Condition.junction .and [
      (Condition.compare .like "a" (.string "x%")).toOperand,
      Condition.negatedChoice.toOperand]).toOperand,
    (Condition.junction .or [(Condition.existence true "SELECT 1").toOperand]).toOperand]

theorem Dialect.compile_of_separable_nestedJunctions :
    let lookup : Lookup := fun _ => some .null
    let tree := Condition.nestedJunctions.toOperand
    tree.Separable lookup ∧
      postgresql.compile (.condition Condition.nestedJunctions) lookup =
        .ok ⟨"a LIKE $1 AND NOT (b BETWEEN $2 AND $3 OR c = $4) OR NOT EXISTS (SELECT 1)",
          [.string "x%", .bool false, .bool true, .null]⟩ ∧
      ∀ truth b, Reads truth .disjunction tree.words b ↔ b = tree.holds truth := by
  intro lookup tree
  have hnot : Condition.negatedChoice.toOperand.Separable lookup := by
    refine .not (.junction (List.cons_ne_nil _ _) ?_ nofun)
    exact List.forall_mem_cons.mpr ⟨.atom rfl .between,
      List.forall_mem_singleton.mpr (.atom rfl (.column rfl))⟩
  have hseparable : tree.Separable lookup := by
    refine .junction (List.cons_ne_nil _ _) ?_ nofun
    refine List.forall_mem_cons.mpr ⟨.junction (List.cons_ne_nil _ _) ?_ fun _ => ?_,
      List.forall_mem_singleton.mpr (.junction (List.cons_ne_nil _ _) ?_ nofun)⟩
    · exact List.forall_mem_cons.mpr ⟨.atom rfl .compare, List.forall_mem_singleton.mpr hnot⟩
    · exact List.forall_mem_cons.mpr ⟨nofun, List.forall_mem_singleton.mpr nofun⟩
    · exact List.forall_mem_singleton.mpr (.atom rfl .existence)
  obtain ⟨hcompile, _, _, hreads⟩ := postgresql.compile_of_separable hseparable
  exact ⟨hseparable, hcompile.trans rfl, hreads⟩

end RelMap
