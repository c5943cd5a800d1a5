-- SUMMARY: What the caller of a request contributes to its text, and how pieces show it.
import RelMap.Proofs.Sql.Numbering
import RelMap.Proofs.Sql.Request

/-!
# Parts

The `parts` of a request are what its caller contributes to the text, from left to
right: names, SQL, and the places of values. They are read off the request, before
anything is checked. Main statements: the pieces of a rendered request ask for what
its parts ask for, and are as plain as they are.
-/
namespace RelMap

/-! ## Parts -/

/-- What a caller contributes to the text of a statement, by its use. -/
inductive Part where
  /-- A name that is quoted. -/
  | identifier (name : String)
  /-- A column of a condition, which is written as it is. -/
  | column (name : String)
  | subquery (sql : String)
  /-- A value that is bound. -/
  | value
  /-- SQL with placeholders of its own, and the number of its arguments. -/
  | fragment (sql : String) (args : Nat)

namespace Part

/-- The caller writes no numbered placeholder, and no digit behind a question mark
that becomes one. -/
def Plain : Part → Prop
  | .identifier name => '$' ∉ name.toList
  | .column name => '$' ∉ name.toList
  | .subquery sql => '$' ∉ sql.toList
  | .value => True
  | .fragment sql _ => '$' ∉ sql.toList ∧ Placeholder.NoNumeral sql.toList

instance : DecidablePred Plain
  | .identifier name => inferInstanceAs (Decidable ('$' ∉ name.toList))
  | .column name => inferInstanceAs (Decidable ('$' ∉ name.toList))
  | .subquery sql => inferInstanceAs (Decidable ('$' ∉ sql.toList))
  | .value => .isTrue trivial
  | .fragment sql _ =>
    inferInstanceAs (Decidable ('$' ∉ sql.toList ∧ Placeholder.NoNumeral sql.toList))

/-- A fragment has as many question marks outside single quotes as arguments. -/
def Balanced : Part → Prop
  | .fragment sql args => Placeholder.asked false sql.toList = args
  | _ => True

instance : DecidablePred Balanced
  | .fragment sql args => inferInstanceAs (Decidable (Placeholder.asked false sql.toList = args))
  | .identifier _ | .column _ | .subquery _ | .value => .isTrue trivial

/-- What a part asks for. -/
def demands : Part → List Demand
  | .value => [⟨1, 1⟩]
  | .fragment sql args => [⟨Placeholder.asked false sql.toList, args⟩]
  | _ => []

theorem asked_eq_given {p : Part} (h : p.Balanced) {x : Demand} (hx : x ∈ p.demands) :
    x.asked = x.given := by
  cases p with
  | value => cases List.mem_singleton.mp hx; rfl
  | fragment sql args => cases List.mem_singleton.mp hx; exact h
  | _ => cases hx

end Part

namespace Operand

/-- The parts of a node that holds no clauses. -/
def atomParts : ConditionKind → Option Operand → Option Operand → List Operand → List Part
  | .compare _, some (.column name), _, _ => [.column name, .value]
  | .inList _, some (.column name), _, _ => [.column name, .value]
  | .between _, some (.column name), _, args =>
    .column name :: List.replicate args.length .value
  | .existence _, some (.raw sql), _, _ => [.subquery sql]
  | .inSubquery _, some (.column name), some (.raw sql), _ => [.column name, .subquery sql]
  | .inValues _, some (.column name), _, args =>
    .column name :: List.replicate args.length .value
  | .custom, _, _, .raw sql :: args => [.fragment sql args.length]
  | _, _, _, _ => []

mutual

/-- The parts of an operand that stands as a clause. A LIMIT has none here. -/
def parts : Operand → List Part
  | .value _ => []
  | .column name => [.column name, .value]
  | .raw sql => [.fragment sql 0]
  | .node (.junction _) _ _ args => partsOfAll args
  | .node .not left _ _ => partsOfOption left
  | .node kind left right args => atomParts kind left right args

def partsOfOption : Option Operand → List Part
  | none => []
  | some o => o.parts

def partsOfAll : List Operand → List Part
  | [] => []
  | o :: os => o.parts ++ partsOfAll os

end

end Operand

/-- The operands of the limit that is the whole condition, or that stands among the
clauses of a conjunction. -/
def Condition.limitOperands (c : Condition) : List Operand :=
  match c.kind with
  | .limit => c.args
  | .junction .and => (RowLimit.among c.args).flatten
  | _ => []

/-- The parts of a filter. Those of a limit come last. -/
def Filter.parts : Filter → List Part
  | .none => []
  | .condition c => c.toOperand.parts ++ List.replicate c.limitOperands.length .value
  | .raw clause args => if isBlank clause then [] else [.fragment clause args.length]

/-! ## Parts of requests -/

namespace Request

/-- The parts of what stands before the filter. -/
def headParts : Request → List Part
  | .compile _ => []
  | .insert table values returning =>
    .identifier table :: (values.map fun a => .identifier a.1) ++
      List.replicate values.length .value ++ returning.toList.map .identifier
  | .select table columns _ => columns.map .identifier ++ [.identifier table]
  | .update table assignments _ =>
    .identifier table :: assignments.flatMap fun a => [.identifier a.1, .value]
  | .delete table _ => [.identifier table]
  | .count table _ => [.identifier table]

def parts (r : Request) : List Part := r.headParts ++ r.filter.parts

end Request

/-! ## Clauses -/

variable {lookup : Lookup}

namespace Operand

theorem partsOfAll_eq_flatMap (os : List Operand) : partsOfAll os = os.flatMap parts := by
  induction os with
  | nil => rfl
  | cons o os ih => rw [partsOfAll, ih, List.flatMap_cons]

end Operand

/-- The demands of values that are bound one by one. -/
theorem Predicate.demands_list (vs : List Value) :
    (Predicate.list vs).flatMap Piece.demands = List.replicate vs.length ⟨1, 1⟩ := by
  rw [Predicate.flatMap_list rfl]
  induction vs with
  | nil => rfl
  | cons v vs ih => rw [List.flatMap_cons, ih]; rfl

theorem Part.demands_values (n : Nat) :
    (List.replicate n Part.value).flatMap Part.demands = List.replicate n ⟨1, 1⟩ := by
  induction n with
  | zero => rfl
  | succ n ih => rw [List.replicate_succ, List.flatMap_cons, ih]; rfl

/-- The pieces of a clause ask for what its parts ask for. -/
theorem Resolves.demands {o : Operand} {p : Predicate} (h : Resolves lookup o p) :
    p.pieces.flatMap Piece.demands = o.parts.flatMap Part.demands := by
  induction h with
  | @inValues negated name v vs right =>
    have hparts : Operand.parts (.node (.inValues negated) (some (.column name)) right
        (List.map .value (v :: vs))) =
          .column name :: List.replicate (List.map Operand.value (v :: vs)).length .value := rfl
    rw [hparts, List.flatMap_cons, Part.demands_values, List.length_map]
    simp [Predicate.pieces, Predicate.demands_list, Piece.demands, Part.demands]
  | @custom sql vs left right =>
    have hparts : Operand.parts (.node .custom left right (.raw sql :: List.map .value vs)) =
        [.fragment sql (List.map Operand.value vs).length] := rfl
    rw [hparts, List.length_map]
    rfl
  | @junction op left right clauses nonempty each ih =>
    rw [Predicate.pieces, Piece.flatMap_separated rfl, Predicate.piecesOf_eq_map, Operand.parts,
      Operand.partsOfAll_eq_flatMap, List.flatMap_map, List.flatMap_map, List.flatMap_map,
      List.flatMap_assoc]
    exact List.flatMap_congr ih
  | not clause ih =>
    rw [Operand.parts, Operand.partsOfOption, ← ih]
    simp [Predicate.pieces, Piece.demands]
  | column found => rfl
  | raw => rfl
  | compare => rfl
  | inList => rfl
  | between => rfl
  | existence => rfl
  | inSubquery => rfl

/-! ## Properties of the text

What holds of every fixed text, and passes to a text put together from texts that have it,
holds of the text of a clause as soon as it holds of what the caller wrote.
-/

/-- Text without the characters that begin a placeholder or a quoted literal. -/
def Bare (sql : String) : Prop :=
  '$' ∉ sql.toList ∧ '?' ∉ sql.toList ∧ '\'' ∉ sql.toList

instance : DecidablePred Bare := fun _ => inferInstanceAs (Decidable (_ ∧ _))

theorem bare_operator (op : Comparison) : Bare op.operator := by
  cases op <;> decide

theorem bare_negation (negated : Bool) : Bare (ConditionKind.negation negated) := by
  cases negated <;> decide

theorem bare_keyword (op : Junction) : Bare op.keyword := by
  cases op <;> decide

/-- A property that bare text has, and that texts hand on to what they make together. -/
structure TextProperty (T : String → Prop) : Prop where
  of_bare : ∀ {sql : String}, Bare sql → T sql
  append : ∀ {sql sql' : String}, T sql → T sql' → T (sql ++ sql')

theorem TextProperty.append_bare {T : String → Prop} (hT : TextProperty T) {sql sql' : String}
    (h : T sql) (h' : Bare sql') : T (sql ++ sql') :=
  hT.append h (hT.of_bare h')

/-- The text of a piece is `T`; a fragment and the number of its arguments are `F`. -/
def Piece.Satisfies (T : String → Prop) (F : String → Nat → Prop) : Piece → Prop
  | .text sql => T sql
  | .bind _ => True
  | .fragment sql args => F sql args.length

/-- `Piece.Satisfies` of what the caller of a condition writes. -/
def Part.Satisfies (T : String → Prop) (F : String → Nat → Prop) : Part → Prop
  | .identifier _ => True
  | .column name => T name
  | .subquery sql => T sql
  | .value => True
  | .fragment sql args => F sql args

variable {T : String → Prop} {F : String → Nat → Prop}

theorem Predicate.satisfies_list (hT : TextProperty T) (vs : List Value) :
    ∀ q ∈ Predicate.list vs, q.Satisfies T F := by
  intro q hq
  obtain rfl | ⟨v, rfl⟩ := Predicate.mem_list hq
  · exact hT.of_bare (by decide)
  · trivial

/-- The pieces of a clause have a property that its parts have. -/
theorem Resolves.satisfies (hT : TextProperty T) {o : Operand} {p : Predicate}
    (h : Resolves lookup o p) (hparts : ∀ q ∈ o.parts, q.Satisfies T F) :
    ∀ q ∈ p.pieces, q.Satisfies T F := by
  have hblank : Bare " " := by decide
  have compared {name : String} (hname : T name) (op : Comparison) :
      T (name ++ " " ++ op.operator ++ " ") :=
    hT.append_bare (hT.append_bare (hT.append_bare hname hblank) (bare_operator op)) hblank
  have headed {name keyword : String} (hname : T name) (n : Bool) (hkeyword : Bare keyword) :
      T (name ++ " " ++ ConditionKind.negation n ++ keyword) :=
    hT.append_bare (hT.append_bare (hT.append_bare hname hblank) (bare_negation n)) hkeyword
  have hclose : T ")" := hT.of_bare (by decide)
  induction h with
  | @column name v found =>
    have hname : T name := hparts (.column name) (.head _)
    simp [Predicate.pieces, Piece.Satisfies, compared hname .eq]
  | @raw sql =>
    have hsql : F sql 0 := hparts (.fragment sql 0) (.head _)
    simpa [Predicate.pieces, Piece.Satisfies] using hsql
  | @compare op name v args =>
    have hname : T name := hparts (.column name) (.head _)
    simp [Predicate.pieces, Piece.Satisfies, compared hname op]
  | @inList n name v args =>
    have hname : T name := hparts (.column name) (.head _)
    have hopen := @headed name "IN (" hname n (by decide)
    simp [Predicate.pieces, Piece.Satisfies, hopen, hclose]
  | @between n name low high right =>
    have hname : T name := hparts (.column name) (.head _)
    have hlow := @headed name "BETWEEN " hname n (by decide)
    have hhigh : T " AND " := hT.of_bare (by decide)
    simp [Predicate.pieces, Piece.Satisfies, hlow, hhigh]
  | @existence n subquery right args =>
    have hsubquery : T subquery := hparts (.subquery subquery) (.head _)
    have hopen : T (ConditionKind.negation n ++ "EXISTS (") :=
      hT.append_bare (hT.of_bare (bare_negation n)) (by decide)
    simp [Predicate.pieces, Piece.Satisfies, hT.append (hT.append hopen hsubquery) hclose]
  | @inSubquery n name subquery args =>
    have hname : T name := hparts (.column name) (.head _)
    have hsubquery : T subquery := hparts (.subquery subquery) (.tail _ (.head _))
    have hopen := @headed name "IN (" hname n (by decide)
    simp [Predicate.pieces, Piece.Satisfies, hT.append (hT.append hopen hsubquery) hclose]
  | @inValues n name v vs right =>
    have hname : T name := hparts (.column name) (.head _)
    intro q hq
    simp only [Predicate.pieces, List.cons_append, List.mem_cons, List.mem_append] at hq
    rcases hq with rfl | hq | rfl | hq
    · exact headed hname n (by decide)
    · exact Predicate.satisfies_list hT _ q hq
    · exact hclose
    · cases hq
  | @custom sql vs left right =>
    have hsql := hparts (.fragment sql (List.map Operand.value vs).length) (.head _)
    simpa [Predicate.pieces, Piece.Satisfies, Part.Satisfies] using hsql
  | @junction op left right clauses nonempty each ih =>
    intro q hq
    rcases Piece.mem_separated hq with rfl | ⟨ps, hps, hq⟩
    · exact hT.append_bare (hT.append_bare (hT.of_bare hblank) (bare_keyword op)) hblank
    · rw [Predicate.piecesOf_eq_map, List.map_map] at hps
      obtain ⟨c, hc, rfl⟩ := List.mem_map.mp hps
      refine ih c hc (fun part hpart => hparts part ?_) q hq
      rw [Operand.parts, Operand.partsOfAll_eq_flatMap]
      exact List.mem_flatMap.mpr ⟨c.1, List.mem_map_of_mem hc, hpart⟩
  | not clause ih =>
    intro q hq
    simp only [Predicate.pieces, List.cons_append, List.mem_cons, List.mem_append] at hq
    rcases hq with rfl | hq | rfl | hq
    · exact hT.of_bare (by decide)
    · exact ih hparts q hq
    · exact hclose
    · cases hq

/-! ## Filters -/

theorem RowLimit.demands_pieces (d : Dialect) (lead : String) (l : RowLimit) :
    (l.pieces d lead).flatMap Piece.demands = List.replicate l.values.length ⟨1, 1⟩ := by
  cases l with
  | none => rfl
  | count n => rfl
  | page skipped n => cases d <;> rfl

theorem RowLimit.satisfies_pieces (hT : TextProperty T) (d : Dialect) {lead : String}
    (hlead : Bare lead) (l : RowLimit) : ∀ q ∈ l.pieces d lead, q.Satisfies T F := by
  have hlimit : T (lead ++ "LIMIT ") := hT.append_bare (hT.of_bare hlead) (by decide)
  have hoffset : T " OFFSET " := hT.of_bare (by decide)
  have hcomma : T ", " := hT.of_bare (by decide)
  cases l with
  | none => simp [RowLimit.pieces]
  | count n => simpa [RowLimit.pieces, Piece.Satisfies] using hlimit
  | page skipped n => cases d <;> simp [RowLimit.pieces, Piece.Satisfies, hlimit, hoffset, hcomma]

theorem Condition.limitOperands_of_resolves {c : Condition} {p : Predicate}
    (h : Resolves lookup c.toOperand p) : c.limitOperands = [] := by
  obtain ⟨kind, left, right, args⟩ := c
  cases kind with
  | limit => cases h
  | junction op =>
    cases op with
    | or => rfl
    | and =>
      obtain ⟨clauses, rfl, -, each, -⟩ := h.junction_inv
      simp only [limitOperands, among_map_fst each, List.flatten_nil]
  | _ => rfl

/-- The parts around a LIMIT are those of the other clauses, and then its values. -/
theorem Filter.parts_limited {left right limitLeft limitRight : Option Operand} {l : RowLimit}
    {before after : List (Operand × Predicate)}
    (each : ∀ c ∈ before ++ after, Resolves lookup c.1 c.2) :
    (Filter.condition ⟨.junction .and, left, right, before.map Prod.fst ++
        .node .limit limitLeft limitRight (l.values.map .value) :: after.map Prod.fst⟩).parts =
      ((before ++ after).map Prod.fst).flatMap Operand.parts ++
        List.replicate l.values.length .value := by
  have hbefore := Condition.among_map_fst fun c hc => each c (List.mem_append_left after hc)
  have hafter := Condition.among_map_fst fun c hc => each c (List.mem_append_right before hc)
  simp [Filter.parts, Condition.toOperand, Operand.parts, Operand.atomParts,
    Operand.partsOfAll_eq_flatMap, Condition.limitOperands, RowLimit.among_append, RowLimit.among,
    hbefore, hafter]

/-- The predicate of a LIMIT's neighbours is their conjunction, if there are any. -/
theorem Resolves.conjunction {clauses : List (Operand × Predicate)}
    (each : ∀ c ∈ clauses, Resolves lookup c.1 c.2) (l : RowLimit) :
    clauses = [] ∨ ∃ p,
      Resolves lookup (.node (.junction .and) none none (clauses.map Prod.fst)) p ∧
      Selection.predicatePieces ⟨Predicate.conjunction? (clauses.map Prod.snd), l⟩ = p.pieces := by
  cases clauses with
  | nil => exact .inl rfl
  | cons c clauses => exact .inr ⟨_, .junction (by simp) each, rfl⟩

/-- The pieces of a selection, without the keyword, ask for what the parts of its
condition ask for. -/
theorem Selects.demands {c : Condition} {s : Selection} (h : Selects lookup c s) :
    s.predicatePieces.flatMap Piece.demands ++ List.replicate s.limit.values.length ⟨1, 1⟩ =
      (Filter.condition c).parts.flatMap Part.demands := by
  cases h with
  | @limit left right l =>
    have hparts : (Filter.condition ⟨.limit, left, right, l.values.map .value⟩).parts =
        List.replicate (l.values.map Operand.value).length .value := rfl
    rw [hparts, Part.demands_values, List.length_map]
    rfl
  | @limited _ _ _ _ l before after each =>
    rw [Filter.parts_limited each, List.flatMap_append, Part.demands_values]
    refine congrArg (· ++ _) ?_
    obtain hnil | ⟨p, whole, hpieces⟩ := Resolves.conjunction each l
    · rw [hnil]
      rfl
    · rw [hpieces, whole.demands, Operand.parts, Operand.partsOfAll_eq_flatMap]
  | @unlimited c p whole =>
    rw [Filter.parts, Condition.limitOperands_of_resolves whole, List.flatMap_append,
      ← whole.demands]
    rfl

/-- The pieces of a selection, without the keyword, have a property that the parts of its
condition have. -/
theorem Selects.satisfies (hT : TextProperty T) {c : Condition} {s : Selection}
    (h : Selects lookup c s) (hparts : ∀ q ∈ (Filter.condition c).parts, q.Satisfies T F) :
    ∀ q ∈ s.predicatePieces, q.Satisfies T F := by
  cases h with
  | limit l =>
    intro q hq
    cases hq
  | @limited _ _ _ _ l before after each =>
    rw [Filter.parts_limited each] at hparts
    obtain hnil | ⟨p, whole, hpieces⟩ := Resolves.conjunction each l
    · rw [hnil]
      intro q hq
      cases hq
    · rw [hpieces]
      refine whole.satisfies hT fun q hq => hparts q (List.mem_append_left _ ?_)
      rwa [Operand.parts, Operand.partsOfAll_eq_flatMap] at hq
  | unlimited whole =>
    exact whole.satisfies hT fun q hq => hparts q (List.mem_append_left _ hq)

namespace Filter

/-- Checking keeps what a filter asks for: that of its predicate, and then one
argument for each value of its limit. -/
theorem demands_of_select {filter : Filter} {s : Selection}
    (h : filter.select lookup = .ok s) :
    s.predicatePieces.flatMap Piece.demands ++ List.replicate s.limit.values.length ⟨1, 1⟩ =
      filter.parts.flatMap Part.demands := by
  cases filter with
  | none => cases h; rfl
  | condition c => exact (Condition.select_eq_ok_iff.mp h).demands
  | raw clause args =>
    simp only [select] at h
    split at h
    · next hblank => cases h; simp [parts, hblank, Selection.predicatePieces, RowLimit.values]
    · next hblank => cases h; simp [parts, hblank, Selection.predicatePieces, RowLimit.values,
        Predicate.pieces, Piece.demands, Part.demands]

theorem satisfies_of_select (hT : TextProperty T) {filter : Filter} {s : Selection}
    (h : filter.select lookup = .ok s) (hparts : ∀ q ∈ filter.parts, q.Satisfies T F) :
    ∀ q ∈ s.predicatePieces, q.Satisfies T F := by
  cases filter with
  | none => cases h; simp [Selection.predicatePieces]
  | condition c => exact (Condition.select_eq_ok_iff.mp h).satisfies hT hparts
  | raw clause args =>
    simp only [select] at h
    split at h
    · cases h; simp [Selection.predicatePieces]
    · next hblank =>
      cases h
      simpa [parts, hblank, Selection.predicatePieces, Predicate.pieces, Piece.Satisfies,
        Part.Satisfies] using hparts

end Filter

/-! ## Plain text -/

theorem textProperty_plain : TextProperty fun sql => '$' ∉ sql.toList where
  of_bare h := h.1
  append h h' := by simp [h, h']

/-- A plain fragment; the number of its arguments does not matter. -/
def PlainFragment (sql : String) (_ : Nat) : Prop :=
  '$' ∉ sql.toList ∧ Placeholder.NoNumeral sql.toList

theorem Piece.plain_iff_satisfies {q : Piece} :
    q.Plain ↔ q.Satisfies (fun sql => '$' ∉ sql.toList) PlainFragment := by
  cases q <;> rfl

theorem Part.Plain.satisfies {q : Part} (h : q.Plain) :
    q.Satisfies (fun sql => '$' ∉ sql.toList) PlainFragment := by
  cases q with
  | identifier name => trivial
  | value => trivial
  | column name => exact h
  | subquery sql => exact h
  | fragment sql args => exact h

end RelMap
