-- SUMMARY: How a text of atoms, NOT, AND and OR is read: by precedence, in one way only.
import RelMap.Condition.Kind

/-!
# Precedence

The text of a clause as words: atoms, `AND` and `OR` between them, and `NOT (` with its
closing parenthesis. `Reads` is the grammar in which NOT binds tighter than AND and AND
tighter than OR; it gives a text the truth value that it has where its atoms have theirs.
`run` reads from left to right in one pass. Main statement: whatever the grammar reads, the
pass reads too, so that a text has one truth value at most.
-/
namespace RelMap

/-- A word of the text of a clause. -/
inductive Word (α : Type) where
  | atom (a : α)
  /-- The keyword of a junction, between two clauses. -/
  | junction (op : Junction)
  /-- `NOT` and the parenthesis after it. -/
  | negation
  /-- The parenthesis that ends a negated text. -/
  | closing

namespace Word

variable {α : Type}

/-- Texts with the keyword of a junction between each two. -/
def joined (op : Junction) : List (List (Word α)) → List (Word α)
  | [] => []
  | [ws] => ws
  | ws :: rest => ws ++ .junction op :: joined op rest

theorem joined_cons (op : Junction) (ws : List (Word α)) {rest : List (List (Word α))}
    (h : rest ≠ []) : joined op (ws :: rest) = ws ++ .junction op :: joined op rest := by
  cases rest with
  | nil => exact absurd rfl h
  | cons ws' rest => rfl

theorem joined_append (op : Junction) {wss wss' : List (List (Word α))} (h : wss ≠ [])
    (h' : wss' ≠ []) :
    joined op (wss ++ wss') = joined op wss ++ .junction op :: joined op wss' := by
  induction wss with
  | nil => exact absurd rfl h
  | cons ws rest ih =>
    cases rest with
    | nil => exact joined_cons op ws h'
    | cons ws' rest =>
      have hrest : ws' :: rest ≠ [] := List.cons_ne_nil ws' rest
      rw [List.cons_append, joined_cons op ws (List.append_ne_nil_of_left_ne_nil hrest wss'),
        ih hrest, joined_cons op ws hrest, List.append_assoc, List.cons_append]

/-- What is joined of parts that are joined the same way needs no grouping. -/
theorem joined_flatMap {β : Type} (op : Junction) {f : β → List (List (Word α))} {xs : List β}
    (h : ∀ x ∈ xs, f x ≠ []) :
    joined op (xs.map fun x => joined op (f x)) = joined op (xs.flatMap f) := by
  induction xs with
  | nil => rfl
  | cons x xs ih =>
    obtain ⟨hx, hxs⟩ := List.forall_mem_cons.mp h
    cases xs with
    | nil => simp [joined]
    | cons y ys =>
      have hrest : (y :: ys).flatMap f ≠ [] := by
        rw [List.flatMap_cons]
        exact List.append_ne_nil_of_left_ne_nil (h y (by simp)) _
      have hmap : (y :: ys).map (fun x => joined op (f x)) ≠ [] := by simp
      have hflat : (x :: y :: ys).flatMap f = f x ++ (y :: ys).flatMap f := List.flatMap_cons
      rw [List.map_cons, joined_cons op _ hmap, ih hxs, hflat, joined_append op hx hrest]

end Word

/-! ## The grammar -/

/-- How tightly a text holds together. -/
inductive Tier where
  | literal
  | conjunction
  | disjunction

namespace Junction

/-- The tier that a junction is read at. -/
def tier : Junction → Tier
  | .and => .conjunction
  | .or => .disjunction

/-- The truth value of a junction whose clauses have the given ones. -/
def combine : Junction → List Bool → Bool
  | .and, bs => bs.all id
  | .or, bs => bs.any id

theorem combine_singleton (op : Junction) (b : Bool) : op.combine [b] = b := by
  cases op <;> cases b <;> rfl

end Junction

section

variable {α : Type} (truth : α → Bool)

/-- The truth value that a text is read to have at a tier. A literal is an atom or a negated
text, literals make a conjunction, and conjunctions make a text. -/
inductive Reads : Tier → List (Word α) → Bool → Prop
  | atom (a : α) : Reads .literal [.atom a] (truth a)
  | not {ws b} (inner : Reads .disjunction ws b) :
    Reads .literal (.negation :: ws ++ [.closing]) (!b)
  | literal {ws b} (h : Reads .literal ws b) : Reads .conjunction ws b
  | and {ws ws' b b'} (front : Reads .conjunction ws b) (last : Reads .literal ws' b') :
    Reads .conjunction (ws ++ .junction .and :: ws') (b && b')
  | conjunction {ws b} (h : Reads .conjunction ws b) : Reads .disjunction ws b
  | or {ws ws' b b'} (front : Reads .disjunction ws b) (last : Reads .conjunction ws' b') :
    Reads .disjunction (ws ++ .junction .or :: ws') (b || b')

variable {truth}

/-- Junctions of the same kind need no grouping: a conjunction of conjunctions is one. -/
theorem Reads.and_conjunction {ws ws' : List (Word α)} {b b' : Bool}
    (front : Reads truth .conjunction ws b) (back : Reads truth .conjunction ws' b') :
    Reads truth .conjunction (ws ++ .junction .and :: ws') (b && b') := by
  -- By induction on how the text at the back is read; its last literal is taken up last.
  generalize htier : Tier.conjunction = tier at back
  induction back with
  | literal last => exact .and front last
  | and _ last ih _ =>
    have hfront := ih htier
    rw [← Bool.and_assoc]
    simpa using hfront.and last
  | _ => cases htier

theorem Reads.or_disjunction {ws ws' : List (Word α)} {b b' : Bool}
    (front : Reads truth .disjunction ws b) (back : Reads truth .disjunction ws' b') :
    Reads truth .disjunction (ws ++ .junction .or :: ws') (b || b') := by
  generalize htier : Tier.disjunction = tier at back
  induction back with
  | conjunction last => exact .or front last
  | or _ last ih _ =>
    have hfront := ih htier
    rw [← Bool.or_assoc]
    simpa using hfront.or last
  | _ => cases htier

/-- Clauses that are read at the tier of a junction are read as that junction. -/
theorem Reads.joined {β : Type} {op : Junction} {xs : List β} {text : β → List (Word α)}
    {value : β → Bool} (h : xs ≠ []) (each : ∀ x ∈ xs, Reads truth op.tier (text x) (value x)) :
    Reads truth op.tier (Word.joined op (xs.map text)) (op.combine (xs.map value)) := by
  induction xs with
  | nil => exact absurd rfl h
  | cons x xs ih =>
    obtain ⟨hx, hxs⟩ := List.forall_mem_cons.mp each
    cases xs with
    | nil =>
      rw [List.map_singleton, List.map_singleton, Junction.combine_singleton]
      exact hx
    | cons y ys =>
      have hrest := ih (List.cons_ne_nil y ys) hxs
      cases op with
      | and => exact Reads.and_conjunction hx hrest
      | or => exact Reads.or_disjunction hx hrest

/-! ## Reading in one pass -/

/-- How far a text, or the inside of a parenthesis, has been read. -/
structure Frame where
  /-- Whether one of the finished conjunctions holds. -/
  earlier : Bool
  /-- Whether the literals of the current conjunction hold so far. -/
  current : Bool

namespace Frame

def start : Frame := ⟨false, true⟩

def value (f : Frame) : Bool := f.earlier || f.current

/-- Take up a literal. -/
def add (f : Frame) (b : Bool) : Frame := ⟨f.earlier, f.current && b⟩

/-- Begin the next conjunction. -/
def next (f : Frame) : Frame := ⟨f.value, true⟩

theorem add_add (f : Frame) (b b' : Bool) : (f.add b).add b' = f.add (b && b') := by
  simp only [add, Bool.and_assoc]

variable (truth)

/-- Read a text from left to right, with the frames of the open parentheses. -/
def run : List (Word α) → Frame → List Frame → Option Bool
  | [], f, [] => some f.value
  | [], _, _ :: _ => none
  | .atom a :: ws, f, fs => run ws (f.add (truth a)) fs
  | .junction .and :: ws, f, fs => run ws f fs
  | .junction .or :: ws, f, fs => run ws f.next fs
  | .negation :: ws, f, fs => run ws .start (f :: fs)
  | .closing :: _, _, [] => none
  | .closing :: ws, f, outer :: fs => run ws (outer.add !f.value) fs

/-- To read the text is to take up one literal. -/
def Adds (ws : List (Word α)) (b : Bool) : Prop :=
  ∀ f fs rest, run truth (ws ++ rest) f fs = run truth rest (f.add b) fs

/-- To read the text where a conjunction begins is to come to a frame that has its value. -/
def Fills (ws : List (Word α)) (b : Bool) : Prop :=
  ∀ earlier, ∃ f : Frame, f.value = (earlier || b) ∧
    ∀ fs rest, run truth (ws ++ rest) ⟨earlier, true⟩ fs = run truth rest f fs

variable {truth}

theorem Adds.fills {ws : List (Word α)} {b : Bool} (h : Adds truth ws b) : Fills truth ws b := by
  intro earlier
  refine ⟨⟨earlier, b⟩, rfl, fun fs rest => ?_⟩
  exact h ⟨earlier, true⟩ fs rest

theorem Adds.and {ws ws' : List (Word α)} {b b' : Bool} (front : Adds truth ws b)
    (last : Adds truth ws' b') : Adds truth (ws ++ .junction .and :: ws') (b && b') := by
  intro f fs rest
  rw [List.append_assoc, front, List.cons_append, run, last, Frame.add_add]

theorem Fills.or {ws ws' : List (Word α)} {b b' : Bool} (front : Fills truth ws b)
    (last : Adds truth ws' b') : Fills truth (ws ++ .junction .or :: ws') (b || b') := by
  intro earlier
  obtain ⟨f, hvalue, hfront⟩ := front earlier
  refine ⟨f.next.add b', ?_, fun fs rest => ?_⟩
  · rw [← Bool.or_assoc, ← hvalue]
    rfl
  · rw [List.append_assoc, hfront, List.cons_append, run, last]

theorem Fills.not {ws : List (Word α)} {b : Bool} (inner : Fills truth ws b) :
    Adds truth (.negation :: ws ++ [.closing]) (!b) := by
  intro outer fs rest
  obtain ⟨f, hvalue, hinner⟩ := inner false
  have hrun : run truth (.negation :: ws ++ [.closing] ++ rest) outer fs =
      run truth (ws ++ .closing :: rest) .start (outer :: fs) := by
    simp [run]
  rw [hrun, Frame.start, hinner, run, hvalue, Bool.false_or]

end Frame

/-- What reading a text of some tier does. -/
def Tier.Run (truth : α → Bool) : Tier → List (Word α) → Bool → Prop
  | .literal => Frame.Adds truth
  | .conjunction => Frame.Adds truth
  | .disjunction => Frame.Fills truth

/-- The pass follows the grammar. -/
theorem Reads.run {tier : Tier} {ws : List (Word α)} {b : Bool} (h : Reads truth tier ws b) :
    tier.Run truth ws b := by
  induction h with
  | atom a => exact fun f fs rest => rfl
  | not _ inner => exact inner.not
  | literal _ ih => exact ih
  | and _ _ front last => exact front.and last
  | conjunction _ ih => exact ih.fills
  | or _ _ front last => exact front.or last

/-- A text is read in one way only. -/
theorem Reads.eq {ws : List (Word α)} {b b' : Bool} (h : Reads truth .disjunction ws b)
    (h' : Reads truth .disjunction ws b') : b = b' := by
  have read {b : Bool} (h : Reads truth .disjunction ws b) :
      Frame.run truth ws .start [] = some b := by
    obtain ⟨f, hvalue, hrun⟩ := h.run false
    have hend := hrun [] []
    rw [List.append_nil] at hend
    rw [Frame.start, hend, Frame.run, hvalue, Bool.false_or]
  exact Option.some.inj ((read h).symm.trans (read h'))

end

end RelMap
