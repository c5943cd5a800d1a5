-- SUMMARY: Which declarations are models, and what is wrong with the attributes of the others.
import Mathlib.Data.List.Forall2
import RelMap.Derive.Expansion

/-!
# Attributes of fields

A `Place` is an attribute together with those before it on the same field, and `Place.Reports` says
what is wrong with it there. Main statement: code is derived from exactly the structs with named
fields and no parameters on whose fields nothing is wrong with any attribute. Of all others with
named fields and no parameters every place where something is wrong is reported, in order and once.
-/
namespace RelMap.Derive

namespace Attribute

/-- The name of the attribute is that of the slot. -/
def IsFor (a : Attribute) (slot : Slot) : Prop := a.rooted = false ∧ a.segments = [slot.label]

instance (a : Attribute) (slot : Slot) : Decidable (a.IsFor slot) :=
  inferInstanceAs (Decidable (_ ∧ _))

/-- The arguments of the attribute are one text. -/
def HasText (a : Attribute) (l : Literal) : Prop :=
  a.content = .arguments [.literal l] ∧ l.kind = .string

/-- The attribute gives a text to a slot. -/
def Gives (a : Attribute) (slot : Slot) (l : Literal) : Prop := a.IsFor slot ∧ a.HasText l

/-- The text that an attribute gives to a slot. -/
def given? (a : Attribute) (slot : Slot) : Option Literal :=
  if a.IsFor slot then (a.text slot).toOption else none

variable {a : Attribute} {slot slot' : Slot} {l : Literal}

theorem slot?_eq_some_iff : a.slot? = some slot ↔ a.IsFor slot := by
  unfold slot? IsFor
  cases slot <;> (split_ifs <;> simp_all [Slot.label])

theorem slot?_eq_none_iff : a.slot? = none ↔ ∀ slot, ¬ a.IsFor slot := by
  simp only [← slot?_eq_some_iff, Option.eq_none_iff_forall_ne_some, ne_eq]

theorem IsFor.unique (h : a.IsFor slot) (h' : a.IsFor slot') : slot = slot' :=
  Option.some.inj ((slot?_eq_some_iff.mpr h).symm.trans (slot?_eq_some_iff.mpr h'))

theorem text_eq_ok_iff : a.text slot = .ok l ↔ a.HasText l := by
  rw [text, HasText]
  split
  · next h => simp [h]
  · next h => simp [h]
  · next h => simp [h]
  · next l' rest h =>
    rw [h]
    split_ifs with hkind hrest
    · simp only [false_iff]
      rintro ⟨heq, hl⟩
      cases heq
      exact hkind hl
    · obtain rfl := List.isEmpty_iff.mp hrest
      rw [not_not] at hkind
      simp only [Except.ok.injEq, Meta.arguments.injEq, List.cons.injEq, Token.literal.injEq,
        and_true]
      exact ⟨fun heq => ⟨heq, heq ▸ hkind⟩, And.left⟩
    · simp_all
  · next h => simp_all

theorem given?_eq_some_iff : a.given? slot = some l ↔ a.Gives slot l := by
  unfold given? Gives
  rw [← (text_eq_ok_iff : a.text slot = .ok l ↔ a.HasText l)]
  cases a.text slot <;> simp [Except.toOption]

/-- The text that the first of several attributes gives to a slot. -/
def first? (as : List Attribute) (slot : Slot) : Option Literal := as.findSome? (·.given? slot)

theorem isSome_first?_iff {as : List Attribute} :
    (first? as slot).isSome = true ↔ ∃ a ∈ as, ∃ l, a.Gives slot l := by
  rw [first?, List.findSome?_isSome_iff]
  simp only [Option.isSome_iff_exists, given?_eq_some_iff]

theorem first?_concat (as : List Attribute) (a : Attribute) (slot : Slot) :
    first? (as ++ [a]) slot = (first? as slot).or (a.given? slot) := by
  simp [first?, List.findSome?_append]

theorem given?_of_not_isFor (h : ¬ a.IsFor slot) : a.given? slot = none := if_neg h

end Attribute

/-- An attribute, and those before it on the same field. -/
@[ext]
structure Place where
  before : List Attribute
  here : Attribute

namespace Place

/-- What is wrong with an attribute: the syntax of its argument, or, if that is a text, another
text for the same slot before it. -/
inductive Reports (p : Place) : String → Prop
  | unreadable {slot : Slot} {e : SyntaxError} (hfor : p.here.IsFor slot)
      (htext : p.here.text slot = .error e) : Reports p e.message
  | duplicate {slot : Slot} {l l' : Literal} {a : Attribute} (hgives : p.here.Gives slot l)
      (hmem : a ∈ p.before) (hbefore : a.Gives slot l') : Reports p "duplicate attribute"

/-- Something is wrong with the attribute. -/
def Offends (p : Place) : Prop := ∃ message, p.Reports message

/-- What is reported of an attribute. -/
def error? (p : Place) : Option DeriveError :=
  p.here.slot?.bind fun slot =>
    match p.here.text slot with
    | .error e => some (.text e)
    | .ok _ => if (Attribute.first? p.before slot).isSome then some .duplicate else none

variable {p : Place} {e : DeriveError}

theorem reports_of_error? (h : p.error? = some e) : p.Reports e.message := by
  obtain ⟨slot, hslot, h⟩ := Option.bind_eq_some_iff.mp h
  rw [Attribute.slot?_eq_some_iff] at hslot
  split at h
  · next e htext =>
    obtain rfl := Option.some.inj h
    exact .unreadable hslot htext
  · next l htext =>
    split_ifs at h with hfirst
    obtain rfl := Option.some.inj h
    obtain ⟨a, hmem, l', hgives⟩ := Attribute.isSome_first?_iff.mp hfirst
    exact .duplicate ⟨hslot, Attribute.text_eq_ok_iff.mp htext⟩ hmem hgives

theorem Reports.error?_ne_none {message : String} (h : p.Reports message) : p.error? ≠ none := by
  cases h with
  | unreadable hfor htext =>
    simp [error?, Attribute.slot?_eq_some_iff.mpr hfor, htext]
  | duplicate hgives hmem hbefore =>
    have hfirst := Attribute.isSome_first?_iff.mpr ⟨_, hmem, _, hbefore⟩
    simp [error?, Attribute.slot?_eq_some_iff.mpr hgives.1, Attribute.text_eq_ok_iff.mpr hgives.2,
      hfirst]

theorem isSome_error?_iff : p.error?.isSome = true ↔ p.Offends := by
  rw [Option.isSome_iff_exists]
  constructor
  · rintro ⟨e, he⟩
    exact ⟨e.message, reports_of_error? he⟩
  · rintro ⟨message, hreports⟩
    exact Option.ne_none_iff_exists'.mp hreports.error?_ne_none

instance (p : Place) : Decidable p.Offends := decidable_of_iff _ isSome_error?_iff

/-- There is one report for each place where something is wrong. -/
theorem reports_filterMap (ps : List Place) : List.Forall₂ Reports
    (ps.filter fun p => p.Offends) ((ps.filterMap error?).map DeriveError.message) := by
  induction ps with
  | nil => exact .nil
  | cons p rest ih =>
    cases h : p.error? with
    | none =>
      have hoffends : ¬ p.Offends := by
        rw [← isSome_error?_iff, h]
        exact Bool.false_ne_true
      rw [List.filter_cons_of_neg (by simpa using hoffends), List.filterMap_cons_none h]
      exact ih
    | some e =>
      have hreports := reports_of_error? h
      have hoffends : p.Offends := ⟨_, hreports⟩
      rw [List.filter_cons_of_pos (by simpa using hoffends), List.filterMap_cons_some h]
      exact .cons hreports ih

end Place

/-! ## The attributes of a field -/

/-- The places of attributes that stand behind others. -/
def placesAfter (before : List Attribute) : List Attribute → List Place
  | [] => []
  | a :: rest => ⟨before, a⟩ :: placesAfter (before ++ [a]) rest

theorem mem_placesAfter {before as : List Attribute} {p : Place} : p ∈ placesAfter before as ↔
    ∃ xs ys, as = xs ++ p.here :: ys ∧ p.before = before ++ xs := by
  induction as generalizing before with
  | nil => simp [placesAfter]
  | cons a rest ih =>
    rw [placesAfter, List.mem_cons, ih]
    constructor
    · rintro (rfl | ⟨xs, ys, rfl, hbefore⟩)
      · exact ⟨[], rest, rfl, by simp⟩
      · exact ⟨a :: xs, ys, rfl, by simp [hbefore]⟩
    · rintro ⟨xs, ys, heq, hbefore⟩
      cases xs with
      | nil =>
        obtain ⟨rfl, rfl⟩ := List.cons.inj heq
        exact .inl (by simp_all [Place.ext_iff])
      | cons x xs =>
        obtain ⟨rfl, rfl⟩ := List.cons.inj heq
        exact .inr ⟨xs, ys, rfl, by simp [hbefore]⟩

theorem Given.get_set (g : Given) (slot slot' : Slot) (l : Literal) :
    (g.set slot l).get slot' = if slot' = slot then some l else g.get slot' := by
  cases slot <;> cases slot' <;> rfl

/-- An attribute gives its text to a slot that is free, and otherwise may be reported. -/
theorem takeAttributes_cons {g : Given} {before : List Attribute}
    (h : ∀ slot, g.get slot = Attribute.first? before slot) (a : Attribute)
    (rest : List Attribute) :
    ∃ g' : Given, (∀ slot, g'.get slot = Attribute.first? (before ++ [a]) slot) ∧
      takeAttributes g (a :: rest) = ((takeAttributes g' rest).1,
        (Place.error? ⟨before, a⟩).toList ++ (takeAttributes g' rest).2) := by
  -- An attribute that gives nothing to a free slot leaves the first texts as they are.
  have hkept (hnone : ∀ slot, Attribute.first? before slot = none → a.given? slot = none)
      (slot : Slot) : g.get slot = Attribute.first? (before ++ [a]) slot := by
    rw [h, Attribute.first?_concat]
    cases hfirst : Attribute.first? before slot with
    | none => rw [hnone slot hfirst, Option.or_none]
    | some l => rfl
  cases hslot : a.slot? with
  | none =>
    have hnot := Attribute.slot?_eq_none_iff.mp hslot
    refine ⟨g, hkept fun slot _ => Attribute.given?_of_not_isFor (hnot slot), ?_⟩
    simp [takeAttributes, Place.error?, hslot]
  | some slot =>
    have hfor := Attribute.slot?_eq_some_iff.mp hslot
    have hother {slot' : Slot} (hne : slot' ≠ slot) : a.given? slot' = none :=
      Attribute.given?_of_not_isFor fun hfor' => hne (hfor'.unique hfor)
    cases htext : a.text slot with
    | error e =>
      have hgiven : a.given? slot = none := by simp [Attribute.given?, htext, Except.toOption]
      refine ⟨g, hkept fun slot' _ => ?_, by simp [takeAttributes, Place.error?, hslot, htext]⟩
      by_cases hne : slot' = slot
      · rw [hne, hgiven]
      · exact hother hne
    | ok l =>
      cases hfirst : Attribute.first? before slot with
      | none =>
        have hgiven : a.given? slot = some l :=
          Attribute.given?_eq_some_iff.mpr ⟨hfor, Attribute.text_eq_ok_iff.mp htext⟩
        refine ⟨g.set slot l, fun slot' => ?_, ?_⟩
        · rw [Given.get_set, Attribute.first?_concat]
          by_cases hne : slot' = slot
          · rw [if_pos hne, hne, hfirst, hgiven]
            rfl
          · rw [if_neg hne, hother hne, Option.or_none, h]
        · simp [takeAttributes, Place.error?, hslot, htext, hfirst, h]
      | some l' =>
        refine ⟨g, hkept fun slot' hnone => hother ?_, ?_⟩
        · rintro rfl
          cases hfirst.symm.trans hnone
        · simp [takeAttributes, Place.error?, hslot, htext, hfirst, h]

/-- The slots get the first texts for them, and everything that is wrong is reported. -/
theorem takeAttributes_eq {g : Given} {before : List Attribute}
    (h : ∀ slot, g.get slot = Attribute.first? before slot) (as : List Attribute) :
    (∀ slot, (takeAttributes g as).1.get slot = Attribute.first? (before ++ as) slot) ∧
      (takeAttributes g as).2 = (placesAfter before as).filterMap Place.error? := by
  induction as generalizing g before with
  | nil => simpa [takeAttributes, placesAfter] using h
  | cons a rest ih =>
    obtain ⟨g', hg', heq⟩ := takeAttributes_cons h a rest
    obtain ⟨hfirst, herrors⟩ := ih hg'
    rw [heq, List.append_cons]
    refine ⟨hfirst, ?_⟩
    rw [herrors, placesAfter, List.filterMap_cons]
    cases Place.error? ⟨before, a⟩ <;> rfl

/-- Attributes for no slot are passed over. -/
theorem takeAttributes_filter (g : Given) (as : List Attribute) :
    takeAttributes g (as.filter fun a => a.IsFor .db ∨ a.IsFor .option) = takeAttributes g as := by
  induction as generalizing g with
  | nil => rfl
  | cons a rest ih =>
    by_cases hfor : a.IsFor .db ∨ a.IsFor .option
    · rw [List.filter_cons_of_pos (by simpa using hfor), takeAttributes, takeAttributes]
      simp only [ih]
    · have hslot : a.slot? = none := Attribute.slot?_eq_none_iff.mpr fun slot h => hfor (by
        cases slot
        · exact .inl h
        · exact .inr h)
      rw [List.filter_cons_of_neg (by simpa using hfor), takeAttributes.eq_2, hslot, ih]

/-! ## Fields -/

namespace Field

/-- The places of the attributes of a field. -/
def places (f : Field) : List Place := placesAfter [] f.attributes

/-- Every attribute for a slot has a text as its argument, and no two are for the same slot. -/
structure IsWellFormed (f : Field) : Prop where
  texts : ∀ a ∈ f.attributes, ∀ slot, a.IsFor slot → ∃ l, a.HasText l
  once : f.attributes.Pairwise fun a b => ∀ slot, a.IsFor slot → ¬ b.IsFor slot

/-- The field without the attributes that are for no slot. -/
def pruned (f : Field) : Field :=
  { f with attributes := f.attributes.filter fun a => a.IsFor .db ∨ a.IsFor .option }

variable {f : Field}

theorem toModel_errors (f : Field) : f.toModel.2 = f.places.filterMap Place.error? :=
  (takeAttributes_eq (fun slot => by cases slot <;> rfl) f.attributes).2

theorem get_given (f : Field) (slot : Slot) :
    f.toModel.1.given.get slot = Attribute.first? f.attributes slot := by
  have hnone : ∀ slot, Given.get {} slot = Attribute.first? [] slot := fun slot => by
    cases slot <;> rfl
  exact (takeAttributes_eq hnone f.attributes).1 slot

theorem mem_places {p : Place} :
    p ∈ f.places ↔ ∃ after, f.attributes = p.before ++ p.here :: after := by
  rw [places, mem_placesAfter]
  constructor
  · rintro ⟨before, after, heq, hbefore⟩
    exact ⟨after, by rw [heq, hbefore, List.nil_append]⟩
  · rintro ⟨after, heq⟩
    exact ⟨p.before, after, heq, rfl⟩

theorem IsWellFormed.not_offends (h : f.IsWellFormed) {p : Place} (hp : p ∈ f.places) :
    ¬ p.Offends := by
  obtain ⟨after, heq⟩ := mem_places.mp hp
  rintro ⟨_, hreports⟩
  cases hreports with
  | unreadable hfor htext =>
    obtain ⟨l, hl⟩ := h.texts p.here (by simp [heq]) _ hfor
    rw [Attribute.text_eq_ok_iff.mpr hl] at htext
    cases htext
  | duplicate hgives hmem hbefore =>
    have honce := h.once
    rw [heq, List.pairwise_append] at honce
    exact honce.2.2 _ hmem _ List.mem_cons_self _ hbefore.1 hgives.1

theorem isWellFormed_of_not_offends (h : ∀ p ∈ f.places, ¬ p.Offends) : f.IsWellFormed := by
  have htexts : ∀ a ∈ f.attributes, ∀ slot, a.IsFor slot → ∃ l, a.HasText l := by
    intro a ha slot hfor
    obtain ⟨before, after, heq⟩ := List.append_of_mem ha
    cases htext : a.text slot with
    | ok l => exact ⟨l, Attribute.text_eq_ok_iff.mp htext⟩
    | error e =>
      exact absurd ⟨_, .unreadable hfor htext⟩ (h ⟨before, a⟩ (mem_places.mpr ⟨after, heq⟩))
  refine ⟨htexts, List.pairwise_iff_getElem.mpr fun i j hi hj hij slot hfor hfor' => ?_⟩
  obtain ⟨l, hl⟩ := htexts _ (List.getElem_mem hi) slot hfor
  obtain ⟨l', hl'⟩ := htexts _ (List.getElem_mem hj) slot hfor'
  have hplace : ⟨f.attributes.take j, f.attributes[j]⟩ ∈ f.places :=
    mem_places.mpr ⟨f.attributes.drop (j + 1), by simp⟩
  have hbefore : f.attributes[i] ∈ f.attributes.take j :=
    List.mem_take_iff_getElem.mpr ⟨i, by omega, rfl⟩
  exact h _ hplace ⟨_, .duplicate ⟨hfor', hl'⟩ hbefore ⟨hfor, hl⟩⟩

theorem isWellFormed_iff : f.IsWellFormed ↔ ∀ p ∈ f.places, ¬ p.Offends :=
  ⟨fun h _ hp => h.not_offends hp, isWellFormed_of_not_offends⟩

theorem toModel_pruned (f : Field) : f.pruned.toModel = f.toModel := by
  rw [toModel, pruned, takeAttributes_filter, toModel]

end Field

/-! ## Declarations -/

namespace Item

/-- A struct with named fields and no parameters, all of whose fields have the attributes that they
should have. -/
def IsModel (item : Item) : Prop :=
  ∃ fields, item.body = .struct (.named fields) ∧ item.parameters = 0 ∧
    ∀ f ∈ fields, f.IsWellFormed

/-- The declaration without the attributes of named fields that are for no slot. -/
def pruned (item : Item) : Item :=
  match item.body with
  | .struct (.named fields) => { item with body := .struct (.named (fields.map Field.pruned)) }
  | _ => item

variable {item : Item} {fields : List Field}

/-- Of a struct with named fields and no parameters all that is wrong in any place is reported. -/
theorem ofItem_named (hbody : item.body = .struct (.named fields)) (hnone : item.parameters = 0) :
    let errors := (fields.flatMap Field.places).filterMap Place.error?
    Model.ofItem item =
      if errors = [] then .ok ⟨item.name, fields.map (·.toModel.1)⟩ else .error errors := by
  intro errors
  have herrors : fields.flatMap (·.toModel.2) = errors := by
    simp only [Field.toModel_errors, errors, List.filterMap_flatMap]
  rw [Model.ofItem, hbody]
  simp only [hnone, ne_eq, not_true_eq_false, if_false, herrors]
  cases errors with
  | nil => rfl
  | cons e rest => rw [if_neg (List.cons_ne_nil e rest)]

theorem errors_eq_nil_iff : (fields.flatMap Field.places).filterMap Place.error? = [] ↔
    ∀ f ∈ fields, f.IsWellFormed := by
  simp only [List.filterMap_eq_nil_iff, List.mem_flatMap, forall_exists_index, and_imp,
    Field.isWellFormed_iff, ← Place.isSome_error?_iff, Option.not_isSome_iff_eq_none]
  exact ⟨fun h f hf p hp => h p f hf hp, fun h p f hf hp => h f hf p hp⟩

/-- Everything but a struct with named fields and no parameters is refused as a whole. -/
theorem exists_ofItem_error
    (h : ¬ ∃ fields, item.body = .struct (.named fields) ∧ item.parameters = 0) :
    ∃ e, Model.ofItem item = .error [e] := by
  rw [Model.ofItem]
  split
  · exact ⟨_, rfl⟩
  · exact ⟨_, rfl⟩
  · exact ⟨_, rfl⟩
  · exact ⟨_, rfl⟩
  · next fields hbody =>
    rw [if_pos fun hnone => h ⟨fields, hbody, hnone⟩]
    exact ⟨_, rfl⟩

theorem ofItem_eq_ok_iff {m : Model} : Model.ofItem item = .ok m ↔
    ∃ fields, item.body = .struct (.named fields) ∧ item.parameters = 0 ∧
      (∀ f ∈ fields, f.IsWellFormed) ∧ m = ⟨item.name, fields.map (·.toModel.1)⟩ := by
  constructor
  · intro hm
    by_cases hstruct : ∃ fields, item.body = .struct (.named fields) ∧ item.parameters = 0
    · obtain ⟨fields, hbody, hnone⟩ := hstruct
      rw [ofItem_named hbody hnone] at hm
      split_ifs at hm with hnil
      exact ⟨fields, hbody, hnone, errors_eq_nil_iff.mp hnil, (Except.ok.inj hm).symm⟩
    · obtain ⟨e, he⟩ := exists_ofItem_error hstruct
      cases hm.symm.trans he
  · rintro ⟨fields, hbody, hnone, hfields, rfl⟩
    rw [ofItem_named hbody hnone, if_pos (errors_eq_nil_iff.mpr hfields)]

theorem exists_ofItem_errors (h : ¬ item.IsModel) :
    ∃ errors, errors ≠ [] ∧ Model.ofItem item = .error errors := by
  by_cases hstruct : ∃ fields, item.body = .struct (.named fields) ∧ item.parameters = 0
  · obtain ⟨fields, hbody, hnone⟩ := hstruct
    have herrors : (fields.flatMap Field.places).filterMap Place.error? ≠ [] := fun hnil =>
      h ⟨fields, hbody, hnone, errors_eq_nil_iff.mp hnil⟩
    exact ⟨_, herrors, by rw [ofItem_named hbody hnone, if_neg herrors]⟩
  · obtain ⟨e, he⟩ := exists_ofItem_error hstruct
    exact ⟨[e], List.cons_ne_nil e [], he⟩

theorem ofItem_pruned (item : Item) : Model.ofItem item.pruned = Model.ofItem item := by
  rw [pruned]
  split
  · next fields hbody =>
    simp only [Model.ofItem, hbody, List.flatMap_map, List.map_map, Function.comp_def,
      Field.toModel_pruned]
  · rfl

end Item

variable {source : String} {item : Item}

theorem derive_of_ofText (h : Item.ofText source = .ok item) :
    derive source = (Model.ofItem item).map fun m => String.ofList (Token.render m.expansion) := by
  simp only [derive, h]
  cases Model.ofItem item <;> rfl

/-- Code is derived from a declaration if and only if it is a model. Otherwise errors are reported,
and of a struct with named fields and no parameters one for each place where something is wrong with
an attribute, in their order. Attributes for no slot make no difference. -/
theorem derive_accepts_models (h : Item.ofText source = .ok item) :
    ((∃ code, derive source = .ok code) ↔ item.IsModel) ∧
      (¬ item.IsModel → ∃ errors, errors ≠ [] ∧ derive source = .error errors) ∧
      (∀ fields errors, item.body = .struct (.named fields) → item.parameters = 0 →
        derive source = .error errors →
          List.Forall₂ Place.Reports ((fields.flatMap Field.places).filter fun p => p.Offends)
            (errors.map DeriveError.message)) ∧
      (∀ source' item', Item.ofText source' = .ok item' → item'.pruned = item.pruned →
        derive source' = derive source) := by
  have hderive := derive_of_ofText h
  have herrors (hnot : ¬ item.IsModel) : ∃ errors, errors ≠ [] ∧ derive source = .error errors := by
    obtain ⟨errors, hne, heq⟩ := item.exists_ofItem_errors hnot
    exact ⟨errors, hne, by rw [hderive, heq]; rfl⟩
  refine ⟨⟨?_, ?_⟩, herrors, ?_, ?_⟩
  · rintro ⟨code, hcode⟩
    by_contra hnot
    obtain ⟨errors, -, heq⟩ := herrors hnot
    cases hcode.symm.trans heq
  · rintro ⟨fields, hbody, hnone, hfields⟩
    have hm := Item.ofItem_eq_ok_iff.mpr ⟨fields, hbody, hnone, hfields, rfl⟩
    exact ⟨_, by rw [hderive, hm]; rfl⟩
  · intro fields errors hbody hnone herror
    rw [hderive, Item.ofItem_named hbody hnone] at herror
    split_ifs at herror
    · cases herror
    · obtain rfl := Except.error.inj herror
      exact Place.reports_filterMap _
  · intro source' item' h' hpruned
    rw [hderive, derive_of_ofText h', ← item'.ofItem_pruned, hpruned, item.ofItem_pruned]

/-- Attributes of both names and others in between, with four of them wrong on two fields. -/
theorem derive_accepts_models_interleaved :
    let source := "struct S \x7b #[db(\"a\")] #[option(1)] #[doc] #[db(\"b\")] #[db] " ++
      "#[option(\"c\")] id: i64, #[db(\"d\", 3)] n: u8 \x7d"
    ∃ item fields, Item.ofText source = .ok item ∧ item.body = .struct (.named fields) ∧
      item.parameters = 0 ∧ ¬ item.IsModel ∧
      List.Forall₂ Place.Reports ((fields.flatMap Field.places).filter fun p => p.Offends)
        ["expected string literal", "duplicate attribute",
          "expected attribute arguments in parentheses: #[db(...)]", "unexpected token"] := by
  intro source
  obtain ⟨hread, herror⟩ : (match Item.ofText source with
      | .ok ⟨_, 0, .struct (.named _)⟩ => true
      | _ => false) = true ∧
      derive source = .error [.text (.expected ["string literal"] false), .duplicate,
        .text (.bareAttribute "db"), .text (.stray .invisible)] := by decide +kernel
  split at hread
  · next name fields h =>
    obtain ⟨haccepts, -, hreports, -⟩ := derive_accepts_models h
    refine ⟨_, fields, h, rfl, rfl, fun hmodel => ?_, hreports fields _ rfl rfl herror⟩
    obtain ⟨code, hcode⟩ := haccepts.mpr hmodel
    cases hcode.symm.trans herror
  · cases hread

end RelMap.Derive
