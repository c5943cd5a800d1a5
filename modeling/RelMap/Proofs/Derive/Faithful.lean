-- SUMMARY: What derived code says of the struct that it is derived from.
import Mathlib.Data.List.Pairwise
import RelMap.Proofs.Derive.Attributes
import RelMap.Proofs.Derive.Code

/-!
# Faithful code

`DefinitionCode.Defines` says what the definition of a field holds. Main statement: derived code can
be read in one way, as one definition for each field in their order, and two structs with the same
derived code agree in everything that a model is made of. A type is compared as it is written again,
with its lifetimes first: how it was spelled does not reach the code.
-/
namespace RelMap.Derive

open Token (quoted)

/-- An attribute of the field gives a text to a slot. -/
def Field.Gives (f : Field) (slot : Slot) (l : Literal) : Prop :=
  ∃ a ∈ f.attributes, a.Gives slot l

/-- The definition of a field that has a given index in a struct. -/
structure DefinitionCode.Defines (d : DefinitionCode) (model : String) (f : Field) (index : Nat) :
    Prop where
  index : d.index = index
  name : d.name = f.name
  db : ∀ l, d.db = some l ↔ f.Gives .db l
  option : ∀ l, d.option = some l ↔ f.Gives .option l
  /-- There is an accessor exactly for the fields that can be stored. -/
  storable : d.kind.isSome = f.type.isStorable
  accessible : d.accessor = none ↔ d.kind = none
  kind : ∀ type, d.kind = some type → type = f.typeTokens
  /-- The getter and the setter are for this field, as its type. -/
  accessor : ∀ a, d.accessor = some a → a.model = model ∧
    a.getter = ⟨model, f.name, f.typeTokens⟩ ∧ a.setter = ⟨model, f.name, f.typeTokens⟩

/-- Two fields have the same name and texts, both or neither can be stored, and if they can, the
same tokens are written for their types. -/
structure Field.Agrees (f f' : Field) : Prop where
  name : f.name = f'.name
  texts : ∀ slot l, f.Gives slot l ↔ f'.Gives slot l
  storable : f.type.isStorable = f'.type.isStorable
  type : f.type.isStorable = true → f.typeTokens = f'.typeTokens

namespace Field

variable {f f' : Field} {slot : Slot} {l : Literal}

/-- At most one text is given to a slot. -/
theorem IsWellFormed.gives_unique (h : f.IsWellFormed) {l l' : Literal} (hl : f.Gives slot l)
    (hl' : f.Gives slot l') : l = l' := by
  obtain ⟨a, ha, hfor, htext⟩ := hl
  obtain ⟨a', ha', hfor', htext'⟩ := hl'
  have : Std.Symm fun a b : Attribute => ∀ slot, a.IsFor slot → ¬ b.IsFor slot :=
    ⟨fun a b hab slot hb ha => hab slot ha hb⟩
  obtain rfl : a = a' := by
    by_contra hne
    exact h.once.forall ha ha' hne slot hfor hfor'
  simpa using htext.1.symm.trans htext'.1

theorem IsWellFormed.get_given_iff (h : f.IsWellFormed) :
    f.toModel.1.given.get slot = some l ↔ f.Gives slot l := by
  rw [get_given]
  have hfirst {l : Literal} (hl : Attribute.first? f.attributes slot = some l) :
      f.Gives slot l := by
    obtain ⟨a, ha, hgiven⟩ := List.exists_of_findSome?_eq_some hl
    exact ⟨a, ha, Attribute.given?_eq_some_iff.mp hgiven⟩
  constructor
  · exact hfirst
  · intro hl
    obtain ⟨a, ha, hgives⟩ := hl
    obtain ⟨l', hl'⟩ := Option.isSome_iff_exists.mp
      (Attribute.isSome_first?_iff.mpr ⟨a, ha, l, hgives⟩)
    rw [hl', h.gives_unique (hfirst hl') ⟨a, ha, hgives⟩]

/-- The definition of a field refers to it throughout. -/
theorem IsWellFormed.defines (h : f.IsWellFormed) (model : String) (index : Nat) :
    (f.toModel.1.code model index).Defines model f index where
  index := rfl
  name := rfl
  db l := (h.get_given_iff : f.toModel.1.given.get .db = some l ↔ _)
  option l := (h.get_given_iff : f.toModel.1.given.get .option = some l ↔ _)
  storable := by
    show (if f.type.isStorable then some f.typeTokens else none).isSome = f.type.isStorable
    cases f.type.isStorable <;> rfl
  accessible := by
    simp [ModelField.code]
  kind type htype := by
    simp only [ModelField.code, Option.ite_none_right_eq_some, Option.some.injEq] at htype
    exact htype.2.symm
  accessor a ha := by
    simp only [ModelField.code, Option.ite_none_right_eq_some, Option.some.injEq] at ha
    obtain ⟨-, rfl⟩ := ha
    exact ⟨rfl, rfl, rfl⟩

end Field

/-- What two definitions that are the same define agrees. -/
theorem DefinitionCode.Defines.agrees {d : DefinitionCode} {model model' : String} {f f' : Field}
    {index index' : Nat} (h : d.Defines model f index) (h' : d.Defines model' f' index') :
    f.Agrees f' where
  name := h.name.symm.trans h'.name
  texts slot l := by
    cases slot with
    | db => exact (h.db l).symm.trans (h'.db l)
    | option => exact (h.option l).symm.trans (h'.option l)
  storable := h.storable.symm.trans h'.storable
  type hstorable := by
    obtain ⟨type, htype⟩ := Option.isSome_iff_exists.mp (h.storable.trans hstorable)
    rw [← h.kind type htype, ← h'.kind type htype]

/-! ## Structs -/

/-- The definitions are those of the fields, one for each in turn, with indices from `i` on. -/
def DefinesAll (model : String) (fields : List Field) (i : Nat) (ds : List DefinitionCode) : Prop :=
  List.Forall₂ (fun p d => d.Defines model p.1 p.2) (fields.zipIdx i) ds

variable {fields fields' : List Field} {ds : List DefinitionCode} {model model' : String}
  {i i' : Nat}

theorem definesAll_code (h : ∀ f ∈ fields, f.IsWellFormed) (model : String) (i : Nat) :
    DefinesAll model fields i
      (((fields.map (·.toModel.1)).zipIdx i).map fun (f, i) => f.code model i) := by
  induction fields generalizing i with
  | nil => exact .nil
  | cons f rest ih =>
    obtain ⟨hf, hrest⟩ := List.forall_mem_cons.mp h
    exact .cons (hf.defines model i) (ih hrest (i + 1))

theorem DefinesAll.agrees (h : DefinesAll model fields i ds)
    (h' : DefinesAll model' fields' i' ds) : List.Forall₂ Field.Agrees fields fields' := by
  induction fields generalizing fields' ds i i' with
  | nil =>
    cases h
    cases fields' with
    | nil => exact .nil
    | cons f' rest' => cases h'
  | cons f rest ih =>
    obtain _ | ⟨hf, hrest⟩ := h
    cases fields' with
    | nil => cases h'
    | cons f' rest' =>
      obtain _ | ⟨hf', hrest'⟩ := h'
      exact .cons (hf.agrees hf') (ih hrest hrest')

variable {item : Item} {m : Model}

/-- The code of a model has one reading: the name of the struct, and for each of its fields in turn
a definition that refers to this field throughout. Another struct with the same code has the same
name, and fields that agree with those of the struct one by one. -/
theorem expansion_faithful (h : Model.ofItem item = .ok m) :
    ∃ fields, item.body = .struct (.named fields) ∧
      (∃ code : Code, (∀ code' : Code, code'.tokens = m.expansion ↔ code' = code) ∧
        code.model = item.name ∧
        List.Forall₂ (fun p d => d.Defines item.name p.1 p.2) fields.zipIdx code.definitions) ∧
      ∀ item' m', Model.ofItem item' = .ok m' → m'.expansion = m.expansion →
        item'.name = item.name ∧ ∃ fields', item'.body = .struct (.named fields') ∧
          List.Forall₂ Field.Agrees fields fields' := by
  obtain ⟨fields, hbody, -, hfields, rfl⟩ := Item.ofItem_eq_ok_iff.mp h
  let code := Model.code ⟨item.name, fields.map (·.toModel.1)⟩
  have hdefines : DefinesAll item.name fields 0 code.definitions :=
    definesAll_code hfields item.name 0
  refine ⟨fields, hbody, ⟨code, fun code' => ⟨fun hcode => ?_, ?_⟩, rfl, hdefines⟩, ?_⟩
  · exact Code.tokens_inj (hcode.trans (Model.tokens_code _).symm)
  · rintro rfl
    exact Model.tokens_code _
  · intro item' m' h' hexpansion
    obtain ⟨fields', hbody', -, hfields', rfl⟩ := Item.ofItem_eq_ok_iff.mp h'
    have hcode : Model.code ⟨item'.name, fields'.map (·.toModel.1)⟩ = code :=
      Code.tokens_inj (by rw [Model.tokens_code, hexpansion, Model.tokens_code])
    have hdefines' : DefinesAll item'.name fields' 0 code.definitions :=
      hcode ▸ definesAll_code hfields' item'.name 0
    exact ⟨congrArg Code.model hcode, fields', hbody', hdefines.agrees hdefines'⟩

/-- Two structs that are written differently: in the type of a field that is stored a lifetime is in
another place, and a field that is not stored has another type. They have the same code. -/
theorem expansion_faithful_user :
    let source := "struct User \x7b #[db(\"id\")] id: Row<u8, 'static>::String, tag: Tag \x7d"
    let source' := "struct User \x7b #[db(\"id\")] id: Row<'static, u8,>::String, tag: () \x7d"
    ∃ item item' m m', Item.ofText source = .ok item ∧ Item.ofText source' = .ok item' ∧
      Model.ofItem item = .ok m ∧ Model.ofItem item' = .ok m' ∧
      m'.expansion = m.expansion ∧ m.fields.length = 2 ∧
      (∃ code : Code, code.tokens = m.expansion ∧ code.model = item.name) ∧
      ∃ fields fields', item.body = .struct (.named fields) ∧
        item'.body = .struct (.named fields') ∧ List.Forall₂ Field.Agrees fields fields' := by
  intro source source'
  have hread : (match Item.ofText source, Item.ofText source' with
      | .ok item, .ok item' =>
        match Model.ofItem item, Model.ofItem item' with
        | .ok m, .ok m' => decide (m'.expansion = m.expansion ∧ m.fields.length = 2)
        | _, _ => false
      | _, _ => false) = true := by decide +kernel
  split at hread
  · next item item' h h' =>
    split at hread
    · next m m' hm hm' =>
      obtain ⟨hexpansion, hlength⟩ := of_decide_eq_true hread
      obtain ⟨fields, hbody, ⟨code, hcode, hname, -⟩, hagrees⟩ := expansion_faithful hm
      obtain ⟨-, fields', hbody', hforall⟩ := hagrees item' m' hm' hexpansion
      exact ⟨item, item', m, m', h, h', hm, hm', hexpansion, hlength,
        ⟨code, (hcode code).mpr rfl, hname⟩, fields, fields', hbody, hbody', hforall⟩
    · cases hread
  · cases hread

end RelMap.Derive
