-- SUMMARY: The syntax of derived code, and that it can be read in one way only.
import RelMap.Derive.Expansion
import RelMap.Proofs.Text.Quoting

/-!
# Derived code as a syntax tree

`Code` holds what can vary in derived code, as it stands there: a getter may be for another field
than the setter beside it, and a definition may have any index. `Code.tokens` writes it. Main
statements: no two trees are written with the same tokens, and the expansion of a model is written
from the tree `Model.code`.
-/
namespace RelMap.Derive

open Token (op sign colons quoted parens braces)

/-- A getter or a setter: for which instances, for which field, and as which type. -/
@[ext]
structure Access where
  model : String
  field : String
  type : List Token

/-- The access to a field, for the instances of a type. -/
@[ext]
structure AccessorCode where
  model : String
  getter : Access
  setter : Access

/-- The definition of a field. -/
@[ext]
structure DefinitionCode where
  index : Nat
  name : String
  db : Option Literal
  option : Option Literal
  /-- The type whose kind it is, or none if it is no kind that can be stored. -/
  kind : Option (List Token)
  accessor : Option AccessorCode

/-- Derived code: the type that it is for, and the definitions of its fields. -/
@[ext]
structure Code where
  model : String
  definitions : List DefinitionCode

/-! ## Writing -/

namespace Access

def getterTokens (a : Access) : List Token :=
  [sign '|', word "model", sign ':', sign '&', word a.model, sign '|'] ++ op ['-', '>'] ++
    support "Value" ++
    [braces (asPrimitive a.type ++
      [word "to_value", parens [sign '&', word "model", sign '.', word a.field]])]

def setterTokens (a : Access) : List Token :=
  [sign '|', word "model", sign ':', sign '&', word "mut", word a.model, sign ',', word "value",
      sign ':'] ++
    support "Value" ++ [sign '|'] ++ op ['-', '>'] ++ support "Result" ++ angle [parens []] ++
    [braces ([word "model", sign '.', word a.field, sign '='] ++ asPrimitive a.type ++
      [word "load", parens [word "value"], sign '?', sign ';', word "Ok", parens [parens []]])]

end Access

def AccessorCode.tokens (a : AccessorCode) : List Token :=
  support "Accessor" ++ colons ++ angle [word a.model] ++
    [braces (entry "get" a.getter.getterTokens ++ entry "set" a.setter.setterTokens)]

namespace DefinitionCode

def kindTokens (d : DefinitionCode) : List Token :=
  match d.kind with
  | some type => asPrimitive type ++ [word "KIND"]
  | none => support "Kind" ++ colons ++ [word "Unsupported"]

def accessorTokens (d : DefinitionCode) : List Token :=
  match d.accessor with
  | some a => [word "Some", parens a.tokens]
  | none => [word "None"]

def tokens (d : DefinitionCode) : List Token :=
  support "FieldDef" ++
    [braces (entry "index" [.literal ⟨.number, Digits.natText d.index ++ "usize"⟩] ++
      entry "name" [quoted d.name] ++ entry "db" (optionTokens d.db) ++
      entry "option" (optionTokens d.option) ++ entry "kind" d.kindTokens ++
      entry "accessor" d.accessorTokens)]

end DefinitionCode

def Code.tokens (c : Code) : List Token :=
  [word "const", word "_", sign ':', parens [], sign '=', braces (
    [word "use", word "tabula", word "as", word "_tabula", sign ';', word "impl"] ++
      support "Model" ++
      [word "for", word c.model, braces (
        [word "fn", word "fields", parens []] ++ op ['-', '>'] ++
          [word "Vec", sign '<'] ++ support "FieldDef" ++ [sign '<', word "Self"] ++
          op ['>', '>'] ++
          [braces [word "vec", sign '!',
            .group .bracket (c.definitions.flatMap fun d => d.tokens ++ [sign ','])]])]), sign ';']

/-! ## Reading -/

theorem asPrimitive_append_inj {type type' rest rest' : List Token}
    (h : asPrimitive type ++ rest = asPrimitive type' ++ rest')
    (hlength : rest.length = rest'.length) : type = type' ∧ rest = rest' := by
  obtain ⟨hprimitive, hrest⟩ := List.append_inj' h hlength
  simp only [asPrimitive, angle, List.cons_append, List.append_assoc, List.cons.injEq,
    true_and] at hprimitive
  exact ⟨List.append_cancel_right hprimitive, hrest⟩

theorem asPrimitive_inj {type type' : List Token} (h : asPrimitive type = asPrimitive type') :
    type = type' := by
  have happend : asPrimitive type ++ [] = asPrimitive type' ++ [] := by rw [h]
  exact (asPrimitive_append_inj happend rfl).1

namespace Access

variable {a b : Access}

theorem getterTokens_inj (h : a.getterTokens = b.getterTokens) : a = b := by
  obtain ⟨hmodel, hbody⟩ : a.model = b.model ∧
      asPrimitive a.type ++
          [word "to_value", parens [sign '&', word "model", sign '.', word a.field]] =
        asPrimitive b.type ++
          [word "to_value", parens [sign '&', word "model", sign '.', word b.field]] := by
    simpa [getterTokens, support, op, colons, sign, braces] using h
  obtain ⟨htype, hcall⟩ := asPrimitive_append_inj hbody rfl
  have hfield : a.field = b.field := by simpa [parens] using hcall
  exact Access.ext hmodel hfield htype

theorem setterTokens_inj (h : a.setterTokens = b.setterTokens) : a = b := by
  obtain ⟨hmodel, hfield, htype⟩ : a.model = b.model ∧ a.field = b.field ∧
      asPrimitive a.type = asPrimitive b.type := by
    simpa [setterTokens, support, op, colons, sign, braces] using h
  exact Access.ext hmodel hfield (asPrimitive_inj htype)

end Access

theorem AccessorCode.tokens_inj {a b : AccessorCode} (h : a.tokens = b.tokens) : a = b := by
  obtain ⟨hmodel, hentries⟩ : a.model = b.model ∧
      a.getter.getterTokens ++ sign ',' :: entry "set" a.setter.setterTokens =
        b.getter.getterTokens ++ sign ',' :: entry "set" b.setter.setterTokens := by
    simpa [tokens, support, op, colons, sign, braces, angle, entry] using h
  obtain ⟨hgetter, hset⟩ := List.append_inj hentries rfl
  have hsetter : a.setter.setterTokens = b.setter.setterTokens := by simpa [entry] using hset
  exact AccessorCode.ext hmodel (Access.getterTokens_inj hgetter) (Access.setterTokens_inj hsetter)

theorem natText_inj {m n : Nat} (h : Digits.natText m = Digits.natText n) : m = n := by
  have hdigits : Digits.ofNat m = Digits.ofNat n := String.ofList_injective h
  have hread := congrArg Digits.toNat? hdigits
  rwa [Digits.toNat?_ofNat, Digits.toNat?_ofNat, Option.some.injEq] at hread

theorem quoted_inj {s s' : String} (h : quoted s = quoted s') : s = s' := by
  simp only [quoted, Token.literal.injEq, Literal.mk.injEq, true_and] at h
  exact Quoted.text_inj h

theorem optionTokens_append_inj {o o' : Option Literal} {rest rest' : List Token}
    (h : optionTokens o ++ rest = optionTokens o' ++ rest') : o = o' ∧ rest = rest' := by
  cases o <;> cases o' <;> simp_all [optionTokens, parens]

namespace DefinitionCode

variable {d d' : DefinitionCode}

/-- The first token tells whether there is a kind. -/
theorem kindTokens_inj (h : d.kindTokens = d'.kindTokens) : d.kind = d'.kind := by
  unfold kindTokens at h
  cases hd : d.kind with
  | none =>
    cases hd' : d'.kind with
    | none => rfl
    | some type' => simp [hd, hd', support, asPrimitive, angle, sign] at h
  | some type =>
    cases hd' : d'.kind with
    | none => simp [hd, hd', support, asPrimitive, angle, sign] at h
    | some type' =>
      simp only [hd, hd'] at h
      rw [asPrimitive_inj (List.append_cancel_right h)]

/-- The last token tells whether there is an accessor. -/
theorem accessor_isSome_congr {front front' : List Token}
    (h : front ++ d.accessorTokens = front' ++ d'.accessorTokens) :
    d.accessor.isSome = d'.accessor.isSome := by
  have hlast := congrArg List.getLast? h
  unfold accessorTokens at hlast
  cases hd : d.accessor <;> cases hd' : d'.accessor <;> simp_all [parens]

theorem length_accessorTokens :
    d.accessorTokens.length = if d.accessor.isSome then 2 else 1 := by
  unfold accessorTokens
  cases d.accessor <;> rfl

theorem accessorTokens_inj (h : d.accessorTokens = d'.accessorTokens) :
    d.accessor = d'.accessor := by
  unfold accessorTokens at h
  cases hd : d.accessor with
  | none => cases hd' : d'.accessor <;> simp_all
  | some a =>
    cases hd' : d'.accessor with
    | none => simp_all
    | some a' =>
      have htokens : a.tokens = a'.tokens := by simpa [hd, hd', parens] using h
      rw [AccessorCode.tokens_inj htokens]

/-- The tokens of the kind end where those of the accessor begin, which is told from the end. -/
theorem kind_accessor_inj
    (h : d.kindTokens ++ [sign ',', word "accessor", sign ':'] ++ d.accessorTokens =
      d'.kindTokens ++ [sign ',', word "accessor", sign ':'] ++ d'.accessorTokens) :
    d.kind = d'.kind ∧ d.accessor = d'.accessor := by
  have hlength : d.accessorTokens.length = d'.accessorTokens.length := by
    rw [length_accessorTokens, length_accessorTokens, accessor_isSome_congr h]
  obtain ⟨hkind, haccessor⟩ := List.append_inj' h hlength
  exact ⟨kindTokens_inj (List.append_cancel_right hkind), accessorTokens_inj haccessor⟩

theorem tokens_inj (h : d.tokens = d'.tokens) : d = d' := by
  obtain ⟨hindex, hname, hentries⟩ : Digits.natText d.index = Digits.natText d'.index ∧
      quoted d.name = quoted d'.name ∧
      optionTokens d.db ++ sign ',' :: word "option" :: sign ':' ::
          (optionTokens d.option ++ sign ',' :: word "kind" :: sign ':' ::
            (d.kindTokens ++ [sign ',', word "accessor", sign ':'] ++ d.accessorTokens ++
              [sign ','])) =
        optionTokens d'.db ++ sign ',' :: word "option" :: sign ':' ::
          (optionTokens d'.option ++ sign ',' :: word "kind" :: sign ':' ::
            (d'.kindTokens ++ [sign ',', word "accessor", sign ':'] ++ d'.accessorTokens ++
              [sign ','])) := by
    simpa [tokens, support, op, colons, sign, braces, entry] using h
  obtain ⟨hdb, hentries⟩ := optionTokens_append_inj hentries
  simp only [List.cons.injEq, true_and] at hentries
  obtain ⟨hoption, hentries⟩ := optionTokens_append_inj hentries
  simp only [List.cons.injEq, true_and] at hentries
  obtain ⟨hkind, haccessor⟩ := kind_accessor_inj (List.append_cancel_right hentries)
  exact DefinitionCode.ext (natText_inj hindex) (quoted_inj hname) hdb hoption hkind haccessor

theorem flatMap_tokens_inj {ds ds' : List DefinitionCode}
    (h : (ds.flatMap fun d => d.tokens ++ [sign ',']) =
      ds'.flatMap fun d => d.tokens ++ [sign ',']) : ds = ds' := by
  induction ds generalizing ds' with
  | nil =>
    cases ds' with
    | nil => rfl
    | cons d' rest' => cases h
  | cons d rest ih =>
    cases ds' with
    | nil => cases h
    | cons d' rest' =>
      rw [List.flatMap_cons, List.flatMap_cons] at h
      obtain ⟨hd, hrest⟩ := List.append_inj h rfl
      rw [tokens_inj (List.append_cancel_right hd), ih hrest]

end DefinitionCode

/-- Derived code can be read in one way only. -/
theorem Code.tokens_inj {c c' : Code} (h : c.tokens = c'.tokens) : c = c' := by
  obtain ⟨hmodel, hdefinitions⟩ : c.model = c'.model ∧
      (c.definitions.flatMap fun d => d.tokens ++ [sign ',']) =
        c'.definitions.flatMap fun d => d.tokens ++ [sign ','] := by
    simpa [tokens, support, op, colons, sign, braces] using h
  exact Code.ext hmodel (DefinitionCode.flatMap_tokens_inj hdefinitions)

/-! ## The code of a model -/

/-- The definition of a field of a model, at an index. -/
def ModelField.code (f : ModelField) (model : String) (index : Nat) : DefinitionCode :=
  let access : Access := ⟨model, f.name, f.typeTokens⟩
  { index, name := f.name, db := f.given.db, option := f.given.option,
    kind := if f.storable then some f.typeTokens else none,
    accessor := if f.storable then some ⟨model, access, access⟩ else none }

/-- The definitions of all fields, each at its place. -/
def Model.code (m : Model) : Code :=
  ⟨m.name, m.fields.zipIdx.map fun (f, i) => f.code m.name i⟩

theorem ModelField.tokens_code (f : ModelField) (model : String) (index : Nat) :
    (f.code model index).tokens = f.definition model index := by
  cases h : f.storable with
  | false =>
    simp [code, definition, DefinitionCode.tokens, DefinitionCode.kindTokens,
      DefinitionCode.accessorTokens, kindTokens, accessor, h]
  | true =>
    simp [code, definition, DefinitionCode.tokens, DefinitionCode.kindTokens,
      DefinitionCode.accessorTokens, kindTokens, accessor, h, AccessorCode.tokens,
      Access.getterTokens, Access.setterTokens, getter, setter, access]

theorem Model.tokens_definitions (model : String) (fields : List ModelField) (i : Nat) :
    ((fields.zipIdx i).map fun (f, i) => f.code model i).flatMap (fun d => d.tokens ++ [sign ',']) =
      definitions model i fields := by
  induction fields generalizing i with
  | nil => rfl
  | cons f rest ih =>
    rw [List.zipIdx_cons, List.map_cons, List.flatMap_cons, ih, definitions, ModelField.tokens_code]
    simp

theorem Model.tokens_code (m : Model) : m.code.tokens = m.expansion := by
  rw [Code.tokens, expansion, ← tokens_definitions]
  rfl

end RelMap.Derive
