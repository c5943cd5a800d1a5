-- SUMMARY: Which types can be stored when types are put into brackets.
import Mathlib.Data.List.Forall2
import RelMap.Derive.Expansion

/-!
# Types in brackets

A type means the same in parentheses, or in the invisible brackets that stand around the argument
of a macro. `Ty.Wraps` relates a type to the same type with such brackets around any of the types
in it. Main statement: whether a field can be stored stays the same unless the element type of a
list of bytes is put into brackets. Then the field is not stored any more.
-/
namespace RelMap.Derive

mutual

/-- The second type is the first with brackets around some of the types in it, itself included. -/
inductive Ty.Wraps : Ty → Ty → Prop
  | group {t t' : Ty} (h : Ty.Wraps t t') : Ty.Wraps t (.group t')
  | paren {t t' : Ty} (h : Ty.Wraps t t') : Ty.Wraps t (.paren t')
  | inGroup {t t' : Ty} (h : Ty.Wraps t t') : Ty.Wraps (.group t) (.group t')
  | inParen {t t' : Ty} (h : Ty.Wraps t t') : Ty.Wraps (.paren t) (.paren t')
  | path (rooted : Bool) {segments segments' : List Segment}
      (h : List.Forall₂ Segment.Wraps segments segments') :
      Ty.Wraps (.path rooted segments) (.path rooted segments')
  | other (form : TypeForm) {parts parts' : List Ty} (h : List.Forall₂ Ty.Wraps parts parts') :
      Ty.Wraps (.other form parts) (.other form parts')

inductive Segment.Wraps : Segment → Segment → Prop
  | plain (name : String) : Segment.Wraps (.plain name) (.plain name)
  | generic (name : String) {args args' : List Arg} (h : List.Forall₂ Arg.Wraps args args') :
      Segment.Wraps (.generic name args) (.generic name args')

inductive Arg.Wraps : Arg → Arg → Prop
  | type {t t' : Ty} (h : Ty.Wraps t t') : Arg.Wraps (.type t) (.type t')
  | other {parts parts' : List Ty} (h : List.Forall₂ Ty.Wraps parts parts') :
      Arg.Wraps (.other parts) (.other parts')

end

namespace Ty

/-- The type within all brackets around it. -/
def core : Ty → Ty
  | .group elem | .paren elem => elem.core
  | t => t

/-- The type of a byte. -/
def byte : Ty := .path false [.plain "u8"]

/-- Within the brackets around it, the type is a path that ends in a list of the given elements. -/
def IsListOf (t elem : Ty) : Prop :=
  ∃ rooted segments, t.core = .path rooted segments ∧
    segments.getLast? = some (.generic "Vec" [.type elem])

/-- The type is a list of bytes, and the other one a list whose element type is no bare byte. -/
def WrapsByte (t t' : Ty) : Prop := t.IsListOf byte ∧ ∃ elem, t'.IsListOf elem ∧ elem ≠ byte

end Ty

/-- The field has neither a kind nor a getter and a setter. -/
def ModelField.IsUnmapped (f : ModelField) : Prop :=
  f.kindTokens = support "Kind" ++ Token.colons ++ [word "Unsupported"] ∧
    ∀ model, f.accessor model = [word "None"]

/-! ## Arguments and segments -/

theorem isByteArgument_iff {args : List Arg} :
    isByteArgument args = true ↔ args = [.type .byte] := by
  constructor
  · intro h
    unfold isByteArgument at h
    split at h
    · rw [eq_of_beq h]; rfl
    · cases h
  · rintro rfl
    rfl

/-- What is a bare byte with brackets put around types in it was one before. -/
theorem Ty.Wraps.eq_byte {t : Ty} (h : t.Wraps .byte) : t = .byte := by
  obtain _ | _ | _ | _ | ⟨_, hsegments⟩ | _ := h
  obtain _ | ⟨hsegment, hnil⟩ := hsegments
  cases hsegment
  cases hnil
  rfl

namespace Segment

variable {s s' : Segment}

/-- The segments that can be stored are names of types without arguments, and lists of bytes. -/
theorem isStorable_iff : s.isStorable = true ↔
    (∃ name ∈ primitives, s = .plain name) ∨ s = .generic "Vec" [.type .byte] := by
  cases s with
  | plain name => simp [isStorable]
  | generic name args => simp [isStorable, isByteArgument_iff]

/-- Brackets within a segment count where they stand around the bytes of a list. -/
theorem Wraps.isStorable_iff (h : s.Wraps s') : s.isStorable = true ↔
    s'.isStorable = true ∨ s = .generic "Vec" [.type .byte] ∧
      ∃ elem, s' = .generic "Vec" [.type elem] ∧ elem ≠ .byte := by
  cases h with
  | plain name => simp
  | @generic name args args' hargs =>
    simp only [Segment.isStorable_iff, reduceCtorEq, and_false, exists_false, false_or]
    constructor
    · intro hs
      obtain ⟨rfl, rfl⟩ := Segment.generic.inj hs
      obtain _ | ⟨@⟨_, elem, _⟩, ⟨⟩⟩ := hargs
      by_cases hbyte : elem = .byte
      · exact .inl (by rw [hbyte])
      · exact .inr ⟨rfl, elem, rfl, hbyte⟩
    · rintro (hs' | ⟨hs, -⟩)
      · obtain ⟨rfl, rfl⟩ := Segment.generic.inj hs'
        obtain _ | ⟨harg, hnil⟩ := hargs
        cases hnil
        obtain ⟨helem⟩ | _ := harg
        rw [helem.eq_byte]
      · exact hs

end Segment

/-! ## Types -/

/-- What holds of the elements of two lists in turn holds of their last elements. -/
theorem rel_getLast? {α β : Type} {R : α → β → Prop} {xs : List α} {ys : List β}
    (h : List.Forall₂ R xs ys) : Option.Rel R xs.getLast? ys.getLast? := by
  rw [← List.head?_reverse, ← List.head?_reverse]
  have hreverse := List.forall₂_reverse_iff.mpr h
  generalize xs.reverse = xs at hreverse ⊢
  generalize ys.reverse = ys at hreverse ⊢
  cases hreverse with
  | nil => exact .none
  | cons hhead _ => exact .some hhead

namespace Ty

variable {t t' elem : Ty}

theorem isStorable_path {rooted : Bool} {segments : List Segment} :
    (path rooted segments).isStorable = true ↔
      ∃ s, segments.getLast? = some s ∧ s.isStorable = true := by
  simp [isStorable, Option.any_eq_true]

theorem isListOf_path {rooted : Bool} {segments : List Segment} :
    (path rooted segments).IsListOf elem ↔
      segments.getLast? = some (.generic "Vec" [.type elem]) := by
  simp [IsListOf, core]

theorem isStorable_core : t.core.isStorable = t.isStorable := by
  fun_induction core t with
  | case1 elem ih => exact ih
  | case2 elem ih => exact ih
  | case3 t => rfl

/-- Of the lists, those of bytes can be stored. -/
theorem IsListOf.isStorable_iff (h : t.IsListOf elem) : t.isStorable = true ↔ elem = .byte := by
  obtain ⟨rooted, segments, hcore, hlast⟩ := h
  rw [← isStorable_core, hcore, isStorable_path, hlast]
  simp [Segment.isStorable_iff]

/-- A type that loses its place among those that can be stored has brackets around a byte, and none
gains one. -/
theorem Wraps.isStorable_iff : ∀ {t t' : Ty}, t.Wraps t' →
    (t.isStorable = true ↔ t'.isStorable = true ∨ t.WrapsByte t')
  | _, _, .group h => h.isStorable_iff
  | _, _, .paren h => h.isStorable_iff
  | _, _, .inGroup h => h.isStorable_iff
  | _, _, .inParen h => h.isStorable_iff
  | _, _, @path rooted segments segments' h => by
    simp only [isStorable_path, WrapsByte, isListOf_path]
    have hlast := rel_getLast? h
    generalize segments.getLast? = s at hlast ⊢
    generalize segments'.getLast? = s' at hlast ⊢
    cases hlast with
    | none => simp
    | some hlast => simpa using hlast.isStorable_iff
  | _, _, .other form h => by simp [isStorable, WrapsByte, IsListOf, core]

theorem WrapsByte.isStorable (h : t.WrapsByte t') :
    t.isStorable = true ∧ t'.isStorable = false := by
  obtain ⟨hbyte, elem, helem, hne⟩ := h
  refine ⟨hbyte.isStorable_iff.mpr rfl, Bool.eq_false_iff.mpr fun hstorable => ?_⟩
  exact hne (helem.isStorable_iff.mp hstorable)

theorem Wraps.isStorable_eq (h : t.Wraps t') (hbyte : ¬ t.WrapsByte t') :
    t'.isStorable = t.isStorable := by
  rw [Bool.eq_iff_iff, h.isStorable_iff, or_iff_left hbyte]

end Ty

/-! ## Fields -/

/-- The definition of a field tells whether its type can be stored. -/
theorem Field.isUnmapped_iff {f : Field} : f.toModel.1.IsUnmapped ↔ f.type.isStorable = false := by
  have hstorable : f.toModel.1.storable = f.type.isStorable := rfl
  cases h : f.type.isStorable with
  | false => simp [ModelField.IsUnmapped, ModelField.kindTokens, ModelField.accessor, hstorable, h]
  | true => simp [ModelField.IsUnmapped, ModelField.accessor, hstorable, h]

/-- Brackets around types within a type change whether a field can be stored, and with that its
definition, exactly where they stand around the bytes of a list: then the field is not mapped. -/
theorem Ty.stored_in_brackets {t t' : Ty} (h : t.Wraps t') :
    (t.WrapsByte t' ∧ t.isStorable = true ∧ t'.isStorable = false ∨
      ¬ t.WrapsByte t' ∧ t'.isStorable = t.isStorable) ∧
    ∀ f f' : Field, f.type = t → f'.type = t' →
      (f'.toModel.1.IsUnmapped ↔ f.toModel.1.IsUnmapped ∨ t.WrapsByte t') := by
  simp only [Field.isUnmapped_iff]
  by_cases hbyte : t.WrapsByte t'
  · refine ⟨.inl ⟨hbyte, hbyte.isStorable⟩, fun f f' hf hf' => ?_⟩
    simp [hf', hbyte, hbyte.isStorable.2]
  · refine ⟨.inr ⟨hbyte, h.isStorable_eq hbyte⟩, fun f f' hf hf' => ?_⟩
    rw [hf, hf', h.isStorable_eq hbyte, or_iff_left hbyte]

/-- A field for bytes, and the same field with brackets around its type and around the byte. -/
theorem Ty.stored_in_brackets_photo :
    let t := Ty.path false [.plain "std", .generic "Vec" [.type .byte]]
    let t' := Ty.paren (.path false [.plain "std", .generic "Vec" [.type (.group .byte)]])
    let f : Field := ⟨[], "photo", t, []⟩
    let f' : Field := ⟨[], "photo", t', []⟩
    t.Wraps t' ∧ t.isStorable = true ∧ t'.isStorable = false ∧
      ¬ f.toModel.1.IsUnmapped ∧ f'.toModel.1.IsUnmapped := by
  intro t t' f f'
  have hbyte : Ty.byte.Wraps .byte := .path false (.cons (.plain "u8") .nil)
  have hwraps : t.Wraps t' := .paren (.path false
    (.cons (.plain "std") (.cons (.generic "Vec" (.cons (.type (.group hbyte)) .nil)) .nil)))
  have hlost : t.WrapsByte t' :=
    ⟨⟨false, _, rfl, rfl⟩, .group .byte, ⟨false, _, rfl, rfl⟩, by simp [byte]⟩
  obtain ⟨hstorable, hfields⟩ := stored_in_brackets hwraps
  obtain ⟨-, hbefore, hafter⟩ := hstorable.resolve_right fun h => h.1 hlost
  have hmapped : ¬ f.toModel.1.IsUnmapped := by
    rw [Field.isUnmapped_iff, Bool.not_eq_false]
    exact hbefore
  exact ⟨hwraps, hbefore, hafter, hmapped, (hfields f f' rfl rfl).mpr (.inr hlost)⟩

/-- Parentheses around the byte of a list of bytes, and the field is mapped no more. -/
theorem Ty.bracketed_byte_lost :
    let t := Ty.path false [.generic "Vec" [.type .byte]]
    let t' := Ty.path false [.generic "Vec" [.type (.paren .byte)]]
    t.Wraps t' ∧ t.isStorable = true ∧ t'.isStorable = false ∧
      derive "struct S \x7b f: Vec<(u8)> \x7d" = .ok
        ("const _ : () = \x7b use tabula as _tabula ; " ++
          "impl _tabula :: codegen_support :: Model for S \x7b " ++
          "fn fields () -> Vec < _tabula :: codegen_support :: FieldDef < Self >> \x7b " ++
          "vec ! [_tabula :: codegen_support :: FieldDef \x7b " ++
          "index : 0usize , name : \"f\" , db : None , option : None , " ++
          "kind : _tabula :: codegen_support :: Kind :: Unsupported , accessor : None , \x7d ,] " ++
          "\x7d \x7d \x7d ;") := by
  refine ⟨.path false (.cons (.generic "Vec" (.cons (.type (.paren (.path false
    (.cons (.plain "u8") .nil)))) .nil)) .nil), rfl, rfl, ?_⟩
  decide +kernel

end RelMap.Derive
