-- SUMMARY: The records of a model, and what its mapped fields hold.
import Mathlib.Data.List.Forall2
import Mathlib.Data.List.Nodup
import RelMap.Schema

/-!
# Records of a model

The fields of a model are numbered as they are declared, and a record holds a value of each
field's kind. Main statements: no two columns are mapped to one field, and the mapped fields of
a record hold values of their kinds.
-/
namespace RelMap

/-- The fields are numbered in the order of their declaration. -/
def FieldDef.Numbered (fields : List FieldDef) : Prop :=
  fields.map (·.index) = List.range fields.length

/-- The record holds, for each field that can be stored, a value of the field's kind. -/
def Record.Fits (fields : List FieldDef) (r : Record) : Prop :=
  List.Forall₂ (fun f v => f.kind.isSupported = true → f.kind.represents v = true) fields r

theorem FieldDef.of_descriptor? {f : FieldDef} {d : Descriptor} (h : f.descriptor? = some d) :
    d.index = f.index ∧ d.kind = f.kind ∧ f.kind.isSupported = true := by
  unfold descriptor? at h
  split at h
  · next hsupported =>
    obtain ⟨column, -, rfl⟩ := Option.map_eq_some_iff.mp h
    exact ⟨rfl, rfl, hsupported.2⟩
  · cases h

theorem Record.fits_initial (fields : List FieldDef) : (initial fields).Fits fields := by
  refine List.forall₂_map_right_iff.mpr (List.forall₂_same.mpr fun f _ hsupported => ?_)
  cases hkind : f.kind with
  | int t => exact beq_self_eq_true (some t)
  | unsupported => rw [hkind] at hsupported; cases hsupported
  | _ => rfl

namespace Schema

variable {table : String} {fields : List FieldDef}

theorem pairwise_index (h : FieldDef.Numbered fields) :
    (ofFields table fields).descriptors.Pairwise fun d d' => d.index ≠ d'.index := by
  have hfields : (fields.map (·.index)).Pairwise (· ≠ ·) := h ▸ List.nodup_range
  rw [List.pairwise_map] at hfields
  refine List.pairwise_filterMap.mpr (hfields.imp ?_)
  intro f f' hne d hd d' hd'
  rw [(FieldDef.of_descriptor? hd).1, (FieldDef.of_descriptor? hd').1]
  exact hne

/-- A descriptor has the position and the kind of the field that it maps. -/
theorem exists_field (h : FieldDef.Numbered fields) {d : Descriptor}
    (hd : d ∈ (ofFields table fields).descriptors) :
    ∃ hlt : d.index < fields.length, fields[d.index].kind = d.kind ∧ d.kind.isSupported = true := by
  obtain ⟨f, hf, hdescriptor⟩ := List.mem_filterMap.mp hd
  obtain ⟨hindex, hkind, hsupported⟩ := FieldDef.of_descriptor? hdescriptor
  obtain ⟨i, hi, rfl⟩ := List.mem_iff_getElem.mp hf
  have hnumber : d.index = i := by
    have hnumbers : (fields.map (·.index))[i]? = some i := by
      rw [h, List.getElem?_range hi]
    rw [List.getElem?_map, List.getElem?_eq_getElem hi] at hnumbers
    rw [hindex]
    exact Option.some.inj hnumbers
  subst hnumber
  exact ⟨hi, hkind.symm, hkind ▸ hsupported⟩

/-- A mapped field is one of the record, with a value of its kind. -/
theorem represents_get {r : Record} (h : FieldDef.Numbered fields) (hr : r.Fits fields)
    {d : Descriptor} (hd : d ∈ (ofFields table fields).descriptors) :
    d.index < r.length ∧ d.kind.represents (d.get r) = true := by
  obtain ⟨hi, hkind, hsupported⟩ := exists_field h hd
  have hlt : d.index < r.length := hr.length_eq ▸ hi
  refine ⟨hlt, ?_⟩
  rw [Descriptor.get, List.getD_eq_getElem?_getD, List.getElem?_eq_getElem hlt, ← hkind]
  exact hr.get hi hlt (hkind ▸ hsupported)

/-- A mapped field that was never set holds the default of its kind. -/
theorem get_initial (h : FieldDef.Numbered fields) {d : Descriptor}
    (hd : d ∈ (ofFields table fields).descriptors) :
    d.get (.initial fields) = d.kind.default := by
  obtain ⟨hi, hkind, -⟩ := exists_field h hd
  simp [Descriptor.get, Record.initial, hi, hkind]

/-! ## Stored columns -/

variable {s : Schema} {d : Descriptor}

/-- The descriptors of the columns that are not generated. -/
def stored (s : Schema) : List Descriptor := s.descriptors.filter (!·.isAutoIncrement)

theorem mem_stored : d ∈ s.stored ↔ d ∈ s.descriptors ∧ d.isAutoIncrement = false := by
  simp [stored]

/-- Where no two fields are mapped to one column, no stored column is a generated one. -/
theorem column_not_mem_stored (hcolumns : s.columns.Nodup) (hd : d ∈ s.descriptors)
    (hgenerated : d.isAutoIncrement = true) : d.column ∉ s.stored.map (·.column) := by
  intro hmem
  obtain ⟨d', hd', heq⟩ := List.mem_map.mp hmem
  obtain ⟨hmapped, hplain⟩ := mem_stored.mp hd'
  obtain rfl := List.inj_on_of_nodup_map hcolumns hmapped hd heq
  rw [hgenerated] at hplain
  cases hplain

end Schema

end RelMap
