-- SUMMARY: Which fields map to columns, and which of the columns are generated.
import Mathlib.Data.List.Forall2
import RelMap.Proofs.Options.Texts
import RelMap.Schema

/-!
# Mapped fields

`FieldDef.IsMapped` says of a declared field whether it maps to a column, and
`FieldDef.DescribedBy` what its descriptor holds then. Main statement: the descriptors of a schema
are those of the mapped fields, in the order of their declaration, and the columns are looked up
from the first descriptor on.
-/
namespace RelMap

namespace FieldDef

/-! ## Declared fields -/

/-- The column attribute gives the field a column. -/
def NamesColumn (f : FieldDef) : Prop := ∃ column ∈ f.db, column ≠ "" ∧ column ≠ "-"

/-- There is no column attribute, or nothing in it, but there are options. -/
def HasOptions (f : FieldDef) : Prop :=
  (f.db = none ∨ f.db = some "") ∧ ∃ option ∈ f.option, option ≠ "" ∧ option ≠ "-"

instance (f : FieldDef) : Decidable f.NamesColumn := inferInstanceAs (Decidable (∃ _ ∈ f.db, _))

instance (f : FieldDef) : Decidable f.HasOptions := inferInstanceAs (Decidable (_ ∧ _))

/-- The field can be read and written, is of a kind that can be stored, and has a column. -/
def IsMapped (f : FieldDef) : Prop :=
  f.accessible = true ∧ f.kind.isSupported = true ∧ (f.NamesColumn ∨ f.HasOptions)

instance (f : FieldDef) : Decidable f.IsMapped := inferInstanceAs (Decidable (_ ∧ _))

/-- The descriptor of a mapped field. -/
structure DescribedBy (f : FieldDef) (d : Descriptor) : Prop where
  index : d.index = f.index
  name : d.name = f.name
  kind : d.kind = f.kind
  /-- The column is the text of the column attribute or else the name of the field. -/
  column : f.NamesColumn ∧ f.db = some d.column ∨ f.HasOptions ∧ d.column = f.name
  options : d.options = (f.option.map Options.ofText).getD []
  /-- The last token for this key settles whether the column is generated. -/
  generated : d.isAutoIncrement = true ↔
    ∃ option ∈ f.option, Options.LastSpells "autoIncrement" "-" option

variable {f : FieldDef} {d : Descriptor} {column : String}

/-- A column attribute that is not empty settles the column, whatever the options are. -/
theorem column?_of_db (hdb : f.db = some column) (hne : column ≠ "") :
    f.column? = if column = "-" then none else some column := by
  simp [column?, hdb, Option.filter, hne]

/-- Without one the options do, and it is called as the field. -/
theorem column?_of_no_db (hdb : f.db = none ∨ f.db = some "") :
    f.column? = if ∃ option ∈ f.option, option ≠ "" ∧ option ≠ "-" then some f.name else none := by
  have hfilter : f.db.filter (· ≠ "") = none := by rcases hdb with hdb | hdb <;> rw [hdb] <;> rfl
  rw [column?, hfilter]
  cases f.option with
  | none => simp
  | some option =>
    have hgiven : (∃ o ∈ some option, o ≠ "" ∧ o ≠ "-") ↔ ¬ (option = "" ∨ option = "-") := by simp
    simp only [hgiven, ite_not]

theorem column?_eq_some_iff : f.column? = some column ↔
    f.NamesColumn ∧ f.db = some column ∨ f.HasOptions ∧ column = f.name := by
  by_cases hdb : f.db = none ∨ f.db = some ""
  · have hnames : ¬ f.NamesColumn := by
      rintro ⟨c, hc, hne, -⟩
      rcases hdb with hdb | hdb <;> simp_all
    rw [column?_of_no_db hdb]
    simp only [hnames, false_and, false_or, HasOptions, hdb, true_and]
    split <;> simp_all [eq_comm]
  · obtain ⟨c, hc, hne⟩ : ∃ c, f.db = some c ∧ c ≠ "" := by
      cases h : f.db with
      | none => exact absurd (.inl h) hdb
      | some c => exact ⟨c, rfl, fun heq => hdb (.inr (heq ▸ h))⟩
    have hoptions : ¬ f.HasOptions := fun h => hdb h.1
    rw [column?_of_db hc hne]
    simp only [hoptions, false_and, or_false, NamesColumn, hc]
    split <;> simp_all

theorem column?_eq_none_iff : f.column? = none ↔ ¬ (f.NamesColumn ∨ f.HasOptions) := by
  rw [Option.eq_none_iff_forall_ne_some]
  constructor
  · rintro hnone (hnames | hoptions)
    · obtain ⟨c, hc, hne, hdash⟩ := hnames
      exact hnone c (column?_eq_some_iff.mpr (.inl ⟨⟨c, hc, hne, hdash⟩, hc⟩))
    · exact hnone f.name (column?_eq_some_iff.mpr (.inr ⟨hoptions, rfl⟩))
  · intro hnot c hc
    exact hnot ((column?_eq_some_iff.mp hc).imp And.left And.left)

/-! ## Descriptors -/

theorem readableKey_autoIncrement : Options.ReadableKey "autoIncrement" :=
  ⟨by decide, by decide, by decide⟩

/-- A column is generated if the options give the key a dash. -/
theorem isAutoIncrement_iff (hoptions : d.options = (f.option.map Options.ofText).getD []) :
    d.isAutoIncrement = true ↔
      ∃ option ∈ f.option, Options.LastSpells "autoIncrement" "-" option := by
  rw [Descriptor.isAutoIncrement, beq_iff_eq, Descriptor.option?, hoptions]
  cases hoption : f.option with
  | none => simp [Options.get?]
  | some option =>
    rw [Option.map_some, Option.getD_some,
      Options.get?_ofText_eq_some_iff readableKey_autoIncrement Options.unpadded_dash]
    simp

theorem descriptor?_of_not_isMapped (h : ¬ f.IsMapped) : f.descriptor? = none := by
  rw [descriptor?]
  split
  · next hfield =>
    have hcolumn : f.column? = none :=
      column?_eq_none_iff.mpr fun hcolumn => h ⟨hfield.1, hfield.2, hcolumn⟩
    rw [hcolumn, Option.map_none]
  · rfl

theorem exists_descriptor? (h : f.IsMapped) : ∃ d, f.descriptor? = some d ∧ f.DescribedBy d := by
  obtain ⟨haccessible, hsupported, hcolumn⟩ := h
  obtain ⟨c, hc⟩ := Option.ne_none_iff_exists'.mp fun hnone => column?_eq_none_iff.mp hnone hcolumn
  refine ⟨⟨f.index, c, f.name, f.kind, (f.option.map Options.ofText).getD []⟩, ?_,
    ⟨rfl, rfl, rfl, column?_eq_some_iff.mp hc, rfl, isAutoIncrement_iff rfl⟩⟩
  rw [descriptor?, if_pos ⟨haccessible, hsupported⟩, hc, Option.map_some]

end FieldDef

namespace Schema

/-- The first of several descriptors of which a condition holds. -/
def IsFirst (p : Descriptor → Prop) (ds : List Descriptor) (d : Descriptor) : Prop :=
  p d ∧ ∃ before after, ds = before ++ d :: after ∧ ∀ d' ∈ before, ¬ p d'

variable {p : Descriptor → Bool} {ds : List Descriptor} {d : Descriptor}

theorem find?_eq_some_iff_isFirst :
    ds.find? p = some d ↔ IsFirst (fun d => p d = true) ds d := by
  rw [List.find?_eq_some_iff_append]
  simp [IsFirst]

/-- There is one descriptor for each mapped field. -/
theorem describedBy_ofFields (table : String) (fields : List FieldDef) :
    List.Forall₂ FieldDef.DescribedBy (fields.filter (·.IsMapped))
      (ofFields table fields).descriptors := by
  show List.Forall₂ _ _ (fields.filterMap FieldDef.descriptor?)
  induction fields with
  | nil => exact .nil
  | cons f fields ih =>
    by_cases h : f.IsMapped
    · obtain ⟨d, hd, hdescribed⟩ := FieldDef.exists_descriptor? h
      rw [List.filter_cons_of_pos (by simpa using h), List.filterMap_cons_some hd]
      exact .cons hdescribed ih
    · rw [List.filter_cons_of_neg (by simpa using h),
        List.filterMap_cons_none (FieldDef.descriptor?_of_not_isMapped h)]
      exact ih

/-- The schema of declared fields has a descriptor for each field that is mapped and no other, in
the order of the fields. A column is looked up as that of the first descriptor that has it, the
generated column is the first that is generated, and the columns are those of the descriptors. -/
theorem ofFields_keeps_mapped (table : String) (fields : List FieldDef) :
    let s := ofFields table fields
    List.Forall₂ FieldDef.DescribedBy (fields.filter (·.IsMapped)) s.descriptors ∧
      (∀ name d, s.column? name = some d ↔ IsFirst (fun d => d.column = name) s.descriptors d) ∧
      (∀ name, s.column? name = none ↔ ∀ d ∈ s.descriptors, d.column ≠ name) ∧
      (∀ d, s.autoIncrement? = some d ↔
        IsFirst (fun d => d.isAutoIncrement = true) s.descriptors d) ∧
      (s.autoIncrement? = none ↔ ∀ d ∈ s.descriptors, d.isAutoIncrement = false) ∧
      List.Forall₂ (fun d column => column = d.column) s.descriptors s.columns := by
  intro s
  refine ⟨describedBy_ofFields table fields, fun name d => ?_, fun name => ?_,
    fun d => find?_eq_some_iff_isFirst, ?_, ?_⟩
  · rw [column?, find?_eq_some_iff_isFirst]
    simp only [beq_iff_eq]
  · simp [column?, List.find?_eq_none]
  · simp [autoIncrement?, List.find?_eq_none]
  · exact List.forall₂_map_right_iff.mpr (List.forall₂_same.mpr fun d _ => rfl)

end Schema

end RelMap
