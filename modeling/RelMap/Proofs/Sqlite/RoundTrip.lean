-- SUMMARY: A record that is stored in SQLite is read back as it was.
import RelMap.Proofs.Handle.Overlay
import RelMap.Proofs.Records
import RelMap.Proofs.Sql.Statements
import RelMap.Proofs.Sqlite.Storage

/-!
# Records in SQLite

Creating or saving a record passes the values of its fields to the database, those of generated
columns apart. Main statement: if none of them is too large an integer, all can be bound, and a
find that gets them back as a row gives every stored field its value again.
-/
namespace RelMap

open Sqlite (Storage)

/-! ## Rows of stored values -/

namespace Schema

/-- The values of a record that are stored, in the order of their columns. -/
def storedValues (s : Schema) (r : Record) : List Value := (s.assignments r).map (·.2)

/-- The columns of descriptors after values were stored: what is loaded of the values, in
order, and null where the database generates the column. -/
def storedCells : List Descriptor → List Storage → List Value
  | [], _ => []
  | d :: ds, xs =>
    if d.isAutoIncrement then .null :: storedCells ds xs
    else (xs.head?.map Storage.load).getD .null :: storedCells ds xs.tail

/-- The row that stored values are read back as. -/
def storedRow (s : Schema) (bound : List Storage) : Row := ⟨storedCells s.descriptors bound⟩

theorem storedValues_eq (s : Schema) (r : Record) :
    s.storedValues r = (s.descriptors.filter (!·.isAutoIncrement)).map (·.get r) := by
  simp [storedValues, assignments]

theorem mem_storedValues {s : Schema} {r : Record} {v : Value} :
    v ∈ s.storedValues r ↔
      ∃ d ∈ s.descriptors, d.isAutoIncrement = false ∧ d.get r = v := by
  simp [storedValues_eq, and_assoc]

/-- Each column of stored values is converted to the value that was stored. -/
theorem coerce_storedCells {ds : List Descriptor} {xs : List Storage} {r : Record}
    (hvalues : ∀ d ∈ ds, d.isAutoIncrement = false →
      d.kind.represents (d.get r) = true ∧ (d.get r).isNaN = false)
    (hbound : List.Forall₂ (fun v x => Storage.bind v = .ok x)
      ((ds.filter (!·.isAutoIncrement)).map (·.get r)) xs) :
    List.Forall₂ (fun d v => d.kind.coerce v =
      .ok (if d.isAutoIncrement then none else some (d.get r))) ds (storedCells ds xs) := by
  -- a stored value is used up only where the column is not generated
  induction ds generalizing xs with
  | nil => exact .nil
  | cons d ds ih =>
    have hrest := fun d' hd' => hvalues d' (.tail _ hd')
    cases hgenerated : d.isAutoIncrement with
    | true =>
      rw [List.filter_cons_of_neg (by simp [hgenerated])] at hbound
      rw [storedCells, if_pos hgenerated]
      exact .cons (by rw [hgenerated]; rfl) (ih hrest hbound)
    | false =>
      rw [List.filter_cons_of_pos (by simp [hgenerated]), List.map_cons] at hbound
      cases hbound with
      | @cons _ x _ xs hx hxs =>
        obtain ⟨hkind, hnan⟩ := hvalues d (.head _) hgenerated
        rw [storedCells, if_neg (by simp [hgenerated])]
        refine .cons ?_ (ih hrest hxs)
        rw [hgenerated]
        exact Storage.coerce_load_of_bind hkind hnan hx

end Schema

/-! ## Statements that store a record -/

namespace Handle

variable {h : Handle} {s : Schema}

theorem calls_create (hdialect : h.dialect = .sqlite) (hschema : h.schema = .ok s) :
    ∃ statement, h.create.calls = [.exec statement] ∧
      statement.args = s.storedValues h.record := by
  have hreturning : h.returning? s = none := by rw [returning?, hdialect]; rfl
  have hargs := Request.args_head h.dialect (.insert s.table (s.assignments h.record) none)
  refine ⟨h.insertStatement s, ?_, ?_⟩
  · simp only [create, hschema, hreturning, Plan.calls]
  · rw [insertStatement, hreturning]
    exact hargs

theorem calls_save (hschema : h.schema = .ok s) {filter : Filter} {call : Call}
    (hcall : call ∈ (h.save filter).calls) :
    ∃ statement rest, call = .exec statement ∧
      statement.args = s.storedValues h.record ++ rest := by
  simp only [save, write, hschema, id] at hcall
  split at hcall
  · cases hcall
  · let request := Request.update s.table (s.assignments h.record) filter
    cases hrender : request.render h.dialect (s.lookup h.record) with
    | error e =>
      rw [show h.dialect.update .. = .error e from hrender] at hcall
      cases hcall
    | ok statement =>
      rw [show h.dialect.update .. = .ok statement from hrender] at hcall
      obtain ⟨selection, -, rfl⟩ := Request.render_eq_ok hrender
      refine ⟨_, (request.tail h.dialect selection).flatMap Piece.args,
        List.mem_singleton.mp hcall, ?_⟩
      have hargs := request.args_head h.dialect
      rw [Dialect.assemble, List.flatMap_append, hargs]
      rfl

/-- A find that gets a row lays it over the record. -/
theorem run_find_of_finds {filter : Filter} {executor : Executor} {row : Row}
    (hfinds : h.Finds filter executor s row) :
    (h.find filter).run executor = .settle h.record (s.overlay h.record row) := by
  obtain ⟨hschema, statement, rows, hselect, hquery, hfirst⟩ := hfinds
  cases rows with
  | nil => cases hfirst
  | cons first rest =>
    cases first with
    | error e => cases hfirst
    | ok first =>
      cases hfirst
      exact run_find_cons hschema hselect hquery

end Handle

/-! ## Storing and reading back -/

namespace Handle

variable {h : Handle} {table : String} {fields : List FieldDef}

/-- A find that reads back what was stored of a record. -/
theorem find_storedRow {s : Schema} (hs : s = .ofFields table fields)
    (hnumbered : FieldDef.Numbered fields) {r : Record} (hr : r.Fits fields)
    (hnan : ∀ v ∈ s.storedValues r, v.isNaN = false) {bound : List Storage}
    (hbound : Storage.bindAll (s.storedValues r) = .ok bound) {filter : Filter}
    {executor : Executor} (hfits : h.record.Fits fields)
    (hfinds : h.Finds filter executor s (s.storedRow bound)) :
    ∃ r', (h.find filter).run executor = ⟨.ok (), r'⟩ ∧
      (∀ d ∈ s.descriptors, d.get r' = if d.isAutoIncrement then d.get h.record else d.get r) ∧
      ∀ j, (∀ d ∈ s.descriptors, d.index ≠ j) → r'[j]? = h.record[j]? := by
  have hcells : List.Forall₂ (fun d v => d.kind.coerce v =
      .ok (if d.isAutoIncrement then none else some (d.get r)))
      s.descriptors (Schema.storedCells s.descriptors bound) := by
    refine Schema.coerce_storedCells (fun d hd hstored => ⟨?_, ?_⟩) ?_
    · subst hs
      exact (Schema.represents_get hnumbered hr hd).2
    · exact hnan _ (Schema.mem_storedValues.mpr ⟨d, hd, hstored, rfl⟩)
    · rw [← Schema.storedValues_eq]
      exact Storage.bindAll_eq_ok_iff.mp hbound
  have hcell : ∀ p ∈ s.descriptors.zipIdx, p.1.kind.coerce ((s.storedRow bound).cell p.2) =
      .ok (if p.1.isAutoIncrement then none else some (p.1.get r)) := by
    intro p hp
    obtain ⟨hlt, heq⟩ := List.getElem?_eq_some_iff.mp (List.mem_zipIdx_iff_getElem?.mp hp)
    have hlt' : p.2 < (Schema.storedCells s.descriptors bound).length := hcells.length_eq ▸ hlt
    have hget := hcells.get hlt hlt'
    rw [Row.cell, Row.get?, Schema.storedRow, List.getElem?_eq_getElem hlt', ← heq]
    exact hget
  obtain ⟨r', hoverlay⟩ := Schema.exists_overlayFrom (r := h.record) fun p hp => ⟨_, hcell p hp⟩
  have hrun := run_find_of_finds hfinds
  rw [Schema.overlay, hoverlay] at hrun
  refine ⟨r', hrun, fun d hd => ?_, fun j => Schema.getElem?_overlayFrom_of_not_mem hoverlay⟩
  subst hs
  obtain ⟨i, hi, rfl⟩ := List.mem_iff_getElem.mp hd
  have hmem := List.mk_mem_zipIdx_iff_getElem?.mpr (List.getElem?_eq_getElem hi)
  obtain ⟨w, hw, hget⟩ := Schema.get_overlayFrom hoverlay (Schema.pairwise_index hnumbered)
    (fun d hd => (Schema.represents_get hnumbered hfits hd).1) _ hmem
  rw [hget]
  cases (hcell _ hmem).symm.trans hw
  split <;> rfl

/-- Storing a record loses nothing. Creating or saving it passes the values of its stored
fields to the database. If none of them is too large an integer, all can be bound, and a find
that reads them back into any record of the model succeeds: each stored field gets its value
again, and every other field keeps its own. An integer that is too large is refused. -/
theorem stored_survives {s : Schema} (hs : s = .ofFields table fields)
    (hdialect : h.dialect = .sqlite) (hschema : h.schema = .ok s)
    (hnumbered : FieldDef.Numbered fields) (hfits : h.record.Fits fields)
    (hnan : ∀ v ∈ s.storedValues h.record, v.isNaN = false) :
    (∃ statement, h.create.calls = [.exec statement] ∧
        statement.args = s.storedValues h.record) ∧
      (∀ filter, ∀ call ∈ (h.save filter).calls, ∃ statement rest, call = .exec statement ∧
        statement.args = s.storedValues h.record ++ rest) ∧
      ((∀ v ∈ s.storedValues h.record, ¬v.Oversized) →
        ∃ bound, Storage.bindAll (s.storedValues h.record) = .ok bound ∧
          ∀ (g : Handle) filter executor, g.record.Fits fields →
            g.Finds filter executor s (s.storedRow bound) →
            ∃ r', (g.find filter).run executor = ⟨.ok (), r'⟩ ∧
              (∀ d ∈ s.descriptors,
                d.get r' = if d.isAutoIncrement then d.get g.record else d.get h.record) ∧
              ∀ j, (∀ d ∈ s.descriptors, d.index ≠ j) → r'[j]? = g.record[j]?) ∧
      ∀ v ∈ s.storedValues h.record, v.Oversized →
        Storage.bind v = .error .tooLarge ∧
          ∀ rest, Storage.bindAll (s.storedValues h.record ++ rest) = .error .tooLarge := by
  have hbind : ∀ v ∈ s.storedValues h.record,
      (v.Oversized → Storage.bind v = .error .tooLarge) ∧
        (¬v.Oversized → ∃ x, Storage.bind v = .ok x) := by
    intro v hv
    obtain ⟨d, hd, -, rfl⟩ := Schema.mem_storedValues.mp hv
    subst hs
    exact Storage.bind_of_represents (Schema.represents_get hnumbered hfits hd).2
  refine ⟨calls_create hdialect hschema, fun filter call => calls_save hschema, ?_, ?_⟩
  · intro hsized
    obtain ⟨bound, hbound⟩ := Storage.exists_bindAll fun v hv => (hbind v hv).2 (hsized v hv)
    refine ⟨bound, hbound, fun g filter executor hg hfinds => ?_⟩
    exact find_storedRow hs hnumbered hfits hnan hbound hg hfinds
  · intro v hv hlarge
    refine ⟨(hbind v hv).1 hlarge, fun rest => Storage.bindAll_append_of_error ?_ rest⟩
    refine Storage.bindAll_eq_error (fun w hw e hfail => ?_) ⟨v, hv, (hbind v hv).1 hlarge⟩
    by_cases hw' : w.Oversized
    · cases ((hbind w hw).1 hw').symm.trans hfail
      rfl
    · obtain ⟨x, hx⟩ := (hbind w hw).2 hw'
      cases hx.symm.trans hfail

/-- The fields of a photo, whose number the database generates. -/
def photoFields : List FieldDef :=
  [⟨0, "id", some "id", some "autoIncrement", .int .u64, true⟩,
    ⟨1, "label", some "label", none, .string, true⟩, ⟨2, "size", some "size", none, .usize, true⟩,
    ⟨3, "taken", some "taken", none, .timestamp, true⟩, ⟨4, "tags", none, none, .unsupported, false⟩]

/-- A photo of a size, with a number. -/
def photo (id size : UInt64) : Handle :=
  ⟨.sqlite, ⟨"Photo", photoFields⟩, .ok (.ofFields "photos" photoFields),
    [.int (.ofWord id), .string "sea", .int (.ofWord size), .timestamp .epoch, .null]⟩

theorem numbered_photoFields : FieldDef.Numbered photoFields := rfl

theorem fits_photo (id size : UInt64) : (photo id size).record.Fits photoFields :=
  .cons (fun _ => rfl) (.cons (fun _ => rfl) (.cons (fun _ => rfl) (.cons (fun _ => rfl)
    (.cons (fun h => nomatch h) .nil))))

theorem storedValues_photo (id size : UInt64) :
    (Schema.ofFields "photos" photoFields).storedValues (photo id size).record =
      [.string "sea", .int (.ofWord size), .timestamp .epoch] := rfl

theorem isNaN_photo (id size : UInt64) :
    ∀ v ∈ (Schema.ofFields "photos" photoFields).storedValues (photo id size).record,
      v.isNaN = false := by
  simp [storedValues_photo, Value.isNaN]

theorem stored_survives_photo :
    let s := Schema.ofFields "photos" photoFields
    (∃ bound r',
        Storage.bindAll (s.storedValues (photo 1 0x7FFFFFFFFFFFFFFF).record) = .ok bound ∧
        ((photo 2 0).find .none).run (.replying (s.storedRow bound)) = ⟨.ok (), r'⟩ ∧
        ∀ d ∈ s.descriptors, d.get r' =
          if d.isAutoIncrement then d.get (photo 2 0).record
          else d.get (photo 1 0x7FFFFFFFFFFFFFFF).record) ∧
      Storage.bindAll (s.storedValues (photo 1 0x8000000000000000).record ++ []) =
        .error .tooLarge := by
  intro s
  constructor
  · obtain ⟨-, -, hkept, -⟩ := stored_survives rfl rfl rfl numbered_photoFields
      (fits_photo 1 0x7FFFFFFFFFFFFFFF) (isNaN_photo 1 0x7FFFFFFFFFFFFFFF)
    obtain ⟨bound, hbound, hfind⟩ := hkept (by
      rw [storedValues_photo]
      decide)
    obtain ⟨r', hrun, hfields, -⟩ := hfind (photo 2 0) .none (.replying (s.storedRow bound))
      (fits_photo 2 0) ⟨rfl, _, _, rfl, rfl, rfl⟩
    exact ⟨bound, r', hbound, hrun, hfields⟩
  · obtain ⟨-, -, -, hlarge⟩ := stored_survives rfl rfl rfl numbered_photoFields
      (fits_photo 1 0x8000000000000000) (isNaN_photo 1 0x8000000000000000)
    have hmem : Value.int (.ofWord 0x8000000000000000) ∈
        s.storedValues (photo 1 0x8000000000000000).record := by
      rw [storedValues_photo]
      exact .tail _ (.head _)
    exact (hlarge _ hmem (by decide)).2 []

end Handle

end RelMap
