import RolePolicy.Artifact
import RolePolicy.Compiled
import RolePolicy.Manifest.Json
import RolePolicy.Proofs.FirstDefect
import RolePolicy.Proofs.Json.Printed
import RolePolicy.Proofs.Sorted

/-!
# Manifests written as JSON

Every encoder of a manifest is undone by its decoder: an object is read field
by field into a draft, and the draft of an encoded record holds all of its
fields.  As encoded manifests are textual values, nothing is lost in their
texts, whatever the layout.
-/

namespace RolePolicy

/-! ## Decoded encodings -/

namespace Json

theorem decodeList_array {α : Type} {item : Json → Except Fault α}
    {encode : α → Json} (h : ∀ a, item (encode a) = .ok a) (l : List α) :
    decodeList item (.array (l.map encode)) = .ok l := by
  rw [decodeList, mapM_eq_ok_iff, List.forall₂_map_left_iff, List.forall₂_same]
  exact fun a _ => h a

theorem decodeString_string (text : String) :
    decodeString (.string text) = .ok text :=
  rfl

theorem decodeStrings_ofStrings (texts : List String) :
    decodeStrings (ofStrings texts) = .ok texts :=
  decodeList_array decodeString_string texts

theorem decodeOptional_ofOptional (text : Option String) :
    decodeOptional decodeString (ofOptional text) = .ok text := by
  cases text with
  | none => rfl
  | some text => rfl

theorem decodeEntries_object {α : Type} {item : Json → Except Fault α}
    {encode : α → Json} (h : ∀ a, item (encode a) = .ok a)
    (l : List (String × α)) :
    decodeEntries item (object (l.map fun e => (e.1, encode e.2))) = .ok l := by
  rw [object, decodeEntries, List.map_map, mapM_eq_ok_iff,
    List.forall₂_map_left_iff, List.forall₂_same]
  intro e _
  simp only [Function.comp_apply, decodeName, h]
  rfl

/-- A field that is met for the first time. -/
theorem once_none {α : Type} (name : String) (a : α) :
    once name none (.ok a) = .ok (some a) :=
  rfl

namespace Shape

variable {δ α : Type} (shape : Shape δ α)

theorem addMembers_object {fields : List (String × Json)} {draft out : δ}
    (hknown : ∀ field ∈ fields, field.1 ∈ shape.names)
    (hadd : fields.foldlM (fun d field => shape.add d field.1 field.2) draft =
      .ok out) :
    shape.addMembers draft (fields.map fun (name, value) =>
      (.string name, value)) = .ok out := by
  induction fields generalizing draft with
  | nil => exact hadd
  | cons field fields ih =>
      rw [List.foldlM_cons] at hadd
      obtain ⟨next, hnext, hadd⟩ := bind_eq_ok_iff.mp hadd
      obtain ⟨hname, hknown⟩ := List.forall_mem_cons.mp hknown
      have hcontains : shape.names.contains field.1 = true :=
        List.contains_iff_mem.mpr hname
      rw [List.map_cons, addMembers]
      simp only [decodeName, ok_bind, hcontains, hnext]
      exact ih hknown hadd

/-- A record is decoded from an object of known fields if reading them in turn
leads to a draft of the record. -/
theorem decode_object {fields : List (String × Json)} (draft : δ) {record : α}
    (hknown : ∀ field ∈ fields, field.1 ∈ shape.names)
    (hadd : fields.foldlM (fun d field => shape.add d field.1 field.2)
      shape.start = .ok draft)
    (hfinish : shape.finish draft = .ok record) :
    shape.decode (object fields) = .ok record := by
  rw [object, decode, shape.addMembers_object hknown hadd]
  simp only [ok_bind, hfinish]

end Shape

/-- A text is decoded as the value that it is a print of. -/
theorem decodeText_print {α : Type} {decode : Json → Except Fault α}
    {value : Json} {a : α} (htextual : IsTextual value)
    (hdecode : decode value = .ok a) (layout : Layout) :
    decodeText decode (String.ofList (print layout value)) = .ok a := by
  unfold decodeText
  rw [read_print htextual layout]
  simp only [hdecode, if_true]

end Json

open Json (IsTextual decodeString_string decodeStrings_ofStrings
  decodeList_array decodeOptional_ofOptional decodeEntries_object once_none
  isTextual_array_map isTextual_ofStrings isTextual_ofOptional)

/-! ## Clauses, trust and bundles -/

namespace ClauseSpec

theorem ofJson_toJson (c : ClauseSpec) : ofJson c.toJson = .ok c := by
  apply shape.decode_object ⟨c.operator, c.key, c.values⟩
  · simp [shape]
  · simp [shape, Draft.add, once_none, ok_bind, decodeString_string,
      decodeStrings_ofStrings]
  · rfl

theorem isTextual_toJson (c : ClauseSpec) : IsTextual c.toJson := by
  apply IsTextual.object
  simp [IsTextual.string, isTextual_ofStrings]

end ClauseSpec

namespace TrustSpec

theorem ofJson_toJson (t : TrustSpec) : ofJson t.toJson = .ok t := by
  apply shape.decode_object ⟨t.principal, t.conditions⟩
  · simp [shape]
  · simp [shape, Draft.add, once_none, ok_bind, decodeString_string,
      decodeList_array ClauseSpec.ofJson_toJson]
  · rfl

theorem isTextual_toJson (t : TrustSpec) : IsTextual t.toJson := by
  apply IsTextual.object
  simp [IsTextual.string, isTextual_array_map ClauseSpec.isTextual_toJson]

end TrustSpec

namespace BundleSpec

theorem ofJson_toJson (b : BundleSpec) : ofJson b.toJson = .ok b := by
  apply shape.decode_object
    ⟨some b.sid, b.effect, b.actions, b.resources, b.conditions⟩
  · simp [shape]
  · simp [shape, Draft.add, once_none, ok_bind, decodeString_string,
      decodeStrings_ofStrings, decodeOptional_ofOptional,
      decodeList_array ClauseSpec.ofJson_toJson]
  · rfl

theorem isTextual_toJson (b : BundleSpec) : IsTextual b.toJson := by
  apply IsTextual.object
  simp [IsTextual.string, isTextual_ofStrings, isTextual_ofOptional,
    isTextual_array_map ClauseSpec.isTextual_toJson]

end BundleSpec

/-! ## Roles -/

namespace RoleKind

theorem ofText?_text (kind : RoleKind) : ofText? kind.text = some kind := by
  cases kind <;> rfl

theorem ofJson_toJson (kind : RoleKind) : ofJson kind.toJson = .ok kind := by
  rw [toJson, ofJson, ofName, ofText?_text]

end RoleKind

namespace RoleSpec

theorem ofJson_toJson (r : RoleSpec) : ofJson r.toJson = .ok r := by
  apply shape.decode_object
    ⟨r.name, r.kind, r.trust, some r.permissionBoundary, r.bundles⟩
  · simp [shape]
  · simp [shape, Draft.add, once_none, ok_bind, decodeString_string,
      RoleKind.ofJson_toJson, TrustSpec.ofJson_toJson,
      decodeOptional_ofOptional, decodeList_array BundleSpec.ofJson_toJson]
  · rfl

theorem isTextual_toJson (r : RoleSpec) : IsTextual r.toJson := by
  apply IsTextual.object
  simp [IsTextual.string, RoleKind.toJson, r.trust.isTextual_toJson,
    isTextual_ofOptional, isTextual_array_map BundleSpec.isTextual_toJson]

end RoleSpec

/-! ## Manifests -/

namespace Manifest

theorem ofJson_toJson (m : Manifest) : ofJson m.toJson = .ok m := by
  apply shape.decode_object ⟨m.catalog.entries, m.roles⟩
  · simp [shape]
  · simp [shape, Draft.add, once_none, ok_bind,
      decodeEntries_object decodeStrings_ofStrings,
      decodeList_array RoleSpec.ofJson_toJson]
  · simp [shape, Draft.finish]

theorem isTextual_toJson (m : Manifest) : IsTextual m.toJson := by
  have hcatalog : IsTextual
      (.object (m.catalog.entries.map fun e => (e.1, Json.ofStrings e.2))) := by
    apply IsTextual.object
    intro field hfield
    obtain ⟨e, -, rfl⟩ := List.mem_map.mp hfield
    exact isTextual_ofStrings e.2
  apply IsTextual.object
  simp [hcatalog, isTextual_array_map RoleSpec.isTextual_toJson]

theorem ofJsonText_print (m : Manifest) (layout : Json.Layout) :
    ofJsonText (String.ofList (Json.print layout m.toJson)) = .ok m := by
  rw [ofJsonText, Json.decodeText_print m.isTextual_toJson m.ofJson_toJson]
  rfl

/-- A manifest is read back from its text in every layout, so the text compiles
to the same artifacts as the manifest. -/
theorem ofJsonText_reads_back_every_layout (m : Manifest) :
    (∀ layout, ofJsonText (String.ofList (Json.print layout m.toJson)) =
      .ok m) ∧
    ∀ s : Substitutions,
      (do return (← (← ofJsonText m.toJsonText).compile s).artifacts) =
        (m.compile s).map CompiledRoles.artifacts := by
  refine ⟨m.ofJsonText_print, ?_⟩
  intro s
  have htext : ofJsonText m.toJsonText = .ok m := m.ofJsonText_print .line
  rw [htext, ok_bind]
  cases m.compile s with
  | error e => rfl
  | ok c => rfl

end Manifest

end RolePolicy
