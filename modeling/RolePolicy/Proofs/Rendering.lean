import RolePolicy.Artifact
import RolePolicy.Proofs.Json.Printed

/-!
# Rendered documents

A document is rendered as the text of its JSON and one newline.  The text is read
as that JSON again, and no two documents have the same JSON, so that a file tells
which document it is the rendering of.
-/

namespace RolePolicy

/-- The text is that of the document, on one line or on indented lines, with one
newline behind it, and it is read as this document and no other. -/
structure Renders {α : Type} (encode : α → Json) (pretty : Bool) (document : α)
    (text : String) : Prop where
  layout : text =
    (if pretty then (encode document).pretty else (encode document).compact) ++ "\n"
  oneNewline : ¬['\n', '\n'] <:+ text.toList
  readBack : ∀ other, Json.read text = (encode other, true) ↔ other = document

namespace Json

theorem object_injective : Function.Injective object := by
  intro fields fields' h
  apply List.map_injective_iff.mpr ?_ (members.inj h)
  intro field field' hfield
  obtain ⟨hname, hvalue⟩ := Prod.mk.inj hfield
  exact Prod.ext (string.inj hname) hvalue

theorem ofStrings_injective : Function.Injective ofStrings := by
  intro texts texts' h
  exact List.map_injective_iff.mpr (fun _ _ => string.inj) (array.inj h)

/-- The print of an object ends with its closing bracket. -/
theorem exists_print_object_eq_append (fields : List (String × Json))
    (layout : Layout) : ∃ front, print layout (object fields) = front ++ ['}'] := by
  cases fields with
  | nil => exact ⟨['{'], by rw [object, List.map_nil, print]; rfl⟩
  | cons field fields =>
      rw [object, List.map_cons, print, ← List.cons_append]
      exact ⟨_, rfl⟩

end Json

open Json (IsTextual isTextual_array_map isTextual_ofStrings object_injective
  ofStrings_injective)

/-- A textual object is rendered by its print and a newline. -/
theorem renders_of_isTextual {α : Type} {encode : α → Json} {document : α}
    (hinjective : Function.Injective encode)
    (hobject : ∃ fields, encode document = Json.object fields)
    (htextual : IsTextual (encode document)) (pretty : Bool) :
    Renders encode pretty document
      ((if pretty then (encode document).pretty
        else (encode document).compact) ++ "\n") := by
  have hlayout : ∃ layout, (if pretty then (encode document).pretty
      else (encode document).compact) ++ "\n" =
        String.ofList (Json.print layout (encode document) ++ ['\n']) := by
    cases pretty with
    | true => exact ⟨.indented 0, String.ofList_append.symm⟩
    | false => exact ⟨.line, String.ofList_append.symm⟩
  obtain ⟨layout, htext⟩ := hlayout
  obtain ⟨fields, hfields⟩ := hobject
  obtain ⟨front, hfront⟩ := Json.exists_print_object_eq_append fields layout
  refine ⟨rfl, ?_, ?_⟩
  · rw [htext, String.toList_ofList, hfields, hfront, ← List.reverse_prefix]
    simp
  · intro other
    have hspace : ∀ c ∈ ['\n'], Json.isSpace c = true :=
      List.forall_mem_singleton.mpr rfl
    rw [htext, Json.read_print_append htextual layout hspace]
    constructor
    · intro hread
      exact hinjective (Prod.mk.inj hread).1.symm
    · rintro rfl
      rfl

/-! ## Words of documents -/

theorem Effect.text_injective : Function.Injective Effect.text := by
  intro effect effect' h
  cases effect <;> cases effect' <;> simp_all [Effect.text]

theorem PrincipalType.text_injective : Function.Injective PrincipalType.text := by
  intro type type' h
  cases type <;> cases type' <;> simp_all [PrincipalType.text]

/-! ## Conditions -/

namespace ConditionBlocks

theorem toJson_injective : Function.Injective toJson := by
  intro blocks blocks' h
  apply SortedMap.ext_entries
  apply List.map_injective_iff.mpr ?_ (object_injective h)
  rintro ⟨block, keys⟩ ⟨block', keys'⟩ hblock
  obtain ⟨rfl, hkeys⟩ := Prod.mk.inj hblock
  congr 1
  apply SortedMap.ext_entries
  apply List.map_injective_iff.mpr ?_ (object_injective hkeys)
  rintro ⟨key, values⟩ ⟨key', values'⟩ hkey
  obtain ⟨rfl, hvalues⟩ := Prod.mk.inj hkey
  rw [ofStrings_injective hvalues]

theorem toField_injective : Function.Injective toField := by
  intro blocks blocks' h
  unfold toField at h
  split_ifs at h with hempty hempty' hempty'
  · apply SortedMap.ext_entries
    rw [List.isEmpty_iff.mp hempty, List.isEmpty_iff.mp hempty']
  · exact toJson_injective (Prod.mk.inj (List.singleton_inj.mp h)).2

theorem isTextual_toJson (blocks : ConditionBlocks) :
    IsTextual (toJson blocks) := by
  apply IsTextual.object
  rw [List.forall_mem_map]
  intro block _
  apply IsTextual.object
  rw [List.forall_mem_map]
  exact fun _ _ => isTextual_ofStrings _

theorem isTextual_of_mem_toField {blocks : ConditionBlocks}
    {field : String × Json} (h : field ∈ toField blocks) : IsTextual field.2 := by
  rw [toField] at h
  split at h
  · cases h
  · rw [List.mem_singleton.mp h]
    exact isTextual_toJson blocks

end ConditionBlocks

/-! ## Policies -/

namespace Statement

theorem toJson_injective : Function.Injective toJson := by
  rintro ⟨sid, effect, action, resource, condition⟩
    ⟨sid', effect', action', resource', condition'⟩ h
  have hfields := object_injective h
  have hsid : sid = sid' := by
    cases sid <;> cases sid' <;> simp_all
  subst hsid
  rw [List.append_assoc, List.append_assoc, List.append_cancel_left_eq] at hfields
  simp only [List.cons_append, List.nil_append, List.cons.injEq, Prod.mk.injEq,
    true_and, Json.string.injEq] at hfields
  obtain ⟨heffect, haction, hresource, hcondition⟩ := hfields
  rw [Effect.text_injective heffect, ofStrings_injective haction,
    ofStrings_injective hresource,
    ConditionBlocks.toField_injective hcondition]

theorem isTextual_toJson (s : Statement) : IsTextual s.toJson := by
  apply IsTextual.object
  intro field hfield
  rw [List.mem_append, List.mem_append] at hfield
  rcases hfield with (hsid | hgrant) | hcondition
  · obtain ⟨sid, -, rfl⟩ := Option.map_eq_some_iff.mp (Option.mem_toList.mp hsid)
    exact .string sid
  · simp only [List.mem_cons, List.not_mem_nil, or_false] at hgrant
    rcases hgrant with rfl | rfl | rfl
    · exact .string _
    · exact isTextual_ofStrings _
    · exact isTextual_ofStrings _
  · exact ConditionBlocks.isTextual_of_mem_toField hcondition

end Statement

namespace PolicyDocument

theorem toJson_injective : Function.Injective toJson := by
  rintro ⟨statements⟩ ⟨statements'⟩ h
  have hfields := object_injective h
  simp only [List.cons.injEq, Prod.mk.injEq, true_and, and_true,
    Json.array.injEq] at hfields
  rw [List.map_injective_iff.mpr Statement.toJson_injective hfields]

theorem isTextual_toJson (d : PolicyDocument) : IsTextual d.toJson := by
  apply IsTextual.object
  simp [IsTextual.string, isTextual_array_map Statement.isTextual_toJson]

theorem renders (d : PolicyDocument) (pretty : Bool) :
    Renders toJson pretty d (Artifacts.fileText pretty d.toJson) :=
  renders_of_isTextual toJson_injective ⟨_, rfl⟩ d.isTextual_toJson pretty

end PolicyDocument

/-! ## Trusts -/

namespace TrustDocument

theorem toJson_injective : Function.Injective toJson := by
  rintro ⟨principalType, principal, condition⟩
    ⟨principalType', principal', condition'⟩ h
  have hfields := object_injective h
  simp only [List.cons.injEq, Prod.mk.injEq, true_and, and_true,
    Json.array.injEq] at hfields
  have hstatement := object_injective hfields
  simp only [List.cons_append, List.nil_append, List.cons.injEq, Prod.mk.injEq,
    true_and] at hstatement
  obtain ⟨hprincipal, hcondition⟩ := hstatement
  have hnamed := object_injective hprincipal
  simp only [List.cons.injEq, Prod.mk.injEq, and_true, Json.string.injEq] at hnamed
  obtain ⟨htype, rfl⟩ := hnamed
  rw [PrincipalType.text_injective htype,
    ConditionBlocks.toField_injective hcondition]

theorem isTextual_toJson (d : TrustDocument) : IsTextual d.toJson := by
  have hprincipal : IsTextual
      (Json.object [(d.principalType.text, .string d.principal)]) :=
    IsTextual.object (by simp [IsTextual.string])
  have hstatement : ∀ field ∈ [("Effect", Json.string Effect.allow.text),
        ("Principal", .object [(d.principalType.text, .string d.principal)]),
        ("Action", .string "sts:AssumeRole")] ++
          ConditionBlocks.toField d.condition, IsTextual field.2 := by
    intro field hfield
    rcases List.mem_append.mp hfield with hgrant | hcondition
    · simp only [List.mem_cons, List.not_mem_nil, or_false] at hgrant
      rcases hgrant with rfl | rfl | rfl
      · exact .string _
      · exact hprincipal
      · exact .string _
    · exact ConditionBlocks.isTextual_of_mem_toField hcondition
  apply IsTextual.object
  rw [List.forall_mem_cons, List.forall_mem_singleton]
  exact ⟨.string _, .array (List.forall_mem_singleton.mpr (.object hstatement))⟩

theorem renders (d : TrustDocument) (pretty : Bool) :
    Renders toJson pretty d (Artifacts.fileText pretty d.toJson) :=
  renders_of_isTextual toJson_injective ⟨_, rfl⟩ d.isTextual_toJson pretty

end TrustDocument

/-! ## Outputs -/

namespace Artifacts

theorem outputsToJson_injective : Function.Injective outputsToJson := by
  intro outputs outputs' h
  apply SortedMap.ext_entries
  apply List.map_injective_iff.mpr ?_ (object_injective h)
  rintro ⟨name, identifier⟩ ⟨name', identifier'⟩ houtput
  obtain ⟨rfl, hidentifier⟩ := Prod.mk.inj houtput
  rw [Json.string.inj hidentifier]

theorem isTextual_outputsToJson (outputs : SortedMap String String) :
    IsTextual (outputsToJson outputs) := by
  apply IsTextual.object
  rw [List.forall_mem_map]
  exact fun _ _ => .string _

theorem renders_outputs (outputs : SortedMap String String) (pretty : Bool) :
    Renders outputsToJson pretty outputs
      (fileText pretty (outputsToJson outputs)) :=
  renders_of_isTextual outputsToJson_injective ⟨_, rfl⟩
    (isTextual_outputsToJson outputs) pretty

end Artifacts

end RolePolicy
