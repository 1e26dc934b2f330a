import RolePolicy.Proofs.Catalog
import RolePolicy.Proofs.ResourcePattern
import RolePolicy.Proofs.Validity.Conditions
import RolePolicy.Role.Compose

/-!
# Valid roles

What a manifest may state as a role, said without the composer: the alphabet of
names, what a principal and a boundary look like, and that every bundle has an
effect, actions of the catalog and well-formed patterns.  Composing accepts
exactly the valid roles, and otherwise reports the first of their defects.
-/

namespace RolePolicy

open Text

/-! ## Names and principals -/

namespace Role

/-- A name of 1 to 64 characters, all of them ASCII letters, digits or one of
`+=,.@_-`. -/
structure IsValidName (name : String) : Prop where
  nonempty : 1 ≤ name.length
  short : name.length ≤ 64
  chars : ∀ c ∈ name.toList, c.isAlphanum = true ∨ c ∈ "+=,.@_-".toList

theorem isNameChar_eq_true_iff {c : Char} :
    isNameChar c = true ↔ c.isAlphanum = true ∨ c ∈ "+=,.@_-".toList := by
  simp [isNameChar]

theorem toNat_le_of_isAlphanum {c : Char} (h : c.isAlphanum = true) :
    c.val.toNat ≤ 127 := by
  have hbound : ∀ d : Char, d.val.toNat ≤ 127 → c.val ≤ d.val →
      c.val.toNat ≤ 127 :=
    fun d hd hle => le_trans (UInt32.le_iff_toNat_le.mp hle) hd
  have hcases : (c.isAlpha || c.isDigit) = true := h
  rcases Bool.or_eq_true_iff.mp hcases with hletter | hdigit
  · have hcases' : (c.isUpper || c.isLower) = true := hletter
    rcases Bool.or_eq_true_iff.mp hcases' with hupper | hlower
    · exact hbound 'Z' (by decide) (of_decide_eq_true hupper).2
    · have hle := (Bool.and_eq_true_iff.mp hlower).2
      exact hbound 'z' (by decide) (of_decide_eq_true hle)
  · have hle := (Bool.and_eq_true_iff.mp hdigit).2
    exact hbound '9' (by decide) (of_decide_eq_true hle)

theorem utf8Size_of_isNameChar {c : Char} (h : isNameChar c = true) :
    c.utf8Size = 1 := by
  rw [Char.utf8Size_eq_one_iff, UInt32.le_iff_toNat_le]
  rw [isNameChar_eq_true_iff] at h
  rcases h with h | h
  · exact toNat_le_of_isAlphanum h
  · have hmarks : ("+=,.@_-".toList.all fun c => c.val.toNat ≤ 127) = true := by
      decide
    simpa using List.all_eq_true.mp hmarks c h

/-- Every character of a name is one byte long. -/
theorem utf8ByteSize_ofList {cs : List Char}
    (h : ∀ c ∈ cs, isNameChar c = true) :
    (String.ofList cs).utf8ByteSize = cs.length := by
  induction cs with
  | nil => rfl
  | cons c cs ih =>
      have hc := utf8Size_of_isNameChar (h c List.mem_cons_self)
      have hcs := ih fun d hd => h d (List.mem_cons_of_mem c hd)
      rw [String.ofList_cons, String.utf8ByteSize_append,
        String.utf8ByteSize_singleton, hc, hcs, List.length_cons, Nat.add_comm]

theorem isName_eq_true_iff {name : String} :
    isName name = true ↔ IsValidName name := by
  have hsize (h : ∀ c ∈ name.toList, isNameChar c = true) :
      name.utf8ByteSize = name.length := by
    have hlist := utf8ByteSize_ofList h
    rwa [String.ofList_toList, String.length_toList] at hlist
  have hempty : name ≠ "" ↔ 1 ≤ name.length := by
    rw [Nat.one_le_iff_ne_zero, ne_eq, ne_eq, String.length_eq_zero_iff]
  simp only [isName, Bool.and_eq_true, decide_eq_true_eq, List.all_eq_true,
    hempty]
  constructor
  · rintro ⟨⟨hne, hshort⟩, hchars⟩
    rw [hsize hchars] at hshort
    exact ⟨hne, hshort, fun c hc => isNameChar_eq_true_iff.mp (hchars c hc)⟩
  · rintro ⟨hne, hshort, hchars⟩
    have hchars' : ∀ c ∈ name.toList, isNameChar c = true :=
      fun c hc => isNameChar_eq_true_iff.mpr (hchars c hc)
    refine ⟨⟨hne, ?_⟩, hchars'⟩
    rw [hsize hchars']
    exact hshort

instance (name : String) : Decidable (IsValidName name) :=
  decidable_of_iff _ isName_eq_true_iff

end Role

namespace Trust

/-- The text of a principal: there is one, it holds no blank character, and no
variable is opened in it. -/
structure IsPrincipalText (cs : List Char) : Prop where
  nonempty : cs ≠ []
  visible : ∀ c ∈ cs, isBlank c = false
  substituted : ¬HasOpening cs

theorem isPrincipal_eq_true_iff {cs : List Char} :
    isPrincipal cs = true ↔ IsPrincipalText cs := by
  simp only [isPrincipal, Bool.and_eq_true, Bool.not_eq_true',
    ← Bool.not_eq_true, List.isEmpty_iff, opensVariable_eq_true_iff,
    List.any_eq_true, not_exists, not_and]
  constructor
  · rintro ⟨⟨hne, hsubstituted⟩, hvisible⟩
    exact ⟨hne, fun c hc => by simpa using hvisible c hc, hsubstituted⟩
  · rintro ⟨hne, hvisible, hsubstituted⟩
    exact ⟨⟨hne, hsubstituted⟩, fun c hc => by simp [hvisible c hc]⟩

instance (cs : List Char) : Decidable (IsPrincipalText cs) :=
  decidable_of_iff _ isPrincipal_eq_true_iff

end Trust

/-! ## Actions and effects -/

namespace Catalog

/-- The text `service:Verb` is listed, up to letter case and blank ends. -/
def Lists (services : List (String × List String)) (raw : String) : Prop :=
  ∃ service verb, ':' ∉ service ∧
    trimChars raw.toList = service ++ ':' :: verb ∧
      ∃ s ∈ services, foldCase (trim s.1) = foldCase (String.ofList service) ∧
        ∃ listed ∈ s.2,
          foldCase (trim listed) = foldCase (String.ofList verb)

theorem isSome_normalize?_iff {services : List (String × List String)}
    {raw : String} :
    ((ofServices services).normalize? raw).isSome = true ↔
      Lists services raw := by
  have hlisted : ∀ service verb : String,
      ((ofServices services).spelling? service verb).isSome = true ↔
        ∃ s ∈ services, foldCase (trim s.1) = service ∧
          ∃ listed ∈ s.2, foldCase (trim listed) = foldCase verb := by
    intro service verb
    rw [spelling?_isSome_iff]
    simp only [mem_listedVerbs_iff]
    constructor
    · rintro ⟨listed, ⟨s, hs, hname, hmem⟩, hfold⟩
      exact ⟨s, hs, hname, listed, hmem, hfold⟩
    · rintro ⟨s, hs, hname, listed, hmem, hfold⟩
      exact ⟨listed, ⟨s, hs, hname, hmem⟩, hfold⟩
  unfold Lists
  simp only [← hlisted, Option.isSome_iff_exists, normalize?_eq_some_iff]
  constructor
  · rintro ⟨a, service, verb, hsplit, hservice, hspelling⟩
    obtain ⟨hcolon, htext⟩ := splitFirst_eq_some_iff.mp hsplit
    rw [hservice] at hspelling
    exact ⟨service, verb, hcolon, htext, a.verb, hspelling⟩
  · rintro ⟨service, verb, hcolon, htext, spelling, hspelling⟩
    exact ⟨⟨foldCase (String.ofList service), spelling⟩, service, verb,
      splitFirst_eq_some_iff.mpr ⟨hcolon, htext⟩, rfl, hspelling⟩

instance (services : List (String × List String)) (raw : String) :
    Decidable (Lists services raw) :=
  decidable_of_iff _ isSome_normalize?_iff

theorem compose_reports (services : List (String × List String))
    (raw : String) :
    Reports ((ofServices services).compose raw)
      (demand (Lists services raw) (.unknownAction raw)) := by
  rw [← List.append_nil (demand _ _)]
  refine Reports.lookup isSome_normalize?_iff ?_ ?_
  · intro hnormal
    simp only [compose, hnormal]
  · intro a hnormal
    simp only [compose, hnormal]
    exact Reports.ok a

end Catalog

namespace ResourcePattern

theorem compose_reports (raw : String) :
    Reports (compose raw) ((defects raw).map (.malformedPattern raw)) :=
  (parse_reports raw).mapError _

/-- The defects of a boundary. -/
def boundaryDefects (raw : String) : List CompileError :=
  demand (raw ≠ "*") (.malformedPattern raw .manyPolicies) ++
    (defects raw).map (.malformedPattern raw)

theorem composeBoundary_reports (raw : String) :
    Reports (composeBoundary raw) (boundaryDefects raw) :=
  Reports.refuse Iff.rfl fun _ => compose_reports raw

end ResourcePattern

/-! ## Bundles -/

namespace BundleSpec

/-- The bundle allows or denies, in any letter case. -/
def HasEffect (b : BundleSpec) : Prop :=
  foldCase b.effect = "allow" ∨ foldCase b.effect = "deny"

instance (b : BundleSpec) : Decidable b.HasEffect :=
  inferInstanceAs (Decidable (_ ∨ _))

/-- The bundle is in order. -/
structure IsValid (services : List (String × List String))
    (b : BundleSpec) : Prop where
  effect : b.HasEffect
  actions_ne_nil : b.actions ≠ []
  resources_ne_nil : b.resources ≠ []
  actions : ∀ raw ∈ b.actions, Catalog.Lists services raw
  resources : ∀ raw ∈ b.resources, ResourcePattern.IsWellFormed raw
  conditions : ClauseSpec.AllValid b.conditions

/-- The defects of the bundle at a position of a role, in the order of the
check. -/
def defects (services : List (String × List String)) (role : String)
    (b : BundleSpec) (index : Nat) : List CompileError :=
  let label : BundleLabel := { sid := b.sid, index, role }
  demand b.HasEffect (.invalidManifest (.unknownEffect label b.effect)) ++
    (demand (b.actions ≠ []) (.invalidManifest (.noActions label)) ++
      (demand (b.resources ≠ []) (.invalidManifest (.noResources label)) ++
        ((b.actions.flatMap fun raw =>
            demand (Catalog.Lists services raw) (.unknownAction raw)) ++
          ((b.resources.flatMap fun raw =>
              (ResourcePattern.defects raw).map (.malformedPattern raw)) ++
            (ClauseSpec.listDefects b.conditions).map .malformedClause))))

theorem isSome_ofText?_iff {b : BundleSpec} :
    (Effect.ofText? b.effect).isSome = true ↔ b.HasEffect := by
  have hallow : foldCase "allow" = "allow" := by decide
  have hdeny : foldCase "deny" = "deny" := by decide
  unfold Effect.ofText? HasEffect
  simp only [sameFolded, beq_iff_eq, hallow, hdeny]
  by_cases h : foldCase b.effect = "allow"
  · simp [h]
  · by_cases h' : foldCase b.effect = "deny"
    · simp [h']
    · simp [h, h']

theorem compose_reports (services : List (String × List String))
    (role : String) (b : BundleSpec) (index : Nat) :
    Reports (Bundle.compose role (Catalog.ofServices services) b index)
      (b.defects services role index) := by
  refine Reports.lookup isSome_ofText?_iff ?_ ?_
  · intro heffect
    simp only [Bundle.compose, heffect]
  · intro effect heffect
    simp only [Bundle.compose, heffect]
    refine Reports.refuse Iff.rfl fun _ => Reports.refuse Iff.rfl fun _ => ?_
    apply (Reports.mapM fun raw _ =>
      Catalog.compose_reports services raw).bind
    intro actions _
    apply (Reports.mapM fun raw _ =>
      ResourcePattern.compose_reports raw).bind
    intro resources _
    exact ((ClauseSpec.ofSpecs_reports b.conditions).mapError _).map _

theorem defects_eq_nil_iff {services : List (String × List String)}
    {role : String} {b : BundleSpec} {index : Nat} :
    b.defects services role index = [] ↔ b.IsValid services := by
  simp only [defects, List.append_eq_nil_iff, demand_eq_nil_iff,
    List.flatMap_eq_nil_iff, List.map_eq_nil_iff,
    ResourcePattern.defects_eq_nil_iff, ClauseSpec.listDefects_eq_nil_iff]
  constructor
  · rintro ⟨heffect, hactions, hresources, hlisted, hwell, hconditions⟩
    exact ⟨heffect, hactions, hresources, hlisted, hwell, hconditions⟩
  · rintro ⟨heffect, hactions, hresources, hlisted, hwell, hconditions⟩
    exact ⟨heffect, hactions, hresources, hlisted, hwell, hconditions⟩

end BundleSpec

/-! ## Roles -/

namespace RoleSpec

/-- The role is in order. -/
structure IsValid (services : List (String × List String))
    (r : RoleSpec) : Prop where
  name : Role.IsValidName r.name
  principal : Trust.IsPrincipalText (trimChars r.trust.principal.toList)
  trust : ClauseSpec.AllValid r.trust.conditions
  boundary : ∀ raw ∈ r.permissionBoundary,
    raw ≠ "*" ∧ ResourcePattern.IsWellFormed raw
  bundles : ∀ b ∈ r.bundles, b.IsValid services

/-- The defects of a role in the order of the check. -/
def defects (services : List (String × List String)) (r : RoleSpec) :
    List CompileError :=
  demand (Role.IsValidName r.name) (.invalidManifest (.badRoleName r.name)) ++
    ((demand (Trust.IsPrincipalText (trimChars r.trust.principal.toList))
          (.invalidManifest (.badPrincipal r.name r.trust.principal)) ++
        (ClauseSpec.listDefects r.trust.conditions).map .malformedClause) ++
      (r.permissionBoundary.toList.flatMap ResourcePattern.boundaryDefects ++
        r.bundles.zipIdx.flatMap fun (b, index) =>
          b.defects services r.name index))

theorem trust_reports (role : String) (t : TrustSpec) :
    Reports (Trust.compose role t)
      (demand (Trust.IsPrincipalText (trimChars t.principal.toList))
          (.invalidManifest (.badPrincipal role t.principal)) ++
        (ClauseSpec.listDefects t.conditions).map .malformedClause) :=
  Reports.require Trust.isPrincipal_eq_true_iff.symm fun _ =>
    ((ClauseSpec.ofSpecs_reports t.conditions).mapError _).map _

/-- Composing a role reports its first defect. -/
theorem compose_reports (services : List (String × List String))
    (r : RoleSpec) :
    Reports (Role.compose (Catalog.ofServices services) r)
      (r.defects services) := by
  refine Reports.require Role.isName_eq_true_iff.symm fun _ => ?_
  apply (trust_reports r.name r.trust).bind
  intro trust _
  apply (Reports.optionMapM fun raw _ =>
    ResourcePattern.composeBoundary_reports raw).bind
  intro boundary _
  apply Reports.map
  apply Reports.mapM
  rintro ⟨b, index⟩ _
  exact b.compose_reports services r.name index

/-- A role without defects is valid. -/
theorem defects_eq_nil_iff {services : List (String × List String)}
    {r : RoleSpec} : r.defects services = [] ↔ r.IsValid services := by
  have hbundles : (r.bundles.zipIdx.flatMap fun (b, index) =>
        b.defects services r.name index) = [] ↔
      ∀ b ∈ r.bundles, b.IsValid services := by
    conv_rhs => rw [← List.zipIdx_map_fst 0 r.bundles]
    rw [List.forall_mem_map]
    simp only [List.flatMap_eq_nil_iff, BundleSpec.defects_eq_nil_iff]
  simp only [defects, List.append_eq_nil_iff, demand_eq_nil_iff,
    List.map_eq_nil_iff, ClauseSpec.listDefects_eq_nil_iff, hbundles,
    ResourcePattern.boundaryDefects, List.flatMap_eq_nil_iff,
    ResourcePattern.defects_eq_nil_iff, Option.mem_toList]
  constructor
  · rintro ⟨hname, ⟨hprincipal, htrust⟩, hboundary, hbundles⟩
    exact ⟨hname, hprincipal, htrust, hboundary, hbundles⟩
  · rintro ⟨hname, hprincipal, htrust, hboundary, hbundles⟩
    exact ⟨hname, ⟨hprincipal, htrust⟩, hboundary, hbundles⟩

end RoleSpec

end RolePolicy
