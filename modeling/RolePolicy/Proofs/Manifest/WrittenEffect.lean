import RolePolicy.Proofs.Composed
import RolePolicy.Proofs.Manifest.Kdl

/-!
# Effects as written

A bundle has the effect that its node states exactly if the last `effect`
property of the node is a text.  A property of any other type is passed over
like a missing one, and the bundle allows what it may have been meant to deny.
-/

namespace RolePolicy

open Kdl (Node Entry Value withName)

/-! ## The property that counts -/

namespace Kdl.Node

/-- Of the properties of the name, the last one has the value. -/
def LastProperty (node : Node) (name : String) (value : Value) : Prop :=
  ∃ front back, node.entries = front ++ ⟨some name, value⟩ :: back ∧
    ∀ e ∈ back, e.name ≠ some name

theorem property?_eq_some_iff {node : Node} {name : String} {value : Value} :
    node.property? name = some value ↔ node.LastProperty name value := by
  unfold property?
  rw [Option.map_eq_some_iff]
  constructor
  · intro h
    obtain ⟨⟨found, _⟩, hfind, rfl⟩ := h
    obtain ⟨hname, back, front, hentries, hback⟩ :=
      List.find?_eq_some_iff_append.mp hfind
    obtain rfl : found = some name := by simpa using hname
    refine ⟨front.reverse, back.reverse, ?_, ?_⟩
    · rw [← List.reverse_reverse node.entries, hentries]
      simp
    · intro e he
      have hne := hback e (List.mem_reverse.mp he)
      simpa using hne
  · intro h
    obtain ⟨front, back, hentries, hback⟩ := h
    refine ⟨⟨some name, value⟩, ?_, rfl⟩
    rw [hentries]
    refine List.find?_eq_some_iff_append.mpr
      ⟨by simp, back.reverse, front.reverse, by simp, ?_⟩
    intro e he
    have hne := hback e (List.mem_reverse.mp he)
    simpa using hne

theorem stringProperty?_eq_some_iff {node : Node} {name text : String} :
    node.stringProperty? name = some text ↔
      node.LastProperty name (.string text) := by
  rw [← property?_eq_some_iff, stringProperty?, Option.bind_eq_some_iff]
  constructor
  · intro h
    obtain ⟨value, hvalue, htext⟩ := h
    cases value with
    | string text' =>
        obtain rfl := Option.some.inj htext
        exact hvalue
    | _ => cases htext
  · intro h
    exact ⟨.string text, h, rfl⟩

end Kdl.Node

/-! ## From nodes to compiled bundles -/

/-- The value is a text that names the effect in some letter case. -/
def Effect.IsNamedBy (effect : Effect) (value : Value) : Prop :=
  ∃ text, value = .string text ∧
    Text.foldCase text = Text.foldCase effect.text

/-- What the `effect` properties of a node say about the effect of a bundle:
a last property that is a text names it, and without such a text the bundle
allows. -/
structure Bundle.HasWrittenEffect (b : Bundle) (node : Node) : Prop where
  named : ∀ value, node.LastProperty "effect" value →
    (b.effect.IsNamedBy value ↔ ∃ text, value = .string text)
  default : (∀ text, ¬node.LastProperty "effect" (.string text)) →
    b.effect = .allow

theorem BundleSpec.IsWrittenBy.hasWrittenEffect {spec : BundleSpec}
    {node : Node} {b : Bundle} (h : spec.IsWrittenBy node)
    (hb : Effect.ofText? spec.effect = some b.effect) :
    b.HasWrittenEffect node := by
  have heffect := Effect.ofText?_eq_some_iff.mp hb
  rw [h.effect] at heffect
  constructor
  · intro value hvalue
    constructor
    · intro hnamed
      obtain ⟨text, htext, -⟩ := hnamed
      exact ⟨text, htext⟩
    · intro hstring
      obtain ⟨text, rfl⟩ := hstring
      have htext : node.stringProperty? "effect" = some text :=
        Kdl.Node.stringProperty?_eq_some_iff.mpr hvalue
      rw [htext] at heffect
      exact ⟨text, rfl, heffect⟩
  · intro hnone
    have hmissing : node.stringProperty? "effect" = none := by
      rw [Option.eq_none_iff_forall_ne_some]
      intro text htext
      exact hnone text (Kdl.Node.stringProperty?_eq_some_iff.mp htext)
    rw [hmissing] at heffect
    have hallow : Effect.ofText? defaultEffect = some .allow := by
      decide
    rw [← Effect.ofText?_eq_some_iff] at heffect
    exact Option.some.inj (heffect.symm.trans hallow)

theorem RoleSpec.IsWrittenBy.hasWrittenEffects {spec : RoleSpec} {node : Node}
    {s : Substitutions} {catalog : Catalog} {r : Role}
    (h : spec.IsWrittenBy node) (hr : (s.applyRole spec).Composes catalog r) :
    List.Forall₂ (fun child b => Bundle.HasWrittenEffect b child)
      (node.named "bundle") r.bundles := by
  have hbundles : List.Forall₂
      (fun b b' => BundleSpec.Composes catalog (s.applyBundle b) b')
      spec.bundles r.bundles :=
    List.forall₂_map_left_iff.mp hr.bundles
  apply (forall₂_comp h.bundles hbundles).imp
  intro child b hchild
  obtain ⟨written, hwritten, hcomposes⟩ := hchild
  exact hwritten.hasWrittenEffect hcomposes.effect

namespace Manifest

/-- Bundle by bundle, a compiled document has the effects that its nodes state,
as far as they state them by texts. -/
theorem compile_ofNodes_hasWrittenEffect {nodes : List Node} {m : Manifest}
    {s : Substitutions} {c : CompiledRoles} (hread : ofNodes nodes = .ok m)
    (hcompile : m.compile s = .ok c) :
    List.Forall₂ (fun node r =>
        List.Forall₂ (fun child b => Bundle.HasWrittenEffect b child)
          (node.named "bundle") r.bundles)
      (withName "role" nodes) c.roles := by
  obtain ⟨-, hroles, -, -⟩ := compile_eq_ok_iff.mp hcompile
  have hcomposed : List.Forall₂
      (fun r r' => RoleSpec.Composes c.catalog (s.applyRole r) r')
      m.roles c.roles :=
    List.forall₂_map_left_iff.mp hroles
  apply (forall₂_comp (roles_of_ofNodes hread) hcomposed).imp
  intro node r hnode
  obtain ⟨spec, hspec, hr⟩ := hnode
  exact hspec.hasWrittenEffects hr

/-- The node of a bundle with the entries, which speaks about all objects. -/
def objectsNode (entries : List Entry) : Node :=
  .mk "bundle" entries
    (some [BundleSpec.listNode "actions" ["s3:GetObject"],
      BundleSpec.listNode "resources" ["*"]])

/-- A document of one role that has one bundle, with the entries. -/
def objectsDocument (entries : List Entry) : List Node :=
  [catalogNode (SortedMap.ofList [("s3", ["GetObject"])]),
    .mk "role" [.argument "Reader", .property "kind" "operational"]
      (some [.mk "trust" [.argument "datazone.amazonaws.com"] none,
        objectsNode entries])]

/-- The manifest of a role that has one bundle, with the effect. -/
def objects (effect : String) : Manifest where
  catalog := SortedMap.ofList [("s3", ["GetObject"])]
  roles :=
    [{ name := "Reader"
       kind := .operational
       trust := { principal := "datazone.amazonaws.com", conditions := [] }
       permissionBoundary := none
       bundles :=
        [{ sid := none
           effect
           actions := ["s3:GetObject"]
           resources := ["*"]
           conditions := [] }] }]

/-- The bundle of the compiled role. -/
def objectsBundle (effect : Effect) : Bundle where
  sid := none
  effect
  actions := SortedSet.singleton ⟨"s3", "GetObject"⟩
  resources := [⟨"*"⟩]
  conditions := .unconditional

/-- The compiled role. -/
def objectsRole (effect : Effect) : Role where
  name := "Reader"
  kind := .operational
  trust := ⟨"datazone.amazonaws.com", .unconditional⟩
  bundles := [objectsBundle effect]
  permissionBoundary := none

/-- Of two texts the last one counts. -/
theorem objects_hasWrittenEffect :
    let entries : List Entry :=
      [.property "effect" "allow", .property "effect" "DENY"]
    ∃ c, ofNodes (objectsDocument entries) = .ok (objects "DENY") ∧
      (objects "DENY").compile ∅ = .ok c ∧
      c.roles = [objectsRole .deny] ∧
      List.Forall₂ (fun node r =>
          List.Forall₂ (fun child b => Bundle.HasWrittenEffect b child)
            (node.named "bundle") r.bundles)
        (withName "role" (objectsDocument entries)) c.roles := by
  intro entries
  have hread : ofNodes (objectsDocument entries) = .ok (objects "DENY") := by
    decide +kernel
  have hcompile : (objects "DENY").compile ∅ =
      .ok ⟨(objects "DENY").actionCatalog, [objectsRole .deny], ∅⟩ := by
    decide +kernel
  exact ⟨_, hread, hcompile, rfl,
    compile_ofNodes_hasWrittenEffect hread hcompile⟩

/-- A bundle whose effect is written as a truth value allows. -/
theorem objects_allows_without_text :
    let entries : List Entry := [⟨some "effect", .boolean false⟩]
    ∃ c r b, ofNodes (objectsDocument entries) = .ok (objects "allow") ∧
      (objects "allow").compile ∅ = .ok c ∧
      (withName "role" (objectsDocument entries)).flatMap (·.named "bundle") =
        [objectsNode entries] ∧
      c.roles = [r] ∧ r.bundles = [b] ∧
      (objectsNode entries).LastProperty "effect" (.boolean false) ∧
      b.effect = .allow ∧
      ∀ effect : Effect, ¬effect.IsNamedBy (.boolean false) := by
  intro entries
  have hread : ofNodes (objectsDocument entries) = .ok (objects "allow") := by
    decide +kernel
  have hcompile : (objects "allow").compile ∅ =
      .ok ⟨(objects "allow").actionCatalog, [objectsRole .allow], ∅⟩ := by
    decide +kernel
  refine ⟨_, _, _, hread, hcompile, rfl, rfl, rfl, ⟨[], [], rfl, ?_⟩, rfl, ?_⟩
  · exact fun _ hmem => absurd hmem List.not_mem_nil
  · intro effect hnamed
    obtain ⟨text, htext, -⟩ := hnamed
    cases htext

end Manifest

end RolePolicy
