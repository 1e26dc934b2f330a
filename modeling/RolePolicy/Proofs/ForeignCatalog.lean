import RolePolicy.Proofs.Composed
import RolePolicy.Proofs.Decision

/-!
# Roles under another catalog

A role may be asked with a catalog that it was not composed with, which lists
more actions, fewer, or the same in other spellings.  A bundle lists its actions
in the spelling of its own catalog.  Another catalog therefore finds an action
in a bundle only if it reads the request as the own catalog does, and where it
reads the request otherwise it finds nothing: a drifted catalog denies more and
never grants more.
-/

namespace RolePolicy

variable {services others : List (String × List String)}

/-- A text that another catalog reads as an action of a bundle is read as this
action by the catalog of the bundle. -/
theorem Bundle.IsComposed.normalize?_of_foreign {b : Bundle}
    (h : b.IsComposed (Catalog.ofServices services)) {raw : String} {a : Action}
    (hforeign : (Catalog.ofServices others).normalize? raw = some a)
    (ha : a ∈ b.actions) :
    (Catalog.ofServices services).normalize? raw = some a := by
  have hnamed : Action.named? raw = some a.folded :=
    (Catalog.named?_of_normalize? hforeign).1
  rw [Catalog.normalize?_of_named? _ hnamed, h.spelling? ha, Option.map_some]

namespace Role

variable {r : Role} {request : Request}

theorem matching_eq_nil_of_not_mem {a : Action}
    (h : ∀ b ∈ r.bundles, a ∉ b.actions) (effect : Effect) (resource : String)
    (context : RequestContext) :
    r.matching effect a resource context = [] := by
  by_contra hmatch
  obtain ⟨b, hb, -, happlies⟩ := matching_ne_nil_iff.mp hmatch
  exact h b hb (Bundle.appliesTo_eq_true_iff.mp happlies).1

/-- Only the reading of the action depends on the catalog. -/
theorem evaluate_eq_of_normalize?_eq {catalog catalog' : Catalog}
    (h : catalog.normalize? request.action =
      catalog'.normalize? request.action) :
    r.evaluate catalog request = r.evaluate catalog' request := by
  rw [evaluate, evaluate, h]

/-- Another catalog decides like the own one where it reads the request alike,
and finds nothing where it does not. -/
theorem IsComposed.evaluate_foreign
    (h : r.IsComposed (Catalog.ofServices services)) :
    r.evaluate (Catalog.ofServices others) request =
      if (Catalog.ofServices others).normalize? request.action =
          (Catalog.ofServices services).normalize? request.action then
        r.evaluate (Catalog.ofServices services) request
      else .nothingMatched := by
  by_cases hsame : (Catalog.ofServices others).normalize? request.action =
      (Catalog.ofServices services).normalize? request.action
  · rw [if_pos hsame, evaluate_eq_of_normalize?_eq hsame]
  · rw [if_neg hsame]
    cases hforeign : (Catalog.ofServices others).normalize? request.action with
    | none => simp only [evaluate, hforeign]
    | some a =>
        have hlisted : ∀ b ∈ r.bundles, a ∉ b.actions := by
          intro b hb ha
          have hown := (h.bundles b hb).normalize?_of_foreign hforeign ha
          exact hsame (hforeign.trans hown.symm)
        rw [evaluate_of_normalize? hforeign, matching_eq_nil_of_not_mem hlisted,
          matching_eq_nil_of_not_mem hlisted]
        rfl

/-- A composed role under another catalog gives the evaluation of its own
catalog, trace included, or matches nothing.  It grants nothing that the own
catalog does not grant, and loses what matches under the own catalog exactly if
the other one reads the request otherwise. -/
theorem evaluate_foreign_fails_closed {spec : RoleSpec}
    (h : compose (Catalog.ofServices services) spec = .ok r)
    (others : List (String × List String)) (request : Request) :
    let own := r.evaluate (Catalog.ofServices services) request
    let foreign := r.evaluate (Catalog.ofServices others) request
    (foreign = own ∨ foreign = .nothingMatched) ∧
      (foreign.decision = .allow → own.decision = .allow) ∧
      (own ≠ .nothingMatched →
        (foreign = own ↔
          (Catalog.ofServices others).normalize? request.action =
            (Catalog.ofServices services).normalize? request.action)) := by
  intro own foreign
  have hcomposed := (compose_eq_ok_iff.mp h).isComposed
  have hforeign : foreign =
      if (Catalog.ofServices others).normalize? request.action =
          (Catalog.ofServices services).normalize? request.action then own
      else .nothingMatched := hcomposed.evaluate_foreign
  have hcases : foreign = own ∨ foreign = .nothingMatched := by
    rw [hforeign]
    exact ite_eq_or_eq _ _ _
  refine ⟨hcases, ?_, ?_⟩
  · intro hallow
    rcases hcases with heq | heq
    · rwa [← heq]
    · rw [heq] at hallow
      cases hallow
  · intro hmatched
    constructor
    · intro heq
      by_contra hother
      rw [if_neg hother] at hforeign
      exact hmatched (heq.symm.trans hforeign)
    · intro hsame
      rw [hforeign, if_pos hsame]

end Role

namespace Manifest

/-- A catalog that lists more actions and respells one that the role denies: the
denial is lost, and nothing is granted instead. -/
theorem provisionerRole_foreign_fails_closed :
    ∃ spec ∈ provisioner.roles,
      Role.compose (Catalog.ofServices provisioner.catalog.entries) spec =
        .ok provisionerRole ∧
      let others := [("CloudFormation", ["CreateStack", "DeleteStack"]),
        ("iam", ["passRole"])]
      let request : Request := ⟨"iam:PassRole", "", ∅⟩
      let own := provisionerRole.evaluate
        (Catalog.ofServices provisioner.catalog.entries) request
      let foreign := provisionerRole.evaluate (Catalog.ofServices others) request
      own = ⟨.deny, [⟨1, none⟩]⟩ ∧ foreign = .nothingMatched ∧
        (foreign = own ∨ foreign = .nothingMatched) ∧
        (foreign.decision = .allow → own.decision = .allow) ∧
        (own ≠ .nothingMatched →
          (foreign = own ↔
            (Catalog.ofServices others).normalize? request.action =
              (Catalog.ofServices provisioner.catalog.entries).normalize?
                request.action)) := by
  have hcompose : ∀ spec ∈ provisioner.roles,
      Role.compose (Catalog.ofServices provisioner.catalog.entries) spec =
        .ok provisionerRole := by
    decide +kernel
  obtain ⟨spec, hspec⟩ : ∃ spec, spec ∈ provisioner.roles :=
    ⟨_, List.mem_cons_self⟩
  exact ⟨spec, hspec, hcompose spec hspec, by decide +kernel, by decide +kernel,
    Role.evaluate_foreign_fails_closed (hcompose spec hspec) _ _⟩

end Manifest

end RolePolicy
