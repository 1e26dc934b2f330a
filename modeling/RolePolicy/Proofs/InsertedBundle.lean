import RolePolicy.Proofs.Composed
import RolePolicy.Proofs.Decision
import RolePolicy.Proofs.Sorted

/-!
# Roles with one more bundle

A bundle that is inserted into a role moves the bundles behind it by one, and
otherwise leaves them as they are.  A grant can only turn silence into
permission, a denial can only turn the decision into a denial, and the trace
lists the bundles that were matched before at their new positions, or none of
them if the inserted bundle denies what they allow.
-/

namespace RolePolicy

/-! ## References behind an insertion -/

/-- The reference to the same bundle, when another one has been inserted at the
position. -/
def BundleRef.shift (position : Nat) (ref : BundleRef) : BundleRef :=
  ⟨if ref.index < position then ref.index else ref.index + 1, ref.sid⟩

namespace BundleRef

variable {position : Nat} {ref ref' : BundleRef}

@[simp] theorem sid_shift : (ref.shift position).sid = ref.sid := rfl

theorem index_shift_ne : (ref.shift position).index ≠ position := by
  unfold shift
  by_cases h : ref.index < position
  · simp only [if_pos h]
    omega
  · simp only [if_neg h]
    omega

theorem index_shift_lt (h : ref.index < ref'.index) :
    (ref.shift position).index < (ref'.shift position).index := by
  unfold shift
  by_cases hbefore : ref'.index < position
  · simp only [if_pos hbefore, if_pos (h.trans hbefore), h]
  · simp only [if_neg hbefore]
    split <;> omega

/-- Every place but that of the inserted bundle is taken by an old one. -/
theorem exists_shift_eq (h : ref.index ≠ position) :
    ∃ old : BundleRef, old.shift position = ref := by
  rcases Nat.lt_or_gt_of_ne h with hbefore | hbehind
  · exact ⟨ref, by simp [shift, hbefore]⟩
  · have hold : ¬ref.index - 1 < position := by omega
    have hindex : ref.index - 1 + 1 = ref.index := by omega
    exact ⟨⟨ref.index - 1, ref.sid⟩, by simp [shift, hold, hindex]⟩

end BundleRef

/-! ## The bundles of the extended role -/

/-- The role with a bundle inserted at the position. -/
def Role.insertBundle (r : Role) (position : Nat) (b : Bundle) : Role :=
  { r with bundles := r.bundles.insertIdx position b }

/-- The role as written with a bundle inserted at the position. -/
def RoleSpec.insertBundle (s : RoleSpec) (position : Nat) (b : BundleSpec) :
    RoleSpec :=
  { s with bundles := s.bundles.insertIdx position b }

theorem forall₂_insertIdx {α β : Type} {R : α → β → Prop} {l : List α}
    {m : List β} (h : List.Forall₂ R l m) {a : α} {b : β} (hab : R a b)
    (position : Nat) :
    List.Forall₂ R (l.insertIdx position a) (m.insertIdx position b) := by
  induction position generalizing l m with
  | zero =>
      rw [List.insertIdx_zero, List.insertIdx_zero]
      exact .cons hab h
  | succ position ih =>
      cases h with
      | nil => exact .nil
      | cons hhead htail =>
          rw [List.insertIdx_succ_cons, List.insertIdx_succ_cons]
          exact .cons hhead (ih htail)

/-- A role is composed with its further bundle if both are composed. -/
theorem RoleSpec.Composes.insertBundle {catalog : Catalog} {s : RoleSpec}
    {r : Role} {added : BundleSpec} {b : Bundle} (h : s.Composes catalog r)
    (hadded : added.Composes catalog b) (position : Nat) :
    (s.insertBundle position added).Composes catalog
      (r.insertBundle position b) :=
  { h with bundles := forall₂_insertIdx h.bundles hadded position }

namespace Role

section Inserted

variable {catalog : Catalog} {r : Role} {b : Bundle} {position : Nat}
  {request : Request} {ref : BundleRef}

theorem getElem?_insertBundle_shift :
    (r.insertBundle position b).bundles[(ref.shift position).index]? =
      r.bundles[ref.index]? := by
  unfold insertBundle BundleRef.shift
  by_cases h : ref.index < position
  · simp only [if_pos h]
    exact List.getElem?_insertIdx_of_lt h
  · simp only [if_neg h]
    exact List.getElem?_insertIdx_of_gt (by omega)

theorem getElem?_insertBundle_self (h : position ≤ r.bundles.length) :
    (r.insertBundle position b).bundles[position]? = some b := by
  rw [insertBundle, List.getElem?_insertIdx_self, if_pos h]

theorem exists_mem_insertBundle_iff (h : position ≤ r.bundles.length)
    {P : Bundle → Prop} :
    (∃ b' ∈ (r.insertBundle position b).bundles, P b') ↔
      P b ∨ ∃ b' ∈ r.bundles, P b' := by
  simp [insertBundle, List.mem_insertIdx h]

/-! ## The decision of the extended role -/

theorem decision_insertBundle_eq_deny_iff (h : position ≤ r.bundles.length) :
    ((r.insertBundle position b).evaluate catalog request).decision = .deny ↔
      (b.effect = .deny ∧ b.IsCandidate catalog request) ∨
        (r.evaluate catalog request).decision = .deny := by
  rw [decision_eq_deny_iff, decision_eq_deny_iff, exists_mem_insertBundle_iff h]

/-- A bundle that is no candidate changes no decision. -/
theorem decision_insertBundle_of_not_isCandidate
    (h : position ≤ r.bundles.length) (hno : ¬b.IsCandidate catalog request) :
    ((r.insertBundle position b).evaluate catalog request).decision =
      (r.evaluate catalog request).decision := by
  apply Decision.eq_of_iff
  · simp [decision_insertBundle_eq_deny_iff h, hno]
  · simp [decision_eq_allow_iff, exists_mem_insertBundle_iff h, hno]

/-- A grant can only turn silence into permission. -/
theorem decision_insertBundle_of_allow (h : position ≤ r.bundles.length)
    (hallow : b.effect = .allow) :
    let e := r.evaluate catalog request
    let e' := (r.insertBundle position b).evaluate catalog request
    e'.decision = e.decision ∨
      (e.decision = .implicitDeny ∧ e'.decision = .allow) := by
  intro e e'
  have hdeny : e'.decision = .deny ↔ e.decision = .deny := by
    simp [e, e', decision_insertBundle_eq_deny_iff h, hallow]
  by_cases hcandidate : b.IsCandidate catalog request
  · by_cases hdenied : e.decision = .deny
    · exact Or.inl ((hdeny.mpr hdenied).trans hdenied.symm)
    · have hallowed : e'.decision = .allow := by
        rw [decision_eq_allow_iff, ← decision_eq_deny_iff,
          exists_mem_insertBundle_iff h]
        exact ⟨fun hdenied' => hdenied (hdeny.mp hdenied'),
          Or.inl ⟨hallow, hcandidate⟩⟩
      rw [hallowed]
      cases hdecision : e.decision with
      | allow => exact Or.inl rfl
      | deny => exact absurd hdecision hdenied
      | implicitDeny => exact Or.inr ⟨rfl, rfl⟩
  · exact Or.inl (decision_insertBundle_of_not_isCandidate h hcandidate)

/-- A denial can only turn the decision into a denial. -/
theorem decision_insertBundle_of_deny (h : position ≤ r.bundles.length)
    (hdeny : b.effect = .deny) :
    let e := r.evaluate catalog request
    let e' := (r.insertBundle position b).evaluate catalog request
    (e'.decision = e.decision ∨ e'.decision = .deny) ∧
      (b.IsCandidate catalog request → e'.decision = .deny) := by
  intro e e'
  have hdenied : b.IsCandidate catalog request → e'.decision = .deny := by
    intro hcandidate
    exact (decision_insertBundle_eq_deny_iff h).mpr (Or.inl ⟨hdeny, hcandidate⟩)
  refine ⟨?_, hdenied⟩
  by_cases hcandidate : b.IsCandidate catalog request
  · exact Or.inr (hdenied hcandidate)
  · exact Or.inl (decision_insertBundle_of_not_isCandidate h hcandidate)

theorem decision_insertBundle_cases (h : position ≤ r.bundles.length)
    (catalog : Catalog) (b : Bundle) (request : Request) :
    let e := r.evaluate catalog request
    let e' := (r.insertBundle position b).evaluate catalog request
    e'.decision = e.decision ∨ e.decision = .implicitDeny ∨
      (e.decision = .allow ∧ e'.decision = .deny) := by
  intro e e'
  cases heffect : b.effect with
  | allow =>
      rcases decision_insertBundle_of_allow h heffect with hsame | ⟨hsilent, -⟩
      · exact Or.inl hsame
      · exact Or.inr (Or.inl hsilent)
  | deny =>
      rcases (decision_insertBundle_of_deny h heffect).1 with hsame | hdenied
      · exact Or.inl hsame
      · cases hdecision : e.decision with
        | allow => exact Or.inr (Or.inr ⟨rfl, hdenied⟩)
        | deny => exact Or.inl hdenied
        | implicitDeny => exact Or.inr (Or.inl rfl)

/-! ## The trace of the extended role -/

/-- Where nothing is decided, no bundle is a candidate. -/
theorem not_isCandidate_of_implicitDeny
    (h : (r.evaluate catalog request).decision = .implicitDeny)
    (hb : b ∈ r.bundles) : ¬b.IsCandidate catalog request := by
  intro hcandidate
  have hdenied : ¬∃ b ∈ r.bundles, b.effect = .deny ∧
      b.IsCandidate catalog request := by
    rw [← decision_eq_deny_iff, h]
    decide
  cases heffect : b.effect with
  | allow =>
      have hallowed := decision_eq_allow_iff.mpr
        ⟨hdenied, b, hb, heffect, hcandidate⟩
      rw [h] at hallowed
      cases hallowed
  | deny => exact hdenied ⟨b, hb, heffect, hcandidate⟩

/-- The effect of an old candidate wins if it won before, unless the inserted
bundle denies what the role allowed. -/
theorem winner?_insertBundle_eq_iff (h : position ≤ r.bundles.length)
    {b' : Bundle} (hb' : b' ∈ r.bundles)
    (hcandidate : b'.IsCandidate catalog request) :
    let e := r.evaluate catalog request
    let e' := (r.insertBundle position b).evaluate catalog request
    e'.decision.winner? = some b'.effect ↔
      e.decision.winner? = some b'.effect ∧
        ¬(e.decision = .allow ∧ e'.decision = .deny) := by
  intro e e'
  rcases decision_insertBundle_cases h catalog b request with
    hsame | hsilent | ⟨hallowed, hdenied⟩
  · have hkept : ¬(e.decision = .allow ∧ e'.decision = .deny) := by
      intro hboth
      have hdeny : e.decision = .deny := hsame.symm.trans hboth.2
      rw [hboth.1] at hdeny
      cases hdeny
    rw [and_iff_left hkept, hsame]
  · exact absurd hcandidate (not_isCandidate_of_implicitDeny hsilent hb')
  · have hgrant : b'.effect ≠ .deny := by
      intro hdeny
      have holddenied : e.decision = .deny :=
        decision_eq_deny_iff.mpr ⟨b', hb', hdeny, hcandidate⟩
      rw [hallowed] at holddenied
      cases holddenied
    simp [e, e', hallowed, hdenied, Decision.winner?, Ne.symm hgrant]

theorem shift_mem_matched_insertBundle_iff (h : position ≤ r.bundles.length) :
    let e := r.evaluate catalog request
    let e' := (r.insertBundle position b).evaluate catalog request
    ref.shift position ∈ e'.matched ↔
      ref ∈ e.matched ∧ ¬(e.decision = .allow ∧ e'.decision = .deny) := by
  intro e e'
  rw [mem_matched_iff, mem_matched_iff, getElem?_insertBundle_shift,
    BundleRef.sid_shift]
  constructor
  · intro hnew
    obtain ⟨b', hb', hsid, hwinner, hcandidate⟩ := hnew
    obtain ⟨hold, hkept⟩ := (winner?_insertBundle_eq_iff h
      (List.mem_of_getElem? hb') hcandidate).mp hwinner
    exact ⟨⟨b', hb', hsid, hold, hcandidate⟩, hkept⟩
  · intro hold
    obtain ⟨⟨b', hb', hsid, hwinner, hcandidate⟩, hkept⟩ := hold
    have hnew := (winner?_insertBundle_eq_iff h (List.mem_of_getElem? hb')
      hcandidate).mpr ⟨hwinner, hkept⟩
    exact ⟨b', hb', hsid, hnew, hcandidate⟩

/-- The old bundles in the trace are those that were there before, in the same
order and at their new positions, or none of them if the inserted bundle denies
what the role allowed. -/
theorem filter_matched_insertBundle (h : position ≤ r.bundles.length) :
    let e := r.evaluate catalog request
    let e' := (r.insertBundle position b).evaluate catalog request
    e'.matched.filter (·.index ≠ position) =
      if e.decision = .allow ∧ e'.decision = .deny then []
      else e.matched.map (·.shift position) := by
  intro e e'
  have hmem : ∀ ref, ref ∈ e'.matched.filter (·.index ≠ position) ↔
      ref ∈ e.matched.map (·.shift position) ∧
        ¬(e.decision = .allow ∧ e'.decision = .deny) := by
    intro ref
    simp only [List.mem_filter, List.mem_map, decide_eq_true_eq]
    constructor
    · intro hnew
      obtain ⟨href, hne⟩ := hnew
      obtain ⟨old, rfl⟩ := BundleRef.exists_shift_eq hne
      obtain ⟨hold, hkept⟩ := (shift_mem_matched_insertBundle_iff h).mp href
      exact ⟨⟨old, hold, rfl⟩, hkept⟩
    · intro hold
      obtain ⟨⟨old, hold, rfl⟩, hkept⟩ := hold
      exact ⟨(shift_mem_matched_insertBundle_iff h).mpr ⟨hold, hkept⟩,
        BundleRef.index_shift_ne⟩
  by_cases hturned : e.decision = .allow ∧ e'.decision = .deny
  · rw [if_pos hturned, List.eq_nil_iff_forall_not_mem]
    intro ref href
    exact ((hmem ref).mp href).2 hturned
  · rw [if_neg hturned]
    apply eq_of_pairwise_of_mem_iff (R := fun ref ref' => ref.index < ref'.index)
    · exact fun ref => Nat.lt_irrefl ref.index
    · exact fun ref ref' hlt => Nat.lt_asymm hlt
    · exact (pairwise_matched ..).filter _
    · rw [List.pairwise_map]
      exact (pairwise_matched ..).imp fun hlt => BundleRef.index_shift_lt hlt
    · intro ref
      rw [hmem, and_iff_left hturned]

/-- The inserted bundle is in the trace if it is a candidate and its effect
wins. -/
theorem mk_position_mem_matched_iff (h : position ≤ r.bundles.length)
    {sid : Option String} :
    let e' := (r.insertBundle position b).evaluate catalog request
    ⟨position, sid⟩ ∈ e'.matched ↔
      sid = b.sid ∧ e'.decision.winner? = some b.effect ∧
        b.IsCandidate catalog request := by
  intro e'
  simp only [e', mem_matched_iff, getElem?_insertBundle_self h,
    Option.some.injEq, exists_eq_left']

/-- A grant leaves the trace of a denial as it is. -/
theorem matched_insertBundle_of_denied (h : position ≤ r.bundles.length)
    (hallow : b.effect = .allow) :
    let e := r.evaluate catalog request
    let e' := (r.insertBundle position b).evaluate catalog request
    e.decision = .deny → e'.matched = e.matched.map (·.shift position) := by
  intro e e' hdenied
  have hnew : e'.decision = .deny :=
    (decision_insertBundle_eq_deny_iff h).mpr (Or.inr hdenied)
  have hold : ∀ ref ∈ e'.matched, ref.index ≠ position := by
    intro ref href hindex
    have heq : ref = ⟨position, ref.sid⟩ := by rw [← hindex]
    rw [heq] at href
    have hwinner := ((mk_position_mem_matched_iff h).mp href).2.1
    rw [hnew, hallow] at hwinner
    cases hwinner
  calc e'.matched
      = e'.matched.filter (·.index ≠ position) :=
        (List.filter_eq_self.mpr fun ref href => by simpa using hold ref href).symm
    _ = if e.decision = .allow ∧ e'.decision = .deny then []
          else e.matched.map (·.shift position) := filter_matched_insertBundle h
    _ = e.matched.map (·.shift position) := if_neg (by simp [hdenied])

end Inserted

end Role

namespace Manifest

/-- A bundle that is composed can be inserted into a compiled role at any
position: the role is then composed with it.  If it allows, the decision stays or
turns from silence into permission, and a denial keeps its trace; if it denies,
the decision stays or turns into a denial, which it is if the bundle is a
candidate.  The trace consists of the inserted bundle, if its effect wins, and of
the bundles that were in it before, in the same order and moved by one behind the
position, or of none of these if the bundle denies what the role allowed. -/
theorem compile_insertBundle_turns_decision {m : Manifest} {s : Substitutions}
    {c : CompiledRoles} {r : Role} {name : String} {added : BundleSpec}
    {b : Bundle} {place position : Nat} (hcompile : m.compile s = .ok c)
    (hrole : r ∈ c.roles)
    (hadded : Bundle.compose name c.catalog added place = .ok b)
    (hposition : position ≤ r.bundles.length) (request : Request) :
    let extended := r.insertBundle position b
    let e := r.evaluate c.catalog request
    let e' := extended.evaluate c.catalog request
    (∃ spec ∈ (s.applyManifest m).roles,
      Role.compose c.catalog spec = .ok r ∧
        Role.compose c.catalog (spec.insertBundle position added) =
          .ok extended) ∧
    (b.effect = .allow →
      (e'.decision = e.decision ∨
        (e.decision = .implicitDeny ∧ e'.decision = .allow)) ∧
      (e.decision = .deny →
        e'.matched = e.matched.map (·.shift position))) ∧
    (b.effect = .deny →
      (e'.decision = e.decision ∨ e'.decision = .deny) ∧
      (b.IsCandidate c.catalog request → e'.decision = .deny)) ∧
    (∀ ref : BundleRef,
      extended.bundles[(ref.shift position).index]? = r.bundles[ref.index]?) ∧
    e'.matched.filter (·.index ≠ position) =
      (if e.decision = .allow ∧ e'.decision = .deny then []
        else e.matched.map (·.shift position)) ∧
    ∀ sid, ⟨position, sid⟩ ∈ e'.matched ↔
      sid = b.sid ∧ e'.decision.winner? = some b.effect ∧
        b.IsCandidate c.catalog request := by
  intro extended e e'
  obtain ⟨-, hroles, -, -⟩ := compile_eq_ok_iff.mp hcompile
  obtain ⟨spec, hspec, hcomposes⟩ := exists_mem_of_forall₂ hroles hrole
  have hextended := hcomposes.insertBundle
    (Bundle.compose_eq_ok_iff.mp hadded) position
  refine ⟨⟨spec, hspec, Role.compose_eq_ok_iff.mpr hcomposes,
      Role.compose_eq_ok_iff.mpr hextended⟩,
    ?_, Role.decision_insertBundle_of_deny hposition,
    fun _ => Role.getElem?_insertBundle_shift,
    Role.filter_matched_insertBundle hposition,
    fun _ => Role.mk_position_mem_matched_iff hposition⟩
  intro hallow
  exact ⟨Role.decision_insertBundle_of_allow hposition hallow,
    Role.matched_insertBundle_of_denied hposition hallow⟩

/-- A grant of what the provisioner's second bundle denies, as written. -/
def passingSpec : BundleSpec where
  sid := some "Passing"
  effect := "Allow"
  actions := ["IAM:passrole"]
  resources := ["*"]
  conditions := []

/-- The bundle into which it is composed. -/
def passing : Bundle where
  sid := some "Passing"
  effect := .allow
  actions := SortedSet.singleton ⟨"iam", "PassRole"⟩
  resources := [⟨"*"⟩]
  conditions := .unconditional

/-- In front of the denial the grant changes nothing but the position of the
denial in the trace. -/
theorem provisioner_insertBundle_turns_decision :
    ∃ c, provisioner.compile ∅ = .ok c ∧ provisionerRole ∈ c.roles ∧
      Bundle.compose provisionerRole.name c.catalog passingSpec 1 =
        .ok passing ∧
      1 ≤ provisionerRole.bundles.length ∧
      let request : Request := ⟨"iam:PassRole", "", ∅⟩
      let extended := provisionerRole.insertBundle 1 passing
      let e := provisionerRole.evaluate c.catalog request
      let e' := extended.evaluate c.catalog request
      e = ⟨.deny, [⟨1, none⟩]⟩ ∧ passing.IsCandidate c.catalog request ∧
      (e'.decision = e.decision ∨
        (e.decision = .implicitDeny ∧ e'.decision = .allow)) ∧
      e'.matched = e.matched.map (·.shift 1) ∧ e' = ⟨.deny, [⟨2, none⟩]⟩ := by
  have hrole : provisionerRole ∈ [provisionerRole] :=
    List.mem_singleton_self provisionerRole
  have hadded : Bundle.compose provisionerRole.name provisioner.actionCatalog
      passingSpec 1 = .ok passing := by
    decide +kernel
  have hposition : 1 ≤ provisionerRole.bundles.length := by decide
  let request : Request := ⟨"iam:PassRole", "", ∅⟩
  have hdenied : provisionerRole.evaluate provisioner.actionCatalog request =
      ⟨.deny, [⟨1, none⟩]⟩ := by
    decide +kernel
  have hcandidate : passing.IsCandidate provisioner.actionCatalog request :=
    Bundle.isCandidate_iff.mpr
      ⟨⟨"iam", "PassRole"⟩, by decide +kernel, by decide +kernel⟩
  obtain ⟨-, hallow, -⟩ := compile_insertBundle_turns_decision
    compile_provisioner hrole hadded hposition request
  obtain ⟨hdecision, htrace⟩ := hallow rfl
  exact ⟨_, compile_provisioner, hrole, hadded, hposition, hdenied, hcandidate,
    hdecision, htrace (congrArg Evaluation.decision hdenied),
    by decide +kernel⟩

end Manifest

end RolePolicy
