import RolePolicy.Compiled
import RolePolicy.Proofs.Composed
import RolePolicy.Proofs.Validity.Role

/-!
# Valid manifests

A manifest compiles if and only if, after substitution, names and kinds are
distinct and every role is valid.  Otherwise the first of its defects is
reported: repeated names and kinds come before everything that is wrong with a
single role, and roles are looked at in the order of the manifest.
-/

namespace RolePolicy

/-! ## Distinct names and kinds -/

namespace RoleSpec

/-- Neither the name nor the kind of a role is that of another one. -/
def Differs (r r' : RoleSpec) : Prop :=
  r.name ≠ r'.name ∧ r.kind ≠ r'.kind

/-- The names and kinds of the list that a role in front has already; `earlier`
holds the roles in front of the list, the last one first. -/
def distinctDefects (earlier : List RoleSpec) :
    List RoleSpec → List CompileError
  | [] => []
  | r :: rest =>
    demand (∀ e ∈ earlier, e.name ≠ r.name)
        (.invalidManifest (.repeatedRole r.name)) ++
      ((earlier.filter (·.kind == r.kind)).map (fun e =>
          .invalidManifest (.repeatedKind e.name r.name r.kind)) ++
        distinctDefects (r :: earlier) rest)

theorem checkDistinct_reports (earlier roles : List RoleSpec) :
    Reports (checkDistinct earlier roles) (distinctDefects earlier roles) := by
  induction roles generalizing earlier with
  | nil => exact Reports.ok ()
  | cons r roles ih =>
      have hname : (∀ e ∈ earlier, e.name ≠ r.name) ↔
          ¬earlier.any (·.name == r.name) = true := by
        simp
      refine Reports.refuse hname fun _ => ?_
      have hfind := List.head?_filter (p := (·.kind == r.kind)) (l := earlier)
      cases hkind : earlier.filter (·.kind == r.kind) with
      | nil =>
          rw [hkind] at hfind
          simp only [← hfind, List.head?_nil, List.map_nil, List.nil_append]
          exact ih (r :: earlier)
      | cons e others =>
          rw [hkind] at hfind
          simp only [← hfind, List.head?_cons]
          rfl

theorem distinctDefects_eq_nil_iff {earlier roles : List RoleSpec} :
    distinctDefects earlier roles = [] ↔
      (∀ r ∈ roles, ∀ e ∈ earlier, e.Differs r) ∧ roles.Pairwise Differs := by
  induction roles generalizing earlier with
  | nil => simp [distinctDefects]
  | cons r roles ih =>
      simp only [distinctDefects, List.append_eq_nil_iff, demand_eq_nil_iff,
        List.map_eq_nil_iff, List.filter_eq_nil_iff, ih, List.pairwise_cons,
        List.forall_mem_cons, Differs, beq_iff_eq]
      constructor
      · rintro ⟨hnames, hkinds, hrest, hpairs⟩
        refine ⟨⟨fun e he => ⟨hnames e he, hkinds e he⟩,
          fun r' hr' => (hrest r' hr').2⟩, ?_, hpairs⟩
        exact fun r' hr' => (hrest r' hr').1
      · rintro ⟨⟨hfirst, hearlier⟩, hrest, hpairs⟩
        exact ⟨fun e he => (hfirst e he).1, fun e he => (hfirst e he).2,
          fun r' hr' => ⟨hrest r' hr', hearlier r' hr'⟩, hpairs⟩

theorem pairwise_differs_iff {roles : List RoleSpec} :
    roles.Pairwise Differs ↔
      (roles.map RoleSpec.name).Nodup ∧ (roles.map RoleSpec.kind).Nodup := by
  unfold List.Nodup
  rw [List.pairwise_map, List.pairwise_map, ← List.pairwise_and_iff]
  rfl

theorem checkDistinct_eq_ok_iff {roles : List RoleSpec} :
    checkDistinct [] roles = .ok () ↔
      (roles.map RoleSpec.name).Nodup ∧ (roles.map RoleSpec.kind).Nodup := by
  have hreports := (checkDistinct_reports [] roles).exists_ok_iff
  rw [distinctDefects_eq_nil_iff, pairwise_differs_iff] at hreports
  constructor
  · intro h
    exact (hreports.mp ⟨(), h⟩).2
  · intro h
    obtain ⟨_, hok⟩ := hreports.mpr
      ⟨fun _ _ _ hmem => absurd hmem List.not_mem_nil, h⟩
    exact hok

end RoleSpec

namespace Manifest

/-! ## Manifests -/

/-- The manifest is in order: names and kinds are distinct, and every role is
valid with respect to the listed actions. -/
structure IsValid (m : Manifest) : Prop where
  names : (m.roles.map RoleSpec.name).Nodup
  kinds : (m.roles.map RoleSpec.kind).Nodup
  roles : ∀ r ∈ m.roles, r.IsValid m.catalog.entries

/-- All defects of a manifest in the order of the check. -/
def defects (m : Manifest) : List CompileError :=
  RoleSpec.distinctDefects [] m.roles ++
    m.roles.flatMap (RoleSpec.defects m.catalog.entries)

theorem defects_eq_nil_iff {m : Manifest} : m.defects = [] ↔ m.IsValid := by
  simp only [defects, List.append_eq_nil_iff, List.flatMap_eq_nil_iff,
    RoleSpec.distinctDefects_eq_nil_iff, RoleSpec.pairwise_differs_iff,
    RoleSpec.defects_eq_nil_iff]
  constructor
  · rintro ⟨⟨-, hnames, hkinds⟩, hroles⟩
    exact ⟨hnames, hkinds, hroles⟩
  · rintro ⟨hnames, hkinds, hroles⟩
    exact ⟨⟨by simp, hnames, hkinds⟩, hroles⟩

theorem compile_reports (m : Manifest) (s : Substitutions) :
    Reports (m.compile s) (s.applyManifest m).defects := by
  apply (RoleSpec.checkDistinct_reports [] _).bind
  intro _ _
  exact (Reports.mapM fun r _ => r.compose_reports _).map _

/-- A manifest compiles exactly if it is valid after substitution, and
otherwise its first defect is all that is reported. -/
theorem compile_accepts_valid_and_reports_first (m : Manifest)
    (s : Substitutions) :
    ((∃ c, m.compile s = .ok c) ↔ (s.applyManifest m).IsValid) ∧
      ∀ e, m.compile s = .error e ↔
        (s.applyManifest m).defects.head? = some e := by
  have hreports := compile_reports m s
  constructor
  · rw [hreports.exists_ok_iff, defects_eq_nil_iff]
  · intro e
    exact hreports.eq_error_iff

/-! ## Roles by name -/

/-- Substitution leaves names as they are. -/
theorem map_name_applyManifest (s : Substitutions) (m : Manifest) :
    (s.applyManifest m).roles.map RoleSpec.name = m.roles.map RoleSpec.name := by
  rw [Substitutions.applyManifest, List.map_map]
  rfl

/-- Compiled roles have the names of the manifest, in its order. -/
theorem map_name_of_compile {m : Manifest} {s : Substitutions}
    {c : CompiledRoles} (h : m.compile s = .ok c) :
    c.roles.map Role.name = m.roles.map RoleSpec.name := by
  obtain ⟨-, hroles, -, -⟩ := compile_eq_ok_iff.mp h
  rw [← map_name_applyManifest s m]
  exact (map_eq_map_of_forall₂ (fun _ _ hr => hr.name.symm) hroles).symm

/-- The names of compiled roles are distinct. -/
theorem nodup_names_of_compile {m : Manifest} {s : Substitutions}
    {c : CompiledRoles} (h : m.compile s = .ok c) :
    (c.roles.map Role.name).Nodup := by
  obtain ⟨hdistinct, -, -, -⟩ := compile_eq_ok_iff.mp h
  rw [map_name_of_compile h, ← map_name_applyManifest s m]
  exact (RoleSpec.checkDistinct_eq_ok_iff.mp hdistinct).1

/-- A compiled role is found by its name. -/
theorem role?_of_mem {m : Manifest} {s : Substitutions} {c : CompiledRoles}
    (h : m.compile s = .ok c) {r : Role} (hr : r ∈ c.roles) :
    c.role? r.name = some r :=
  find?_eq_some_of_nodup_map (nodup_names_of_compile h) hr
    fun _ => beq_iff_eq

end Manifest

end RolePolicy
