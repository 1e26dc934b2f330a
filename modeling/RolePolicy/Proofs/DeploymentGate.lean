import Mathlib.Algebra.GroupWithZero.Nat
import RolePolicy.CommandLine.Run
import RolePolicy.Files.Tree
import RolePolicy.Proofs.Lint
import RolePolicy.Proofs.Validity.Manifest

/-!
# The report that gates a deployment

Whether a report blocks is a question about its findings, and the findings of
the report on all roles are those of the reports on the single roles put
together: names of compiled roles are distinct, so none of them takes the place
of another one.  The gate is therefore closed for all roles exactly if it is for
one of them.
-/

namespace RolePolicy

/-! ## What blocks -/

namespace LintReport

/-- A report blocks because of some finding, in strict mode of any and otherwise
of an error. -/
theorem blocks_iff {report : LintReport} {strict : Bool} :
    report.blocks strict = true ↔
      ∃ f ∈ report.findings, strict = true ∨ f.severity = .error := by
  cases strict with
  | true =>
      simp only [blocks, isClean, if_true, Bool.not_eq_true',
        List.isEmpty_eq_false_iff_exists_mem, true_or, and_true]
  | false => simp [blocks, count, List.countP_pos_iff]

theorem blocks_strict_of_blocks {report : LintReport}
    (h : report.blocks false = true) : report.blocks true = true := by
  obtain ⟨f, hf, -⟩ := blocks_iff.mp h
  exact blocks_iff.mpr ⟨f, hf, Or.inl rfl⟩

/-- Every finding is an error or a warning. -/
theorem count_error_add_count_warning (report : LintReport) :
    report.count .error + report.count .warning = report.findings.length := by
  rw [List.length_eq_countP_add_countP (·.severity == .error), count, count]
  congr 2
  funext f
  cases f.severity <;> rfl

end LintReport

/-! ## The reports on single roles -/

/-- The report on a role alone. -/
def Role.report (config : LintConfig) (r : Role) : LintReport :=
  ⟨SortedMap.ofList [(r.name, r.lint config)]⟩

theorem Role.findings_report (config : LintConfig) (r : Role) :
    (r.report config).findings = r.lint config :=
  List.append_nil (r.lint config)

namespace CompiledRoles

variable {c : CompiledRoles}

/-- The report on all roles has an entry for each role, and no others. -/
theorem perm_entries_lintAll (h : (c.roles.map Role.name).Nodup)
    (config : LintConfig) :
    (c.lintAll config).roles.entries.Perm
      (c.roles.map fun r => (r.name, r.lint config)) := by
  apply SortedMap.perm_entries_ofList
  rwa [List.map_map]

/-- The findings about all roles are the findings about the single ones, put
together. -/
theorem perm_findings_lintAll (h : (c.roles.map Role.name).Nodup)
    (config : LintConfig) :
    (c.lintAll config).findings.Perm (c.roles.flatMap (Role.lint config)) := by
  have hvalues := ((perm_entries_lintAll h config).map Prod.snd).flatten
  rwa [List.map_map] at hvalues

theorem blocks_lintAll_iff (h : (c.roles.map Role.name).Nodup)
    (config : LintConfig) (strict : Bool) :
    (c.lintAll config).blocks strict = true ↔
      ∃ r ∈ c.roles, (r.report config).blocks strict = true := by
  simp only [LintReport.blocks_iff, (perm_findings_lintAll h config).mem_iff,
    List.mem_flatMap, Role.findings_report]
  constructor
  · rintro ⟨f, ⟨r, hr, hf⟩, hblocks⟩
    exact ⟨r, hr, f, hf, hblocks⟩
  · rintro ⟨r, hr, f, hf, hblocks⟩
    exact ⟨f, ⟨r, hr, hf⟩, hblocks⟩

theorem count_lintAll (h : (c.roles.map Role.name).Nodup) (config : LintConfig)
    (severity : Severity) :
    (c.lintAll config).count severity =
      (c.roles.map fun r => (r.report config).count severity).sum := by
  rw [LintReport.count, (perm_findings_lintAll h config).countP_eq,
    List.countP_flatMap]
  simp only [LintReport.count, Role.findings_report]
  rfl

/-- What is found under a name is a role of this name. -/
theorem mem_of_role? {name : String} {r : Role} (h : c.role? name = some r) :
    r ∈ c.roles ∧ r.name = name :=
  ⟨List.mem_of_find?_eq_some h, by simpa using List.find?_some h⟩

/-- What the report on all roles says under a name is what is found about the
role of this name. -/
theorem get?_lintAll_eq_toOption (h : (c.roles.map Role.name).Nodup)
    (config : LintConfig) (name : String) :
    (c.lintAll config).roles.get? name = (c.lint name config).toOption := by
  rw [get?_lintAll h, lint]
  cases c.role? name <;> rfl

end CompiledRoles

/-! ## The command -/

namespace CommandLine

/-- The outcome is the failure of a report that blocks. -/
def Outcome.IsBlocked (o : Outcome) : Prop :=
  ∃ errors warnings, o.failure = some (.lintBlocked errors warnings)

theorem failure_reportOutcome (report : LintReport) (strict : Bool) :
    (reportOutcome report strict).failure =
      if report.blocks strict then
        some (.lintBlocked (report.count .error) (report.count .warning))
      else none :=
  rfl

theorem exitCode_reportOutcome_iff {report : LintReport} {strict : Bool} :
    (Result.finished (reportOutcome report strict)).exitCode = 1 ↔
      report.blocks strict = true := by
  rw [Result.exitCode, failure_reportOutcome]
  cases report.blocks strict <;> simp

theorem isBlocked_reportOutcome_iff {report : LintReport} {strict : Bool} :
    (reportOutcome report strict).IsBlocked ↔ report.blocks strict = true := by
  rw [Outcome.IsBlocked, failure_reportOutcome]
  cases report.blocks strict <;> simp

variable {σ : Type} [FileAccess (StateM σ)]

/-- What the command comes to that reports on one role or on all of them. -/
def lintOutcome (c : CompiledRoles) (settings : Settings) (strict : Bool)
    (files : σ) (role : Option String) : Outcome :=
  ((Command.lint role strict).run (m := StateM σ) c settings files).1

variable {c : CompiledRoles} {settings : Settings} {strict : Bool} {files : σ}
  {role : Option String}

theorem lintOutcome_of_report {report : LintReport}
    (h : lintReport c settings.lint role = .ok report) :
    lintOutcome c settings strict files role =
      reportOutcome report (strict || settings.lint.strict) := by
  simp only [lintOutcome, Command.run, h]
  rfl

theorem lintOutcome_of_error {e : CompileError}
    (h : lintReport c settings.lint role = .error e) :
    lintOutcome c settings strict files role =
      Outcome.failed (.compile e) := by
  simp only [lintOutcome, Command.run, h]
  rfl

theorem not_isBlocked_of_role?_eq_none {name : String}
    (h : c.role? name = none) :
    ¬(lintOutcome c settings strict files (some name)).IsBlocked := by
  have herror : lintReport c settings.lint (some name) =
      .error (.unknownRole name) := by
    rw [lintReport, CompiledRoles.lintRole, CompiledRoles.lint, h]
    rfl
  rw [lintOutcome_of_error herror]
  rintro ⟨errors, warnings, hfailure⟩
  cases hfailure

end CommandLine

namespace Manifest

open CommandLine

section Gate

variable {m : Manifest} {s : Substitutions} {c : CompiledRoles}

theorem lintRole_of_mem (h : m.compile s = .ok c) {r : Role} (hr : r ∈ c.roles)
    (config : LintConfig) : c.lintRole r.name config = .ok (r.report config) := by
  rw [CompiledRoles.lintRole, CompiledRoles.lint, role?_of_mem h hr]
  rfl

variable {σ : Type} [FileAccess (StateM σ)] {settings : Settings}
  {strict : Bool} {files : σ}

theorem lintOutcome_of_mem (h : m.compile s = .ok c) {r : Role}
    (hr : r ∈ c.roles) :
    lintOutcome c settings strict files (some r.name) =
      reportOutcome (r.report settings.lint) (strict || settings.lint.strict) :=
  lintOutcome_of_report (lintRole_of_mem h hr settings.lint)

theorem lintOutcome_all :
    lintOutcome c settings strict files none =
      reportOutcome (c.lintAll settings.lint)
        (strict || settings.lint.strict) :=
  lintOutcome_of_report rfl

/-- The command on all roles fails exactly if it fails on one of them. -/
theorem exitCode_lintOutcome_iff (h : m.compile s = .ok c) :
    (Result.finished (lintOutcome c settings strict files none)).exitCode = 1 ↔
      ∃ r ∈ c.roles, (Result.finished
        (lintOutcome c settings strict files (some r.name))).exitCode = 1 := by
  rw [lintOutcome_all, exitCode_reportOutcome_iff,
    c.blocks_lintAll_iff (nodup_names_of_compile h)]
  apply exists_congr
  intro r
  apply and_congr_right
  intro hr
  rw [lintOutcome_of_mem h hr, exitCode_reportOutcome_iff]

/-- Names of no role are refused for another reason, so the name of a report that
blocks is the name of a role. -/
theorem isBlocked_lintOutcome_iff (h : m.compile s = .ok c) :
    (lintOutcome c settings strict files none).IsBlocked ↔
      ∃ name, (lintOutcome c settings strict files (some name)).IsBlocked := by
  rw [lintOutcome_all, isBlocked_reportOutcome_iff,
    c.blocks_lintAll_iff (nodup_names_of_compile h)]
  constructor
  · rintro ⟨r, hr, hblocks⟩
    refine ⟨r.name, ?_⟩
    rwa [lintOutcome_of_mem h hr, isBlocked_reportOutcome_iff]
  · rintro ⟨name, hblocked⟩
    cases hrole : c.role? name with
    | none => exact absurd hblocked (not_isBlocked_of_role?_eq_none hrole)
    | some r =>
        obtain ⟨hr, rfl⟩ := CompiledRoles.mem_of_role? hrole
        rw [lintOutcome_of_mem h hr, isBlocked_reportOutcome_iff] at hblocked
        exact ⟨r, hr, hblocked⟩

end Gate

/-- The report on all roles of a compiled manifest has the entry of each role
that the report on this role alone has, and nothing else.  It blocks exactly if
one of the single reports does, and counts what they count; the command that
reports on all roles fails accordingly.  Whatever blocks also blocks in strict
mode. -/
theorem compile_lintAll_gathers_reports {m : Manifest} {s : Substitutions}
    {c : CompiledRoles} (h : m.compile s = .ok c) (config : LintConfig) :
    (c.lintAll config).roles.entries.Perm
        (c.roles.map fun r => (r.name, r.lint config)) ∧
    (∀ name, (c.lintAll config).roles.get? name =
      (c.lint name config).toOption) ∧
    (∃ reports, List.Forall₂
        (fun r report => c.lintRole r.name config = .ok report) c.roles reports ∧
      (∀ strict, (c.lintAll config).blocks strict = true ↔
        ∃ report ∈ reports, report.blocks strict = true) ∧
      ∀ severity, (c.lintAll config).count severity =
        (reports.map (LintReport.count · severity)).sum) ∧
    (c.lintAll config).count .error + (c.lintAll config).count .warning =
      (c.lintAll config).findings.length ∧
    ((c.lintAll config).blocks false = true →
      (c.lintAll config).blocks true = true) ∧
    ∀ {σ : Type} [FileAccess (StateM σ)] (settings : Settings) (strict : Bool)
      (files : σ), settings.lint = config →
      ((Result.finished (lintOutcome c settings strict files none)).exitCode = 1 ↔
        ∃ r ∈ c.roles, (Result.finished
          (lintOutcome c settings strict files (some r.name))).exitCode = 1) ∧
      ((lintOutcome c settings strict files none).IsBlocked ↔
        ∃ name, (lintOutcome c settings strict files (some name)).IsBlocked) := by
  have hnames := nodup_names_of_compile h
  refine ⟨c.perm_entries_lintAll hnames config,
    c.get?_lintAll_eq_toOption hnames config,
    ⟨c.roles.map (Role.report config), ?_, ?_, ?_⟩,
    LintReport.count_error_add_count_warning _,
    LintReport.blocks_strict_of_blocks, fun _ _ _ _ =>
      ⟨exitCode_lintOutcome_iff h, isBlocked_lintOutcome_iff h⟩⟩
  · rw [List.forall₂_map_right_iff, List.forall₂_same]
    exact fun r hr => lintRole_of_mem h hr config
  · intro strict
    rw [c.blocks_lintAll_iff hnames]
    simp only [List.mem_map, exists_exists_and_eq_and]
  · intro severity
    rw [c.count_lintAll hnames, List.map_map]
    rfl

/-- Two roles, one that reads logs and one that creates roles without a
boundary. -/
def studio : Manifest where
  catalog := SortedMap.ofList [("iam", ["CreateRole"]), ("s3", ["GetObject"])]
  roles :=
    [{ name := "Studio"
       kind := .operational
       trust := { principal := "datazone.amazonaws.com", conditions := [] }
       permissionBoundary := none
       bundles :=
        [{ sid := some "Logs"
           effect := "allow"
           actions := ["s3:GetObject"]
           resources := ["arn:aws:s3:::logs/*"]
           conditions := [] }] },
     { name := "Builder"
       kind := .provisioning
       trust := { principal := "datazone.amazonaws.com", conditions := [] }
       permissionBoundary := none
       bundles :=
        [{ sid := none
           effect := "allow"
           actions := ["iam:CreateRole"]
           resources := ["arn:aws:iam::123456789012:role/team-*"]
           conditions := [] }] }]

/-- The first role, composed. -/
def studioRole : Role where
  name := "Studio"
  kind := .operational
  trust := ⟨"datazone.amazonaws.com", .unconditional⟩
  bundles :=
    [{ sid := some "Logs"
       effect := .allow
       actions := SortedSet.singleton ⟨"s3", "GetObject"⟩
       resources := [⟨"arn:aws:s3:::logs/*"⟩]
       conditions := .unconditional }]
  permissionBoundary := none

/-- The second role, composed. -/
def builderRole : Role where
  name := "Builder"
  kind := .provisioning
  trust := ⟨"datazone.amazonaws.com", .unconditional⟩
  bundles :=
    [{ sid := none
       effect := .allow
       actions := SortedSet.singleton ⟨"iam", "CreateRole"⟩
       resources := [⟨"arn:aws:iam::123456789012:role/team-*"⟩]
       conditions := .unconditional }]
  permissionBoundary := none

theorem compile_studio :
    studio.compile ∅ =
      .ok ⟨studio.actionCatalog, [studioRole, builderRole], ∅⟩ := by
  decide +kernel

/-- Settings of a deployment that does not block on warnings by itself. -/
def studioSettings : Settings where
  manifestDirectory := "manifests"
  substitutions := ∅
  lint := {}
  outputDirectory := "out"
  pretty := true

/-- The warning about the second role stops both roles, if warnings are to. -/
theorem studio_lintAll_gathers_reports :
    let c : CompiledRoles :=
      ⟨studio.actionCatalog, [studioRole, builderRole], ∅⟩
    let exitCode := fun role => (Result.finished
      (lintOutcome c studioSettings true (FileTree.ofCurrent []) role)).exitCode
    studio.compile ∅ = .ok c ∧
      exitCode (some "Studio") = 0 ∧ exitCode (some "Builder") = 1 ∧
      exitCode none = 1 ∧
      (c.lintAll {}).roles.get? "Builder" = some (builderRole.lint {}) ∧
      (c.lintAll {}).count .error + (c.lintAll {}).count .warning = 1 := by
  intro c exitCode
  have hbuilder : exitCode (some builderRole.name) = 1 := by decide +kernel
  obtain ⟨-, hentry, -, htotal, -, hcommand⟩ :=
    compile_lintAll_gathers_reports compile_studio {}
  obtain ⟨hexit, -⟩ :=
    hcommand studioSettings true (FileTree.ofCurrent []) rfl
  have hmem : builderRole ∈ [studioRole, builderRole] :=
    List.mem_cons_of_mem studioRole List.mem_cons_self
  refine ⟨compile_studio, by decide +kernel, hbuilder,
    hexit.mpr ⟨builderRole, hmem, hbuilder⟩, ?_, ?_⟩
  · rw [hentry]
    rfl
  · rw [htotal]
    decide +kernel

end Manifest

end RolePolicy
