import RolePolicy.Artifact.Files
import RolePolicy.CommandLine.Arguments
import RolePolicy.Condition.Context.Json
import RolePolicy.Lint.Json
import RolePolicy.Manifest.Directory
import RolePolicy.Settings.Load

/-!
# Running a command line

A command first loads the settings, then reads and compiles the manifests, and then does its own work.
Its answer is a JSON value on standard output.  A lint report is printed also when it blocks.
-/

namespace RolePolicy.CommandLine

/-- The end of a run: what it printed, and the failure that ended it. -/
structure Outcome where
  output : String
  failure : Option Failure

/-- What a command line comes to. -/
inductive Result where
  | finished (outcome : Outcome)
  | interrupted (interruption : Interruption)

namespace Outcome

def failed (failure : Failure) : Outcome :=
  ⟨"", some failure⟩

/-- A run that prints a value. -/
def printed (value : Json) : Outcome :=
  ⟨value.pretty ++ "\n", none⟩

end Outcome

def versionText : String := "rolewright 0.1.0\n"

namespace Result

/-- The exit code: one for a failure, two for a command line that is misspelt. -/
def exitCode : Result → Nat
  | finished outcome => if outcome.failure.isSome then 1 else 0
  | interrupted .usage => 2
  | interrupted _ => 0

/-- The text on standard output; help is not part of it. -/
def output : Result → String
  | finished outcome => outcome.output
  | interrupted .version => versionText
  | interrupted _ => ""

end Result

/-- The outcome of a step that fails or goes on. -/
def orFailed {α : Type} {m : Type → Type} [Monad m] (step : Except Failure α)
    (next : α → m Outcome) : m Outcome :=
  match step with
  | .ok value => next value
  | .error failure => return Outcome.failed failure

variable {m : Type → Type} [Monad m] [FileAccess m]

/-- The context of a request. -/
def AttributeSource.load (source : AttributeSource) : m (Except Failure RequestContext) := do
  match source.file with
  | none => return .ok (withAttributes ∅ source.pairs)
  | some path =>
    match ← FileAccess.readText? path with
    | none => return .error .inputOutput
    | some text =>
      return ((RequestContext.ofJsonText text).mapError .contextJson).map
        (withAttributes · source.pairs)

def runCompile (c : CompiledRoles) (settings : Settings) (out : Option String) : m Outcome := do
  let directory := out.getD settings.outputDirectory
  orFailed ((← c.artifacts.writeTo directory settings.pretty).mapError .compile) fun _ =>
    return Outcome.printed (Artifacts.outputsToJson c.outputs)

/-- The report on one role or on all of them. -/
def lintReport (c : CompiledRoles) (config : LintConfig) :
    Option String → Except CompileError LintReport
  | some role => c.lintRole role config
  | none => .ok (c.lintAll config)

/-- Print a report, and fail where it blocks. -/
def reportOutcome (report : LintReport) (strict : Bool) : Outcome :=
  { Outcome.printed report.toJson with
    failure :=
      if report.blocks strict then
        some (.lintBlocked (report.count .error) (report.count .warning))
      else none }

/-- Do the work of a command. -/
def Command.run (c : CompiledRoles) (settings : Settings) : Command → m Outcome
  | .compile out => runCompile c settings out
  | .lint role strict =>
    orFailed ((lintReport c settings.lint role).mapError .compile) fun report =>
      return reportOutcome report (strict || settings.lint.strict)
  | .simulate role action resource attributes => do
    orFailed (← attributes.load) fun context =>
      return Outcome.printed (c.evaluate role ⟨action, resource, context⟩).toJson
  | .assume role principal attributes => do
    orFailed (← attributes.load) fun context =>
      return Outcome.printed (c.decideAssume role principal context).toJson

/-- Carry out the command of a command line. -/
def Arguments.run (environment : Environment) (a : Arguments) : m Outcome := do
  orFailed (← Settings.load environment a.config) fun settings => do
    let directory := a.manifests.getD settings.manifestDirectory
    let compiled ← Manifest.loadCompiled directory settings.substitutions
    orFailed (compiled.mapError .compile) fun c => a.command.run c settings

/-- Run the words of a command line. -/
def run (environment : Environment) (words : List String) : m Result :=
  match Arguments.ofWords words with
  | .error interruption => return .interrupted interruption
  | .ok a => Result.finished <$> a.run environment

end RolePolicy.CommandLine
