import RolePolicy.Error

/-!
# Failures of commands

What can make a command fail: its input and output, its settings, its manifest, a malformed request,
or findings that block a deployment.
-/

namespace RolePolicy

inductive Failure where
  | inputOutput
  | settings
  | contextJson (fault : Json.Fault)
  | compile (error : CompileError)
  | lintBlocked (errors warnings : Nat)
  | badRequest (reason : String)
  deriving DecidableEq, Repr

namespace Failure

/-- The report of a failure, without the reasons of the operating system. -/
def message : Failure → String
  | inputOutput => "I/O error"
  | settings => "Config error"
  | contextJson (.mismatch reason) => s!"Serialization error: {reason.message}"
  | contextJson _ => "Serialization error"
  | compile error => error.message
  | lintBlocked errors warnings =>
    s!"Lint blocked deployment: {errors} error(s), {warnings} warning(s)"
  | badRequest reason => s!"Bad request: {reason}"

def code : Failure → String
  | inputOutput => "rolewright::io"
  | settings => "rolewright::config"
  | contextJson _ => "rolewright::serde"
  | compile error => error.code
  | lintBlocked _ _ => "rolewright::lint_blocked"
  | badRequest _ => "rolewright::bad_request"

def help? : Failure → Option String
  | compile error => error.help?
  | lintBlocked _ _ =>
    some "Fix the reported bundles, or drop --strict to block on errors only"
  | _ => none

end Failure

end RolePolicy
