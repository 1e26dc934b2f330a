import RolePolicy.Decision
import RolePolicy.Lint

/-!
# Lint configurations and reports as JSON

A configuration is an object or an array of its fields in order; fields that are not given keep
their defaults.
-/

namespace RolePolicy

open Json (Fault Shape once)

namespace LintConfig

/-- The fields of a configuration that have been read. -/
structure Draft where
  strict : Option Bool := none
  tagKeyPrefixes : Option (List String) := none
  callChainKeys : Option (List String) := none
  accountKeys : Option (List String) := none

def Draft.add (d : Draft) (name : String) (value : Json) : Except Fault Draft :=
  match name with
  | "strict" => return { d with strict := ← once name d.strict (Json.decodeBoolean value) }
  | "tag_key_prefixes" =>
    return { d with tagKeyPrefixes := ← once name d.tagKeyPrefixes (Json.decodeStrings value) }
  | "call_chain_keys" =>
    return { d with callChainKeys := ← once name d.callChainKeys (Json.decodeStrings value) }
  | "account_keys" =>
    return { d with accountKeys := ← once name d.accountKeys (Json.decodeStrings value) }
  | _ => .ok d

/-- The configuration of a draft. -/
def Draft.toConfig (d : Draft) : LintConfig :=
  let defaults : LintConfig := {}
  { strict := d.strict.getD defaults.strict
    tagKeyPrefixes := d.tagKeyPrefixes.getD defaults.tagKeyPrefixes
    callChainKeys := d.callChainKeys.getD defaults.callChainKeys
    accountKeys := d.accountKeys.getD defaults.accountKeys }

def shape : Shape Draft LintConfig where
  title := "LintConfig"
  names := ["strict", "tag_key_prefixes", "call_chain_keys", "account_keys"]
  start := {}
  add := Draft.add
  finish := fun d => .ok d.toConfig

def ofJson (value : Json) : Except Fault LintConfig :=
  shape.decode value

def toJson (config : LintConfig) : Json :=
  .object [("strict", .boolean config.strict),
    ("tag_key_prefixes", .ofStrings config.tagKeyPrefixes),
    ("call_chain_keys", .ofStrings config.callChainKeys),
    ("account_keys", .ofStrings config.accountKeys)]

end LintConfig

def Finding.toJson (finding : Finding) : Json :=
  .object [("severity", .string finding.severity.text), ("rule", .string finding.rule.text),
    ("bundle", finding.bundle.toJson), ("message", .string finding.message)]

namespace LintReport

/-- The findings by role, in ascending order of the names. -/
def toJson (report : LintReport) : Json :=
  .object [("roles", .object (report.roles.entries.map fun (name, findings) =>
    (name, .array (findings.map Finding.toJson))))]

end LintReport

end RolePolicy
