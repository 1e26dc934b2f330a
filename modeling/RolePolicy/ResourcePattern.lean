import RolePolicy.Glob
import RolePolicy.Text.Basic
import RolePolicy.Text.Split
import RolePolicy.Text.Template

/-!
# Resource patterns

A grant names its resources by patterns: `*`, or an ARN of six segments,
`arn:<partition>:<service>:<region>:<account>:<resource>`, whose last segment may hold further
colons.  Stars are wildcards in every segment.
-/

namespace RolePolicy

/-- Why a text is no resource pattern. -/
inductive PatternFault where
  | empty
  | tooLong
  | blank
  | placeholder
  | tooFewSegments
  | wrongScheme
  | unnamedService
  | noResource
  | manyPolicies
  deriving DecidableEq, Repr

namespace PatternFault

def message : PatternFault → String
  | empty => "empty pattern"
  | tooLong => "longer than 2048 characters"
  | blank => "contains whitespace or control characters"
  | placeholder => "unresolved placeholder"
  | tooFewSegments => "expected `*` or arn:<partition>:<service>:<region>:<account>:<resource>"
  | wrongScheme => "must start with `arn:`"
  | unnamedService => "partition and service segments must not be empty"
  | noResource => "empty resource segment"
  | manyPolicies => "a permission boundary must name a single policy"

end PatternFault

/-- A pattern that has been checked. -/
structure ResourcePattern where
  text : String
  deriving DecidableEq, Repr

namespace ResourcePattern

/-- The greatest length of a pattern, in UTF-8 bytes. -/
def maxBytes : Nat := 2048

/-- The six segments of an ARN; a text with fewer than five colons has fewer segments. -/
def segments (cs : List Char) : List (List Char) :=
  Text.splitUpTo ':' 5 cs

/-- Check a pattern; the first rule that it breaks is reported. -/
def parse (raw : String) : Except PatternFault ResourcePattern :=
  if raw = "" then .error .empty
  else if maxBytes < raw.utf8ByteSize then .error .tooLong
  else if raw.toList.any Text.isBlankOrControl then .error .blank
  else if Text.opensVariable raw.toList then .error .placeholder
  else if raw = "*" then .ok ⟨raw⟩
  else
    match segments raw.toList with
    | [scheme, partition, service, _, _, resource] =>
      if scheme ≠ ['a', 'r', 'n'] then .error .wrongScheme
      else if partition = [] ∨ service = [] then .error .unnamedService
      else if resource = [] then .error .noResource
      else .ok ⟨raw⟩
    | _ => .error .tooFewSegments

/-- The pattern matches the whole candidate. -/
def covers (p : ResourcePattern) (candidate : String) : Bool :=
  Glob.accepts p.text candidate

/-- The account segment of an ARN; the pattern `*` has none. -/
def accountSegment (p : ResourcePattern) : Option (List Char) :=
  if p.text = "*" then none else (segments p.text.toList)[4]?

/-- The pattern reaches resources of more than one account. -/
def isAccountWildcard (p : ResourcePattern) : Bool :=
  p.text = "*" || p.accountSegment.any (·.contains '*')

/-- Some pattern of the list matches the candidate. -/
def anyCovers (patterns : List ResourcePattern) (candidate : String) : Bool :=
  patterns.any (·.covers candidate)

end ResourcePattern

end RolePolicy
