import RolePolicy.Files.Path
import RolePolicy.Lint
import RolePolicy.Settings.Layers

/-!
# Settings

What the command line can be told by a file and by environment variables.  A text may be given as a
number or a truth value, and a truth value as a number or a word.
-/

namespace RolePolicy

structure Settings where
  manifestDirectory : String
  substitutions : Substitutions
  lint : LintConfig
  outputDirectory : String
  pretty : Bool
  deriving DecidableEq

namespace Settings

/-- The table below all layers. -/
def defaults : Toml.Fields :=
  [("manifest", .table [("dir", .string "manifests")]),
   ("output", .table [("dir", .string "out"), ("pretty", .boolean true)])]

/-- A value as text. -/
def text? : Toml → Option String
  | .string text => some text
  | .boolean value => some (if value then "true" else "false")
  | .integer value => some (toString value)
  | .real value => some value.text
  | .dateTime text => some text
  | .array _ | .table _ => none

/-- The truth value of a word in any letter case. -/
def wordTruth? (word : String) : Option Bool :=
  let word := Text.foldCase word
  if ["1", "true", "on", "yes"].contains word then some true
  else if ["0", "false", "off", "no"].contains word then some false
  else none

/-- A value as a truth value. -/
def truth? : Toml → Option Bool
  | .boolean value => some value
  | .integer value => some (value ≠ 0)
  | .real value => some !value.isZero
  | .string word | .dateTime word => wordTruth? word
  | .array _ | .table _ => none

/-- An array as a list of texts. -/
def texts? : Toml → Option (List String)
  | .array items => items.mapM text?
  | _ => none

/-- The fields of a record, which may be written as an array in the order of the names. -/
def record? (names : List String) : Toml → Option Toml.Fields
  | .table fields => some fields
  | .array items => some (names.zip items)
  | _ => none

/-- The value of a field, or else its default. -/
def fieldOr {α : Type} (fields : Toml.Fields) (name : String) (read : Toml → Option α)
    (default : α) : Option α :=
  match fields.lookup name with
  | some value => read value
  | none => some default

/-- The directory of manifests. -/
def manifestOf? (value : Toml) : Option String := do
  let fields ← record? ["dir"] value
  text? (← fields.lookup "dir")

/-- The directory of artifacts, and whether they are written on several lines. -/
def outputOf? (value : Toml) : Option (String × Bool) := do
  let fields ← record? ["dir", "pretty"] value
  let directory ← fields.lookup "dir"
  return (← text? directory, ← fieldOr fields "pretty" truth? true)

def lintOf? (value : Toml) : Option LintConfig := do
  let fields ← record? ["strict", "tag_key_prefixes", "call_chain_keys", "account_keys"] value
  let defaults : LintConfig := {}
  let strict ← fieldOr fields "strict" truth? defaults.strict
  let tagKeyPrefixes ← fieldOr fields "tag_key_prefixes" texts? defaults.tagKeyPrefixes
  let callChainKeys ← fieldOr fields "call_chain_keys" texts? defaults.callChainKeys
  let accountKeys ← fieldOr fields "account_keys" texts? defaults.accountKeys
  return { strict, tagKeyPrefixes, callChainKeys, accountKeys }

/-- A field of which the value is text. -/
def textField? (field : String × Toml) : Option (String × String) :=
  (text? field.2).map (field.1, ·)

def substitutionsOf? : Toml → Option Substitutions
  | .table fields => (fields.mapM textField?).map SortedMap.ofList
  | _ => none

/-- The settings that a table gives, or nothing where a value has the wrong shape. -/
def ofFields? (fields : Toml.Fields) : Option Settings := do
  let manifestDirectory ← fieldOr fields "manifest" manifestOf? "manifests"
  let substitutions ← fieldOr fields "substitutions" substitutionsOf? ∅
  let lint ← fieldOr fields "lint" lintOf? {}
  let (outputDirectory, pretty) ← fieldOr fields "output" outputOf? ("out", true)
  return { manifestDirectory, substitutions, lint, outputDirectory, pretty }

/-- The settings that layers give, the lowest first.  They are laid over one another before they are
laid over the defaults together.  So a table that has taken the place of another value of a lower
layer still lies over the table of the defaults, and a key that small letters have made a path is
followed. -/
def ofLayers? (layers : List Toml.Fields) : Option Settings :=
  ofFields? (overlay defaults (layers.foldl overlay []))

/-- The settings with their directories as seen from another one. -/
def within (directory : String) (s : Settings) : Settings :=
  { s with
    manifestDirectory := Path.join directory s.manifestDirectory
    outputDirectory := Path.join directory s.outputDirectory }

end Settings

end RolePolicy
