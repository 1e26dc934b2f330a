import RolePolicy.CommandLine.Attributes
import RolePolicy.CommandLine.Switch

/-!
# Arguments

The commands and their switches.  Switches that hold for every command stand in front of it.
-/

namespace RolePolicy.CommandLine

/-- Where the attributes of a request come from: a file, and the command line. -/
structure AttributeSource where
  file : Option String
  pairs : List (String × String)
  deriving DecidableEq, Repr

inductive Command where
  | compile (out : Option String)
  | lint (role : Option String) (strict : Bool)
  | simulate (role action resource : String) (attributes : AttributeSource)
  | assume (role principal : String) (attributes : AttributeSource)
  deriving DecidableEq, Repr

structure Arguments where
  config : String
  manifests : Option String
  command : Command
  deriving DecidableEq, Repr

def defaultConfig : String := "rolewright.toml"

/-- Paths are not empty. -/
def isPath (text : String) : Bool :=
  text ≠ ""

def isAttribute (text : String) : Bool :=
  (parseAttribute text).isOk

def topLevel : Level where
  switches :=
    [{ name := "config", letter := some 'c' },
     { name := "manifests", letter := some 'm', accepts := isPath }]
  commands := ["compile", "lint", "simulate", "assume", "help"]
  hasVersion := true

def attributeSwitches : List Switch :=
  [{ name := "context", accepts := isPath },
   { name := "set", repeats := true, accepts := isAttribute }]

def compileLevel : Level where
  switches := [{ name := "out", accepts := isPath }]

def lintLevel : Level where
  switches := [{ name := "role" }, { name := "strict", takesValue := false }]

def simulateLevel : Level where
  switches := [{ name := "role" }, { name := "action" }, { name := "resource" }] ++ attributeSwitches

def assumeLevel : Level where
  switches := [{ name := "role" }, { name := "principal" }] ++ attributeSwitches

namespace Given

/-- The value of a switch that has to be given. -/
def require (given : Given) (name : String) : Except Interruption String :=
  match given.lookup name with
  | some value => .ok value
  | none => .error .usage

def attributes (given : Given) : AttributeSource where
  file := given.lookup "context"
  pairs := given.filterMap fun (name, value) =>
    if name = "set" then (parseAttribute value).toOption else none

end Given

/-- The switches of a command. -/
def readCommand (level : Level) (words : List String) : Except Interruption Given :=
  (level.read [] words).map (·.1)

/-- A request for help: no word, or the name of a command. -/
def readHelp : List String → Interruption
  | [] => .help
  | [word] => if topLevel.commands.contains word then .help else .usage
  | _ => .usage

namespace Command

def ofWords (name : String) (words : List String) : Except Interruption Command :=
  match name with
  | "compile" => do
    let given ← readCommand compileLevel words
    return compile (given.lookup "out")
  | "lint" => do
    let given ← readCommand lintLevel words
    return lint (given.lookup "role") (given.lookup "strict").isSome
  | "simulate" => do
    let given ← readCommand simulateLevel words
    return simulate (← Given.require given "role") (← Given.require given "action")
      (← Given.require given "resource") (Given.attributes given)
  | "assume" => do
    let given ← readCommand assumeLevel words
    return assume (← Given.require given "role") (← Given.require given "principal")
      (Given.attributes given)
  | _ => .error (readHelp words)

end Command

namespace Arguments

/-- The arguments that the words of a command line spell. -/
def ofWords (words : List String) : Except Interruption Arguments := do
  match ← topLevel.read [] words with
  | (_, none) => .error .usage
  | (given, some (name, rest)) =>
    return {
      config := (given.lookup "config").getD defaultConfig
      manifests := given.lookup "manifests"
      command := ← Command.ofWords name rest }

end Arguments

end RolePolicy.CommandLine
