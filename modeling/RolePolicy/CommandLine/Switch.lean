import RolePolicy.Text.Split

/-!
# Switches

The grammar of a command line: switches with their values, up to the name of a command.  A switch is
written with two dashes and its name, or with one dash and its letter; its value follows it, or is
attached to it, after an equals sign behind a name.  A value that follows does not begin with a dash,
unless it is a dash.
-/

namespace RolePolicy.CommandLine

/-- A switch of a command line. -/
structure Switch where
  name : String
  letter : Option Char := none
  takesValue : Bool := true
  /-- It may be given more than once. -/
  repeats : Bool := false
  /-- The values that it takes. -/
  accepts : String → Bool := fun _ => true

/-- Why a command line is not carried out. -/
inductive Interruption where
  | usage
  | help
  | version
  deriving DecidableEq, Repr

/-- The switches that have been given with their values, in order. -/
abbrev Given := List (String × String)

/-- What may stand on a level of a command line. -/
structure Level where
  switches : List Switch
  commands : List String := []
  /-- The level knows the switch that asks for the version. -/
  hasVersion : Bool := false

/-- A word of a command line, as far as switches go. -/
inductive Word where
  /-- The end of all switches. -/
  | barrier
  | named (name : String) (attached : Option String)
  | letters (letter : Char) (more : List Char)
  | plain (text : String)
  deriving DecidableEq, Repr

namespace Word

def read (word : String) : Word :=
  match word.toList with
  | '-' :: '-' :: [] => barrier
  | '-' :: '-' :: rest =>
    match Text.splitFirst '=' rest with
    | some (name, value) => named (String.ofList name) (some (String.ofList value))
    | none => named (String.ofList rest) none
  | '-' :: letter :: more => letters letter more
  | _ => plain word

end Word

namespace Level

/-- Add a switch that has been given. -/
def add (given : Given) (switch : Switch) (value : String) : Except Interruption Given :=
  if !switch.accepts value then .error .usage
  else if !switch.repeats && given.any (·.1 == switch.name) then .error .usage
  else .ok (given ++ [(switch.name, value)])

/-- The switch of a name and the value attached to it; the switch may still wait for its value. -/
def ofName (level : Level) (name : String) (attached : Option String) :
    Except Interruption (Switch × Option String) :=
  if name = "help" ∨ (name = "version" ∧ level.hasVersion) then
    .error (if attached.isSome then .usage else if name = "help" then .help else .version)
  else
    match level.switches.find? (·.name == name) with
    | none => .error .usage
    | some switch =>
      if switch.takesValue then .ok (switch, attached)
      else if attached.isSome then .error .usage
      else .ok (switch, some "")

/-- The switch of a letter; what follows the letter is its value. -/
def ofLetter (level : Level) (letter : Char) (more : List Char) :
    Except Interruption (Switch × Option String) :=
  if letter = 'h' then .error .help
  else if letter = 'V' ∧ level.hasVersion then .error .version
  else
    match level.switches.find? (·.letter == some letter) with
    | none => .error .usage
    | some switch =>
      match more with
      | [] => .ok (switch, none)
      | '=' :: value => .ok (switch, some (String.ofList value))
      | value => .ok (switch, some (String.ofList value))

/-- The switch that a word names. -/
def ofWord (level : Level) : Word → Except Interruption (Switch × Option String)
  | .named name attached => level.ofName name attached
  | .letters letter more => level.ofLetter letter more
  | .barrier | .plain _ => .error .usage

/-- Read switches up to the name of a command; what follows the name is left. -/
def read (level : Level) (given : Given) :
    List String → Except Interruption (Given × Option (String × List String))
  | [] => .ok (given, none)
  | word :: rest =>
    if level.commands.contains word then .ok (given, some (word, rest))
    else if word = "--" ∧ rest = [] then .ok (given, none)
    else
      match level.ofWord (Word.read word), rest with
      | .error interruption, _ => .error interruption
      | .ok (switch, some value), rest => do
        level.read (← add given switch value) rest
      | .ok (switch, none), value :: rest =>
        match Word.read value with
        | .plain value => do level.read (← add given switch value) rest
        | _ => .error .usage
      | .ok (_, none), [] => .error .usage

end Level

end RolePolicy.CommandLine
