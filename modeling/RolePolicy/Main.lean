import RolePolicy.CommandLine.Run

/-!
# The program

The command line on the files and the environment of the process.
-/

namespace RolePolicy

/-- The result of an action, unless the operating system refuses it. -/
def attempted {α : Type} (action : IO α) : IO (Option α) := do
  try
    return some (← action)
  catch _ => return none

instance : FileAccess IO where
  isFile path := do
    let found ← attempted do return (← ((← IO.currentDir) / path).metadata).type == .file
    return found.getD false
  isDirectory path := do
    let found ← attempted do return (← ((← IO.currentDir) / path).metadata).type == .dir
    return found.getD false
  read? path := attempted (IO.FS.readBinFile path)
  names? path := attempted do
    return (← ((← IO.currentDir) / path).readDir).toList.map (·.fileName)
  makeDirectories path := do
    if path = "" then return true
    return (← attempted (IO.FS.createDirAll path)).isSome
  write path content := do return (← attempted (IO.FS.writeFile path content)).isSome

/-- The variables in a block of them, in which each ends with a zero byte.  A variable that is not
UTF-8 is left out. -/
def parseVariables (block : List UInt8) : List (String × String) :=
  (block.splitBy fun byte _ => byte != 0).filterMap fun entry => do
    let text ← String.fromUTF8? ⟨(entry.filter (· != 0)).toArray⟩
    let (name, value) ← Text.splitFirst '=' text.toList
    return (String.ofList name, String.ofList value)

/-- The environment of the process. -/
def readEnvironment : IO Environment := do
  let block := (← attempted (IO.FS.readBinFile "/proc/self/environ")).getD ByteArray.empty
  return {
    bindings := parseVariables block.toList
    currentDirectory := (← IO.currentDir).toString }

/-- Print what a run came to. -/
def report (result : CommandLine.Result) : IO Unit := do
  IO.print result.output
  match result with
  | .finished ⟨_, some failure⟩ => IO.eprintln s!"Error: {failure.message}"
  | .interrupted .usage => IO.eprintln "Usage: rolewright [OPTIONS] <COMMAND>"
  | _ => return ()

end RolePolicy

def main (words : List String) : IO UInt32 := do
  let result ← RolePolicy.CommandLine.run (m := IO) (← RolePolicy.readEnvironment) words
  RolePolicy.report result
  return UInt32.ofNat result.exitCode
