import SourceTally.CommandLine.Process

/-!
# Entry point

Reads the files that the command line names, runs the program on them, and writes what it leaves
behind.
-/

namespace SourceTally.Main

def faultOf : IO.Error → FileFault
  | .noFileOrDirectory .. => .notFound
  | .inappropriateType _ 21 _ => .isDirectory
  | .inappropriateType _ 20 _ => .notDirectory
  | .invalidArgument _ 36 _ => .nameTooLong
  | e => .other (toString e)

def readFile (name : String) : IO (Except FileFault String) := do
  if name.toList.contains '\x00' then return .error .badName
  try
    let bytes ← IO.FS.readBinFile name
    return FileFault.decode bytes.toList
  catch e =>
    return .error (faultOf e)

/-- Read all files that a command line names. -/
def readFiles (args : List String) : IO FileReader := do
  let names :=
    match CommandLine.parse args with
    | .ok ⟨_, some command⟩ => command.fileNames
    | _ => []
  let files ← names.mapM fun name => do return (name, ← readFile name)
  return fun name => ((files.find? (·.1 = name)).map (·.2)).getD (.error .notFound)

end SourceTally.Main

/-- Run the program. -/
def main (args : List String) : IO UInt32 := do
  let files ← SourceTally.Main.readFiles args
  let done := SourceTally.CommandLine.run files args
  IO.print done.stdout
  IO.eprint done.stderr
  return done.code.toUInt32
