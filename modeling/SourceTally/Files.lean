import SourceTally.Error
import SourceTally.Text.Pieces
import SourceTally.Text.Utf8

/-!
# Files

Commands read files by name. How names are resolved is given to them as a function, so that they
can be run over any directory. A `Directory` stands for the file system of the machine: the files
that a command is run beside, and around them a bare root. It tells the faults of names that lead
nowhere as the machine tells them. Commands and results about them take any `FileReader`.

## Main definitions

* `FileReader`: reading files as text
* `Directory`: a directory of files without subdirectories
* `Directory.reader`: reading its files, by names of limited length
-/

namespace SourceTally

/-- Reading the file with a given name as text. -/
abbrev FileReader := String → Except FileFault String

/-- The text of a file's bytes. -/
def FileFault.decode (bytes : List UInt8) : Except FileFault String :=
  (Utf8.decode bytes).mapError fun _ => .notText

/-- The files of a directory, with their bytes. It stands for the directory in which a command is
run. -/
abbrev Directory := List (String × List UInt8)

namespace Directory

/-- Most bytes that one part of a name may have. -/
def partLimit : Nat := 255

/-- Most bytes that a whole name may have. -/
def nameLimit : Nat := 4095

/-- The fault of a part that names nothing. -/
def absent (part : String) : FileFault :=
  if part.utf8ByteSize > partLimit then .nameTooLong else .notFound

/-- Follow the parts of a name outside of the directory, where nothing is known but the directories
around it. -/
def walkOutside : List String → FileFault
  | [] => .isDirectory
  | part :: rest =>
    if part = "" ∨ part = "." ∨ part = ".." then walkOutside rest else absent part

/-- The directories that every machine has at its root; what is in them is not known. -/
def rootDirectories : List String :=
  ["bin", "boot", "dev", "etc", "home", "lib", "media", "mnt", "opt", "proc", "root", "run", "sbin",
    "srv", "sys", "tmp", "usr", "var"]

/-- Follow the parts of a name from the root on. Of the files there, only the empty device is
known. -/
def walkRoot : List String → Except FileFault String
  | "dev" :: "null" :: rest => if rest.isEmpty then .ok "" else .error .notDirectory
  | part :: rest =>
    if part = "" ∨ part = "." ∨ part = ".." then walkRoot rest
    else if rootDirectories.contains part then .error (walkOutside rest)
    else .error (absent part)
  | [] => .error .isDirectory

/-- Follow the parts of a name from the directory on. -/
def walk (dir : Directory) : List String → Except FileFault String
  | [] => .error .isDirectory
  | part :: rest =>
    if part = "" ∨ part = "." then walk dir rest
    else if part = ".." then .error (walkOutside rest)
    else
      match dir.find? (·.1 = part) with
      | none => .error (absent part)
      | some (_, bytes) => if rest.isEmpty then FileFault.decode bytes else .error .notDirectory

/-- Read a file of the directory, or one outside of it. -/
def reader (dir : Directory) : FileReader := fun name =>
  let parts := (Text.pieces '/' name.toList).map String.ofList
  if name.toList.contains '\x00' then .error .badName
  else if name.isEmpty then .error .notFound
  else if name.utf8ByteSize > nameLimit then .error .nameTooLong
  else if name.startsWith "/" then walkRoot parts
  else dir.walk parts

end Directory

def Config.load (files : FileReader) (name : String) : Attempt Config := do
  note .config .debug ("Loading control-plane config from " ++ name)
  let text ← (files name).mapError Error.file
  Config.ofYaml text

def Frame.load (files : FileReader) (name : String) : Attempt (List Frame) := do
  let text ← (files name).mapError Error.file
  let frames ← Frame.ofDocument text
  note .replay .debug ("Loaded " ++ toString frames.length ++ " frames from " ++ name)
  return frames

end SourceTally
