/-
The program on the file system of the machine.
-/

import GuestGlue.CommandLine.Run

namespace GuestGlue

/-- An error by its number, which some calls give with its sign changed. -/
def FileError.ofSystem (signed : UInt32) (text : String) : FileError :=
  let number := if signed.toNat < 0x80000000 then signed else 0 - signed
  match number.toNat with
  | 2 => .notFound
  | 17 => .exists
  | 20 => .notDirectory
  | 21 => .isDirectory
  | 36 => .nameTooLong
  | 40 => .tooManyLinks
  | _ => .other s!"{text} (os error {number})"

def FileError.ofMachine (error : IO.Error) : FileError :=
  match error with
  | .noFileOrDirectory _ number text => .ofSystem number text
  | .alreadyExists _ number text => .ofSystem number text
  | .inappropriateType _ number text => .ofSystem number text
  | .invalidArgument _ number text => .ofSystem number text
  | .permissionDenied _ number text => .ofSystem number text
  | .resourceExhausted _ number text => .ofSystem number text
  | .noSuchThing _ number text => .ofSystem number text
  | .otherError number text => .ofSystem number text
  | _ => .other (toString error)

def onMachine {α : Type} (path : Path) (operation : IO α) : IO (Except FileError α) := do
  if path.text.toList.contains '\x00' then return .error .zeroInName
  match ← operation.toBaseIO with
  | .ok value => return .ok value
  | .error error => return .error (.ofMachine error)

-- A name that is no text is given with other characters, and nothing is found under that name.
def machineEntries (path : Path) : IO (List (Except FileError EntryName)) := do
  let directory ← IO.FS.realPath path.text
  let entries ← directory.readDir
  return entries.toList.map fun entry => .ok (.text entry.fileName)

def machineType (path : Path) : IO IO.FS.FileType := do
  let place ← IO.FS.realPath path.text
  return (← place.metadata).type

def hasType (path : Path) (type : IO.FS.FileType) : IO Bool := do
  match ← (machineType path).toBaseIO with
  | .ok found => return found == type
  | .error _ => return false

instance : FileSystem IO where
  read path := onMachine path (IO.FS.readBinFile path.text)
  write path content := onMachine path (IO.FS.writeBinFile path.text content)
  remove path := onMachine path (IO.FS.removeFile path.text)
  makeDirectory path := onMachine path (IO.FS.createDir path.text)
  entries path := onMachine path (machineEntries path)
  isFile path := hasType path .file
  isDirectory path := hasType path .dir

end GuestGlue

def main (arguments : List String) : IO UInt32 := do
  let outcome ← GuestGlue.CommandLine.run (m := IO) arguments
  IO.print outcome.output
  IO.eprint outcome.errors
  return outcome.code.toUInt32
