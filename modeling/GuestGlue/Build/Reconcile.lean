/-
Reconciliation of an output directory with the generated files.  Among the files
with the generated extension the directory holds exactly the generated ones
afterwards; a file that has its content already is left alone, and nothing is
touched if a name would leave the directory.
-/

import GuestGlue.GlueFile
import GuestGlue.Build.Error

namespace GuestGlue

structure Reconciled where
  written : List String
  unchanged : List String
  removed : List String
  deriving DecidableEq, Repr

namespace Reconcile

abbrev BuildM (m : Type → Type) := ExceptT BuildError m

/-- Whether a file of the directory has the generated extension and no
generated file has its name. -/
def isStaleName (files : List GlueFile) (extension name : String) : Bool :=
  FileName.extension? name = some extension && !files.any (·.name = name)

def firstInvalid? (files : List GlueFile) : Option String :=
  (files.map (·.name)).find? (!FileName.isPlain ·)

section Steps

variable {m : Type → Type} [Monad m] [FileSystem m]

def onPath {α : Type} (path : Path) (operation : m (Except FileError α)) : BuildM m α :=
  ExceptT.mk do
    match ← operation with
    | .ok value => return .ok value
    | .error error => return .error (.file path error)

/-- Removes the stale files among the entries; gives their names.  An entry whose name is
no text is passed over. -/
def sweep (directory : Path) (files : List GlueFile) (extension : String) :
    List (Except FileError EntryName) → BuildM m (List String)
  | [] => pure []
  | .error error :: _ => throw (.file directory error)
  | .ok (.raw _) :: rest => sweep directory files extension rest
  | .ok (.text name) :: rest => do
      let path := directory.join name
      if isStaleName files extension name && (← FileSystem.isFile (m := m) path) then
        onPath path (FileSystem.remove path)
        let removed ← sweep directory files extension rest
        return name :: removed
      else sweep directory files extension rest

def holds (path : Path) (content : ByteArray) : m Bool := do
  match ← FileSystem.read (m := m) path with
  | .ok existing => return existing == content
  | .error _ => return false

/-- Writes the files whose content differs; gives the names written and those
left alone. -/
def writeFiles (directory : Path) : List GlueFile → BuildM m (List String × List String)
  | [] => pure ([], [])
  | file :: rest => do
      let path := directory.join file.name
      let content := file.content.toUTF8
      if ← holds (m := m) path content then
        let (written, unchanged) ← writeFiles directory rest
        return (written, file.name :: unchanged)
      else
        onPath path (FileSystem.write path content)
        let (written, unchanged) ← writeFiles directory rest
        return (file.name :: written, unchanged)

end Steps

end Reconcile

open Reconcile

def reconcile {m : Type → Type} [Monad m] [FileSystem m] (directory : Path)
    (files : List GlueFile) (extension : String) : BuildM m Reconciled := do
  match firstInvalid? files with
  | some name => throw (.invalidFileName name)
  | none =>
      onPath directory (FileSystem.createDirectories directory)
      let items ← onPath directory (FileSystem.entries directory)
      let removed ← sweep directory files extension items
      let (written, unchanged) ← writeFiles directory files
      return { written, unchanged, removed := removed.mergeSort }

end GuestGlue
