/-
Disks on which operations fail.  A permission, a device or a full disk can stop any
operation, also after a part of it is done: a file is cut off where a write stops, and a
directory is read up to some entry.
-/

import GuestGlue.Files.Disk

namespace GuestGlue

/-- How an operation fails.  Without progress nothing is done; with some, a write stops
after so many bytes, a directory is read up to so many entries, and what has no parts is
done although an error is reported. -/
structure Fault where
  error : FileError
  progress : Option Nat

/-- The faults are those of the coming operations, in order. -/
structure Machine where
  disk : Disk
  faults : List (Option Fault)

abbrev MachineM := StateM Machine

namespace MachineM

def fault? : MachineM (Option Fault) := fun machine =>
  (machine.faults.head?.join, { machine with faults := machine.faults.tail })

def onDisk {α : Type} (program : DiskM α) : MachineM α := fun machine =>
  ((program machine.disk).1, { machine with disk := (program machine.disk).2 })

def ask {α : Type} (operation : Disk → Except FileError α) : MachineM (Except FileError α) := do
  match ← fault? with
  | none => onDisk (DiskM.ask operation)
  | some fault => return .error fault.error

/-- An error means no, whatever it is. -/
def check (operation : Disk → Bool) : MachineM Bool := do
  match ← fault? with
  | none => onDisk (DiskM.ask operation)
  | some _ => return false

/-- `part` is what is done of an operation that comes so far. -/
def change (whole : Disk → Except FileError Disk) (part : Nat → Disk → Except FileError Disk) :
    MachineM (Except FileError Unit) := do
  match ← fault? with
  | none => onDisk (DiskM.change whole)
  | some ⟨error, none⟩ => return .error error
  | some ⟨error, some progress⟩ =>
      let outcome ← onDisk (DiskM.change (part progress))
      return outcome.bind fun _ => .error error

def entries (path : Path) : MachineM (Except FileError (List (Except FileError EntryName))) := do
  match ← fault? with
  | none => onDisk (FileSystem.entries path)
  | some ⟨error, none⟩ => return .error error
  | some ⟨error, some count⟩ =>
      let listed ← onDisk (FileSystem.entries path)
      return listed.map fun items => items.take count ++ [.error error]

end MachineM

instance : FileSystem MachineM where
  read path := MachineM.ask (·.readFile path)
  write path content :=
    MachineM.change (·.writeFile path content) fun count => (·.writeFile path (content.extract 0 count))
  remove path := MachineM.change (·.removeFile path) fun _ => (·.removeFile path)
  makeDirectory path := MachineM.change (·.makeDirectory path) fun _ => (·.makeDirectory path)
  entries path := MachineM.entries path
  isFile path := MachineM.check (·.hasFile path)
  isDirectory path := MachineM.check (·.hasDirectory path)

end GuestGlue
