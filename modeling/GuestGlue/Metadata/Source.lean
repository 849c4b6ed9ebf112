/-
Where modules come from: a collection in memory, or a directory that holds the
description of each module in a file of the module's name.
-/

import GuestGlue.Codec.Module
import GuestGlue.Files.FileSystem

namespace GuestGlue

inductive ReadError where
  | missing (name : String) (path : Path)
  | unreadable (path : Path) (error : FileError)
  | malformed (path : Path) (rejection : Json.Rejection)
  | misnamed (path : Path) (expected found : String)

def ReadError.message : ReadError → String
  | .missing name path => s!"module `{name}` not found (looked for {path.text})"
  | .unreadable path error => s!"failed to read {path.text}: {error.message}"
  | .malformed path rejection =>
      s!"malformed module metadata in {path.text}: {rejection.message}"
  | .misnamed path expected found =>
      s!"{path.text} describes module `{found}`, expected `{expected}`"

/-! ### Modules in memory -/

structure ModuleCollection where
  modules : List Module

namespace ModuleCollection

def empty : ModuleCollection := ⟨[]⟩

def insert (collection : ModuleCollection) (module : Module) : ModuleCollection :=
  ⟨module :: collection.modules⟩

def read (collection : ModuleCollection) (name : String) : Except ReadError Module :=
  match collection.modules.find? (·.name = name) with
  | some module => .ok module
  | none => .error (.missing name ⟨"<memory>/" ++ name ++ ".json"⟩)

end ModuleCollection

/-! ### Modules in files -/

section Files

variable {m : Type → Type} [Monad m] [FileSystem m]

def readModuleFile (path : Path) : ExceptT ReadError m Module := do
  match ← FileSystem.readText (m := m) path with
  | .error error => throw (.unreadable path error)
  | .ok text =>
      match Module.ofJson text with
      | .error rejection => throw (.malformed path rejection)
      | .ok module => return module

structure ModuleDirectory where
  path : Path

namespace ModuleDirectory

def modulePath (directory : ModuleDirectory) (name : String) : Path :=
  directory.path.join (name ++ ".json")

def read (directory : ModuleDirectory) (name : String) : ExceptT ReadError m Module := do
  let path := directory.modulePath name
  if !(← FileSystem.isFile (m := m) path) then throw (.missing name path)
  let module ← readModuleFile path
  if module.name = name then return module else throw (.misnamed path name module.name)

end ModuleDirectory

end Files

end GuestGlue
