/-
Binaries: a single module, or a component with modules inside.  What a valid
binary imports and exports is gathered from all its modules, in order.
-/

import GuestGlue.Wasm.Component.Section

namespace GuestGlue.Wasm

structure Interface where
  imports : List Import
  exports : List Export

namespace Interface

def empty : Interface := ⟨[], []⟩

def append (first second : Interface) : Interface :=
  ⟨first.imports ++ second.imports, first.exports ++ second.exports⟩

def ofModule (module : Module) : Interface := ⟨module.imports, module.exports⟩

def functionImports (binary : Interface) : List (String × String) :=
  (binary.imports.filter (·.type.kind = .function)).map fun entry => (entry.moduleName, entry.name)

def functionExports (binary : Interface) : List String :=
  (binary.exports.filter (·.type.kind = .function)).map (·.name)

end Interface

inductive Layer where
  | module
  | component

/-- The header of a binary tells what it is; gives what follows it. -/
def layer? (bytes : Bytes) : Option (Layer × Bytes) :=
  match bytes with
  | 0x00 :: 0x61 :: 0x73 :: 0x6d :: 0x01 :: 0x00 :: 0x00 :: 0x00 :: rest => some (.module, rest)
  | 0x00 :: 0x61 :: 0x73 :: 0x6d :: 0x0d :: 0x00 :: 0x01 :: 0x00 :: rest => some (.component, rest)
  | _ => none

def headerLength : Nat := 8

/-- The most bytes that a binary inside a component may be announced with. -/
def innerLimit : Nat := 0x40000000

namespace Component

def inside {α : Type} (part : Bytes) (action : Builder α) : Builder α := do
  let (value, world) ← demand (Reader.within part (action.run (← get)))
  set world
  return value

def innerBinary (length : Nat) : Builder (Option (Layer × Bytes)) := do
  check (length ≤ innerLimit)
  let available := min length (← liftM Reader.remaining)
  return layer? (← liftM (Reader.take available))

def innerModule (length : Nat) : Builder Interface := do
  match ← innerBinary length with
  | some (.module, rest) =>
      let module ← demand (Module.ofBytes? (← get).store rest)
      addItem (.module (← addModule module))
      return .ofModule module
  | _ => failure

/-- A section of the innermost component, but for the binaries inside it. -/
def plainSection (number : Nat) : Builder Unit :=
  if number = 0 then liftM Module.toolSection else (section? number).getD failure

/-- Sections to the end, and what the modules among them import and export.  A
binary inside a component may be cut off by the end of everything, but it must
not be announced with more than the bytes that its component was announced with,
`room`.  Every section takes a byte. -/
def sections : Nat → Option Nat → Builder Interface
  | 0, _ => failure
  | bound + 1, room => do
      let start ← liftM Reader.remaining
      if start = 0 then return .empty
      let number ← nextByte
      let length ← index
      let room := room.map (· - (start - (← liftM Reader.remaining)))
      check (room.all (length ≤ ·))
      let part ← match number with
        | 1 => innerModule length
        | 4 =>
            match ← innerBinary length with
            | some (.component, rest) =>
                openScope .component
                let inner ← inside rest (sections bound (some (length - headerLength)))
                let type ← componentType (← closeScope)
                addItem (.component (← addType (.component type)))
                pure inner
            | _ => failure
        | _ =>
            inside (← liftM (Reader.take length)) (plainSection number)
            pure .empty
      return part.append (← sections bound (room.map (· - length)))

def interface? (bytes : Bytes) : Option Interface := do
  let start : World := ⟨.empty, .empty, [.ofKind .component]⟩
  let whole : Builder Interface := do
    let found ← sections (bytes.length + 1) none
    discard (componentType (← closeScope))
    return found
  let (found, _) ← Reader.within bytes (whole.run start)
  return found

end Component

def interface? (binary : ByteArray) : Option Interface := do
  match ← layer? binary.data.toList with
  | (.module, rest) => Interface.ofModule <$> Module.ofBytes? .empty rest
  | (.component, rest) => Component.interface? rest

end GuestGlue.Wasm
