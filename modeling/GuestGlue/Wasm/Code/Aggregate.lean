/-
References, and the structures and arrays they lead to; by the number behind the
first byte of an instruction.
-/

import GuestGlue.Wasm.Code.Control

namespace GuestGlue.Wasm.Code

/-! ### Structures -/

def structType : Checker (Nat × List FieldType) := do
  let type ← typeIndex
  return (type, ← demand ((← store).struct? type))

def fieldOf (fields : List FieldType) : Checker FieldType := do
  let index ← index
  demand fields[index]?

def structNew : Checker Unit := do
  let (type, fields) ← structType
  popAll (fields.map (·.storage.unpacked))
  pushReference false (.defined type)

def structNewDefault : Checker Unit := do
  let (type, fields) ← structType
  check (fields.all (·.storage.hasDefault))
  pushReference false (.defined type)

/-- A packed field is read with a rule for its missing bits, any other one
without. -/
def structGet (packed : Bool) : Checker Unit := do
  let (type, fields) ← structType
  let field ← fieldOf fields
  check (field.storage.isPacked = packed)
  popDefined type
  push field.storage.unpacked

def structSet : Checker Unit := do
  let (type, fields) ← structType
  let field ← fieldOf fields
  check field.isMutable
  pop field.storage.unpacked
  popDefined type

/-! ### Arrays -/

def arrayType : Checker (Nat × FieldType) := do
  let type ← typeIndex
  return (type, ← demand ((← store).array? type))

def mutableArray : Checker (Nat × StorageType) := do
  let (type, field) ← arrayType
  check field.isMutable
  return (type, field.storage)

def arrayNew : Checker Unit := do
  let (type, field) ← arrayType
  popAll [field.storage.unpacked, .i32]
  pushReference false (.defined type)

def arrayNewDefault : Checker Unit := do
  let (type, field) ← arrayType
  check field.storage.hasDefault
  pop .i32
  pushReference false (.defined type)

/-- Once all operands of a block are taken, taking more of them changes nothing. -/
def arrayNewFixed : Checker Unit := do
  let (type, field) ← arrayType
  let count ← index
  let frame ← demand (← get).frames.head?
  let count := min count (frame.operands.length + 1)
  popAll (List.replicate count field.storage.unpacked)
  pushReference false (.defined type)

def dataFor (storage : StorageType) : Checker Unit := do
  check storage.isNumeric
  dataSegment

def elementsFor (storage : StorageType) : Checker Unit := do
  check storage.unpacked.isReference
  let segment ← elementSegment
  checkBelow (.reference segment) storage.unpacked

def arrayNewFrom (source : StorageType → Checker Unit) : Checker Unit := do
  let (type, field) ← arrayType
  source field.storage
  popAll [.i32, .i32]
  pushReference false (.defined type)

def arrayGet (packed : Bool) : Checker Unit := do
  let (type, field) ← arrayType
  check (field.storage.isPacked = packed)
  pop .i32
  popDefined type
  push field.storage.unpacked

def arraySet : Checker Unit := do
  let (type, storage) ← mutableArray
  popAll [.i32, storage.unpacked]
  popDefined type

def arrayFill : Checker Unit := do
  let (type, storage) ← mutableArray
  popAll [.i32, storage.unpacked, .i32]
  popDefined type

def arrayCopy : Checker Unit := do
  let (target, storage) ← mutableArray
  let (source, field) ← arrayType
  check ((← store).storageIsBelow field.storage storage)
  popAll [.i32, .reference ⟨true, .defined source⟩, .i32, .i32]
  popDefined target

def arrayInitFrom (source : StorageType → Checker Unit) : Checker Unit := do
  let (type, storage) ← mutableArray
  source storage
  popAll [.i32, .i32, .i32]
  popDefined type

/-! ### Casts -/

def popFamily (heap : HeapType) : Checker Unit := do
  pop (.reference ⟨true, .kind ((← store).top heap)⟩)

def castTest : Checker Unit := do
  popFamily (← heapType)
  push .i32

def cast (nullable : Bool) : Checker Unit := do
  let heap ← heapType
  popFamily heap
  pushReference nullable heap

/-- Takes a reference between this world and the outside to the other side. -/
def convert (source target : HeapKind) : Checker Unit := do
  match ← popKind source with
  | .known (.reference type) => push (.reference { type with heap := .kind target })
  | _ => pushOperand (.reference (some target))

def aggregate (code : Nat) : Checker Unit := do
  match code with
  | 0x00 => structNew
  | 0x01 => structNewDefault
  | 0x02 => structGet false
  | 0x03 | 0x04 => structGet true
  | 0x05 => structSet
  | 0x06 => arrayNew
  | 0x07 => arrayNewDefault
  | 0x08 => arrayNewFixed
  | 0x09 => arrayNewFrom dataFor
  | 0x0a => arrayNewFrom elementsFor
  | 0x0b => arrayGet false
  | 0x0c | 0x0d => arrayGet true
  | 0x0e => arraySet
  | 0x0f =>
      discard (popKind .array)
      push .i32
  | 0x10 => arrayFill
  | 0x11 => arrayCopy
  | 0x12 => arrayInitFrom dataFor
  | 0x13 => arrayInitFrom elementsFor
  | 0x14 | 0x15 => castTest
  | 0x16 => cast false
  | 0x17 => cast true
  | 0x18 => branchOnCast false
  | 0x19 => branchOnCast true
  | 0x1a => convert .external .any
  | 0x1b => convert .any .external
  | 0x1c =>
      pop .i32
      pushReference false (.kind .i31)
  | 0x1d | 0x1e =>
      discard (popKind .i31)
      push .i32
  | _ => failure

/-! ### References by themselves -/

def refNull : Checker Unit := do
  pushReference true (← heapType)

def refIsNull : Checker Unit := do
  discard popReference
  push .i32

def refFunc : Checker Nat := do
  let index ← index
  let type ← demand (← context).functions[index]?
  pushReference false (.defined type)
  return index

def refEq : Checker Unit := do
  discard (popKind .eq)
  discard (popKind .eq)
  push .i32

def refAsNonNull : Checker Unit := do
  pushOperand (← popReference).nonNull

end GuestGlue.Wasm.Code
