/-
Encodings of types.  A type is mentioned by its index among those defined so
far; `types` tells its number in the store.
-/

import GuestGlue.Wasm.TypeStore

namespace GuestGlue.Wasm

abbrev TypeIndices := Nat → Option Nat

namespace TypeIndices

/-- Indices from `before` on, for types whose numbers follow each other. -/
def extend (types : TypeIndices) (before start count : Nat) : TypeIndices := fun index =>
  if index < before then types index
  else if index < before + count then some (start + (index - before))
  else none

def below (types : TypeIndices) (bound : Nat) : TypeIndices := fun index =>
  if index < bound then types index else none

end TypeIndices

namespace Reader

def heapKind? (code : UInt8) : Option HeapKind :=
  match code.toNat with
  | 0x70 => some .func
  | 0x73 => some .noFunc
  | 0x6f => some .external
  | 0x72 => some .noExternal
  | 0x6e => some .any
  | 0x6d => some .eq
  | 0x6c => some .i31
  | 0x6b => some .struct
  | 0x6a => some .array
  | 0x71 => some .none
  | 0x69 => some .exception
  | 0x74 => some .noException
  | _ => none

def typeIndex (types : TypeIndices) : Reader Nat := do
  demand (types (← u32))

def heapType (types : TypeIndices) : Reader HeapType := do
  match heapKind? (← peek) with
  | some kind =>
      discard byte
      return .kind kind
  | none =>
      let index ← s33
      check (0 ≤ index)
      return .defined (← demand (types index.toNat))

def referenceType (types : TypeIndices) : Reader ReferenceType := do
  match (← peek).toNat with
  | 0x63 =>
      discard byte
      return ⟨true, ← heapType types⟩
  | 0x64 =>
      discard byte
      return ⟨false, ← heapType types⟩
  | _ =>
      let kind ← demand (heapKind? (← byte))
      return ⟨true, .kind kind⟩

def numberType? (code : UInt8) : Option ValueType :=
  match code.toNat with
  | 0x7f => some .i32
  | 0x7e => some .i64
  | 0x7d => some .f32
  | 0x7c => some .f64
  | 0x7b => some .v128
  | _ => none

def valueType (types : TypeIndices) : Reader ValueType := do
  match numberType? (← peek) with
  | some type =>
      discard byte
      return type
  | none => return .reference (← referenceType types)

def startsValueType (code : UInt8) : Bool :=
  (numberType? code).isSome || (heapKind? code).isSome || code = 0x63 || code = 0x64

/-! ### Definitions -/

def flag : Reader Bool := do
  match (← byte).toNat with
  | 0 => return false
  | 1 => return true
  | _ => failure

def signatureLimit : Nat := 1000

def functionType (types : TypeIndices) : Reader FunctionType := do
  let parameters ← vectorUpTo signatureLimit (valueType types)
  let results ← vectorUpTo signatureLimit (valueType types)
  return ⟨parameters, results⟩

def fieldType (types : TypeIndices) : Reader FieldType := do
  let storage ← match (← peek).toNat with
    | 0x78 =>
        discard byte
        pure .i8
    | 0x77 =>
        discard byte
        pure .i16
    | _ => .value <$> valueType types
  return ⟨storage, ← flag⟩

def fieldLimit : Nat := 10000

def compositeType (types : TypeIndices) : Reader CompositeType := do
  match (← byte).toNat with
  | 0x60 => .function <$> functionType types
  | 0x5f => .struct <$> vectorUpTo fieldLimit (fieldType types)
  | 0x5e => .array <$> fieldType types
  | _ => failure

/-- The definition with the index `own`; it can only extend those before it. -/
def typeDefinition (types : TypeIndices) (own : Nat) : Reader TypeDefinition := do
  match (← peek).toNat with
  | 0x4f | 0x50 =>
      let isFinal := (← byte) = 0x4f
      let supertypes ← vectorUpTo 1 (typeIndex (types.below own))
      return ⟨isFinal, supertypes.head?, ← compositeType types⟩
  | _ => return ⟨true, none, ← compositeType types⟩

def typeDefinitions (types : TypeIndices) (own : Nat) : Nat → Reader (List TypeDefinition)
  | 0 => pure []
  | more + 1 => do
      let first ← typeDefinition types own
      return first :: (← typeDefinitions types (own + 1) more)

/-- A group of definitions that may refer to each other, or a single one, after
`before` types; gives the numbers of its types.  Every definition takes a byte. -/
def typeGroup (store : TypeStore) (types : TypeIndices) (before : Nat) :
    Reader (List Nat × TypeStore) := do
  let isGroup := (← peek) = 0x4e
  if isGroup then discard byte
  let count ← if isGroup then u32 else pure 1
  check (count ≤ (← remaining))
  let extended := types.extend before store.definitions.length count
  let group ← typeDefinitions extended before count
  demand (store.addGroup? group)

/-! ### Tables, memories, globals -/

def limits : Reader Limits := do
  let flags := (← byte).toNat
  check (flags < 8)
  let wide := 4 ≤ flags
  let size := if wide then u64 else u32
  let minimum ← size
  let maximum ← if flags % 2 = 1 then some <$> size else pure none
  check (maximum.all fun maximum => minimum ≤ maximum)
  return ⟨minimum, maximum, flags / 2 % 2 = 1, wide⟩

def tableType (types : TypeIndices) : Reader TableType := do
  let element ← referenceType types
  let limits ← limits
  check (!limits.shared)
  return ⟨element, limits⟩

/-- Sizes are counted in pages of 64 KiB; a shared memory has a maximum. -/
def memoryType : Reader Limits := do
  let limits ← limits
  let most := if limits.wide then 0x1000000000000 else 0x10000
  check (limits.minimum ≤ most)
  check (limits.maximum.all (· ≤ most))
  check (!limits.shared || limits.maximum.isSome)
  return limits

def globalType (types : TypeIndices) : Reader GlobalType := do
  let value ← valueType types
  return ⟨value, ← flag⟩

def functionIndex (store : TypeStore) (types : TypeIndices) : Reader Nat := do
  let type ← typeIndex types
  check (store.function? type).isSome
  return type

/-- What is thrown with a tag are the parameters of a function type without
results. -/
def tagType (store : TypeStore) (types : TypeIndices) : Reader Nat := do
  check ((← byte) = 0)
  let type ← typeIndex types
  check ((store.function? type).any (·.results.isEmpty))
  return type

def externalKind : Reader ExternalKind := do
  match (← byte).toNat with
  | 0 => return .function
  | 1 => return .table
  | 2 => return .memory
  | 3 => return .global
  | 4 => return .tag
  | _ => failure

def externalType (store : TypeStore) (types : TypeIndices) : Reader ExternalType := do
  match ← externalKind with
  | .function => .function <$> functionIndex store types
  | .table => .table <$> tableType types
  | .memory => .memory <$> memoryType
  | .global => .global <$> globalType types
  | .tag => .tag <$> tagType store types

def importEntry (store : TypeStore) (types : TypeIndices) : Reader Import := do
  let moduleName ← name
  let own ← name
  let type ← externalType store types
  return ⟨moduleName, own, type⟩

end Reader

end GuestGlue.Wasm
