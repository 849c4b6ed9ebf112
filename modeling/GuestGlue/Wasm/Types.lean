/-
Types of a binary module.  A reference may lead to things of a kind that has a
name of its own, or to things of a defined type, which is given by its number in
a store of types.
-/

import GuestGlue.Wasm.Reader

namespace GuestGlue.Wasm

/-! ### Values -/

inductive HeapKind where
  | func | noFunc
  | external | noExternal
  | any | eq | i31 | struct | array | none
  | exception | noException
  deriving DecidableEq, Repr

inductive HeapType where
  | kind (kind : HeapKind)
  | defined (type : Nat)
  deriving DecidableEq, Repr

structure ReferenceType where
  nullable : Bool
  heap : HeapType
  deriving DecidableEq, Repr

inductive ValueType where
  | i32 | i64 | f32 | f64 | v128
  | reference (type : ReferenceType)
  deriving DecidableEq, Repr

namespace ReferenceType

def funcRef : ReferenceType := ⟨true, .kind .func⟩

def nonNull (type : ReferenceType) : ReferenceType := { type with nullable := false }

def without (type excluded : ReferenceType) : ReferenceType :=
  if excluded.nullable then type.nonNull else type

end ReferenceType

namespace ValueType

def isReference : ValueType → Bool
  | .reference _ => true
  | _ => false

/-- Types with a value to start from; only non-null references have none. -/
def hasDefault : ValueType → Bool
  | .reference type => type.nullable
  | _ => true

end ValueType

/-! ### Defined types -/

structure FunctionType where
  parameters : List ValueType
  results : List ValueType
  deriving DecidableEq, Repr

/-- The number of types that a function's type mentions, and itself. -/
def FunctionType.size (type : FunctionType) : Nat :=
  1 + type.parameters.length + type.results.length

inductive StorageType where
  | value (type : ValueType)
  | i8 | i16
  deriving DecidableEq, Repr

namespace StorageType

def unpacked : StorageType → ValueType
  | .value type => type
  | .i8 | .i16 => .i32

def isPacked : StorageType → Bool
  | .value _ => false
  | .i8 | .i16 => true

def hasDefault (storage : StorageType) : Bool := storage.unpacked.hasDefault

def isNumeric (storage : StorageType) : Bool := !storage.unpacked.isReference

end StorageType

structure FieldType where
  storage : StorageType
  isMutable : Bool
  deriving DecidableEq, Repr

inductive CompositeType where
  | function (type : FunctionType)
  | struct (fields : List FieldType)
  | array (field : FieldType)
  deriving DecidableEq, Repr

structure TypeDefinition where
  isFinal : Bool
  supertype : Option Nat
  composite : CompositeType
  deriving DecidableEq, Repr

/-! ### Changing the numbers of types -/

def HeapType.renumber (number : Nat → Nat) : HeapType → HeapType
  | .defined type => .defined (number type)
  | heap => heap

def ValueType.renumber (number : Nat → Nat) : ValueType → ValueType
  | .reference type => .reference { type with heap := type.heap.renumber number }
  | type => type

def FieldType.renumber (number : Nat → Nat) (field : FieldType) : FieldType :=
  match field.storage with
  | .value type => { field with storage := .value (type.renumber number) }
  | _ => field

def CompositeType.renumber (number : Nat → Nat) : CompositeType → CompositeType
  | .function type =>
      .function
        { parameters := type.parameters.map (·.renumber number)
          results := type.results.map (·.renumber number) }
  | .struct fields => .struct (fields.map (·.renumber number))
  | .array field => .array (field.renumber number)

def TypeDefinition.renumber (number : Nat → Nat) (definition : TypeDefinition) : TypeDefinition :=
  { definition with
    supertype := definition.supertype.map number
    composite := definition.composite.renumber number }

/-! ### Tables, memories, globals -/

structure Limits where
  minimum : Nat
  maximum : Option Nat
  shared : Bool
  wide : Bool
  deriving DecidableEq, Repr

def Limits.address (limits : Limits) : ValueType :=
  if limits.wide then .i64 else .i32

def Limits.isWithin (limits outer : Limits) : Bool :=
  outer.minimum ≤ limits.minimum &&
    outer.maximum.all fun most => limits.maximum.any (· ≤ most)

structure TableType where
  element : ReferenceType
  limits : Limits
  deriving DecidableEq, Repr

structure GlobalType where
  value : ValueType
  isMutable : Bool
  deriving DecidableEq, Repr

/-! ### What crosses a module's boundary -/

inductive ExternalKind where
  | function | table | memory | global | tag
  deriving DecidableEq, Repr

inductive ExternalType where
  | function (type : Nat)
  | table (type : TableType)
  | memory (limits : Limits)
  | global (type : GlobalType)
  | tag (type : Nat)
  deriving DecidableEq, Repr

def ExternalType.kind : ExternalType → ExternalKind
  | .function _ => .function
  | .table _ => .table
  | .memory _ => .memory
  | .global _ => .global
  | .tag _ => .tag

structure Import where
  moduleName : String
  name : String
  type : ExternalType

structure Export where
  name : String
  type : ExternalType

end GuestGlue.Wasm
