/-
Types of components.  Types other than those of resources are kept in a
catalogue and mentioned by their numbers; a type mentions only earlier ones.
-/

import GuestGlue.Wasm.Types

namespace GuestGlue.Wasm.Component

/-- A resource by its identity.  Each time it gets a name of its own, it is given
a new mark. -/
structure Resource where
  identity : Nat
  mark : Nat
  deriving DecidableEq

inductive Primitive where
  | bool | s8 | u8 | s16 | u16 | s32 | u32 | s64 | u64 | f32 | f64 | char | string
  deriving DecidableEq

inductive ValueType where
  | primitive (type : Primitive)
  | defined (number : Nat)
  deriving DecidableEq

structure VariantCase where
  name : String
  payload : Option ValueType
  deriving DecidableEq

inductive Shape where
  | primitive (type : Primitive)
  | record (fields : List (String × ValueType))
  | variant (cases : List VariantCase)
  | list (element : ValueType)
  | tuple (types : List ValueType)
  | flags (names : List String)
  | enumeration (names : List String)
  | option (type : ValueType)
  | result (ok error : Option ValueType)
  | own (resource : Resource)
  | borrow (resource : Resource)

structure FunctionType where
  parameters : List (String × ValueType)
  result : Option ValueType

inductive TypeName where
  | resource (resource : Resource)
  | stored (number : Nat)
  deriving DecidableEq

structure ModuleType where
  imports : List Import
  exports : List Export
  size : Nat

/-- What can be imported or exported.  A type that is named anew is created as a
copy of the type it refers to. -/
inductive Item where
  | module (type : ModuleType)
  | function (type : Nat)
  | type (referenced created : TypeName)
  | inst (type : Nat)
  | component (type : Nat)

abbrev ResourcePath := List Nat

structure InstanceType where
  exports : List (String × Item)
  defined : List Nat
  explicit : List (Nat × ResourcePath)

structure ComponentType where
  imports : List (String × Item)
  exports : List (String × Item)
  imported : List (Nat × ResourcePath)
  defined : List (Nat × ResourcePath)
  explicit : List (Nat × ResourcePath)

inductive Definition where
  | value (shape : Shape)
  | function (type : FunctionType)
  | inst (type : InstanceType)
  | component (type : ComponentType)

structure Entry where
  definition : Definition
  size : Nat
  borrows : Bool

/-! ### Lists of things by name or number -/

/-- Puts a value for a key in the place of an earlier one, or at the end. -/
def assign {α β : Type} [BEq α] (key : α) (value : β) : List (α × β) → List (α × β)
  | [] => [(key, value)]
  | (known, old) :: rest =>
      if known == key then (key, value) :: rest else (known, old) :: assign key value rest

/-! ### Parts of definitions -/

namespace Shape

def parts : Shape → List ValueType
  | .primitive _ | .flags _ | .enumeration _ | .own _ | .borrow _ => []
  | .record fields => fields.map (·.2)
  | .variant cases => cases.filterMap (·.payload)
  | .list element => [element]
  | .tuple types => types
  | .option type => [type]
  | .result ok error => ok.toList ++ error.toList

def resource? : Shape → Option Resource
  | .own resource | .borrow resource => some resource
  | _ => none

/-- Whether values of a type can only be had by a name for the type. -/
def needsName : Shape → Bool
  | .record _ | .variant _ | .flags _ | .enumeration _ => true
  | _ => false

end Shape

def FunctionType.parts (type : FunctionType) : List ValueType :=
  type.parameters.map (·.2) ++ type.result.toList

end GuestGlue.Wasm.Component
