/-
How functions on the values of components are called from binary modules: the
numbers that values are passed as, and what is needed to pass them.
-/

import GuestGlue.Wasm.Component.Catalogue

namespace GuestGlue.Wasm.Component

/-! ### Values as numbers -/

def Primitive.flat : Primitive → List Wasm.ValueType
  | .s64 | .u64 => [.i64]
  | .f32 => [.f32]
  | .f64 => [.f64]
  | .string => [.i32, .i32]
  | _ => [.i32]

def join (first second : Wasm.ValueType) : Wasm.ValueType :=
  match first, second with
  | .i32, .f32 | .f32, .i32 => .i32
  | first, second => if first = second then first else .i64

def joinAll : List Wasm.ValueType → List Wasm.ValueType → List Wasm.ValueType
  | [], second => second
  | first, [] => first
  | x :: first, y :: second => join x y :: joinAll first second

/-- The numbers that a value is passed as; types lie at most `depth` deep inside
each other. -/
def flatIn (catalogue : Catalogue) : Nat → ValueType → List Wasm.ValueType
  | _, .primitive type => type.flat
  | 0, .defined _ => []
  | depth + 1, .defined number =>
      let flat := flatIn catalogue depth
      let alternatives (payloads : List (Option ValueType)) : List Wasm.ValueType :=
        .i32 :: payloads.foldl
          (fun joined payload => joinAll joined ((payload.map flat).getD [])) []
      match catalogue.shape? number with
      | some (.primitive type) => type.flat
      | some (.record fields) => fields.flatMap fun field => flat field.2
      | some (.variant cases) => alternatives (cases.map (·.payload))
      | some (.list _) => [.i32, .i32]
      | some (.tuple types) => types.flatMap flat
      | some (.flags names) => List.replicate ((names.length + 31) / 32) .i32
      | some (.enumeration _) | some (.own _) | some (.borrow _) => [.i32]
      | some (.option type) => alternatives [some type]
      | some (.result ok error) => alternatives [ok, error]
      | none => []

def flat (catalogue : Catalogue) (type : ValueType) : List Wasm.ValueType :=
  flatIn catalogue (catalogue.depth + 1) type

/-- Whether a value has parts of a size that its type does not tell. -/
def hasPointerIn (catalogue : Catalogue) : Nat → ValueType → Bool
  | _, .primitive type => type = .string
  | 0, .defined _ => false
  | depth + 1, .defined number =>
      match catalogue.shape? number with
      | some (.primitive type) => type = .string
      | some (.list _) => true
      | some shape => shape.parts.any (hasPointerIn catalogue depth)
      | none => false

def hasPointer (catalogue : Catalogue) (type : ValueType) : Bool :=
  hasPointerIn catalogue (catalogue.depth + 1) type

/-! ### Functions -/

structure Lowered where
  type : Wasm.FunctionType
  needsMemory : Bool
  needsAllocation : Bool

def parameterLimit : Nat := 16

/-- Whoever receives values of unknown size has to allocate memory for them, the
other side has to have memory.  A module that is called, `inward`, receives the
parameters. -/
def lower (catalogue : Catalogue) (inward : Bool) (type : FunctionType) : Lowered :=
  let parameterTypes := type.parameters.map (·.2)
  let resultTypes := type.result.toList
  let parameters := parameterTypes.flatMap (flat catalogue)
  let results := resultTypes.flatMap (flat catalogue)
  let spillsParameters := parameterLimit < parameters.length
  let spillsResults := 1 < results.length
  let (received, sent) :=
    if inward then (parameterTypes, resultTypes) else (resultTypes, parameterTypes)
  let needsAllocation := received.any (hasPointer catalogue) || inward && spillsParameters
  { type :=
      { parameters :=
          (if spillsParameters then [.i32] else parameters) ++
            if spillsResults && !inward then [.i32] else []
        results := if spillsResults then (if inward then [.i32] else []) else results }
    needsMemory :=
      needsAllocation || spillsParameters || spillsResults || sent.any (hasPointer catalogue)
    needsAllocation }

end GuestGlue.Wasm.Component
