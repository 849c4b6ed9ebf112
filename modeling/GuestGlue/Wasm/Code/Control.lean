/-
Blocks, branches, calls and exceptions.
-/

import GuestGlue.Wasm.Code.Checker

namespace GuestGlue.Wasm.Code

/-! ### Blocks -/

/-- The type of a block: nothing, one result, or a defined function type. -/
def blockType : Checker FunctionType := do
  let code ← liftM Reader.peek
  if code = 0x40 then
    discard (liftM Reader.byte : Checker UInt8)
    return ⟨[], []⟩
  else if Reader.startsValueType code then
    let type ← liftM (Reader.valueType (← context).typeIndices)
    return ⟨[], [type]⟩
  else
    let index ← liftM Reader.s33
    check (0 ≤ index)
    let context ← context
    demand (context.types[index.toNat]? >>= context.store.function?)

def beginBlock : Checker Unit := do
  let type ← blockType
  popAll type.parameters
  openFrame .block type type.results

def beginLoop : Checker Unit := do
  let type ← blockType
  popAll type.parameters
  openFrame .block type type.parameters

def beginCondition : Checker Unit := do
  let type ← blockType
  pop .i32
  popAll type.parameters
  openFrame .condition type type.results

def beginAlternative : Checker Unit := do
  let frame ← closeFrame
  check (frame.kind = .condition)
  openFrame .alternative frame.type frame.type.results

def endBlock : Checker Unit := do
  let frame ← closeFrame
  if frame.kind = .condition then
    openFrame .alternative frame.type frame.type.results
    discard closeFrame
  pushAll frame.type.results

/-! ### Branches -/

def branch : Checker Unit := do
  popAll (← label (← index))
  stop

def passAll (types : List ValueType) : Checker Unit := do
  popAll types
  pushAll types

def branchIf : Checker Unit := do
  let types ← label (← index)
  pop .i32
  passAll types

def branchTable : Checker Unit := do
  let depths ← liftM (Reader.vector Reader.u32)
  let fallback ← label (← index)
  pop .i32
  for depth in depths do
    let types ← label depth
    check (types.length = fallback.length)
    let frames := (← get).frames
    popAll types
    modify fun state => { state with frames }
  popAll fallback
  stop

def returnAll : Checker Unit := do
  popAll (← results)
  stop

def branchOnNull : Checker Unit := do
  let types ← label (← index)
  let operand ← popReference
  passAll types
  pushOperand operand.nonNull

def branchOnNonNull : Checker Unit := do
  let types ← label (← index)
  let operand ← popReference
  match types.getLast? with
  | some (.reference type) =>
      match operand.nonNull with
      | .known found => checkBelow found (.reference type)
      | _ => pure ()
      passAll types.dropLast
  | _ => failure

/-- Branches by the type of a reference; the target takes it as one of the type
it was cast to, or as what is left if the cast failed. -/
def branchOnCast (onFailure : Bool) : Checker Unit := do
  let flags := (← liftM Reader.byte).toNat
  check (flags < 4)
  let types ← label (← index)
  let source : ReferenceType := ⟨flags % 2 = 1, ← heapType⟩
  let target : ReferenceType := ⟨2 ≤ flags, ← heapType⟩
  checkBelow (.reference target) (.reference source)
  let rest := source.without target
  let expected ← demand types.getLast?
  checkBelow (.reference (if onFailure then rest else target)) expected
  pop (.reference source)
  passAll types.dropLast
  push (.reference (if onFailure then target else rest))

/-! ### Calls -/

def enter (type : FunctionType) : Checker Unit := do
  popAll type.parameters
  pushAll type.results

/-- A call in the place of a return; its results become those of the caller. -/
def leave (type : FunctionType) : Checker Unit := do
  check ((← store).allBelow type.results (← results))
  popAll type.parameters
  stop

def calledFunction : Checker FunctionType := do
  let index ← index
  let context ← context
  demand (context.functions[index]? >>= context.store.function?)

def calledElement : Checker FunctionType := do
  let type ← functionType
  let table ← table
  checkBelow (.reference table.element) (.reference .funcRef)
  pop table.limits.address
  return type

def calledReference : Checker FunctionType := do
  let type ← typeIndex
  popDefined type
  demand ((← store).function? type)

/-! ### Exceptions -/

def exceptionReference : ValueType := .reference ⟨false, .kind .exception⟩

def throwTag : Checker Unit := do
  popAll (← thrown)
  stop

def rethrow : Checker Unit := do
  pop (.reference ⟨true, .kind .exception⟩)
  stop

/-- A branch for exceptions with a tag, or for all of them; it may also take a
reference to the exception. -/
def handler : Checker Unit := do
  let form := (← liftM Reader.byte).toNat
  check (form < 4)
  let values ← if form < 2 then thrown else pure []
  let types ← label (← index)
  let given := if form % 2 = 1 then values ++ [exceptionReference] else values
  check ((← store).allBelow given types)

def handlerLimit : Nat := 10000

def beginTry : Checker Unit := do
  let type ← blockType
  let count ← index
  check (count ≤ handlerLimit)
  for _ in List.range count do handler
  popAll type.parameters
  openFrame .block type type.results

end GuestGlue.Wasm.Code
