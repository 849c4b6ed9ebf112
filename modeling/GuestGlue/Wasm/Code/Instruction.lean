/-
Instructions by their codes, the bodies of functions, and constant expressions.
-/

import GuestGlue.Wasm.Code.Aggregate
import GuestGlue.Wasm.Code.Atomic
import GuestGlue.Wasm.Code.Storage
import GuestGlue.Wasm.Code.Vector

namespace GuestGlue.Wasm.Code

/-! ### Instructions -/

inductive Family where
  | plain | aggregate | bulk | vector | atomic
  deriving DecidableEq

structure Opcode where
  family : Family
  code : Nat
  deriving DecidableEq

def opcode : Checker Opcode := do
  let code := (← liftM Reader.byte).toNat
  match code with
  | 0xfb => return ⟨.aggregate, ← index⟩
  | 0xfc => return ⟨.bulk, ← index⟩
  | 0xfd => return ⟨.vector, ← index⟩
  | 0xfe => return ⟨.atomic, ← index⟩
  | _ => return ⟨.plain, code⟩

def select : Checker Unit := do
  pop .i32
  let first ← popOperand
  let second ← popOperand
  match first, second with
  | .known first, .known second =>
      check (first = second && !first.isReference)
      push first
  | .any, .known type | .known type, .any =>
      check (!type.isReference)
      push type
  | .any, .any => pushOperand .any
  | _, _ => failure

def selectTyped : Checker Unit := do
  let context ← context
  match ← liftM (Reader.vectorUpTo 1 (Reader.valueType context.typeIndices)) with
  | [type] =>
      popAll [type, type, .i32]
      push type
  | _ => failure

def constant (value : Reader Unit) (type : ValueType) : Checker Unit := do
  value
  push type

def bulk (code : Nat) : Checker Unit := do
  match saturating? code with
  | some signature => signature.run
  | none =>
      match code with
      | 0x08 => memoryInit
      | 0x09 => dataSegment
      | 0x0a => memoryCopy
      | 0x0b => memoryFill
      | 0x0c => tableInit
      | 0x0d => discard elementSegment
      | 0x0e => tableCopy
      | 0x0f => tableGrow
      | 0x10 => tableSize
      | 0x11 => tableFill
      | _ => failure

def structured (code : Nat) : Checker Unit := do
  match code with
  | 0x00 => stop
  | 0x01 => pure ()
  | 0x02 => beginBlock
  | 0x03 => beginLoop
  | 0x04 => beginCondition
  | 0x05 => beginAlternative
  | 0x08 => throwTag
  | 0x0a => rethrow
  | 0x0b => endBlock
  | 0x0c => branch
  | 0x0d => branchIf
  | 0x0e => branchTable
  | 0x0f => returnAll
  | 0x10 => enter (← calledFunction)
  | 0x11 => enter (← calledElement)
  | 0x12 => leave (← calledFunction)
  | 0x13 => leave (← calledElement)
  | 0x14 => enter (← calledReference)
  | 0x15 => leave (← calledReference)
  | 0x1a => discard popOperand
  | 0x1b => select
  | 0x1c => selectTyped
  | 0x1f => beginTry
  | 0x20 => localGet
  | 0x21 => discard localSet
  | 0x22 => push (← localSet)
  | 0x23 => globalGet
  | 0x24 => globalSet
  | 0x25 => tableGet
  | 0x26 => tableSet
  | 0x3f => memorySize
  | 0x40 => memoryGrow
  | 0x41 => constant (discard Reader.s32) .i32
  | 0x42 => constant (discard Reader.s64) .i64
  | 0x43 => constant (discard (Reader.take 4)) .f32
  | 0x44 => constant (discard (Reader.take 8)) .f64
  | 0xd0 => refNull
  | 0xd1 => refIsNull
  | 0xd2 =>
      let index ← refFunc
      check ((← context).referenced.contains index)
  | 0xd3 => refEq
  | 0xd4 => refAsNonNull
  | 0xd5 => branchOnNull
  | 0xd6 => branchOnNonNull
  | _ => failure

def plain (code : Nat) : Checker Unit := do
  match numeric? code, load? code, store? code with
  | some signature, _, _ => signature.run
  | _, some access, _ => access.load
  | _, _, some access => access.store
  | none, none, none => structured code

def perform (opcode : Opcode) : Checker Unit :=
  match opcode.family with
  | .plain => plain opcode.code
  | .aggregate => aggregate opcode.code
  | .bulk => bulk opcode.code
  | .vector => vector opcode.code
  | .atomic => atomic opcode.code

/-- Repeats a step until the outermost block is closed, at most `bound` times. -/
def untilClosed (step : Checker Unit) : Nat → Checker Unit
  | 0 => failure
  | bound + 1 => do
      step
      if (← get).frames.isEmpty then pure () else untilClosed step bound

def State.start (results : List ValueType) : State :=
  { frames :=
      [{ kind := .block
         type := ⟨[], results⟩
         labels := results
         operands := []
         unreachable := false
         assigned := [] }]
    assigned := []
    mentioned := [] }

/-- Checks code to its end, every step taking a byte; gives the state there. -/
def run (step : Checker Unit) (scope : Scope) (start : State) : Reader State := do
  let bound ← Reader.remaining
  let (_, state) ← ((untilClosed step bound).run scope).run start
  return state

/-! ### Functions -/

/-- The most locals a function may have, its parameters among them. -/
def localLimit : Nat := 50000

def localTypes (types : TypeIndices) : Reader (List (Nat × ValueType)) :=
  Reader.vector do
    let count ← Reader.u32
    return (count, ← Reader.valueType types)

def body (context : Context) (type : FunctionType) : Reader Unit := do
  let groups ← localTypes context.typeIndices
  let count := groups.foldl (fun total group => total + group.1) type.parameters.length
  Reader.check (count ≤ localLimit)
  let locals := type.parameters ++ groups.flatMap fun (count, type) => List.replicate count type
  let given := List.range type.parameters.length
  discard (run (opcode >>= perform) ⟨context, locals⟩
    { State.start type.results with assigned := given })

/-! ### Constant expressions -/

def Opcode.isConstant (opcode : Opcode) : Bool :=
  match opcode.family with
  | .plain =>
      [0x0b, 0x41, 0x42, 0x43, 0x44, 0x6a, 0x6b, 0x6c, 0x7c, 0x7d, 0x7e, 0xd0].contains
        opcode.code
  | .aggregate => [0x00, 0x01, 0x06, 0x07, 0x08, 0x1a, 0x1b, 0x1c].contains opcode.code
  | .vector => opcode.code = 0x0c
  | .bulk | .atomic => false

/-- Constants may read globals that do not change, and mention any function. -/
def constantStep : Checker Unit := do
  let opcode ← opcode
  if opcode = ⟨.plain, 0x23⟩ then
    let global ← global
    check (!global.isMutable)
    push global.value
  else if opcode = ⟨.plain, 0xd2⟩ then
    let index ← refFunc
    modify fun state => { state with mentioned := index :: state.mentioned }
  else
    check opcode.isConstant
    perform opcode

/-- A constant expression of some type; gives the functions it mentions. -/
def constantOf (context : Context) (type : ValueType) : Reader (List Nat) := do
  let state ← run constantStep ⟨context, []⟩ (State.start [type])
  return state.mentioned

end GuestGlue.Wasm.Code
