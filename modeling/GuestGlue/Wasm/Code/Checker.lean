/-
Checking code.  Instructions are read one by one and checked against the blocks
that are open, each with the types of its operands.  Behind an instruction that
never goes on, operands of any type can be taken.
-/

import GuestGlue.Wasm.Encoding

namespace GuestGlue.Wasm

/-- What the code of a module can refer to, each in order of its index.  Types
are given by their numbers in the store. -/
structure Context where
  store : TypeStore
  types : List Nat
  functions : List Nat
  tables : List TableType
  memories : List Limits
  globals : List GlobalType
  tags : List Nat
  elements : List ReferenceType
  dataCount : Option Nat
  referenced : List Nat

namespace Context

def ofStore (store : TypeStore) : Context :=
  { store
    types := []
    functions := []
    tables := []
    memories := []
    globals := []
    tags := []
    elements := []
    dataCount := none
    referenced := [] }

def typeIndices (context : Context) : TypeIndices := fun index => context.types[index]?

end Context

namespace Code

inductive Operand where
  | any
  | reference (kind : Option HeapKind)
  | known (type : ValueType)

inductive BlockKind where
  | block | condition | alternative
  deriving DecidableEq

structure Frame where
  kind : BlockKind
  type : FunctionType
  labels : List ValueType
  operands : List Operand
  unreachable : Bool
  assigned : List Nat

structure State where
  frames : List Frame
  assigned : List Nat
  mentioned : List Nat

structure Scope where
  module : Context
  locals : List ValueType

abbrev Checker := ReaderT Scope (StateT State Reader)

def check (condition : Bool) : Checker Unit :=
  if condition then pure () else failure

def demand {α : Type} (value : Option α) : Checker α :=
  match value with
  | some value => pure value
  | none => failure

def context : Checker Context := do
  return (← read).module

def store : Checker TypeStore := do
  return (← context).store

/-! ### What indices stand for -/

def index : Checker Nat := liftM Reader.u32

def heapType : Checker HeapType := do
  liftM (Reader.heapType (← context).typeIndices)

def typeIndex : Checker Nat := do
  liftM (Reader.typeIndex (← context).typeIndices)

def functionType : Checker FunctionType := do
  let type ← typeIndex
  demand ((← store).function? type)

def table : Checker TableType := do
  let index ← index
  demand (← context).tables[index]?

def memory : Checker Limits := do
  let index ← index
  demand (← context).memories[index]?

def global : Checker GlobalType := do
  let index ← index
  demand (← context).globals[index]?

def thrown : Checker (List ValueType) := do
  let index ← index
  let context ← context
  let type ← demand (context.tags[index]? >>= context.store.function?)
  return type.parameters

def elementSegment : Checker ReferenceType := do
  let index ← index
  demand (← context).elements[index]?

def dataSegment : Checker Unit := do
  let index ← index
  check ((← context).dataCount.any fun count => index < count)

/-! ### Operands -/

def inFrame (change : Frame → Frame) : Checker Unit :=
  modify fun state =>
    match state.frames with
    | [] => state
    | frame :: outer => { state with frames := change frame :: outer }

def pushOperand (operand : Operand) : Checker Unit :=
  inFrame fun frame => { frame with operands := operand :: frame.operands }

def push (type : ValueType) : Checker Unit := pushOperand (.known type)

def pushReference (nullable : Bool) (heap : HeapType) : Checker Unit :=
  push (.reference ⟨nullable, heap⟩)

def pushAll (types : List ValueType) : Checker Unit :=
  types.forM push

def popOperand : Checker Operand := do
  let frame ← demand (← get).frames.head?
  match frame.operands with
  | [] =>
      check frame.unreachable
      return .any
  | operand :: rest =>
      inFrame fun frame => { frame with operands := rest }
      return operand

def Operand.fits (store : TypeStore) : Operand → ValueType → Bool
  | .any, _ => true
  | .reference none, expected => expected.isReference
  | .reference (some kind), expected =>
      store.isBelow (.reference ⟨false, .kind kind⟩) expected
  | .known type, expected => store.isBelow type expected

def pop (expected : ValueType) : Checker Unit := do
  let operand ← popOperand
  check (operand.fits (← store) expected)

def popAll (expected : List ValueType) : Checker Unit :=
  expected.reverse.forM pop

def popReference : Checker Operand := do
  match ← popOperand with
  | .any => return .reference none
  | .known type =>
      check type.isReference
      return .known type
  | operand => return operand

def popKind (kind : HeapKind) : Checker Operand := do
  let operand ← popReference
  check (operand.fits (← store) (.reference ⟨true, .kind kind⟩))
  return operand

def popDefined (type : Nat) : Checker Unit := pop (.reference ⟨true, .defined type⟩)

/-- Whether a value of a type may stand where another type is expected. -/
def checkBelow (type above : ValueType) : Checker Unit := do
  check ((← store).isBelow type above)

def Operand.nonNull : Operand → Operand
  | .known (.reference type) => .known (.reference type.nonNull)
  | operand => operand

/-! ### Blocks -/

def stop : Checker Unit :=
  inFrame fun frame => { frame with operands := [], unreachable := true }

def openFrame (kind : BlockKind) (type : FunctionType) (labels : List ValueType) :
    Checker Unit := do
  modify fun state =>
    { state with
      frames :=
        { kind, type, labels
          operands := []
          unreachable := false
          assigned := state.assigned } :: state.frames }
  pushAll type.parameters

/-- Closes the innermost block, which has to end with its results only. -/
def closeFrame : Checker Frame := do
  let frame ← demand (← get).frames.head?
  popAll frame.type.results
  check ((← get).frames.head?.any (·.operands.isEmpty))
  modify fun state => { state with frames := state.frames.drop 1, assigned := frame.assigned }
  return frame

def label (depth : Nat) : Checker (List ValueType) := do
  let frame ← demand (← get).frames[depth]?
  return frame.labels

def results : Checker (List ValueType) := do
  let frame ← demand (← get).frames.getLast?
  return frame.type.results

end Code

end GuestGlue.Wasm
