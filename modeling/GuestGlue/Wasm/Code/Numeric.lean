/-
Instructions on numbers, and loads and stores of numbers.  Those without an
immediate operand are given by a table of what they take and leave.
-/

import GuestGlue.Wasm.Code.Checker

namespace GuestGlue.Wasm.Code

/-! ### Operations -/

structure Signature where
  operands : List ValueType
  result : ValueType

def Signature.run (signature : Signature) : Checker Unit := do
  popAll signature.operands
  push signature.result

def unary (operand result : ValueType) : Option Signature := some ⟨[operand], result⟩

def binary (operand result : ValueType) : Option Signature := some ⟨[operand, operand], result⟩

def numeric? (code : Nat) : Option Signature :=
  if code < 0x45 then none
  else if code = 0x45 then unary .i32 .i32
  else if code ≤ 0x4f then binary .i32 .i32
  else if code = 0x50 then unary .i64 .i32
  else if code ≤ 0x5a then binary .i64 .i32
  else if code ≤ 0x60 then binary .f32 .i32
  else if code ≤ 0x66 then binary .f64 .i32
  else if code ≤ 0x69 then unary .i32 .i32
  else if code ≤ 0x78 then binary .i32 .i32
  else if code ≤ 0x7b then unary .i64 .i64
  else if code ≤ 0x8a then binary .i64 .i64
  else if code ≤ 0x91 then unary .f32 .f32
  else if code ≤ 0x98 then binary .f32 .f32
  else if code ≤ 0x9f then unary .f64 .f64
  else if code ≤ 0xa6 then binary .f64 .f64
  else
    match code with
    | 0xa7 => unary .i64 .i32
    | 0xa8 | 0xa9 => unary .f32 .i32
    | 0xaa | 0xab => unary .f64 .i32
    | 0xac | 0xad => unary .i32 .i64
    | 0xae | 0xaf => unary .f32 .i64
    | 0xb0 | 0xb1 => unary .f64 .i64
    | 0xb2 | 0xb3 => unary .i32 .f32
    | 0xb4 | 0xb5 => unary .i64 .f32
    | 0xb6 => unary .f64 .f32
    | 0xb7 | 0xb8 => unary .i32 .f64
    | 0xb9 | 0xba => unary .i64 .f64
    | 0xbb => unary .f32 .f64
    | 0xbc => unary .f32 .i32
    | 0xbd => unary .f64 .i64
    | 0xbe => unary .i32 .f32
    | 0xbf => unary .i64 .f64
    | 0xc0 | 0xc1 => unary .i32 .i32
    | 0xc2 | 0xc3 | 0xc4 => unary .i64 .i64
    | _ => none

def saturating? (code : Nat) : Option Signature :=
  match code with
  | 0 | 1 => unary .f32 .i32
  | 2 | 3 => unary .f64 .i32
  | 4 | 5 => unary .f32 .i64
  | 6 | 7 => unary .f64 .i64
  | _ => none

/-! ### Places in memory -/

def offsetLimit : Nat := 0xffffffff

/-- Reads where an access goes; gives the binary logarithm of its alignment and
the memory.  A bit of the first number says that the index of the memory
follows. -/
def place : Checker (Nat × Limits × Nat) := do
  let flags ← index
  let numbered := flags / 64 % 2 = 1
  let alignment := if numbered then flags - 64 else flags
  let index ← if numbered then index else pure 0
  check (alignment < 64)
  let offset ← liftM Reader.u64
  let limits ← demand (← context).memories[index]?
  return (alignment, limits, offset)

/-- The type of the address of an access that moves a power of two of bytes. -/
def address (logarithm : Nat) : Checker ValueType := do
  let (alignment, limits, offset) ← place
  check (alignment ≤ logarithm)
  check (limits.wide || offset ≤ offsetLimit)
  return limits.address

structure Access where
  value : ValueType
  logarithm : Nat

def load? (code : Nat) : Option Access :=
  match code with
  | 0x28 => some ⟨.i32, 2⟩
  | 0x29 => some ⟨.i64, 3⟩
  | 0x2a => some ⟨.f32, 2⟩
  | 0x2b => some ⟨.f64, 3⟩
  | 0x2c | 0x2d => some ⟨.i32, 0⟩
  | 0x2e | 0x2f => some ⟨.i32, 1⟩
  | 0x30 | 0x31 => some ⟨.i64, 0⟩
  | 0x32 | 0x33 => some ⟨.i64, 1⟩
  | 0x34 | 0x35 => some ⟨.i64, 2⟩
  | _ => none

def store? (code : Nat) : Option Access :=
  match code with
  | 0x36 => some ⟨.i32, 2⟩
  | 0x37 => some ⟨.i64, 3⟩
  | 0x38 => some ⟨.f32, 2⟩
  | 0x39 => some ⟨.f64, 3⟩
  | 0x3a => some ⟨.i32, 0⟩
  | 0x3b => some ⟨.i32, 1⟩
  | 0x3c => some ⟨.i64, 0⟩
  | 0x3d => some ⟨.i64, 1⟩
  | 0x3e => some ⟨.i64, 2⟩
  | _ => none

namespace Access

def load (access : Access) : Checker Unit := do
  pop (← address access.logarithm)
  push access.value

def store (access : Access) : Checker Unit := do
  let address ← address access.logarithm
  pop access.value
  pop address

end Access

end GuestGlue.Wasm.Code
