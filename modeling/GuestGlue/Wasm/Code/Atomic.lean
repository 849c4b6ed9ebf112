/-
Atomic instructions, by the number behind their first byte.  An access has
exactly the alignment of its size.
-/

import GuestGlue.Wasm.Code.Numeric

namespace GuestGlue.Wasm.Code

def atomicAccess (code : Nat) : Access :=
  match (code - 0x10) % 7 with
  | 0 => ⟨.i32, 2⟩
  | 1 => ⟨.i64, 3⟩
  | 2 => ⟨.i32, 0⟩
  | 3 => ⟨.i32, 1⟩
  | 4 => ⟨.i64, 0⟩
  | 5 => ⟨.i64, 1⟩
  | _ => ⟨.i64, 2⟩

def atomicAddress (logarithm : Nat) : Checker ValueType := do
  let (alignment, limits, _) ← place
  check (alignment = logarithm)
  return limits.address

def atomicWith (logarithm : Nat) (operands : List ValueType) : Checker Unit := do
  let address ← atomicAddress logarithm
  popAll (address :: operands)

def atomic (code : Nat) : Checker Unit := do
  let access := atomicAccess code
  match code with
  | 0x00 =>
      atomicWith 2 [.i32]
      push .i32
  | 0x01 =>
      atomicWith 2 [.i32, .i64]
      push .i32
  | 0x02 =>
      atomicWith 3 [.i64, .i64]
      push .i32
  | 0x03 =>
      let order ← liftM Reader.byte
      check (order = 0)
  | _ =>
      if code < 0x10 || 0x4e < code then failure
      else if code < 0x17 then
        atomicWith access.logarithm []
        push access.value
      else if code < 0x1e then atomicWith access.logarithm [access.value]
      else if code < 0x48 then
        atomicWith access.logarithm [access.value]
        push access.value
      else
        atomicWith access.logarithm [access.value, access.value]
        push access.value

end GuestGlue.Wasm.Code
