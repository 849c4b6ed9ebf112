/-
Instructions on vectors of 128 bits, by the number behind their first byte.
-/

import GuestGlue.Wasm.Code.Numeric

namespace GuestGlue.Wasm.Code

/-- Codes between the operations of one shape and those of the next one that
belong to no instruction. -/
def vectorGaps : List Nat :=
  [0x9a, 0xa2, 0xa5, 0xa6, 0xaf, 0xb0, 0xb2, 0xb3, 0xb4, 0xbb, 0xc2, 0xc5, 0xc6, 0xcf, 0xd0,
    0xd2, 0xd3, 0xd4, 0xe2, 0xee]

def vectorUnary : List Nat :=
  [0x4d, 0x5e, 0x5f, 0x60, 0x61, 0x62, 0x67, 0x68, 0x69, 0x6a, 0x74, 0x75, 0x7a, 0x7c, 0x7d,
    0x7e, 0x7f, 0x80, 0x81, 0x87, 0x88, 0x89, 0x8a, 0x94, 0xa0, 0xa1, 0xa7, 0xa8, 0xa9, 0xaa,
    0xc0, 0xc1, 0xc7, 0xc8, 0xc9, 0xca, 0xe0, 0xe1, 0xe3, 0xec, 0xed, 0xef, 0xf8, 0xf9, 0xfa,
    0xfb, 0xfc, 0xfd, 0xfe, 0xff, 0x101, 0x102, 0x103, 0x104]

def vectorTernary : List Nat :=
  [0x52, 0x105, 0x106, 0x107, 0x108, 0x109, 0x10a, 0x10b, 0x10c, 0x113]

def vectorTests : List Nat := [0x53, 0x63, 0x64, 0x83, 0x84, 0xa3, 0xa4, 0xc3, 0xc4]

def vectorShifts : List Nat :=
  [0x6b, 0x6c, 0x6d, 0x8b, 0x8c, 0x8d, 0xab, 0xac, 0xad, 0xcb, 0xcc, 0xcd]

/-- Operations without an immediate operand; those of no other class take two
vectors. -/
def vectorOperation? (code : Nat) : Option Signature :=
  if vectorGaps.contains code then none
  else if vectorUnary.contains code then unary .v128 .v128
  else if vectorTernary.contains code then some ⟨[.v128, .v128, .v128], .v128⟩
  else if vectorTests.contains code then unary .v128 .i32
  else if vectorShifts.contains code then some ⟨[.v128, .i32], .v128⟩
  else if code = 0x0e || 0x23 ≤ code && code ≤ 0x51 || 0x65 ≤ code && code ≤ 0x112 then
    binary .v128 .v128
  else
    match code with
    | 0x0f | 0x10 | 0x11 => unary .i32 .v128
    | 0x12 => unary .i64 .v128
    | 0x13 => unary .f32 .v128
    | 0x14 => unary .f64 .v128
    | _ => none

/-- Loads of whole vectors, and of parts that are spread or followed by zeros, by
the binary logarithms of their sizes. -/
def vectorLoad? (code : Nat) : Option Nat :=
  match code with
  | 0x00 => some 4
  | 0x01 | 0x02 | 0x03 | 0x04 | 0x05 | 0x06 => some 3
  | 0x07 => some 0
  | 0x08 => some 1
  | 0x09 | 0x5c => some 2
  | 0x0a | 0x5d => some 3
  | _ => none

structure LaneShape where
  count : Nat
  value : ValueType

def extractedLane? (code : Nat) : Option LaneShape :=
  match code with
  | 0x15 | 0x16 => some ⟨16, .i32⟩
  | 0x18 | 0x19 => some ⟨8, .i32⟩
  | 0x1b => some ⟨4, .i32⟩
  | 0x1d => some ⟨2, .i64⟩
  | 0x1f => some ⟨4, .f32⟩
  | 0x21 => some ⟨2, .f64⟩
  | _ => none

def replacedLane? (code : Nat) : Option LaneShape :=
  match code with
  | 0x17 => some ⟨16, .i32⟩
  | 0x1a => some ⟨8, .i32⟩
  | 0x1c => some ⟨4, .i32⟩
  | 0x1e => some ⟨2, .i64⟩
  | 0x20 => some ⟨4, .f32⟩
  | 0x22 => some ⟨2, .f64⟩
  | _ => none

def lane (count : Nat) : Checker Unit := do
  let lane ← liftM Reader.byte
  check (lane.toNat < count)

def laneAccess (code : Nat) : Checker Unit := do
  let logarithm := (code - 0x54) % 4
  let address ← address logarithm
  lane (Nat.pow 2 (4 - logarithm))
  pop .v128
  pop address
  if code < 0x58 then push .v128

def vector (code : Nat) : Checker Unit := do
  match vectorOperation? code, vectorLoad? code, extractedLane? code, replacedLane? code with
  | some signature, _, _, _ => signature.run
  | _, some logarithm, _, _ => Access.load ⟨.v128, logarithm⟩
  | _, _, some shape, _ =>
      lane shape.count
      pop .v128
      push shape.value
  | _, _, _, some shape =>
      lane shape.count
      popAll [.v128, shape.value]
      push .v128
  | none, none, none, none =>
      match code with
      | 0x0b => Access.store ⟨.v128, 4⟩
      | 0x0c =>
          discard (liftM (Reader.take 16) : Checker Bytes)
          push .v128
      | 0x0d =>
          let lanes ← liftM (Reader.take 16)
          check (lanes.all fun lane => lane.toNat < 32)
          popAll [.v128, .v128]
          push .v128
      | 0x54 | 0x55 | 0x56 | 0x57 | 0x58 | 0x59 | 0x5a | 0x5b => laneAccess code
      | _ => failure

end GuestGlue.Wasm.Code
