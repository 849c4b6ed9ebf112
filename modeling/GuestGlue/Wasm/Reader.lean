/-
Readers of a binary: numbers of variable length, names, vectors, and parts whose
length is written before them.  A reader that fails gives nothing; which fault
it met does not matter.
-/

namespace GuestGlue.Wasm

abbrev Bytes := List UInt8

abbrev Reader := StateT Bytes Option

namespace Reader

def byte : Reader UInt8 := fun bytes =>
  match bytes with
  | [] => none
  | first :: rest => some (first, rest)

def check (condition : Bool) : Reader Unit :=
  if condition then pure () else failure

def peek : Reader UInt8 := fun bytes =>
  match bytes with
  | [] => none
  | first :: _ => some (first, bytes)

def atEnd : Reader Bool := fun bytes => some (bytes.isEmpty, bytes)

def remaining : Reader Nat := fun bytes => some (bytes.length, bytes)

def take (count : Nat) : Reader Bytes := fun bytes =>
  let taken := bytes.take count
  if taken.length = count then some (taken, bytes.drop count) else none

def within {α : Type} (part : Bytes) (reader : Reader α) : Option α :=
  match reader part with
  | some (value, []) => some value
  | _ => none

/-! ### Numbers of variable length -/

/-- Groups of seven bits, the lowest first; only `lastBits` bits of the last
possible group are free. -/
def unsignedGroups (lastBits : Nat) : Nat → Reader Nat
  | 0 => failure
  | more + 1 => do
      let group := (← byte).toNat
      if group < 128 then
        check (more ≠ 0 || group < Nat.pow 2 lastBits)
        return group
      else
        return group - 128 + 128 * (← unsignedGroups lastBits more)

def u32 : Reader Nat := unsignedGroups 4 5

def u64 : Reader Nat := unsignedGroups 1 10

/-- In the last possible group the bits from the sign on are equal. -/
def isSigned (lastBits group : Nat) : Bool :=
  group < Nat.pow 2 (lastBits - 1) || 128 - Nat.pow 2 (lastBits - 1) ≤ group

def signedGroups (lastBits : Nat) : Nat → Reader Int
  | 0 => failure
  | more + 1 => do
      let group := (← byte).toNat
      if group < 128 then
        check (more ≠ 0 || isSigned lastBits group)
        return if group < 64 then (group : Int) else (group : Int) - 128
      else
        return ((group - 128 : Nat) : Int) + 128 * (← signedGroups lastBits more)

def s32 : Reader Int := signedGroups 4 5

def s33 : Reader Int := signedGroups 5 5

def s64 : Reader Int := signedGroups 1 10

/-! ### Compounds -/

def repeated {α : Type} (item : Reader α) : Nat → Reader (List α)
  | 0 => pure []
  | more + 1 => do
      let first ← item
      return first :: (← repeated item more)

def vector {α : Type} (item : Reader α) : Reader (List α) := do
  repeated item (← u32)

def vectorUpTo {α : Type} (limit : Nat) (item : Reader α) : Reader (List α) := do
  let count ← u32
  check (count ≤ limit)
  repeated item count

def demand {α : Type} (value : Option α) : Reader α := fun bytes =>
  value.map fun value => (value, bytes)

def sized : Reader Bytes := do
  take (← u32)

def nameLimit : Nat := 100000

def name : Reader String := do
  let bytes ← sized
  check (bytes.length ≤ nameLimit)
  match String.fromUTF8? ⟨bytes.toArray⟩ with
  | some text => return text
  | none => failure

end Reader

end GuestGlue.Wasm
