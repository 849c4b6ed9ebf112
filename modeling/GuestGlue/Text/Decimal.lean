/-
Binary64 numbers as decimal text.  A number is written with the fewest digits
that read back as the number, the nearest such decimal where there are two.
The point is written where sixteen digits before it or four zeros after it are
enough; otherwise the number has an exponent.
-/

namespace GuestGlue.Text

structure Binary where
  significand : Nat
  exponent : Int

structure Decimal where
  significand : Nat
  exponent : Int

def fullSignificand : Nat := 0x10000000000000

def signBit : Nat := 0x8000000000000000

def Binary.ofBits (bits : Nat) : Binary :=
  let fraction := bits % fullSignificand
  let exponent : Nat := bits / fullSignificand % 0x800
  if exponent = 0 then ⟨fraction, -1074⟩ else ⟨fullSignificand + fraction, (exponent : Int) - 1075⟩

/-- The numbers that read back as a number: those between `low / unit` and
`high / unit`, with the ends if `closed`. -/
structure Interval where
  low : Nat
  middle : Nat
  high : Nat
  unit : Nat
  closed : Bool

def Binary.interval (binary : Binary) : Interval :=
  let scale := Nat.pow 2 (binary.exponent - 2).toNat
  let below := if binary.significand = fullSignificand && -1074 < binary.exponent then 1 else 2
  { low := (4 * binary.significand - below) * scale
    middle := 4 * binary.significand * scale
    high := (4 * binary.significand + 2) * scale
    unit := Nat.pow 2 (2 - binary.exponent).toNat
    closed := binary.significand % 2 = 0 }

def Interval.holds (interval : Interval) (value : Nat) : Bool :=
  if interval.closed then interval.low ≤ value && value ≤ interval.high
  else interval.low < value && value < interval.high

/-- The multiple of a power of ten that lies in the interval nearest to its
middle, if one does. -/
def Interval.onGrid (interval : Interval) (exponent : Int) : Option Decimal :=
  let up := Nat.pow 10 (-exponent).toNat
  let step := interval.unit * Nat.pow 10 exponent.toNat
  let scaled : Interval :=
    { interval with
      low := interval.low * up
      middle := interval.middle * up
      high := interval.high * up }
  let below := scaled.middle / step
  let above := below + 1
  let lowHit := scaled.holds (below * step)
  let highHit := scaled.holds (above * step)
  let lowDistance := scaled.middle - below * step
  let highDistance := above * step - scaled.middle
  let lowNearer :=
    lowDistance < highDistance || (lowDistance = highDistance && below % 2 = 0)
  if lowHit && (!highHit || lowNearer) then some ⟨below, exponent⟩
  else if highHit then some ⟨above, exponent⟩
  else none

def Binary.shortest (binary : Binary) : Decimal :=
  let interval := binary.interval
  ((List.range 660).findSome? fun (index : Nat) => interval.onGrid (309 - (index : Int))).getD ⟨0, 0⟩

def Decimal.text (decimal : Decimal) : String :=
  let digits := Nat.toDigits 10 decimal.significand
  let count : Int := digits.length
  let position := count + decimal.exponent
  let chars :=
    if 0 ≤ decimal.exponent && position ≤ 16 then
      digits ++ List.replicate decimal.exponent.toNat '0' ++ ['.', '0']
    else if 0 < position && position ≤ 16 then
      digits.take position.toNat ++ '.' :: digits.drop position.toNat
    else if -5 < position && position ≤ 0 then
      '0' :: '.' :: (List.replicate (-position).toNat '0' ++ digits)
    else
      let exponent :=
        if position < 1 then '-' :: Nat.toDigits 10 (1 - position).toNat
        else '+' :: Nat.toDigits 10 (position - 1).toNat
      match digits with
      | [digit] => digit :: 'e' :: exponent
      | digit :: rest => digit :: '.' :: (rest ++ 'e' :: exponent)
      | [] => []
  String.ofList chars

def realText (value : Float) : String :=
  let bits := value.toBits.toNat
  let magnitude :=
    if bits % signBit = 0 then "0.0" else (Binary.ofBits (bits % signBit)).shortest.text
  if bits < signBit then magnitude else "-" ++ magnitude

end GuestGlue.Text
