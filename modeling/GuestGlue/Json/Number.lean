/-
Numbers of a JSON text.  A literal keeps the digits as they stand; its value is
a natural number or a negative integer where a word of 64 bits holds it, and
else a binary64 number, taken from the digits that fit a word and a power of
ten.  A literal beyond the largest binary64 number has no value.
-/

namespace GuestGlue.Json

structure NumberLiteral where
  negative : Bool
  whole : List Char
  fraction : Option (List Char)
  exponent : Option (Bool × List Char)
  deriving DecidableEq, Repr

inductive Number where
  | natural (value : Nat)
  | negative (magnitude : Nat)
  | real (value : Float)

/-! ### Grammar -/

def isWholePart (digits : List Char) : Bool :=
  match digits with
  | [] => false
  | '0' :: rest => rest.isEmpty
  | _ => true

def scanSign : List Char → Bool × List Char
  | '-' :: rest => (true, rest)
  | text => (false, text)

def scanFraction : List Char → Option (Option (List Char) × List Char)
  | '.' :: rest =>
      let digits := rest.takeWhile Char.isDigit
      if digits.isEmpty then none else some (some digits, rest.dropWhile Char.isDigit)
  | text => some (none, text)

def scanExponentSign : List Char → Bool × List Char
  | '-' :: rest => (true, rest)
  | '+' :: rest => (false, rest)
  | text => (false, text)

def scanExponent : List Char → Option (Option (Bool × List Char) × List Char)
  | [] => some (none, [])
  | mark :: rest =>
      if mark = 'e' ∨ mark = 'E' then
        let (negative, rest) := scanExponentSign rest
        let digits := rest.takeWhile Char.isDigit
        if digits.isEmpty then none
        else some (some (negative, digits), rest.dropWhile Char.isDigit)
      else some (none, mark :: rest)

def scanNumber (text : List Char) : Option (NumberLiteral × List Char) :=
  let (negative, text) := scanSign text
  let whole := text.takeWhile Char.isDigit
  if isWholePart whole then
    match scanFraction (text.dropWhile Char.isDigit) with
    | none => none
    | some (fraction, text) =>
        match scanExponent text with
        | none => none
        | some (exponent, text) => some (⟨negative, whole, fraction, exponent⟩, text)
  else none

theorem takeWhile_length_add (accepts : Char → Bool) (text : List Char) :
    (text.takeWhile accepts).length + (text.dropWhile accepts).length = text.length := by
  rw [← List.length_append, List.takeWhile_append_dropWhile]

private theorem scanSign_length (text : List Char) :
    (scanSign text).2.length ≤ text.length := by
  unfold scanSign
  split <;> simp

private theorem scanFraction_length {text after : List Char} {digits : Option (List Char)}
    (scanned : scanFraction text = some (digits, after)) : after.length ≤ text.length := by
  unfold scanFraction at scanned
  split at scanned
  · next rest =>
    have lengths := takeWhile_length_add Char.isDigit rest
    simp only at scanned
    split at scanned
    · cases scanned
    · cases scanned
      simp only [List.length_cons]
      omega
  · cases scanned; exact Nat.le_refl _

private theorem scanExponentSign_length (text : List Char) :
    (scanExponentSign text).2.length ≤ text.length := by
  unfold scanExponentSign
  split <;> simp

private theorem scanExponent_length {text after : List Char} {digits : Option (Bool × List Char)}
    (scanned : scanExponent text = some (digits, after)) : after.length ≤ text.length := by
  unfold scanExponent at scanned
  split at scanned
  · cases scanned; exact Nat.le_refl _
  · next mark rest =>
    split at scanned
    · have lengths := takeWhile_length_add Char.isDigit (scanExponentSign rest).2
      have sign := scanExponentSign_length rest
      simp only at scanned
      split at scanned
      · cases scanned
      · cases scanned
        simp only [List.length_cons]
        omega
    · cases scanned; exact Nat.le_refl _

theorem scanNumber_length {text after : List Char} {number : NumberLiteral}
    (scanned : scanNumber text = some (number, after)) : after.length < text.length := by
  unfold scanNumber at scanned
  have sign := scanSign_length text
  have lengths := takeWhile_length_add Char.isDigit (scanSign text).2
  simp only at scanned
  split at scanned
  · next whole =>
    have positive : 0 < ((scanSign text).2.takeWhile Char.isDigit).length := by
      cases digits : (scanSign text).2.takeWhile Char.isDigit with
      | nil => rw [digits] at whole; cases whole
      | cons => simp
    split at scanned
    · cases scanned
    · next fraction rest scannedFraction =>
      have fractionLength := scanFraction_length scannedFraction
      split at scanned
      · cases scanned
      · next exponent after scannedExponent =>
        have exponentLength := scanExponent_length scannedExponent
        cases scanned
        omega
  · cases scanned

/-! ### Value -/

def wordLimit : Nat := 0x10000000000000000

def exponentLimit : Int := 0x80000000

def digitValue (digit : Char) : Nat :=
  digit.toNat - '0'.toNat

/-- Takes digits into a word until the next one would not fit; gives the word
and the number of digits left over. -/
def takeDigits (word : Nat) : List Char → Nat × Nat
  | [] => (word, 0)
  | digit :: rest =>
      let longer := word * 10 + digitValue digit
      if longer < wordLimit then takeDigits longer rest
      else (word, rest.length + 1)

/-- `significand · 10 ^ exponent`, or nothing if it is too large.  Negative
powers beyond the largest power of ten are taken in steps. -/
def scale (significand : Nat) (exponent : Int) : Option Float :=
  let base := Float.ofNat significand
  if 0 ≤ exponent then
    if significand = 0 then some 0.0
    else if 308 < exponent then none
    else
      let scaled := base * Float.ofScientific 1 false exponent.toNat
      if scaled.isInf then none else some scaled
  else
    let steps := (-exponent).toNat
    let divide (value : Float) (power : Nat) : Float := value / Float.ofScientific 1 false power
    let whole := steps / 308
    let rest := steps % 308
    if 4 < whole then some 0.0
    else if rest = 0 then
      some (divide ((List.replicate (whole - 1) 308).foldl divide base) 308)
    else some (divide ((List.replicate whole 308).foldl divide base) rest)

def NumberLiteral.exponentValue (literal : NumberLiteral) : Int :=
  match literal.exponent with
  | none => 0
  | some (negative, digits) =>
      let magnitude := digits.foldl (fun sum digit => sum * 10 + digitValue digit) 0
      if negative then -(magnitude : Int) else magnitude

def NumberLiteral.magnitude? (literal : NumberLiteral) : Option Float :=
  let (word, dropped) := takeDigits 0 literal.whole
  let digits := literal.fraction.getD []
  let (word, ignored) := takeDigits word digits
  let taken := digits.length - ignored
  let exponent := literal.exponentValue
  let zeroOr (value : Option Float) : Option Float := if word = 0 then some 0.0 else value
  if exponentLimit ≤ exponent then zeroOr none
  else if exponent ≤ -exponentLimit then some 0.0
  else zeroOr (scale word (dropped - taken + exponent))

def NumberLiteral.value? (literal : NumberLiteral) : Option Number :=
  let (word, dropped) := takeDigits 0 literal.whole
  let integral := literal.fraction.isNone && literal.exponent.isNone && dropped == 0
  if integral && !literal.negative then some (.natural word)
  else if integral && 0 < word && word ≤ wordLimit / 2 then some (.negative word)
  else
    literal.magnitude?.map fun value => .real (if literal.negative then -value else value)

end GuestGlue.Json
