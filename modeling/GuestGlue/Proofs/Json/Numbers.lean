/-
Numbers of a JSON text.  A number takes the same characters whatever follows it, as long
as that does not start with something that belongs to a number; so the decimal form of a
natural number is read as it was written.
-/

import GuestGlue.Json.Number
import GuestGlue.Json.Value
import Mathlib.Data.Nat.Digits.Defs

namespace GuestGlue.Json

def EndsNumber (text : List Char) : Prop :=
  ∀ character ∈ text.head?, character.isDigit = false ∧ character ≠ '.' ∧
    character ≠ 'e' ∧ character ≠ 'E'

theorem isDigit_of_mem_takeWhile (text : List Char) :
    ∀ character ∈ text.takeWhile Char.isDigit, character.isDigit = true :=
  List.all_eq_true.mp List.all_takeWhile

theorem splitDigits_append {digits other : List Char}
    (areDigits : ∀ character ∈ digits, character.isDigit = true)
    (ends : ∀ character ∈ other.head?, character.isDigit = false) :
    (digits ++ other).takeWhile Char.isDigit = digits ∧
      (digits ++ other).dropWhile Char.isDigit = other := by
  rw [List.takeWhile_append_of_pos areDigits, List.dropWhile_append_of_pos areDigits]
  cases other with
  | nil => simp
  | cons first rest => simp [ends first rfl]

theorem head_isDigit {digits : List Char} (areDigits : ∀ character ∈ digits, character.isDigit = true)
    (present : digits ≠ []) (other : List Char) :
    ∀ character ∈ (digits ++ other).head?, character.isDigit = true := by
  cases digits with
  | nil => exact absurd rfl present
  | cons digit digits =>
      rintro _ ⟨⟩
      exact areDigits digit List.mem_cons_self

/-! ### Parts of a number -/

theorem scanSign_of_ne {text : List Char} (unsigned : ∀ character ∈ text.head?, character ≠ '-') :
    scanSign text = (false, text) := by
  unfold scanSign
  split
  · exact absurd rfl (unsigned '-' rfl)
  · rfl

theorem ne_minus_of_isDigit {text : List Char}
    (digit : ∀ character ∈ text.head?, character.isDigit = true) :
    ∀ character ∈ text.head?, character ≠ '-' := by
  rintro character first rfl
  exact absurd (digit '-' first) (by decide)

theorem scanSign_prefix (text : List Char) :
    ∃ word, text = word ++ (scanSign text).2 ∧
      ∀ other, (∀ character ∈ other.head?, character.isDigit = true) →
        scanSign (word ++ other) = ((scanSign text).1, other) := by
  unfold scanSign
  split
  · exact ⟨['-'], rfl, fun _ _ => rfl⟩
  · exact ⟨[], rfl, fun other starts => scanSign_of_ne (ne_minus_of_isDigit starts)⟩

theorem scanFraction_of_ends {text : List Char} (ends : ∀ character ∈ text.head?, character ≠ '.') :
    scanFraction text = some (none, text) := by
  unfold scanFraction
  split
  · exact absurd rfl (ends '.' rfl)
  · rfl

theorem scanFraction_prefix {text after : List Char} {fraction : Option (List Char)}
    (scanned : scanFraction text = some (fraction, after)) :
    ∃ word, text = word ++ after ∧ (∀ first ∈ word.head?, first = '.') ∧
      ∀ other, (∀ character ∈ other.head?, character.isDigit = false ∧ character ≠ '.') →
        scanFraction (word ++ other) = some (fraction, other) := by
  unfold scanFraction at scanned
  split at scanned
  · next rest =>
    simp only at scanned
    split at scanned
    · cases scanned
    · next digits =>
      cases scanned
      refine ⟨'.' :: rest.takeWhile Char.isDigit, ?_, ?_, fun other ends => ?_⟩
      · rw [List.cons_append, List.takeWhile_append_dropWhile]
      · rintro _ ⟨⟩
        rfl
      · obtain ⟨taken, dropped⟩ := splitDigits_append (isDigit_of_mem_takeWhile rest)
          fun character first => (ends character first).1
        simp only [List.cons_append, scanFraction, taken, dropped, if_neg digits]
  · cases scanned
    exact ⟨[], rfl, nofun, fun other ends => scanFraction_of_ends fun character first =>
      (ends character first).2⟩

theorem scanExponentSign_prefix (text : List Char) :
    ∃ word, text = word ++ (scanExponentSign text).2 ∧
      ∀ other, (∀ character ∈ other.head?, character.isDigit = true) →
        scanExponentSign (word ++ other) = ((scanExponentSign text).1, other) := by
  unfold scanExponentSign
  split
  · exact ⟨['-'], rfl, fun _ _ => rfl⟩
  · exact ⟨['+'], rfl, fun _ _ => rfl⟩
  · refine ⟨[], rfl, fun other starts => ?_⟩
    rw [List.nil_append]
    split
    · exact absurd (starts '-' rfl) (by decide)
    · exact absurd (starts '+' rfl) (by decide)
    · rfl

theorem scanExponent_of_ends {text : List Char} (ends : EndsNumber text) :
    scanExponent text = some (none, text) := by
  cases text with
  | nil => rfl
  | cons first rest =>
      obtain ⟨_, _, small, capital⟩ := ends first rfl
      rw [scanExponent, if_neg (not_or.mpr ⟨small, capital⟩)]

theorem scanExponent_prefix {text after : List Char} {exponent : Option (Bool × List Char)}
    (scanned : scanExponent text = some (exponent, after)) :
    ∃ word, text = word ++ after ∧ (∀ first ∈ word.head?, first = 'e' ∨ first = 'E') ∧
      ∀ other, EndsNumber other → scanExponent (word ++ other) = some (exponent, other) := by
  cases text with
  | nil =>
      cases scanned
      exact ⟨[], rfl, nofun, fun other => scanExponent_of_ends⟩
  | cons mark rest =>
      by_cases marks : mark = 'e' ∨ mark = 'E'
      · rw [scanExponent, if_pos marks] at scanned
        simp only at scanned
        split at scanned
        · cases scanned
        · next digits =>
          cases scanned
          obtain ⟨sign, split, again⟩ := scanExponentSign_prefix rest
          have areDigits := isDigit_of_mem_takeWhile (scanExponentSign rest).2
          have present : (scanExponentSign rest).2.takeWhile Char.isDigit ≠ [] := by
            simpa using digits
          refine ⟨mark :: (sign ++ (scanExponentSign rest).2.takeWhile Char.isDigit), ?_, ?_,
            fun other ends => ?_⟩
          · rw [List.cons_append, List.append_assoc, List.takeWhile_append_dropWhile, ← split]
          · rintro _ ⟨⟩
            exact marks
          · obtain ⟨taken, dropped⟩ := splitDigits_append areDigits
              fun character first => (ends character first).1
            rw [List.cons_append, List.append_assoc, scanExponent, if_pos marks,
              again _ (head_isDigit areDigits present other)]
            simp only [taken, dropped, if_neg digits]
      · rw [scanExponent, if_neg marks] at scanned
        cases scanned
        exact ⟨[], rfl, nofun, fun other => scanExponent_of_ends⟩

/-! ### Numbers -/

theorem scanNumber_prefix {text after : List Char} {literal : NumberLiteral}
    (scanned : scanNumber text = some (literal, after)) :
    ∃ word, text = word ++ after ∧
      ∀ other, EndsNumber other → scanNumber (word ++ other) = some (literal, other) := by
  obtain ⟨sign, signSplit, signAgain⟩ := scanSign_prefix text
  unfold scanNumber at scanned
  simp only at scanned
  split at scanned
  · next whole =>
    split at scanned
    · cases scanned
    · next fraction rest scannedFraction =>
      split at scanned
      · cases scanned
      · next exponent last scannedExponent =>
        cases scanned
        obtain ⟨fractionWord, fractionSplit, point, fractionAgain⟩ :=
          scanFraction_prefix scannedFraction
        obtain ⟨exponentWord, exponentSplit, mark, exponentAgain⟩ :=
          scanExponent_prefix scannedExponent
        have areDigits := isDigit_of_mem_takeWhile (scanSign text).2
        have present : (scanSign text).2.takeWhile Char.isDigit ≠ [] := by
          intro none
          rw [none] at whole
          cases whole
        refine ⟨sign ++ ((scanSign text).2.takeWhile Char.isDigit ++ (fractionWord ++ exponentWord)),
          ?_, fun other ends => ?_⟩
        · simp only [List.append_assoc, ← exponentSplit, ← fractionSplit,
            List.takeWhile_append_dropWhile, ← signSplit]
        · -- what follows each part starts with nothing that the part could take
          have endsFraction : ∀ character ∈ (exponentWord ++ other).head?,
              character.isDigit = false ∧ character ≠ '.' := by
            intro character first
            cases exponentWord with
            | nil => exact ⟨(ends character first).1, (ends character first).2.1⟩
            | cons letter letters =>
                cases first
                rcases mark _ rfl with rfl | rfl <;> decide
          have endsWhole : ∀ character ∈ (fractionWord ++ (exponentWord ++ other)).head?,
              character.isDigit = false := by
            intro character first
            cases fractionWord with
            | nil => exact (endsFraction character first).1
            | cons letter letters =>
                cases first
                cases point _ rfl
                decide
          obtain ⟨taken, dropped⟩ := splitDigits_append areDigits endsWhole
          have signed := signAgain _
            (head_isDigit areDigits present (fractionWord ++ (exponentWord ++ other)))
          simp only [List.append_assoc, scanNumber, signed, taken, dropped, whole, if_true,
            fractionAgain _ endsFraction, exponentAgain _ ends]
  · cases scanned

theorem startsNumber_of_scanNumber {first : Char} {rest after : List Char} {literal : NumberLiteral}
    (scanned : scanNumber (first :: rest) = some (literal, after)) :
    first = '-' ∨ first.isDigit = true := by
  by_cases minus : first = '-'
  · exact Or.inl minus
  · right
    have unsigned : scanSign (first :: rest) = (false, first :: rest) := by
      apply scanSign_of_ne
      rintro _ ⟨⟩
      exact minus
    by_contra other
    rw [scanNumber, unsigned] at scanned
    simp only [List.takeWhile_cons_of_neg other] at scanned
    cases scanned

/-! ### Decimal forms -/

theorem decimal_head_ne_zero {value : Nat} (positive : 0 < value) :
    (decimal value).head? ≠ some '0' := by
  induction value using Nat.strongRecOn with
  | ind value ih =>
      rw [decimal, Nat.toDigits_eq_if (by decide)]
      split
      · next small =>
        have digits : ∀ digit < 10, 0 < digit → [Nat.digitChar digit].head? ≠ some '0' := by decide
        exact digits value small positive
      · have front := ih (value / 10) (by omega) (by omega)
        rw [decimal] at front
        obtain ⟨first, rest, digits⟩ := List.exists_cons_of_ne_nil
          (Nat.toDigits_ne_nil (n := value / 10) (b := 10))
        rw [digits] at front ⊢
        exact front

theorem isWholePart_decimal (value : Nat) : isWholePart (decimal value) = true := by
  cases value with
  | zero => decide
  | succ value =>
      have notZero := decimal_head_ne_zero (Nat.succ_pos value)
      unfold isWholePart
      split
      · next empty => exact absurd empty Nat.toDigits_ne_nil
      · next rest found =>
        rw [found] at notZero
        exact absurd rfl notZero
      · rfl

theorem isDigit_of_mem_decimal {value : Nat} {character : Char} (member : character ∈ decimal value) :
    character.isDigit = true :=
  Nat.isDigit_of_mem_toDigits (by decide) (by decide) member

theorem scanNumber_decimal (value : Nat) {after : List Char} (ends : EndsNumber after) :
    scanNumber (decimal value ++ after) = some (⟨false, decimal value, none, none⟩, after) := by
  have areDigits : ∀ character ∈ decimal value, character.isDigit = true :=
    fun _ => isDigit_of_mem_decimal
  obtain ⟨taken, dropped⟩ := splitDigits_append areDigits
    fun character first => (ends character first).1
  have unsigned : scanSign (decimal value ++ after) = (false, decimal value ++ after) :=
    scanSign_of_ne (ne_minus_of_isDigit (head_isDigit areDigits Nat.toDigits_ne_nil after))
  have noFraction : scanFraction after = some (none, after) :=
    scanFraction_of_ends fun character first => (ends character first).2.1
  rw [scanNumber, unsigned]
  simp only [taken, dropped, isWholePart_decimal, if_true, noFraction, scanExponent_of_ends ends]

/-! ### Values -/

/-- Digits before a word are worth at most what the whole of them is worth. -/
theorem le_ofDigitChars (word : Nat) (digits : List Char) :
    word ≤ Nat.ofDigitChars 10 digits word := by
  induction digits generalizing word with
  | nil => rw [Nat.ofDigitChars_nil]
  | cons digit digits ih =>
      have later := ih (10 * word + (digit.toNat - '0'.toNat))
      rw [Nat.ofDigitChars_cons]
      omega

theorem takeDigits_of_fits {digits : List Char} {word : Nat}
    (fits : Nat.ofDigitChars 10 digits word < wordLimit) :
    takeDigits word digits = (Nat.ofDigitChars 10 digits word, 0) := by
  induction digits generalizing word with
  | nil => rw [takeDigits, Nat.ofDigitChars_nil]
  | cons digit digits ih =>
      have same : word * 10 + digitValue digit = 10 * word + (digit.toNat - '0'.toNat) := by
        rw [digitValue, Nat.mul_comm]
      rw [Nat.ofDigitChars_cons] at fits ⊢
      have next := le_ofDigitChars (10 * word + (digit.toNat - '0'.toNat)) digits
      rw [takeDigits, same, if_pos (Nat.lt_of_le_of_lt next fits), ih fits]

theorem value_decimal {value : Nat} (fits : value < wordLimit) :
    NumberLiteral.value? ⟨false, decimal value, none, none⟩ = some (.natural value) := by
  have worth : Nat.ofDigitChars 10 (decimal value) 0 = value := Nat.ofDigitChars_ten_toDigits
  have taken : takeDigits 0 (decimal value) = (value, 0) := by
    rw [takeDigits_of_fits (worth.symm ▸ fits), worth]
  simp [NumberLiteral.value?, taken]

end GuestGlue.Json
