/-
Strings of a JSON text.  What was written of a string is read back from its escapes,
character by character; and a string takes the same characters whatever follows it.
-/

import GuestGlue.Json.Token
import GuestGlue.Json.Value

namespace GuestGlue.Json

/-! ### Strings that were written -/

/-- How a written character is read; a control that has no letter of its own is
written as a unit of UTF-16. -/
def pieceOf (character : Char) : Piece :=
  if character.toNat < 32 ∧ character ∉ ['\n', '\r', '\t', '\x08', '\x0c'] then
    .unit character.toNat
  else .char character

theorem hexValue_hexDigit : ∀ value < 16, hexValue (hexDigit value) = some value := by
  decide

theorem hexUnit_of_lt {value : Nat} (small : value < 32) :
    hexUnit '0' '0' (hexDigit (value / 16)) (hexDigit (value % 16)) = some value := by
  have high := hexValue_hexDigit (value / 16) (by omega)
  have low := hexValue_hexDigit (value % 16) (by omega)
  have zero : hexValue '0' = some 0 := by decide
  simp only [hexUnit, high, low, zero, Option.some.injEq]
  omega

theorem scanPieces_escapeChar (done : List Piece) (character : Char) (rest : List Char) :
    scanPieces done (escapeChar character ++ rest) = scanPieces (pieceOf character :: done) rest := by
  unfold escapeChar
  split
  case h_8 quote backslash newline carriage tab backspace feed =>
    split
    · next small =>
      have unit : pieceOf character = .unit character.toNat :=
        if_pos ⟨small, by simpa using ⟨newline, carriage, tab, backspace, feed⟩⟩
      simp only [List.cons_append, List.nil_append, scanPieces, hexUnit_of_lt small, unit]
    · next large =>
      have plain : pieceOf character = .char character := if_neg fun both => large both.1
      rw [List.singleton_append, scanPieces, if_neg large, plain]
      · exact quote
      · rintro _ _ _ _ _ same
        exact absurd same backslash
      · rintro _ _ same
        exact absurd same backslash
  all_goals
    simp [scanPieces, escaped, pieceOf]

theorem scanPieces_flatMap (done : List Piece) (characters after : List Char) :
    scanPieces done (characters.flatMap escapeChar ++ '"' :: after) =
      some (done.reverse ++ characters.map pieceOf, after) := by
  induction characters generalizing done with
  | nil => simp [scanPieces]
  | cons character rest ih =>
      rw [List.flatMap_cons, List.append_assoc, scanPieces_escapeChar, ih]
      simp

/-- A unit below the surrogates stands for itself, whatever follows. -/
theorem joinPieces_unit (done : List Char) {value : Nat} (small : value < 32) (rest : List Piece) :
    joinPieces done (.unit value :: rest) = joinPieces (Char.ofNat value :: done) rest := by
  have notHigh : isHighSurrogate value = false := by
    rw [isHighSurrogate, decide_eq_false (by omega), Bool.false_and]
  have notLow : isLowSurrogate value = false := by
    rw [isLowSurrogate, decide_eq_false (by omega), Bool.false_and]
  cases rest with
  | nil => simp [joinPieces, notHigh, notLow]
  | cons next rest => cases next <;> simp [joinPieces, notHigh, notLow]

theorem joinPieces_pieceOf (done characters : List Char) :
    joinPieces done (characters.map pieceOf) = some (done.reverse ++ characters) := by
  induction characters generalizing done with
  | nil => rw [List.map_nil, joinPieces, List.append_nil]
  | cons character rest ih =>
      have step : joinPieces done (pieceOf character :: rest.map pieceOf) =
          joinPieces (character :: done) (rest.map pieceOf) := by
        unfold pieceOf
        split
        · next small => rw [joinPieces_unit done small.1, Char.ofNat_toNat]
        · rw [joinPieces]
      rw [List.map_cons, step, ih]
      simp

theorem scanString_quoted (content : String) (after : List Char) :
    scanString (content.toList.flatMap escapeChar ++ '"' :: after) = some (some content, after) := by
  have joined : joinPieces [] (content.toList.map pieceOf) = some content.toList :=
    joinPieces_pieceOf [] content.toList
  rw [scanString, scanPieces_flatMap]
  simp only [List.reverse_nil, List.nil_append, Option.map_some, joined, String.ofList_toList]

/-! ### Strings by their characters -/

theorem scanPieces_prefix {done pieces : List Piece} {text after : List Char}
    (scanned : scanPieces done text = some (pieces, after)) :
    ∃ word, text = word ++ after ∧
      ∀ other, scanPieces done (word ++ other) = some (pieces, other) := by
  fun_induction scanPieces done text with
  | case1 => cases scanned
  | case2 done rest =>
    cases scanned
    exact ⟨['"'], rfl, fun other => rfl⟩
  | case3 => cases scanned
  | case4 done first second third fourth rest value unit ih =>
    obtain ⟨word, rfl, again⟩ := ih scanned
    refine ⟨'\\' :: 'u' :: first :: second :: third :: fourth :: word, rfl, fun other => ?_⟩
    simp only [List.cons_append, scanPieces, unit, again]
  | case5 => cases scanned
  | case6 done letter rest short character simple ih =>
    obtain ⟨word, rfl, again⟩ := ih scanned
    have notUnit : letter ≠ 'u' := by
      rintro rfl
      cases simple
    refine ⟨'\\' :: letter :: word, rfl, fun other => ?_⟩
    simp only [List.cons_append]
    rw [scanPieces]
    · simp only [simple, again]
    · rintro _ _ _ _ _ ⟨⟩
      exact absurd rfl notUnit
  | case7 => cases scanned
  | case8 done character rest notQuote notUnit notEscape large ih =>
    obtain ⟨word, rfl, again⟩ := ih scanned
    have plain : character ≠ '\\' := by
      rintro rfl
      cases whole : word ++ after with
      | nil =>
        rw [whole] at scanned
        cases scanned
      | cons letter rest => exact notEscape letter rest rfl whole
    refine ⟨character :: word, rfl, fun other => ?_⟩
    rw [List.cons_append, scanPieces, if_neg large, again]
    · exact notQuote
    · rintro _ _ _ _ _ same
      exact absurd same plain
    · rintro _ _ same
      exact absurd same plain

theorem scanString_prefix {text after : List Char} {content : Option String}
    (scanned : scanString text = some (content, after)) :
    ∃ word, text = word ++ after ∧
      ∀ other, scanString (word ++ other) = some (content, other) := by
  unfold scanString at scanned
  cases pieces : scanPieces [] text with
  | none =>
      rw [pieces] at scanned
      cases scanned
  | some read =>
      rw [pieces] at scanned
      cases scanned
      obtain ⟨word, split, again⟩ := scanPieces_prefix pieces
      refine ⟨word, split, fun other => ?_⟩
      rw [scanString, again]
      rfl

end GuestGlue.Json
