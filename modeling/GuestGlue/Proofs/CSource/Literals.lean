/-
String literals of C and their values.  A literal is read with every escape as long as
it can be, so a digit behind an octal escape might have become a part of it.  It never
does: the literal of a text is read to its end and not further, and stands for the bytes
of the text.
-/

import GuestGlue.CSource.StringLiteral
import GuestGlue.Proofs.Text.ByteOrder

namespace GuestGlue.CSource

/-! ### Reading -/

def isOctalDigit (character : Char) : Bool :=
  '0' ≤ character && character ≤ '7'

/-- The octal digits at the start of a text, as many as there are up to three. -/
def octalDigits (text : List Char) : List Char :=
  (text.take 3).takeWhile isOctalDigit

def octalValue (digits : List Char) : Nat :=
  digits.foldl (fun value digit => 8 * value + (digit.toNat - 48)) 0

def escapedByte? : Char → Option UInt8
  | '"' => some 34
  | '\\' => some 92
  | 'n' => some 10
  | 'r' => some 13
  | 't' => some 9
  | _ => none

/-- The byte of an escape, read behind the backslash, and how many characters name it. -/
def readEscape? (text : List Char) : Option (UInt8 × Nat) :=
  match octalDigits text with
  | [] => (text.head?.bind escapedByte?).map (·, 1)
  | digits =>
      if octalValue digits < 256 then some (.ofNat (octalValue digits), digits.length) else none

/-- The bytes up to the quote that ends a literal, and what follows that quote.  No
literal goes beyond the end of its line. -/
def readBytes? (text : List Char) : Option (List UInt8 × List Char) :=
  match text with
  | [] => none
  | character :: rest =>
      if character = '"' then some ([], rest)
      else if character = '\n' then none
      else if character = '\\' then
        match readEscape? rest with
        | none => none
        | some (byte, size) =>
            (readBytes? (rest.drop size)).map fun (bytes, rest) => (byte :: bytes, rest)
      else
        (readBytes? rest).map fun (bytes, rest) =>
          (String.utf8EncodeChar character ++ bytes, rest)
termination_by text.length

/-- The value of the literal at the start of a text, and what follows the literal. -/
def readLiteral? (text : String) : Option (List UInt8 × String) :=
  match text.toList with
  | '"' :: rest => (readBytes? rest).map fun (bytes, rest) => (bytes, String.ofList rest)
  | _ => none

/-! ### Reading what was written -/

/-- The piece is read as these bytes, and what follows it as if it stood alone. -/
def Yields (piece : List Char) (bytes : List UInt8) : Prop :=
  ∀ following, readBytes? (piece ++ following) =
    (readBytes? following).map fun (later, rest) => (bytes ++ later, rest)

theorem Yields.nothing : Yields [] [] := by
  intro following
  cases found : readBytes? following <;> rw [List.nil_append, found] <;> rfl

theorem Yields.append {first second : List Char} {earlier later : List UInt8}
    (readFirst : Yields first earlier) (readSecond : Yields second later) :
    Yields (first ++ second) (earlier ++ later) := by
  intro following
  rw [List.append_assoc, readFirst, readSecond, Option.map_map]
  simp only [Function.comp_def, List.append_assoc]

theorem Yields.flatMap {α : Type} {piece : α → List Char} {bytes : α → List UInt8}
    {items : List α} (read : ∀ item ∈ items, Yields (piece item) (bytes item)) :
    Yields (items.flatMap piece) (items.flatMap bytes) := by
  induction items with
  | nil => exact Yields.nothing
  | cons item rest ih =>
      obtain ⟨here, later⟩ := List.forall_mem_cons.mp read
      exact here.append (ih later)

/-- An escape is read if its characters are, whatever follows them. -/
theorem Yields.escape {named : List Char} {byte : UInt8}
    (read : ∀ following, readEscape? (named ++ following) = some (byte, named.length)) :
    Yields ('\\' :: named) [byte] := by
  intro following
  rw [List.cons_append, readBytes?]
  simp [read]

theorem isOctalDigit_octalDigit (value : Nat) : isOctalDigit (octalDigit value) = true := by
  have small : ∀ digit < 8, isOctalDigit (Char.ofNat (48 + digit)) = true := by decide
  exact small (value % 8) (Nat.mod_lt value (by decide))

theorem toNat_octalDigit (value : Nat) : (octalDigit value).toNat - 48 = value % 8 := by
  have small : ∀ digit < 8, (Char.ofNat (48 + digit)).toNat - 48 = digit := by decide
  exact small (value % 8) (Nat.mod_lt value (by decide))

/-- Three octal digits are as many as an escape can have, so no digit behind them is read. -/
theorem octalEscape_yields (byte : UInt8) : Yields (octalEscape byte) [byte] := by
  refine Yields.escape fun following => ?_
  have value : octalValue (octalEscape byte).tail = byte.toNat := by
    have bound := byte.toNat_lt
    simp only [octalEscape, List.tail_cons, octalValue, List.foldl, toNat_octalDigit]
    omega
  simp only [octalEscape, List.tail_cons] at value
  simp [readEscape?, octalDigits, isOctalDigit_octalDigit, value, byte.toNat_lt]

theorem literalChar_yields (character : Char) :
    Yields (literalChar character) (String.utf8EncodeChar character) := by
  unfold literalChar
  split
  case h_1 | h_2 | h_3 | h_4 | h_5 => exact Yields.escape fun following => rfl
  case h_6 notQuote notBackslash notNewline _ _ =>
    split
    · have read : Yields ((String.utf8EncodeChar character).flatMap octalEscape)
          ((String.utf8EncodeChar character).flatMap fun byte => [byte]) :=
        Yields.flatMap fun byte _ => octalEscape_yields byte
      rwa [List.flatMap_singleton'] at read
    · intro following
      rw [List.singleton_append, readBytes?, if_neg notQuote, if_neg notNewline, if_neg notBackslash]

theorem readLiteral?_stringLiteral (text following : String) :
    readLiteral? (stringLiteral text ++ following) = some (utf8Bytes text, following) := by
  have read : Yields (text.toList.flatMap literalChar) (utf8Bytes text) := by
    rw [utf8Bytes_eq]
    exact Yields.flatMap fun character _ => literalChar_yields character
  have ended (rest : List Char) : readBytes? ('"' :: rest) = some ([], rest) := by
    rw [readBytes?, if_pos rfl]
  have characters : (stringLiteral text ++ following).toList =
      '"' :: (text.toList.flatMap literalChar ++ '"' :: following.toList) := by
    simp [stringLiteral, literalChars]
  simp [readLiteral?, characters, read _, ended]

/-! ### Control characters -/

/-- The controls in a text: characters below the blank, and those from delete to 159. -/
def controls (text : String) : List Char :=
  text.toList.filter fun character =>
    character.toNat ≤ 0x1F ∨ (0x7F ≤ character.toNat ∧ character.toNat ≤ 0x9F)

theorem controls_append (first second : String) :
    controls (first ++ second) = controls first ++ controls second := by
  rw [controls, String.toList_append, List.filter_append]
  rfl

theorem controls_eq_nil_iff {text : String} :
    controls text = [] ↔ ∀ character ∈ text.toList, isControl character = false := by
  rw [controls, List.filter_eq_nil_iff]
  refine forall₂_congr fun character _ => ?_
  simp only [isControl, decide_eq_true_eq, Bool.or_eq_false_iff, Bool.and_eq_false_iff,
    decide_eq_false_iff_not]
  omega

theorem isControl_octalDigit (value : Nat) : isControl (octalDigit value) = false := by
  have small : ∀ digit < 8, isControl (Char.ofNat (48 + digit)) = false := by decide
  exact small (value % 8) (Nat.mod_lt value (by decide))

theorem isControl_octalEscape (byte : UInt8) :
    ∀ written ∈ octalEscape byte, isControl written = false := by
  have backslash : isControl '\\' = false := by decide
  simp [octalEscape, isControl_octalDigit, backslash]

theorem isControl_literalChar (character : Char) :
    ∀ written ∈ literalChar character, isControl written = false := by
  unfold literalChar
  split
  case h_1 | h_2 | h_3 | h_4 | h_5 => simp [isControl]
  case h_6 =>
    split
    · exact List.forall_mem_flatMap.mpr fun byte _ => isControl_octalEscape byte
    · next harmless => exact List.forall_mem_singleton.mpr (by simpa using harmless)

theorem controls_stringLiteral (text : String) : controls (stringLiteral text) = [] := by
  rw [controls_eq_nil_iff, stringLiteral, String.toList_ofList, literalChars,
    List.forall_mem_cons, List.forall_mem_append]
  refine ⟨by decide, ?_, List.forall_mem_singleton.mpr (by decide)⟩
  exact List.forall_mem_flatMap.mpr fun character _ => isControl_literalChar character

/-! ### Literals -/

theorem utf8Bytes_inj {text other : String} : utf8Bytes text = utf8Bytes other ↔ text = other := by
  rw [utf8Bytes, utf8Bytes, Array.toList_inj, ← ByteArray.ext_iff]
  exact String.toByteArray_inj

/-- A literal is read to its end and not further, whatever follows it, and holds no
control character.  So a text has a literal of its own, which no other one starts with. -/
theorem stringLiteral_reads (text : String) :
    (∀ following, readLiteral? (stringLiteral text ++ following) =
        some (utf8Bytes text, following)) ∧
      controls (stringLiteral text) = [] ∧
      (∀ other, stringLiteral text = stringLiteral other ↔ text = other) ∧
      ∀ other following otherFollowing,
        stringLiteral text ++ following = stringLiteral other ++ otherFollowing ↔
          text = other ∧ following = otherFollowing := by
  have apart (other following otherFollowing : String) :
      stringLiteral text ++ following = stringLiteral other ++ otherFollowing ↔
        text = other ∧ following = otherFollowing := by
    refine ⟨fun same => ?_, fun ⟨sameText, sameRest⟩ => sameText ▸ sameRest ▸ rfl⟩
    have read := congrArg readLiteral? same
    rw [readLiteral?_stringLiteral, readLiteral?_stringLiteral, Option.some.injEq,
      Prod.mk.injEq, utf8Bytes_inj] at read
    exact read
  refine ⟨readLiteral?_stringLiteral text, controls_stringLiteral text, fun other => ?_, apart⟩
  have whole := apart other "" ""
  rwa [String.append_empty, String.append_empty, and_iff_left rfl] at whole

/-- The digit behind the escape is not read as a part of it. -/
example : readLiteral? (stringLiteral "\x011" ++ ";") = some ([1, 49], ";") := by cbv

end GuestGlue.CSource
