/-
Tokens of a JSON text.  A text that is no JSON has its tokens too, up to the
first character that starts none; there the last token says so.  A string is
read with its escapes; one that escapes half of a surrogate pair has a written
form and no content, which matters only where the content is asked for.
-/

import GuestGlue.Json.Number

namespace GuestGlue.Json

abbrev Place := List Char

inductive Token where
  | null
  | bool (value : Bool)
  | number (literal : NumberLiteral)
  | string (content : Option String)
  | openArray
  | closeArray
  | openObject
  | closeObject
  | colon
  | comma
  | fault

structure Lexeme where
  token : Token
  start : Place
  stop : Place

/-! ### Strings -/

inductive Piece where
  | char (value : Char)
  | unit (value : Nat)

def hexValue (digit : Char) : Option Nat :=
  if '0' ≤ digit ∧ digit ≤ '9' then some (digit.toNat - 48)
  else if 'a' ≤ digit ∧ digit ≤ 'f' then some (digit.toNat - 87)
  else if 'A' ≤ digit ∧ digit ≤ 'F' then some (digit.toNat - 55)
  else none

def hexUnit (first second third fourth : Char) : Option Nat :=
  match hexValue first, hexValue second, hexValue third, hexValue fourth with
  | some a, some b, some c, some d => some (((a * 16 + b) * 16 + c) * 16 + d)
  | _, _, _, _ => none

def escaped (letter : Char) : Option Char :=
  match letter with
  | '"' => some '"'
  | '\\' => some '\\'
  | '/' => some '/'
  | 'b' => some '\x08'
  | 'f' => some '\x0c'
  | 'n' => some '\n'
  | 'r' => some '\r'
  | 't' => some '\t'
  | _ => none

/-- The pieces up to the closing quote, with what follows it; `done` holds the
pieces before, the last one first. -/
def scanPieces (done : List Piece) : List Char → Option (List Piece × List Char)
  | [] => none
  | '"' :: rest => some (done.reverse, rest)
  | '\\' :: 'u' :: first :: second :: third :: fourth :: rest =>
      match hexUnit first second third fourth with
      | none => none
      | some value => scanPieces (.unit value :: done) rest
  | '\\' :: letter :: rest =>
      match escaped letter with
      | none => none
      | some character => scanPieces (.char character :: done) rest
  | character :: rest =>
      if character.toNat < 32 then none else scanPieces (.char character :: done) rest

def isHighSurrogate (value : Nat) : Bool :=
  0xD800 ≤ value && value < 0xDC00

def isLowSurrogate (value : Nat) : Bool :=
  0xDC00 ≤ value && value < 0xE000

def pairValue (high low : Nat) : Nat :=
  0x10000 + (high - 0xD800) * 0x400 + (low - 0xDC00)

/-- The characters the pieces stand for, if no half of a surrogate pair stands
alone; `done` holds the characters before, the last one first. -/
def joinPieces (done : List Char) : List Piece → Option (List Char)
  | [] => some done.reverse
  | .char character :: rest => joinPieces (character :: done) rest
  | .unit high :: .unit low :: rest =>
      if isHighSurrogate high then
        if isLowSurrogate low then joinPieces (Char.ofNat (pairValue high low) :: done) rest
        else none
      else if isLowSurrogate high then none
      else joinPieces (Char.ofNat high :: done) (.unit low :: rest)
  | .unit value :: rest =>
      if isHighSurrogate value || isLowSurrogate value then none
      else joinPieces (Char.ofNat value :: done) rest

def scanString (text : List Char) : Option (Option String × List Char) :=
  (scanPieces [] text).map fun (pieces, rest) =>
    ((joinPieces [] pieces).map String.ofList, rest)

theorem scanPieces_length {done pieces : List Piece} {text after : List Char}
    (scanned : scanPieces done text = some (pieces, after)) : after.length ≤ text.length := by
  fun_induction scanPieces done text with
  | case1 => cases scanned
  | case2 done rest => cases scanned; simp
  | case3 => cases scanned
  | case4 done first second third fourth rest value unit ih =>
    have shorter := ih scanned
    simp only [List.length_cons]
    omega
  | case5 => cases scanned
  | case6 done letter rest other character simple ih =>
    have shorter := ih scanned
    simp only [List.length_cons]
    omega
  | case7 => cases scanned
  | case8 done character rest _ _ _ _ ih =>
    have shorter := ih scanned
    simp only [List.length_cons]
    omega

theorem scanString_length {text after : List Char} {content : Option String}
    (scanned : scanString text = some (content, after)) : after.length ≤ text.length := by
  unfold scanString at scanned
  cases pieces : scanPieces [] text with
  | none => rw [pieces] at scanned; cases scanned
  | some read =>
    rw [pieces] at scanned
    cases scanned
    exact scanPieces_length pieces

/-! ### Tokens -/

def isBlank (character : Char) : Bool :=
  character = ' ' || character = '\n' || character = '\t' || character = '\r'

/-- The token that starts with a character, and what follows the token. -/
def scanToken (first : Char) (rest : List Char) : Token × List Char :=
  match first, rest with
  | '[', _ => (.openArray, rest)
  | ']', _ => (.closeArray, rest)
  | '{', _ => (.openObject, rest)
  | '}', _ => (.closeObject, rest)
  | ':', _ => (.colon, rest)
  | ',', _ => (.comma, rest)
  | 'n', 'u' :: 'l' :: 'l' :: after => (.null, after)
  | 't', 'r' :: 'u' :: 'e' :: after => (.bool true, after)
  | 'f', 'a' :: 'l' :: 's' :: 'e' :: after => (.bool false, after)
  | '"', _ =>
      match scanString rest with
      | some (content, after) => (.string content, after)
      | none => (.fault, [])
  | _, _ =>
      match scanNumber (first :: rest) with
      | some (literal, after) => (.number literal, after)
      | none => (.fault, [])

theorem scanToken_length (first : Char) (rest : List Char) :
    (scanToken first rest).2.length ≤ rest.length := by
  unfold scanToken
  split
  all_goals try simp only [List.length_cons]
  all_goals try omega
  · split
    · next content after scanned => exact scanString_length scanned
    · simp
  · split
    · next literal after scanned =>
      have shorter := scanNumber_length scanned
      exact Nat.lt_succ_iff.mp shorter
    · simp

def lexemes (text : List Char) : List Lexeme :=
  match _found : text.dropWhile isBlank with
  | [] => []
  | first :: rest =>
      let scanned := scanToken first rest
      ⟨scanned.1, first :: rest, scanned.2⟩ :: lexemes scanned.2
termination_by text.length
decreasing_by
  have shorter := scanToken_length first rest
  have blanks := takeWhile_length_add isBlank text
  rw [_found, List.length_cons] at blanks
  omega

end GuestGlue.Json
