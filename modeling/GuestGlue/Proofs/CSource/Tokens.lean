/-
The tokens of C text, as far as generated text needs them: words (names, keywords
and numbers), string literals, and single characters for everything else.  Blanks, ends
of lines and comments to the end of a line only separate tokens.  The generated text has
no other comments and no character constants.  It is read once, character by character.
-/

import GuestGlue.CSource.Identifier
import GuestGlue.CSource.StringLiteral
import GuestGlue.Text.Lines
import Mathlib.Data.List.Basic

namespace GuestGlue.CSource

inductive Token where
  | word (text : String)
  | literal
  | mark (character : Char)
  deriving DecidableEq, Repr

inductive Lexing where
  | between
  | word (reversed : List Char)
  | literal
  | escape
  | slash
  | comment
  deriving DecidableEq, Repr

namespace Lexing

def start (character : Char) : List Token × Lexing :=
  if continuesIdentifier character then ([], word [character])
  else if character.isWhitespace then ([], between)
  else if character = '"' then ([], literal)
  else if character = '/' then ([], slash)
  else ([.mark character], between)

/-- What stands complete at the end of a word or of a lonely slash. -/
def pending : Lexing → List Token
  | word reversed => [.word (String.ofList reversed.reverse)]
  | slash => [.mark '/']
  | _ => []

def next (state : Lexing) (character : Char) : List Token × Lexing :=
  match state with
  | between => start character
  | word reversed =>
      if continuesIdentifier character then ([], word (character :: reversed))
      else (state.pending ++ (start character).1, (start character).2)
  | literal =>
      if character = '\\' then ([], escape)
      else if character = '"' then ([.literal], between)
      else ([], literal)
  | escape => ([], literal)
  | slash =>
      if character = '/' then ([], comment)
      else (state.pending ++ (start character).1, (start character).2)
  | comment => if character = '\n' then ([], between) else ([], comment)

def run (state : Lexing) : List Char → List Token × Lexing
  | [] => ([], state)
  | character :: rest =>
      let (now, state) := state.next character
      let (later, state) := run state rest
      (now ++ later, state)

theorem run_cons (state : Lexing) (character : Char) (rest : List Char) :
    state.run (character :: rest) =
      ((state.next character).1 ++ ((state.next character).2.run rest).1,
        ((state.next character).2.run rest).2) :=
  rfl

theorem run_append (state : Lexing) (first second : List Char) :
    state.run (first ++ second) =
      ((state.run first).1 ++ ((state.run first).2.run second).1,
        ((state.run first).2.run second).2) := by
  induction first generalizing state with
  | nil => rfl
  | cons character rest ih =>
      rw [List.cons_append, run_cons, run_cons, ih, List.append_assoc]

end Lexing

def tokens (text : String) : List Token :=
  let (complete, last) := Lexing.between.run text.toList
  complete ++ last.pending

/-! ### Pieces of text -/

/-- The piece is read into these tokens, and what follows it starts afresh. -/
def Spells (piece : List Char) (spelled : List Token) : Prop :=
  Lexing.between.run piece = (spelled, .between)

instance (piece : List Char) (spelled : List Token) : Decidable (Spells piece spelled) :=
  inferInstanceAs (Decidable (_ = _))

/-- The same of a piece whose end may be a word, in front of anything that ends a word. -/
def SpellsOpen (piece : List Char) (spelled : List Token) : Prop :=
  ∀ character rest following, continuesIdentifier character = false →
    Spells (character :: rest) following →
      Spells (piece ++ character :: rest) (spelled ++ following)

theorem tokens_of_spells {text : String} {spelled : List Token}
    (read : Spells text.toList spelled) : tokens text = spelled := by
  rw [tokens, read]
  exact List.append_nil spelled

theorem Spells.append {first second : List Char} {earlier later : List Token}
    (readFirst : Spells first earlier) (readSecond : Spells second later) :
    Spells (first ++ second) (earlier ++ later) := by
  rw [Spells, Lexing.run_append, readFirst, readSecond]

theorem Spells.toOpen {piece : List Char} {spelled : List Token} (read : Spells piece spelled) :
    SpellsOpen piece spelled :=
  fun _ _ _ _ following => read.append following

theorem SpellsOpen.prepend {first second : List Char} {earlier later : List Token}
    (read : Spells first earlier) (readOpen : SpellsOpen second later) :
    SpellsOpen (first ++ second) (earlier ++ later) := by
  intro character rest following ends readRest
  rw [List.append_assoc, List.append_assoc]
  exact read.append (readOpen character rest following ends readRest)

/-! ### Words -/

def IsWord (text : List Char) : Prop :=
  text ≠ [] ∧ text.all continuesIdentifier = true

instance (text : List Char) : Decidable (IsWord text) :=
  inferInstanceAs (Decidable (_ ∧ _))

theorem run_word (reversed text : List Char)
    (continues : text.all continuesIdentifier = true) :
    (Lexing.word reversed).run text = ([], .word (text.reverse ++ reversed)) := by
  induction text generalizing reversed with
  | nil => rfl
  | cons character rest ih =>
      rw [List.all_cons, Bool.and_eq_true] at continues
      obtain ⟨here, later⟩ := continues
      rw [Lexing.run_cons, Lexing.next, if_pos here, ih _ later, List.reverse_cons,
        List.append_assoc]
      rfl

theorem IsWord.run {text : List Char} (isWord : IsWord text) :
    Lexing.between.run text = ([], .word text.reverse) := by
  obtain ⟨nonempty, continues⟩ := isWord
  cases text with
  | nil => exact absurd rfl nonempty
  | cons first rest =>
      rw [List.all_cons, Bool.and_eq_true] at continues
      obtain ⟨here, later⟩ := continues
      rw [Lexing.run_cons, Lexing.next, Lexing.start, if_pos here, run_word _ _ later,
        List.reverse_cons]
      rfl

theorem IsWord.append {text more : List Char} (isWord : IsWord text)
    (continues : more.all continuesIdentifier = true) : IsWord (text ++ more) := by
  refine ⟨List.append_ne_nil_of_left_ne_nil isWord.1 more, ?_⟩
  rw [List.all_append, isWord.2, continues]
  rfl

theorem isWord_of_isIdentifier {name : String} (valid : isIdentifier name = true) :
    IsWord name.toList := by
  unfold isIdentifier at valid
  split at valid
  · cases valid
  · next first rest split =>
    simp only [Bool.and_eq_true] at valid
    obtain ⟨⟨starts, continues⟩, _⟩ := valid
    rw [split]
    refine ⟨List.cons_ne_nil first rest, ?_⟩
    rw [List.all_cons, Bool.and_eq_true]
    refine ⟨?_, continues⟩
    simp only [startsIdentifier, Bool.or_eq_true] at starts
    rcases starts with underscore | letter
    · simp [continuesIdentifier, of_decide_eq_true underscore]
    · simp [continuesIdentifier, Char.isAlphanum, letter]

theorem SpellsOpen.word {name : String} (isWord : IsWord name.toList) :
    SpellsOpen name.toList [.word name] := by
  intro character rest following ends readRest
  -- the reading of the rest does not depend on the word, which only its first character ends
  have started : (Lexing.word name.toList.reverse).next character =
      (.word name :: (Lexing.between.next character).1, (Lexing.between.next character).2) := by
    simp only [Lexing.next, Lexing.pending, ends, Bool.false_eq_true, if_false,
      List.reverse_reverse, String.ofList_toList, List.cons_append, List.nil_append]
  rw [Spells, Lexing.run_cons] at readRest
  obtain ⟨readTokens, readState⟩ := Prod.mk.inj readRest
  rw [Spells, Lexing.run_append, isWord.run, Lexing.run_cons, started]
  simp only [List.nil_append, List.cons_append, readTokens, readState]

/-! ### Literals -/

theorem octalDigit_ne (value : Nat) : octalDigit value ≠ '"' ∧ octalDigit value ≠ '\\' := by
  have small : ∀ digit < 8, Char.ofNat (48 + digit) ≠ '"' ∧ Char.ofNat (48 + digit) ≠ '\\' := by
    decide
  exact small (value % 8) (Nat.mod_lt value (by decide))

theorem run_octalEscape (byte : UInt8) :
    Lexing.literal.run (octalEscape byte) = ([], .literal) := by
  have second := octalDigit_ne (byte.toNat / 8)
  have third := octalDigit_ne byte.toNat
  simp [octalEscape, Lexing.run, Lexing.next, second, third]

theorem run_flatMap_literal {α : Type} {encode : α → List Char} (items : List α)
    (stays : ∀ item ∈ items, Lexing.literal.run (encode item) = ([], .literal)) :
    Lexing.literal.run (items.flatMap encode) = ([], .literal) := by
  induction items with
  | nil => rfl
  | cons item rest ih =>
      obtain ⟨here, later⟩ := List.forall_mem_cons.mp stays
      rw [List.flatMap_cons, Lexing.run_append, here, ih later]
      rfl

theorem run_literalChar (character : Char) :
    Lexing.literal.run (literalChar character) = ([], .literal) := by
  unfold literalChar
  split
  case h_1 => rfl
  case h_2 => rfl
  case h_3 => rfl
  case h_4 => rfl
  case h_5 => rfl
  case h_6 notQuote notBackslash _ _ _ =>
    split
    · exact run_flatMap_literal _ fun byte _ => run_octalEscape byte
    · simp only [Lexing.run, Lexing.next, if_neg notQuote, if_neg notBackslash]
      rfl

theorem spells_stringLiteral (text : String) : Spells (stringLiteral text).toList [.literal] := by
  rw [stringLiteral, String.toList_ofList, literalChars, Spells, Lexing.run_cons]
  change ([] ++ (Lexing.literal.run _).1, (Lexing.literal.run _).2) = _
  rw [Lexing.run_append, run_flatMap_literal _ fun character _ => run_literalChar character]
  rfl

/-! ### Lists and lines -/

/-- A comma ends each item of a list but the last one, which stays open. -/
theorem SpellsOpen.intercalate {pieces : List String} {spelled : List (List Token)}
    (read : List.Forall₂ (fun piece => SpellsOpen piece.toList) pieces spelled) :
    SpellsOpen (", ".intercalate pieces).toList ([Token.mark ','].intercalate spelled) := by
  rw [String.toList_intercalate]
  induction read with
  | nil => exact Spells.toOpen (by decide)
  | @cons first firstSpelled rest restSpelled readFirst readRest ih =>
      cases readRest with
      | nil =>
          rw [List.map_singleton, List.intercalate_singleton, List.intercalate_singleton]
          exact readFirst
      | cons _ _ =>
          rw [List.map_cons, List.map_cons, List.intercalate_cons_cons,
            List.intercalate_cons_cons, ← List.map_cons]
          have comma : Spells (first.toList ++ ", ".toList) (firstSpelled ++ [.mark ',']) :=
            readFirst ',' [' '] [.mark ','] (by decide) (by decide)
          exact SpellsOpen.prepend comma ih

def readLine (line : String) : List Token × Lexing :=
  Lexing.between.run (line.toList ++ ['\n'])

theorem tokens_unlines {lines : List String}
    (closed : ∀ read ∈ lines.map readLine, read.2 = .between) :
    tokens (Text.unlines lines) = (lines.map readLine).flatMap (·.1) := by
  refine tokens_of_spells ?_
  rw [Text.unlines, String.toList_join]
  induction lines with
  | nil => rfl
  | cons line rest ih =>
      obtain ⟨here, later⟩ := List.forall_mem_cons.mp closed
      rw [List.map_cons, List.flatMap_cons, List.map_cons, List.flatMap_cons,
        String.toList_append]
      exact Spells.append (Prod.ext rfl here) (ih later)

end GuestGlue.CSource
