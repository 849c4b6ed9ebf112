/-
Texts as layouts of tokens.  Each token has its words, the characters that are read as the
token when they stand alone; a text is laid out from tokens if it holds a word of each of
them in order, with blanks anywhere in between.  Such a text has these tokens, whatever the
words and the blanks, and every text whose tokens are sound is laid out from them.
-/

import GuestGlue.Proofs.Json.Lexemes
import GuestGlue.Proofs.Json.Numbers
import GuestGlue.Proofs.Json.Strings
import Mathlib.Data.List.Chain
import Mathlib.Data.List.TakeWhile

namespace GuestGlue.Json

/-! ### Words -/

def Token.isNumber : Token → Bool
  | .number _ => true
  | _ => false

def Token.Word (token : Token) : List Char → Prop
  | [] => False
  | first :: rest => scanToken first rest = (token, []) ∧ token ≠ .fault

theorem scanToken_of_scanNumber {first : Char} (starts : first = '-' ∨ first.isDigit = true)
    {rest after : List Char} {literal : NumberLiteral}
    (scanned : scanNumber (first :: rest) = some (literal, after)) :
    scanToken first rest = (.number literal, after) := by
  unfold scanToken
  split <;> first | exact absurd starts (by decide) | rw [scanned]

/-- A token takes the same characters whatever follows it; only a number has to end there. -/
theorem scanToken_prefix {first : Char} {rest after : List Char} {token : Token}
    (scanned : scanToken first rest = (token, after)) (sound : token ≠ .fault) :
    ∃ word, rest = word ++ after ∧ ∀ other,
      (token.isNumber = true → EndsNumber other) →
        scanToken first (word ++ other) = (token, other) := by
  unfold scanToken at scanned
  split at scanned
  case h_10 =>
    split at scanned
    · next content _ read =>
      cases scanned
      obtain ⟨word, split, again⟩ := scanString_prefix read
      refine ⟨word, split, fun other _ => ?_⟩
      rw [scanToken, again]
    · cases scanned
      exact absurd rfl sound
  case h_11 =>
    split at scanned
    · next literal _ read =>
      cases scanned
      obtain ⟨word, split, again⟩ := scanNumber_prefix read
      cases word with
      | nil =>
          have shorter := scanNumber_length read
          rw [List.nil_append] at split
          rw [split] at shorter
          exact absurd shorter (Nat.lt_irrefl _)
      | cons letter word =>
          cases split
          exact ⟨word, rfl, fun other ends =>
            scanToken_of_scanNumber (startsNumber_of_scanNumber read) (again other (ends rfl))⟩
    · cases scanned
      exact absurd rfl sound
  all_goals
    cases scanned
    first
    | exact ⟨[], rfl, fun _ _ => rfl⟩
    | exact ⟨['u', 'l', 'l'], rfl, fun _ _ => rfl⟩
    | exact ⟨['r', 'u', 'e'], rfl, fun _ _ => rfl⟩
    | exact ⟨['a', 'l', 's', 'e'], rfl, fun _ _ => rfl⟩

/-- The characters that a sound token took are a word of it. -/
theorem exists_word_of_scanToken {first : Char} {rest after : List Char} {token : Token}
    (scanned : scanToken first rest = (token, after)) (sound : token ≠ .fault) :
    ∃ word, token.Word word ∧ first :: rest = word ++ after := by
  obtain ⟨word, split, again⟩ := scanToken_prefix scanned sound
  have alone := again [] fun _ => nofun
  rw [List.append_nil] at alone
  exact ⟨first :: word, ⟨alone, sound⟩, by rw [split, List.cons_append]⟩

theorem Token.Word.scanToken_append {token : Token} {first : Char} {rest other : List Char}
    (isWord : token.Word (first :: rest))
    (ends : token.isNumber = true → EndsNumber other) :
    scanToken first (rest ++ other) = (token, other) := by
  obtain ⟨scanned, sound⟩ := isWord
  obtain ⟨word, split, again⟩ := scanToken_prefix scanned sound
  rw [List.append_nil] at split
  rw [split]
  exact again other ends

theorem scanToken_of_isBlank {first : Char} (blank : isBlank first = true) (rest : List Char) :
    (scanToken first rest).1 = .fault := by
  simp only [isBlank, Bool.or_eq_true, decide_eq_true_eq] at blank
  rcases blank with ((rfl | rfl) | rfl) | rfl <;> rfl

theorem Token.Word.not_isBlank {token : Token} {first : Char} {rest : List Char}
    (isWord : token.Word (first :: rest)) : isBlank first = false := by
  by_contra blank
  obtain ⟨scanned, sound⟩ := isWord
  have fault := scanToken_of_isBlank (Bool.eq_true_of_not_eq_false blank) rest
  rw [scanned] at fault
  exact sound fault

theorem word_quoted (content : String) : (Token.string (some content)).Word (quoted content) := by
  rw [quoted]
  constructor
  · rw [scanToken, scanString_quoted]
  · simp

theorem word_decimal (value : Nat) :
    (Token.number ⟨false, decimal value, none, none⟩).Word (decimal value) := by
  have scanned : scanNumber (decimal value ++ []) = _ := scanNumber_decimal value nofun
  rw [List.append_nil] at scanned
  obtain ⟨first, rest, digits⟩ := List.exists_cons_of_ne_nil
    (Nat.toDigits_ne_nil (n := value) (b := 10))
  change decimal value = first :: rest at digits
  have isDigit : first.isDigit = true := isDigit_of_mem_decimal (digits ▸ List.mem_cons_self)
  rw [digits] at scanned ⊢
  exact ⟨scanToken_of_scanNumber (Or.inr isDigit) scanned, by simp⟩

/-! ### Layouts -/

inductive Laid : List Token → List Char → Prop
  | nil : Laid [] []
  | blank {character : Char} {text : List Char} {tokens : List Token} :
      isBlank character = true → Laid tokens text → Laid tokens (character :: text)
  | word {token : Token} {word text : List Char} {tokens : List Token} :
      token.Word word → Laid tokens text → Laid (token :: tokens) (word ++ text)

theorem Laid.append {first second : List Char} {left right : List Token} (laid : Laid left first)
    (later : Laid right second) : Laid (left ++ right) (first ++ second) := by
  induction laid with
  | nil => exact later
  | blank isBlank _ ih => exact .blank isBlank ih
  | word isWord _ ih =>
      rw [List.append_assoc]
      exact .word isWord ih

theorem Laid.blanks {blanks text : List Char} {tokens : List Token}
    (areBlank : ∀ character ∈ blanks, isBlank character = true) (laid : Laid tokens text) :
    Laid tokens (blanks ++ text) := by
  induction blanks with
  | nil => exact laid
  | cons character rest ih =>
      obtain ⟨isBlank, areBlank⟩ := List.forall_mem_cons.mp areBlank
      exact .blank isBlank (ih areBlank)

theorem Laid.mark {token : Token} {character : Char} {text : List Char} {tokens : List Token}
    (scanned : scanToken character [] = (token, [])) (sound : token ≠ .fault)
    (laid : Laid tokens text) : Laid (token :: tokens) (character :: text) := by
  have isWord : token.Word [character] := ⟨scanned, sound⟩
  exact .word isWord laid

theorem Laid.words {tokens : List Token} {text : List Char} (laid : Laid tokens text) :
    ∀ token ∈ tokens, ∃ word, token.Word word := by
  induction laid with
  | nil => exact nofun
  | blank _ _ ih => exact ih
  | word isWord _ ih => exact List.forall_mem_cons.mpr ⟨⟨_, isWord⟩, ih⟩

theorem exists_laid {tokens : List Token} (words : ∀ token ∈ tokens, ∃ word, token.Word word) :
    ∃ text, Laid tokens text := by
  induction tokens with
  | nil => exact ⟨[], .nil⟩
  | cons token rest ih =>
      obtain ⟨⟨word, isWord⟩, others⟩ := List.forall_mem_cons.mp words
      obtain ⟨text, laid⟩ := ih others
      exact ⟨word ++ text, .word isWord laid⟩

/-! ### Tokens of a layout -/

/-- Ends a list or an object, or stands between two of their parts. -/
def Token.isMark : Token → Bool
  | .comma | .closeArray | .closeObject => true
  | _ => false

/-- Nothing but a mark follows a number, so the words may stand side by side. -/
def Separable (tokens : List Token) : Prop :=
  tokens.IsChain fun token next => token.isNumber = true → next.isMark = true

theorem Token.Word.endsNumber {token : Token} {word : List Char} (isWord : token.Word word)
    (mark : token.isMark = true) (text : List Char) : EndsNumber (word ++ text) := by
  cases word with
  | nil => exact isWord.elim
  | cons first rest =>
      obtain ⟨scanned, _⟩ := isWord
      have starts : first = ',' ∨ first = ']' ∨ first = '}' := by
        unfold scanToken at scanned
        split at scanned
        case h_10 => split at scanned <;> cases scanned <;> cases mark
        case h_11 => split at scanned <;> cases scanned <;> cases mark
        all_goals cases scanned
        all_goals first | (simp; done) | cases mark
      rintro _ ⟨⟩
      rcases starts with rfl | rfl | rfl <;> decide

theorem Laid.endsNumber {tokens : List Token} {text : List Char} (laid : Laid tokens text)
    (marks : ∀ token ∈ tokens.head?, token.isMark = true) : EndsNumber text := by
  cases laid with
  | nil => exact nofun
  | blank blank _ =>
      rintro _ ⟨⟩
      simp only [isBlank, Bool.or_eq_true, decide_eq_true_eq] at blank
      rcases blank with ((rfl | rfl) | rfl) | rfl <;> decide
  | word isWord _ => exact isWord.endsNumber (marks _ rfl) _

theorem Laid.lexemes_tokens {tokens : List Token} {text : List Char} (laid : Laid tokens text)
    (separable : Separable tokens) : (lexemes text).map (·.token) = tokens := by
  induction laid with
  | nil =>
      rw [lexemes]
      rfl
  | @blank character text tokens isBlank _ ih =>
      have longer : lexemesWithin (text.length + 1) (character :: text) = lexemes (character :: text) :=
        lexemesWithin_eq (Nat.le_refl _)
      have alone : lexemesWithin (text.length + 1) text = lexemes text :=
        lexemesWithin_eq (Nat.le_succ _)
      rw [← ih separable, ← longer, ← alone, lexemesWithin, lexemesWithin,
        List.dropWhile_cons_of_pos isBlank]
  | @word token word text tokens isWord laid ih =>
      cases word with
      | nil => exact isWord.elim
      | cons first rest =>
          have marks := (List.isChain_cons.mp separable).1
          have scanned : scanToken first (rest ++ text) = _ := isWord.scanToken_append fun number =>
            laid.endsNumber fun next first => marks next first number
          have start : (first :: (rest ++ text)).dropWhile isBlank = first :: (rest ++ text) :=
            List.dropWhile_cons_of_neg (by simp [isWord.not_isBlank])
          have whole : lexemesWithin ((rest ++ text).length + 1) (first :: (rest ++ text)) =
              lexemes (first :: (rest ++ text)) :=
            lexemesWithin_eq (Nat.le_refl _)
          have shorter : text.length ≤ (rest ++ text).length := by simp
          rw [List.cons_append, ← whole, lexemesWithin, start]
          simp only [scanned, List.map_cons, lexemesWithin_eq shorter,
            ih (List.isChain_cons.mp separable).2]

theorem laid_lexemes {text : List Char}
    (sound : ∀ lexeme ∈ lexemes text, lexeme.token ≠ .fault) :
    Laid ((lexemes text).map (·.token)) text := by
  fun_induction lexemes text with
  | case1 text blank =>
    have allBlank := List.dropWhile_eq_nil_iff.mp blank
    rw [← List.append_nil text]
    exact Laid.blanks allBlank .nil
  | case2 text first rest found scanned ih =>
    obtain ⟨here, later⟩ := List.forall_mem_cons.mp sound
    have took : scanToken first rest = (scanned.1, scanned.2) := rfl
    obtain ⟨word, isWord, split⟩ := exists_word_of_scanToken took here
    have laid : Laid (scanned.1 :: (lexemes scanned.2).map (·.token)) (first :: rest) := by
      rw [split]
      exact .word isWord (ih later)
    have areBlank : ∀ character ∈ text.takeWhile isBlank, isBlank character = true :=
      List.all_eq_true.mp List.all_takeWhile
    have blanks := laid.blanks areBlank
    rwa [← found, List.takeWhile_append_dropWhile] at blanks

end GuestGlue.Json
