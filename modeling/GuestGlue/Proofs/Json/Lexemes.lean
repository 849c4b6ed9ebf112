/-
The tokens of a text by recursion on a bound.  Any bound on the length of the text
gives all of them, and unlike the recursion on the text itself this one can be run
inside proofs.
-/

import GuestGlue.Json.Decode

namespace GuestGlue.Json

def lexemesWithin : Nat → List Char → List Lexeme
  | 0, _ => []
  | bound + 1, text =>
      match text.dropWhile isBlank with
      | [] => []
      | first :: rest =>
          let scanned := scanToken first rest
          ⟨scanned.1, first :: rest, scanned.2⟩ :: lexemesWithin bound scanned.2

theorem lexemesWithin_eq {bound : Nat} {text : List Char} (enough : text.length ≤ bound) :
    lexemesWithin bound text = lexemes text := by
  induction bound generalizing text with
  | zero =>
      cases List.eq_nil_of_length_eq_zero (Nat.le_zero.mp enough)
      rw [lexemes]
      rfl
  | succ bound ih =>
      rw [lexemesWithin, lexemes]
      split
      · next blank =>
        split
        · rfl
        · next present => cases blank.symm.trans present
      · next first rest found =>
        split
        · next blank => cases blank.symm.trans found
        · next present =>
          cases found.symm.trans present
          have shorter := scanToken_length first rest
          have suffix := (List.dropWhile_suffix isBlank (l := text)).length_le
          rw [found, List.length_cons] at suffix
          have others : lexemesWithin bound (scanToken first rest).2 = lexemes (scanToken first rest).2 :=
            ih (by omega)
          simp only [others]

theorem decodeText_ofList {α : Type} {decode : Decoder α} {chars : List Char} {value : α}
    (bound : Nat) (enough : chars.length ≤ bound)
    (decoded : ((Progress.initial.run (lexemesWithin bound chars)).decode decode).toOption =
      some value) :
    decodeText decode (String.ofList chars) = .ok value := by
  rw [lexemesWithin_eq enough] at decoded
  rw [decodeText, Document.ofText, String.toList_ofList]
  cases read : (Progress.initial.run (lexemes chars)).decode decode with
  | error error =>
      rw [read] at decoded
      cases decoded
  | ok found =>
      rw [read] at decoded
      cases decoded
      rfl

end GuestGlue.Json
