/-
Texts in the order of their bytes.  In UTF-8 a smaller character has the smaller
encoding, and no encoding starts another one, so comparing texts character by
character and byte by byte gives the same order.
-/

import Mathlib.Data.String.Basic
import Mathlib.Tactic.Common

namespace GuestGlue

def utf8Bytes (text : String) : List UInt8 :=
  text.toUTF8.data.toList

theorem utf8Bytes_eq (text : String) :
    utf8Bytes text = text.toList.flatMap String.utf8EncodeChar := by
  have encoded : text.toUTF8 = text.toList.utf8Encode := String.utf8Encode_toList.symm
  rw [utf8Bytes, encoded, List.utf8Encode, List.data_toByteArray]

/-- A smaller character decides the order, whatever follows it. -/
theorem utf8EncodeChar_append_lt {left right : Char} (smaller : left < right)
    (front back : List UInt8) :
    String.utf8EncodeChar left ++ front < String.utf8EncodeChar right ++ back := by
  have values : left.val.toNat < right.val.toNat := smaller
  have bound : right.val.toNat < 1114112 := by
    have valid := right.valid
    simp only [UInt32.isValidChar, Nat.isValidChar] at valid
    omega
  have twice : ∀ value, value / 4096 = value / 64 / 64 := by omega
  have thrice : ∀ value, value / 262144 = value / 64 / 64 / 64 := by omega
  -- the first bytes tell encodings of different lengths apart; in two of one length the
  -- first byte that differs holds the first digit to base 64 that differs
  unfold String.utf8EncodeChar
  generalize left.val.toNat = low at *
  generalize right.val.toNat = high at *
  dsimp only
  split_ifs <;>
    simp only [List.cons_append, List.nil_append, List.cons_lt_cons_iff, UInt8.lt_iff_toNat_lt,
      ← UInt8.toNat_inj, UInt8.toNat_ofNat', twice, thrice] <;>
    omega

theorem utf8Encode_lt {left right : List Char} (smaller : left < right) :
    left.flatMap String.utf8EncodeChar < right.flatMap String.utf8EncodeChar := by
  induction left generalizing right with
  | nil =>
      cases right with
      | nil => exact absurd smaller (List.lt_irrefl [])
      | cons first rest =>
          rw [List.flatMap_nil, List.flatMap_cons]
          unfold String.utf8EncodeChar
          dsimp only
          split_ifs <;> exact List.nil_lt_cons _ _
  | cons first rest ih =>
      cases right with
      | nil => exact absurd smaller (List.not_lt_nil _)
      | cons other others =>
          rw [List.flatMap_cons, List.flatMap_cons]
          rcases List.cons_lt_cons_iff.mp smaller with before | ⟨rfl, later⟩
          · exact utf8EncodeChar_append_lt before _ _
          · exact List.append_left_lt (ih later)

theorem utf8Bytes_lt_iff {left right : String} : utf8Bytes left < utf8Bytes right ↔ left < right := by
  have forward {first second : String} (smaller : first < second) :
      utf8Bytes first < utf8Bytes second := by
    rw [utf8Bytes_eq, utf8Bytes_eq]
    exact utf8Encode_lt (String.lt_iff.mp smaller)
  refine ⟨fun smaller => ?_, forward⟩
  rcases lt_trichotomy left right with before | rfl | behind
  · exact before
  · exact absurd smaller (List.lt_irrefl _)
  · exact absurd (forward behind) (List.lt_asymm smaller)

end GuestGlue
