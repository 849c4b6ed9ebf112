/-
Texts cut at marks.  What stands before a mark and what follows it can be told apart if the
mark does not stand in the first part, and a list without separators in its items is read
back from its text.
-/

import Mathlib.Data.List.TakeWhile

namespace GuestGlue.Text

/-! ### Parts before and behind a mark -/

section Marks

variable {α : Type} {mark : α}

theorem takeWhile_append_cons [DecidableEq α] {front : List α}
    (absent : mark ∉ front) (rest : List α) :
    (front ++ mark :: rest).takeWhile (· ≠ mark) = front := by
  have others : ∀ item ∈ front, decide (item ≠ mark) = true :=
    fun item member => decide_eq_true (ne_of_mem_of_not_mem member absent)
  rw [List.takeWhile_append_of_pos others, List.takeWhile_cons_of_neg (by simp), List.append_nil]

theorem dropWhile_append_cons [DecidableEq α] {front : List α}
    (absent : mark ∉ front) (rest : List α) :
    (front ++ mark :: rest).dropWhile (· ≠ mark) = mark :: rest := by
  have others : ∀ item ∈ front, decide (item ≠ mark) = true :=
    fun item member => decide_eq_true (ne_of_mem_of_not_mem member absent)
  rw [List.dropWhile_append_of_pos others, List.dropWhile_cons_of_neg (by simp)]

theorem notMem_intercalate {separator : List α} {pieces : List (List α)}
    (between : mark ∉ separator) (absent : ∀ piece ∈ pieces, mark ∉ piece) :
    mark ∉ separator.intercalate pieces := by
  induction pieces with
  | nil => exact List.not_mem_nil
  | cons first rest ih =>
      obtain ⟨here, later⟩ := List.forall_mem_cons.mp absent
      cases rest with
      | nil => rwa [List.intercalate_singleton]
      | cons second more =>
          rw [List.intercalate_cons_cons, List.mem_append, List.mem_append, not_or, not_or]
          exact ⟨⟨here, between⟩, ih later⟩

end Marks

/-! ### Lists in a text -/

def splitItems : List Char → List (List Char)
  | [] => [[]]
  | ',' :: ' ' :: rest => [] :: splitItems rest
  | character :: rest =>
      match splitItems rest with
      | [] => [[character]]
      | first :: others => (character :: first) :: others

def listItems (text : String) : List String :=
  if text = "" then [] else (splitItems text.toList).map String.ofList

theorem splitItems_cons {character : Char} (other : character ≠ ',') (rest : List Char) :
    splitItems (character :: rest) =
      match splitItems rest with
      | [] => [[character]]
      | first :: others => (character :: first) :: others := by
  rw [splitItems]
  exact fun _ comma => absurd comma other

theorem splitItems_append {piece : List Char} (whole : ',' ∉ piece) (rest : List Char) :
    splitItems (piece ++ ", ".toList ++ rest) = piece :: splitItems rest := by
  induction piece with
  | nil => rfl
  | cons character more ih =>
      obtain ⟨here, later⟩ := not_or.mp (List.mem_cons.not.mp whole)
      rw [List.cons_append, List.cons_append, splitItems_cons (Ne.symm here), ih later]

theorem splitItems_eq_singleton {piece : List Char} (whole : ',' ∉ piece) :
    splitItems piece = [piece] := by
  induction piece with
  | nil => rfl
  | cons character more ih =>
      obtain ⟨here, later⟩ := not_or.mp (List.mem_cons.not.mp whole)
      rw [splitItems_cons (Ne.symm here), ih later]

theorem splitItems_intercalate {pieces : List (List Char)} (nonempty : pieces ≠ [])
    (whole : ∀ piece ∈ pieces, ',' ∉ piece) :
    splitItems (", ".toList.intercalate pieces) = pieces := by
  induction pieces with
  | nil => exact absurd rfl nonempty
  | cons first rest ih =>
      obtain ⟨here, later⟩ := List.forall_mem_cons.mp whole
      cases rest with
      | nil =>
          rw [List.intercalate_singleton]
          exact splitItems_eq_singleton here
      | cons second more =>
          rw [List.intercalate_cons_cons, splitItems_append here, ih (List.cons_ne_nil _ _) later]

/-- Items without commas are read back from their list, if none of them is empty. -/
theorem listItems_intercalate {items : List String} (nonempty : ∀ item ∈ items, item ≠ "")
    (whole : ∀ item ∈ items, ',' ∉ item.toList) :
    listItems (", ".intercalate items) = items := by
  cases items with
  | nil => rfl
  | cons first rest =>
      have occupied : ", ".intercalate (first :: rest) ≠ "" := by
        cases rest <;> simp [String.intercalate_cons_cons, nonempty first List.mem_cons_self]
      rw [listItems, if_neg occupied, String.toList_intercalate, splitItems_intercalate,
        List.map_map]
      · simp [Function.comp_def]
      · exact List.cons_ne_nil _ _
      · exact List.forall_mem_map.mpr whole

example : listItems "int32_t count, double factor" = ["int32_t count", "double factor"] := by
  decide

end GuestGlue.Text
