/-
Paths as texts.  A path is kept as it was written: joining adds one separator at
most, and the parent of a path is a part of its text.
-/

namespace GuestGlue

structure Path where
  text : String
  deriving DecidableEq, Repr

namespace Path

def empty : Path := ⟨""⟩

def isAbsolute (path : Path) : Bool :=
  path.text.toList.head? = some '/'

def join (path : Path) (name : String) : Path :=
  if isAbsolute ⟨name⟩ then ⟨name⟩
  else if path.text = "" || path.text.toList.getLast? = some '/' then ⟨path.text ++ name⟩
  else ⟨path.text ++ "/" ++ name⟩

/-- What a path starts with before its components: the root, or a point that
stands for the current directory. -/
def splitHead : List Char → List Char × List Char
  | '/' :: rest => (['/'], rest)
  | ['.'] => (['.'], [])
  | '.' :: '/' :: rest => (['.'], '/' :: rest)
  | chars => ([], chars)

/-- Drops separators and components of one point from the end of a text that is
written backwards. -/
def trimBack : List Char → List Char
  | '/' :: rest => trimBack rest
  | '.' :: '/' :: rest => trimBack rest
  | ['.'] => []
  | chars => chars

/-- The path without its last component; the root and the empty path have no parent. -/
def parent? (path : Path) : Option Path :=
  let (head, body) := splitHead path.text.toList
  match trimBack body.reverse with
  | [] => if head = ['.'] then some empty else none
  | back =>
      let outer := (back.dropWhile (· ≠ '/')).drop 1
      some ⟨String.ofList (head ++ (trimBack outer).reverse)⟩

theorem trimBack_length (chars : List Char) : (trimBack chars).length ≤ chars.length := by
  fun_induction trimBack chars with
  | case1 rest ih => simp only [List.length_cons]; omega
  | case2 rest ih => simp only [List.length_cons]; omega
  | case3 => simp
  | case4 => exact Nat.le_refl _

private theorem splitHead_length (chars : List Char) :
    (splitHead chars).1.length + (splitHead chars).2.length = chars.length := by
  unfold splitHead
  split <;> simp <;> omega

private theorem dropComponent_length {chars : List Char} (present : chars ≠ []) :
    ((chars.dropWhile (· ≠ '/')).drop 1).length < chars.length := by
  have shorter := (List.dropWhile_suffix (· ≠ '/') (l := chars)).length_le
  rw [List.length_drop]
  have positive : 0 < chars.length := List.length_pos_iff.mpr present
  omega

theorem length_of_parent? {path parent : Path} (found : path.parent? = some parent) :
    parent.text.toList.length < path.text.toList.length := by
  unfold parent? at found
  have whole := splitHead_length path.text.toList
  generalize splitHead path.text.toList = parts at found whole
  obtain ⟨head, body⟩ := parts
  have trimmed := trimBack_length body.reverse
  rw [List.length_reverse] at trimmed
  simp only at found whole
  split at found
  · split at found
    · next point =>
      cases found
      subst point
      simp only [List.length_cons, List.length_nil] at whole
      change 0 < _
      omega
    · cases found
  · next present =>
    cases found
    have outer := dropComponent_length present
    have inner := trimBack_length
      (((trimBack body.reverse).dropWhile (· ≠ '/')).drop 1)
    simp only [String.toList_ofList, List.length_append, List.length_reverse]
    omega

def directory (path : Path) : Path :=
  path.parent?.getD empty

end Path

namespace FileName

/-- What follows the last point of a name, unless the point comes first. -/
def extension? (name : String) : Option String :=
  if name = ".." then none
  else
    let back := name.toList.reverse
    match back.dropWhile (· ≠ '.') with
    | [] => none
    | ['.'] => none
    | _ => some (String.ofList (back.takeWhile (· ≠ '.')).reverse)

end FileName

end GuestGlue
