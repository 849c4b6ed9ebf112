/-
Names inside directories.  A path joined with a name has the components of the
path and then the name, and the last point of a generated name decides about its
extension.
-/

import GuestGlue.Files.Disk
import GuestGlue.GlueFile
import GuestGlue.Proofs.Text.Pieces

namespace GuestGlue

/-! ### Components -/

structure IsName (name : String) : Prop where
  notEmpty : name ≠ ""
  notPoint : name ≠ "."
  notPoints : name ≠ ".."
  whole : '/' ∉ name.toList

instance (name : String) : Decidable (IsName name) :=
  decidable_of_iff (name ≠ "" ∧ name ≠ "." ∧ name ≠ ".." ∧ '/' ∉ name.toList)
    ⟨fun ⟨notEmpty, notPoint, notPoints, whole⟩ => ⟨notEmpty, notPoint, notPoints, whole⟩,
      fun ⟨notEmpty, notPoint, notPoints, whole⟩ => ⟨notEmpty, notPoint, notPoints, whole⟩⟩

theorem IsName.of_isPlain {name : String} (plain : FileName.isPlain name = true) : IsName name := by
  simp only [FileName.isPlain, Bool.and_eq_true, decide_eq_true_eq, Bool.not_eq_true',
    List.any_eq_false] at plain
  obtain ⟨⟨⟨notEmpty, notPoint⟩, notPoints⟩, noSeparator⟩ := plain
  exact ⟨notEmpty, notPoint, notPoints, fun slash => noSeparator '/' slash rfl⟩

namespace Disk

theorem splitComponents_ne_nil (chars : List Char) : splitComponents chars ≠ [] := by
  fun_cases splitComponents chars <;> simp

theorem splitComponents_append (front back : List Char) :
    splitComponents (front ++ '/' :: back) = splitComponents front ++ splitComponents back := by
  fun_induction splitComponents front with
  | case1 => rfl
  | case2 rest ih =>
      change [] :: splitComponents (rest ++ '/' :: back) = _
      rw [ih, List.cons_append]
  | case3 character rest notSlash none ih => exact absurd none (splitComponents_ne_nil rest)
  | case4 character rest notSlash first others split ih =>
      rw [List.cons_append, splitComponents, ih, split]
      · rfl
      · exact notSlash

theorem splitComponents_name {chars : List Char} (whole : '/' ∉ chars) :
    splitComponents chars = [chars] := by
  fun_induction splitComponents chars with
  | case1 => rfl
  | case2 rest ih => exact absurd List.mem_cons_self whole
  | case3 character rest notSlash none ih => exact absurd none (splitComponents_ne_nil rest)
  | case4 character rest notSlash first others split ih =>
      have rest := ih fun slash => whole (List.mem_cons_of_mem _ slash)
      rw [split] at rest
      cases rest
      rfl

theorem whole_of_mem_splitComponents {chars part : List Char} (member : part ∈ splitComponents chars) :
    '/' ∉ part := by
  fun_induction splitComponents chars generalizing part with
  | case1 =>
      cases List.mem_singleton.mp member
      exact List.not_mem_nil
  | case2 rest ih =>
      rcases List.mem_cons.mp member with rfl | later
      · exact List.not_mem_nil
      · exact ih later
  | case3 character rest notSlash none ih => exact absurd none (splitComponents_ne_nil rest)
  | case4 character rest notSlash first others split ih =>
      rw [split] at ih
      rcases List.mem_cons.mp member with rfl | later
      · intro slash
        rcases List.mem_cons.mp slash with here | inside
        · exact notSlash here.symm
        · exact ih List.mem_cons_self inside
      · exact ih (List.mem_cons_of_mem _ later)

theorem whole_of_mem_components {path : Path} {name : String} (member : name ∈ components path) :
    '/' ∉ name.toList := by
  obtain ⟨part, split, rfl⟩ := List.mem_map.mp member
  rw [String.toList_ofList]
  exact whole_of_mem_splitComponents split

/-- Joining adds one component; a separator at the end of the path adds none. -/
theorem components_join {directory : Path} {name : String} (present : directory.text ≠ "")
    (isName : IsName name) :
    ∃ front, components (directory.join name) = front ++ [name] ∧
      (components directory = front ∨ components directory = front ++ [""]) := by
  have notAbsolute : Path.isAbsolute ⟨name⟩ = false := by
    rw [Path.isAbsolute, decide_eq_false_iff_not]
    exact fun slash => isName.whole (List.mem_of_mem_head? slash)
  have single : (splitComponents name.toList).map String.ofList = [name] := by
    rw [splitComponents_name isName.whole, List.map_singleton, String.ofList_toList]
  simp only [Path.join, notAbsolute, Bool.false_eq_true, if_false, present, decide_false,
    Bool.false_or, decide_eq_true_eq]
  split
  · next slashLast =>
    obtain ⟨front, text⟩ := List.getLast?_eq_some_iff.mp slashLast
    refine ⟨(splitComponents front).map String.ofList, ?_, Or.inr ?_⟩
    · simp only [components, String.toList_append, text, List.append_assoc, List.singleton_append,
        splitComponents_append, List.map_append, single]
    · simp [components, text, splitComponents_append, splitComponents]
  · refine ⟨components directory, ?_, Or.inl rfl⟩
    have slash : "/".toList = ['/'] := rfl
    simp only [components, String.toList_append, slash, List.append_assoc, List.singleton_append,
      splitComponents_append, List.map_append, single]

theorem isAbsolute_join {directory : Path} {name : String} (present : directory.text ≠ "")
    (isName : IsName name) : (directory.join name).isAbsolute = directory.isAbsolute := by
  have notAbsolute : Path.isAbsolute ⟨name⟩ = false := by
    rw [Path.isAbsolute, decide_eq_false_iff_not]
    exact fun slash => isName.whole (List.mem_of_mem_head? slash)
  have nonempty : directory.text.toList ≠ [] := by
    rwa [ne_eq, String.toList_eq_nil_iff]
  obtain ⟨first, rest, text⟩ := List.exists_cons_of_ne_nil nonempty
  simp only [Path.join, notAbsolute, Bool.false_eq_true, if_false]
  split <;> simp only [Path.isAbsolute, String.toList_append, text, List.cons_append, List.head?_cons]

/-! ### Texts of paths -/

theorem checkPath_eq_ok_iff {path : Path} :
    checkPath path = .ok () ↔
      '\x00' ∉ path.text.toList ∧ path.text ≠ "" ∧ path.text.utf8ByteSize < pathLimit := by
  unfold checkPath
  split
  · next zero => simpa using fun absent => absurd (List.contains_iff_mem.mp zero) absent
  · next noZero =>
    have absent : '\x00' ∉ path.text.toList := fun zero => noZero (List.contains_iff_mem.mpr zero)
    split
    · next empty => simp [empty]
    · next present =>
      split
      · next long => simp [Nat.not_lt.mpr long]
      · next short => simp [absent, present, Nat.lt_of_not_le short]

def separators (count : Nat) : String :=
  String.ofList (List.replicate count '/')

theorem utf8ByteSize_separators (count : Nat) : (separators count).utf8ByteSize = count := by
  unfold separators
  induction count with
  | zero => rfl
  | succ count ih =>
      have one : (String.singleton '/').utf8ByteSize = 1 := rfl
      rw [List.replicate_succ, String.ofList_cons, String.utf8ByteSize_append, ih, one]
      omega

theorem splitComponents_replicate (chars : List Char) (count : Nat) :
    splitComponents (chars ++ List.replicate count '/') =
      splitComponents chars ++ List.replicate count [] := by
  induction count generalizing chars with
  | zero => simp
  | succ count ih =>
      rw [List.replicate_succ, splitComponents_append, ← List.nil_append (List.replicate count '/'),
        ih, List.replicate_succ]
      rfl

theorem components_separators (path : Path) (count : Nat) :
    components ⟨path.text ++ separators count⟩ = components path ++ List.replicate count "" := by
  simp [components, separators, splitComponents_replicate]

end Disk

/-! ### Extensions -/

namespace FileName

theorem no_point_of_extension? {name extension : String}
    (found : extension? name = some extension) : '.' ∉ extension.toList := by
  unfold extension? at found
  split at found
  · cases found
  · simp only at found
    split at found
    · cases found
    · cases found
    · cases found
      intro point
      rw [String.toList_ofList, List.mem_reverse] at point
      simpa using List.mem_takeWhile_imp point

/-- The extension of a generated name is found again unless it has a point in it or
nothing stands before it. -/
theorem extension?_eq_some_iff {stem extension : String} (notPoints : stem ++ "." ++ extension ≠ "..") :
    extension? (stem ++ "." ++ extension) = some extension ↔
      '.' ∉ extension.toList ∧ stem ≠ "" := by
  have point : ".".toList = ['.'] := rfl
  have back : (stem ++ "." ++ extension).toList.reverse =
      extension.toList.reverse ++ '.' :: stem.toList.reverse := by
    simp [String.toList_append, point]
  have unpointed (noPoint : '.' ∉ extension.toList) : '.' ∉ extension.toList.reverse :=
    fun member => noPoint (List.mem_reverse.mp member)
  constructor
  · intro found
    have noPoint := no_point_of_extension? found
    refine ⟨noPoint, fun nothing => ?_⟩
    simp only [extension?, notPoints, if_false, back,
      Text.dropWhile_append_cons (unpointed noPoint)] at found
    subst nothing
    simp at found
  · rintro ⟨noPoint, something⟩
    have nonempty : stem.toList ≠ [] := by rwa [ne_eq, String.toList_eq_nil_iff]
    simp only [extension?, notPoints, if_false, back,
      Text.dropWhile_append_cons (unpointed noPoint),
      Text.takeWhile_append_cons (unpointed noPoint)]
    simp [nonempty]

/-! ### Folded names -/

/-- Folding changes capital letters only, and gives small ones for them. -/
theorem toLower_eq_iff {character mark : Char} (unlettered : mark.isAlpha = false) :
    character.toLower = mark ↔ character = mark := by
  have letters : mark.isAlpha = (mark.isUpper || mark.isLower) := rfl
  have apart : ¬(65 ≤ mark.toNat ∧ mark.toNat ≤ 90) ∧ ¬(97 ≤ mark.toNat ∧ mark.toNat ≤ 122) := by
    constructor
    · intro range
      have upper : mark.isUpper = true := decide_eq_true range
      rw [letters, upper, Bool.true_or] at unlettered
      cases unlettered
    · intro range
      have lower : mark.isLower = true :=
        Bool.and_eq_true_iff.mpr ⟨decide_eq_true range.1, decide_eq_true range.2⟩
      rw [letters, lower, Bool.or_true] at unlettered
      cases unlettered
  unfold Char.toLower
  split
  · next capital =>
    have range : 65 ≤ character.val.toNat ∧ character.val.toNat ≤ 90 := capital
    have sum : (character.val + ('a'.val - 'A'.val)).toNat = character.val.toNat + 32 := by
      rw [UInt32.toNat_add]
      change (_ + 32) % _ = _
      omega
    constructor
    · rintro rfl
      change _ ∧ ¬(97 ≤ (character.val + ('a'.val - 'A'.val)).toNat ∧
        (character.val + ('a'.val - 'A'.val)).toNat ≤ 122) at apart
      omega
    · rintro rfl
      exact absurd range apart.1
  · rfl

theorem folded_eq_iff {name marks : String} (unlettered : marks.toList.any Char.isAlpha = false) :
    folded name = marks ↔ name = marks := by
  rw [folded, ← String.toList_inj, ← String.toList_inj, String.toList_map]
  generalize marks.toList = marks at unlettered
  induction name.toList generalizing marks with
  | nil => rfl
  | cons first rest ih =>
      cases marks with
      | nil => simp
      | cons mark marks =>
          obtain ⟨here, later⟩ := Bool.or_eq_false_iff.mp unlettered
          rw [List.map_cons, List.cons.injEq, List.cons.injEq, toLower_eq_iff here, ih marks later]

theorem isSeparator_toLower (character : Char) :
    isSeparator character.toLower = isSeparator character := by
  have slash : character.toLower = '/' ↔ character = '/' := toLower_eq_iff (by decide)
  have backslash : character.toLower = '\\' ↔ character = '\\' := toLower_eq_iff (by decide)
  simp only [isSeparator, slash, backslash]

/-- Whether a name is plain does not depend on the case of its letters. -/
theorem isPlain_folded (name : String) : isPlain (folded name) = isPlain name := by
  have empty : folded name = "" ↔ name = "" := folded_eq_iff rfl
  have point : folded name = "." ↔ name = "." := folded_eq_iff rfl
  have points : folded name = ".." ↔ name = ".." := folded_eq_iff rfl
  have separators : (folded name).toList.any isSeparator = name.toList.any isSeparator := by
    rw [folded, String.toList_map, List.any_map]
    exact congrArg (List.any name.toList) (funext isSeparator_toLower)
  simp only [isPlain, ne_eq, empty, point, points, separators]

end FileName

end GuestGlue
