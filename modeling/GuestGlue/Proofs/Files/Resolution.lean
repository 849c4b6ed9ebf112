/-
Where paths lead.  What is followed step by step is told by a relation, with one rule for
each kind of component; a way to a directory stays the same as long as directories and
the links that lead to directories stay.
-/

import GuestGlue.Proofs.Files.Disk
import GuestGlue.Proofs.Files.Names

namespace GuestGlue.Disk

/-! ### Ways -/

/-- A component that is looked up in a directory. -/
structure IsStep (component : String) : Prop where
  notEmpty : component ≠ ""
  notPoint : component ≠ "."
  notPoints : component ≠ ".."
  short : component.utf8ByteSize ≤ nameLimit

theorem IsStep.of_isName {name : String} (isName : IsName name)
    (short : name.utf8ByteSize ≤ nameLimit) : IsStep name :=
  ⟨isName.notEmpty, isName.notPoint, isName.notPoints, short⟩

/-- With so many links allowed, the components lead from the one location to the other
and leave so many links over. -/
inductive Leads (disk : Disk) : Nat → Location → List String → Location → Nat → Prop
  | here {links : Nat} {current : Location} : Leads disk links current [] current links
  | stay {links left : Nat} {current location : Location} {component : String}
      {rest : List String} : disk.isDirectoryAt current = true → component = "" ∨ component = "." →
      Leads disk links current rest location left →
        Leads disk links current (component :: rest) location left
  | back {links left : Nat} {current location : Location} {rest : List String} :
      disk.isDirectoryAt current = true → Leads disk links current.dropLast rest location left →
        Leads disk links current (".." :: rest) location left
  | name {links left : Nat} {current location : Location} {component : String}
      {rest : List String} : disk.isDirectoryAt current = true → IsStep component →
      ¬disk.IsLink (current ++ [component]) →
      Leads disk links (current ++ [component]) rest location left →
        Leads disk links current (component :: rest) location left
  | link {links left : Nat} {current location : Location} {component : String}
      {rest : List String} {target : Path} : disk.isDirectoryAt current = true →
      IsStep component → disk.entry? (current ++ [component]) = some (.link target) →
      Leads disk links (startFrom current target) (components target ++ rest) location left →
        Leads disk (links + 1) current (component :: rest) location left

theorem follow_nil (disk : Disk) (links : Nat) (current : Location) :
    disk.follow links current [] = .ok (current, links) := by
  cases links <;> rfl

theorem follow_cons (disk : Disk) (links : Nat) (current : Location) (component : String)
    (rest : List String) :
    disk.follow links current (component :: rest) = (disk.enter current).bind fun _ =>
      if component = "" || component = "." then disk.follow links current rest
      else if component = ".." then disk.follow links current.dropLast rest
      else if nameLimit < component.utf8ByteSize then .error .nameTooLong
      else
        match disk.entry? (current ++ [component]) with
        | some (.link target) =>
            match links with
            | 0 => .error .tooManyLinks
            | left + 1 => disk.follow left (startFrom current target) (components target ++ rest)
        | _ => disk.follow links (current ++ [component]) rest := by
  cases links <;> rfl

section Ways

variable {disk : Disk} {links left : Nat} {current location : Location} {component : String}
variable {parts rest : List String}

theorem follow_step (directory : disk.isDirectoryAt current = true) (step : IsStep component) :
    disk.follow links current (component :: rest) =
      match disk.entry? (current ++ [component]) with
      | some (.link target) =>
          match links with
          | 0 => .error .tooManyLinks
          | left + 1 => disk.follow left (startFrom current target) (components target ++ rest)
      | _ => disk.follow links (current ++ [component]) rest := by
  rw [follow_cons, enter_eq_ok_iff.mpr directory]
  simp only [Except.bind, step.notEmpty, step.notPoint, step.notPoints,
    Nat.not_lt.mpr step.short, decide_false, Bool.or_self, Bool.false_eq_true, if_false]

theorem follow_name (directory : disk.isDirectoryAt current = true) (step : IsStep component)
    (notLink : ¬disk.IsLink (current ++ [component])) :
    disk.follow links current (component :: rest) =
      disk.follow links (current ++ [component]) rest := by
  rw [follow_step directory step]
  split
  · next entry => exact absurd ⟨_, entry⟩ notLink
  · rfl

theorem leads_of_follow (followed : disk.follow links current parts = .ok (location, left)) :
    disk.Leads links current parts location left := by
  -- a link leaves fewer of them, whatever comes in its place
  induction links using Nat.strongRecOn generalizing current parts with
  | ind links fewer =>
      induction parts generalizing current with
      | nil =>
          rw [follow_nil] at followed
          cases followed
          exact .here
      | cons component rest ih =>
          have whole := followed
          rw [follow_cons] at followed
          cases entered : disk.enter current with
          | error error =>
              rw [entered] at followed
              cases followed
          | ok =>
              have directory := enter_eq_ok_iff.mp entered
              simp only [entered, Except.bind, Bool.or_eq_true, decide_eq_true_eq] at followed
              split at followed
              · next stays => exact .stay directory stays (ih followed)
              · next moves =>
                rw [not_or] at moves
                split at followed
                · next points =>
                  subst points
                  exact .back directory (ih followed)
                · next notPoints =>
                  split at followed
                  · cases followed
                  · next short =>
                    have step : IsStep component :=
                      ⟨moves.1, moves.2, notPoints, Nat.le_of_not_lt short⟩
                    by_cases linked : disk.IsLink (current ++ [component])
                    · obtain ⟨target, entry⟩ := linked
                      rw [entry] at followed
                      cases links with
                      | zero => cases followed
                      | succ left =>
                          exact .link directory step entry (fewer _ (Nat.lt_succ_self _) followed)
                    · rw [follow_name directory step linked] at whole
                      exact .name directory step linked (ih whole)

theorem Leads.follow (leads : disk.Leads links current parts location left) :
    disk.follow links current parts = .ok (location, left) := by
  induction leads with
  | here => exact follow_nil _ _ _
  | stay directory stays _ ih =>
      rw [follow_cons, enter_eq_ok_iff.mpr directory]
      simp [Except.bind, stays, ih]
  | back directory _ ih =>
      rw [follow_cons, enter_eq_ok_iff.mpr directory]
      simp [Except.bind, ih]
  | name directory step notLink _ ih => rw [follow_name directory step notLink, ih]
  | link directory step entry _ ih =>
      rw [follow_step directory step, entry]
      exact ih

theorem follow_eq_ok_iff : disk.follow links current parts = .ok (location, left) ↔
    disk.Leads links current parts location left :=
  ⟨leads_of_follow, Leads.follow⟩

theorem Leads.directory (leads : disk.Leads links current (component :: rest) location left) :
    disk.isDirectoryAt current = true := by
  cases leads <;> assumption

theorem Leads.of_empty (leads : disk.Leads links current ("" :: rest) location left) :
    disk.Leads links current rest location left := by
  have followed := leads.follow
  rw [follow_cons, enter_eq_ok_iff.mpr leads.directory] at followed
  exact leads_of_follow followed

theorem Leads.append {back : List String} {middle : Location} {between : Nat}
    (leads : disk.Leads links current parts middle between)
    (further : disk.Leads between middle back location left) :
    disk.Leads links current (parts ++ back) location left := by
  induction leads with
  | here => exact further
  | stay directory stays _ ih => exact .stay directory stays (ih further)
  | back directory _ ih => exact .back directory (ih further)
  | name directory step notLink _ ih => exact .name directory step notLink (ih further)
  | link directory step entry _ ih =>
      refine .link directory step entry ?_
      change disk.Leads _ _ (_ ++ (_ ++ back)) _ _
      rw [← List.append_assoc]
      exact ih further

theorem Leads.split {front back : List String}
    (leads : disk.Leads links current (front ++ back) location left) :
    ∃ middle between, disk.Leads links current front middle between ∧
      disk.Leads between middle back location left := by
  generalize whole : front ++ back = parts at leads
  induction leads generalizing front with
  | here =>
      obtain ⟨rfl, rfl⟩ := List.append_eq_nil_iff.mp whole
      exact ⟨_, _, .here, .here⟩
  | stay directory stays further ih =>
      rcases List.append_eq_cons_iff.mp whole with ⟨rfl, rfl⟩ | ⟨others, rfl, rfl⟩
      · exact ⟨_, _, .here, .stay directory stays further⟩
      · obtain ⟨middle, between, earlier, later⟩ := ih rfl
        exact ⟨middle, between, .stay directory stays earlier, later⟩
  | back directory further ih =>
      rcases List.append_eq_cons_iff.mp whole with ⟨rfl, rfl⟩ | ⟨others, rfl, rfl⟩
      · exact ⟨_, _, .here, .back directory further⟩
      · obtain ⟨middle, between, earlier, later⟩ := ih rfl
        exact ⟨middle, between, .back directory earlier, later⟩
  | name directory step notLink further ih =>
      rcases List.append_eq_cons_iff.mp whole with ⟨rfl, rfl⟩ | ⟨others, rfl, rfl⟩
      · exact ⟨_, _, .here, .name directory step notLink further⟩
      · obtain ⟨middle, between, earlier, later⟩ := ih rfl
        exact ⟨middle, between, .name directory step notLink earlier, later⟩
  | link directory step entry further ih =>
      rcases List.append_eq_cons_iff.mp whole with ⟨rfl, rfl⟩ | ⟨others, rfl, rfl⟩
      · exact ⟨_, _, .here, .link directory step entry further⟩
      · obtain ⟨middle, between, earlier, later⟩ := ih (List.append_assoc _ _ _)
        exact ⟨middle, between, .link directory step entry earlier, later⟩

theorem Leads.more (leads : disk.Leads links current parts location left) (extra : Nat) :
    disk.Leads (links + extra) current parts location (left + extra) := by
  induction leads with
  | here => exact .here
  | stay directory stays _ ih => exact .stay directory stays ih
  | back directory _ ih => exact .back directory ih
  | name directory step notLink _ ih => exact .name directory step notLink ih
  | link directory step entry _ ih =>
      rw [Nat.add_right_comm]
      exact .link directory step entry ih

/-- How many links are allowed does not matter for where a way leads. -/
theorem Leads.unique {allowed spare : Nat} {other : Location}
    (leads : disk.Leads links current parts location left)
    (again : disk.Leads allowed current parts other spare) : other = location := by
  have first := (leads.more allowed).follow
  have second := (again.more links).follow
  rw [Nat.add_comm allowed links, first] at second
  exact (Prod.mk.inj (Except.ok.inj second)).1.symm

theorem follow_append {back : List String}
    (leads : disk.Leads links current parts location left) :
    disk.follow links current (parts ++ back) = disk.follow left location back := by
  induction leads with
  | here => rfl
  | stay directory stays _ ih =>
      rw [List.cons_append, follow_cons, enter_eq_ok_iff.mpr directory, ← ih]
      simp [Except.bind, stays]
  | back directory _ ih =>
      rw [List.cons_append, follow_cons, enter_eq_ok_iff.mpr directory, ← ih]
      simp [Except.bind]
  | name directory step notLink _ ih =>
      rw [List.cons_append, follow_name directory step notLink, ih]
  | link directory step entry _ ih =>
      rw [List.cons_append, follow_step directory step, entry, ← ih, List.append_assoc]

/-- From a location that is no directory nothing leads further. -/
theorem Leads.ends (leads : disk.Leads links current parts location left)
    (notDirectory : disk.isDirectoryAt current = false) : location = current := by
  cases leads with
  | here => rfl
  | stay directory | back directory | name directory | link directory =>
      rw [notDirectory] at directory
      cases directory

end Ways

/-! ### Ways that stay -/

/-- Every way to a directory is one on the other disk as well. -/
structure WaysIn (disk other : Disk) : Prop where
  workingDirectory : other.workingDirectory = disk.workingDirectory
  directory : ∀ location, disk.isDirectoryAt location = true → other.isDirectoryAt location = true
  leads : ∀ links current parts location left, disk.Leads links current parts location left →
    disk.isDirectoryAt location = true → other.Leads links current parts location left

/-- There are at least the same directories, and just the same links. -/
structure SameLinks (disk other : Disk) : Prop where
  workingDirectory : other.workingDirectory = disk.workingDirectory
  directory : ∀ location, disk.isDirectoryAt location = true → other.isDirectoryAt location = true
  link : ∀ location target, other.entry? location = some (.link target) ↔
    disk.entry? location = some (.link target)

section Staying

variable {disk other third : Disk} {links left : Nat} {current location place : Location}
variable {parts : List String}

theorem WaysIn.refl (disk : Disk) : WaysIn disk disk :=
  ⟨rfl, fun _ => id, fun _ _ _ _ _ leads _ => leads⟩

theorem WaysIn.trans (earlier : WaysIn disk other) (later : WaysIn other third) :
    WaysIn disk third where
  workingDirectory := later.workingDirectory.trans earlier.workingDirectory
  directory location present := later.directory location (earlier.directory location present)
  leads links current parts location left way present :=
    later.leads links current parts location left (earlier.leads _ _ _ _ _ way present)
      (earlier.directory location present)

theorem SameLinks.refl (disk : Disk) : SameLinks disk disk :=
  ⟨rfl, fun _ => id, fun _ _ => Iff.rfl⟩

theorem SameLinks.trans (earlier : SameLinks disk other) (later : SameLinks other third) :
    SameLinks disk third where
  workingDirectory := later.workingDirectory.trans earlier.workingDirectory
  directory location present := later.directory location (earlier.directory location present)
  link location target := (later.link location target).trans (earlier.link location target)

theorem SameLinks.leads (same : SameLinks disk other)
    (leads : disk.Leads links current parts location left) :
    other.Leads links current parts location left := by
  induction leads with
  | here => exact .here
  | stay directory stays _ ih => exact .stay (same.directory _ directory) stays ih
  | back directory _ ih => exact .back (same.directory _ directory) ih
  | name directory step notLink _ ih =>
      refine .name (same.directory _ directory) step ?_ ih
      rintro ⟨target, entry⟩
      exact notLink ⟨target, (same.link _ _).mp entry⟩
  | link directory step entry _ ih =>
      exact .link (same.directory _ directory) step ((same.link _ _).mpr entry) ih

theorem SameLinks.waysIn (same : SameLinks disk other) : WaysIn disk other :=
  ⟨same.workingDirectory, same.directory, fun _ _ _ _ _ leads _ => same.leads leads⟩

/-- An entry that leads to no directory is on no way to one. -/
theorem waysIn_of_blocked (workingDirectory : other.workingDirectory = disk.workingDirectory)
    (elsewhere : ∀ location, location ≠ place → other.entry? location = disk.entry? location)
    (notDirectory : disk.isDirectoryAt place = false)
    (blocked : ∀ links current name location left, current ++ [name] = place →
      disk.Leads links current [name] location left → disk.isDirectoryAt location = false) :
    WaysIn disk other := by
  have kept : ∀ location, disk.isDirectoryAt location = true →
      other.isDirectoryAt location = true := by
    intro location directory
    have apart : location ≠ place := by
      rintro rfl
      rw [notDirectory] at directory
      cases directory
    rwa [isDirectoryAt, elsewhere location apart]
  refine ⟨workingDirectory, kept, ?_⟩
  intro links current parts location left leads directory
  induction leads with
  | here => exact .here
  | stay here stays _ ih => exact .stay (kept _ here) stays (ih directory)
  | back here _ ih => exact .back (kept _ here) (ih directory)
  | @name links left current location component rest here step notLink further ih =>
      by_cases passed : current ++ [component] = place
      · -- the way would end at the entry
        subst passed
        rw [further.ends notDirectory, notDirectory] at directory
        cases directory
      · refine .name (kept _ here) step ?_ (ih directory)
        rintro ⟨target, entry⟩
        exact notLink ⟨target, (elsewhere _ passed) ▸ entry⟩
  | @link links left current location component rest target here step entry further ih =>
      by_cases passed : current ++ [component] = place
      · obtain ⟨middle, between, earlier, later⟩ := further.split
        have alone : disk.Leads (links + 1) current [component] middle between := by
          refine .link here step entry ?_
          rwa [List.append_nil]
        have stops := blocked _ _ _ _ _ passed alone
        rw [later.ends stops, stops] at directory
        cases directory
      · exact .link (kept _ here) step ((elsewhere _ passed).trans entry) (ih directory)

/-- Where entries have only gone, what is still there was led to in the same way. -/
theorem Leads.of_removed
    (entries : ∀ location, other.entry? location = disk.entry? location ∨
      other.entry? location = none)
    (leads : other.Leads links current parts place left)
    (present : (other.entry? place).isSome = true) : disk.Leads links current parts place left := by
  have same : ∀ location, (other.entry? location).isSome = true →
      disk.entry? location = other.entry? location := by
    intro location here
    rcases entries location with same | gone
    · exact same.symm
    · rw [gone] at here
      cases here
  have directory : ∀ location, other.isDirectoryAt location = true →
      disk.isDirectoryAt location = true := by
    intro location here
    rw [isDirectoryAt, same location (isSome_of_isDirectoryAt here)]
    exact here
  induction leads with
  | here => exact .here
  | stay here stays _ ih => exact .stay (directory _ here) stays (ih present)
  | back here _ ih => exact .back (directory _ here) (ih present)
  | @name links left current location component rest here step notLink further ih =>
      refine .name (directory _ here) step ?_ (ih present)
      rcases entries (current ++ [component]) with unchanged | gone
      · rwa [IsLink, ← unchanged]
      · -- the way would end where there is nothing
        have nothing : other.isDirectoryAt (current ++ [component]) = false := by
          rw [isDirectoryAt, gone]
          rfl
        rw [further.ends nothing, gone] at present
        cases present
  | link here step entry _ ih =>
      have linked := (same _ (Option.isSome_of_eq_some entry)).trans entry
      exact .link (directory _ here) step linked (ih present)

end Staying

end GuestGlue.Disk
