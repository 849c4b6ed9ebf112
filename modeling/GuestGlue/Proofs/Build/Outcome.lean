/-
What a reconciliation reports, and what it leaves of the whole disk.  The sweep finds a
stale file only if the system can name it: asking about a path that is too long answers
that there is no file, and a name that is no text is passed over; such a file stays without
an error.
-/

import GuestGlue.Proofs.Build.Reconcile
import GuestGlue.Proofs.Text.ByteOrder
import Mathlib

namespace GuestGlue

namespace Reconcile

section

variable {disk after : Disk} {directory : Path} {location : Location}
variable {files : List GlueFile} {extension : String}

/-! ### What is written -/

def isHeld (disk : Disk) (location : Location) (file : GlueFile) : Bool :=
  disk.content? (location ++ [file.name]) = some file.content.toUTF8

theorem isHeld_iff {file : GlueFile} : isHeld disk location file = true ↔
    disk.content? (location ++ [file.name]) = some file.content.toUTF8 :=
  decide_eq_true_iff

theorem isHeld_congr {other : Disk} {file : GlueFile}
    (same : other.content? (location ++ [file.name]) = disk.content? (location ++ [file.name])) :
    isHeld other location file = isHeld disk location file := by
  rw [isHeld, isHeld, same]

theorem writeFiles_names {names : List String × List String} (opens : disk.Opens directory location)
    (isNames : ∀ file ∈ files, IsName file.name) (distinct : (files.map (·.name)).Nodup)
    (separate : disk.Separate location (files.map (·.name)))
    (completed : Completes (writeFiles directory files) disk names after) :
    names.1 = (files.filter (!isHeld disk location ·)).map (·.name) ∧
      names.2 = (files.filter (isHeld disk location ·)).map (·.name) := by
  induction files generalizing disk names with
  | nil =>
      obtain ⟨rfl, rfl⟩ := completes_pure_iff.mp completed
      exact ⟨rfl, rfl⟩
  | cons file rest ih =>
      obtain ⟨isName, later⟩ := List.forall_mem_cons.mp isNames
      obtain ⟨absent, distinct⟩ := List.nodup_cons.mp distinct
      have notLink := separate.notLink file.name List.mem_cons_self
      have separateLater : disk.Separate location (rest.map (·.name)) := separate.tail
      have read : disk.readFile (directory.join file.name) = .ok file.content.toUTF8 ↔
          Disk.Fits directory file.name ∧ isHeld disk location file = true := by
        rw [opens.readFile_join isName notLink, isHeld_iff]
      rcases completes_writeFiles_cons_iff.mp completed with
        ⟨held, others, wrote, rfl⟩ | ⟨differs, middle, others, put, wrote, rfl⟩
      · obtain ⟨written, unchanged⟩ := ih opens later distinct separateLater wrote
        simp [(read.mp held).2, written, unchanged]
      · obtain ⟨fits, _, rfl, opensLater⟩ := write_generated opens isName notLink put
        have missing : isHeld disk location file = false :=
          Bool.eq_false_iff.mpr fun same => differs (read.mpr ⟨fits, same⟩)
        -- no later file is the one that was written, so the others are held as they were before
        have kept : ∀ other ∈ rest, isHeld (disk.fill (location ++ [file.name])
            file.content.toUTF8) location other = isHeld disk location other := by
          intro other member
          apply isHeld_congr
          apply Disk.content?_fill_of_not_sameFile
          intro same
          have named : other.name ∈ rest.map (·.name) := List.mem_map_of_mem member
          have equal := separate.apart _ List.mem_cons_self _ (List.mem_cons_of_mem _ named) same
          exact absent (equal ▸ named)
        obtain ⟨written, unchanged⟩ :=
          ih opensLater later distinct (Disk.fewerLinks_fill.separate separateLater) wrote
        rw [List.filter_congr fun other member => congrArg not (kept other member)] at written
        rw [List.filter_congr kept] at unchanged
        simp [missing, written, unchanged]

theorem writeFiles_entries {names : List String × List String} (opens : disk.Opens directory location)
    (isNames : ∀ file ∈ files, IsName file.name)
    (notLinks : ∀ file ∈ files, ¬disk.IsLink (location ++ [file.name]))
    (completed : Completes (writeFiles directory files) disk names after) {place : Location}
    (elsewhere : ∀ name ∈ files.map (·.name), place ≠ location ++ [name]) :
    after.entry? place = disk.entry? place := by
  induction files generalizing disk names with
  | nil =>
      obtain ⟨rfl, rfl⟩ := completes_pure_iff.mp completed
      rfl
  | cons file rest ih =>
      obtain ⟨isName, later⟩ := List.forall_mem_cons.mp isNames
      obtain ⟨notLink, notLinksLater⟩ := List.forall_mem_cons.mp notLinks
      obtain ⟨apart, others⟩ := List.forall_mem_cons.mp elsewhere
      rcases completes_writeFiles_cons_iff.mp completed with
        ⟨_, _, wrote, rfl⟩ | ⟨_, middle, _, put, wrote, rfl⟩
      · exact ih opens later notLinksLater wrote others
      · obtain ⟨_, _, rfl, opensLater⟩ := write_generated opens isName notLink put
        have fewer : Disk.FewerLinks disk
            (disk.fill (location ++ [file.name]) file.content.toUTF8) := Disk.fewerLinks_fill
        have notLinksNow := fun other member => fewer.not_isLink (notLinksLater other member)
        rw [ih opensLater later notLinksNow wrote others, Disk.entry?_fill_of_ne apart]

/-! ### Stale files -/

/-- A regular file with the extension and the name of no generated file. -/
structure IsStaleFile (disk : Disk) (location : Location) (files : List GlueFile)
    (extension name : String) : Prop where
  present : (disk.content? (location ++ [name])).isSome = true
  extended : FileName.extension? name = some extension
  ungenerated : name ∉ files.map (·.name)

/-- The bytes of the name end in a point and the extension, after something else. -/
def HasExtension (name : RawName) (extension : String) : Prop :=
  '.' ∉ extension.toList ∧ ∃ stem, stem ≠ [] ∧
    name.bytes.data.toList = stem ++ '.'.toUInt8 :: extension.toUTF8.data.toList

/-- A regular file with the extension and a name that is no text. -/
structure IsStaleStray (location : Location) (extension : String) (stray : Stray) : Prop where
  inside : stray.directory = location
  present : stray.entry.isFile = true
  extended : HasExtension stray.name extension

theorem isStaleFile_iff_swept {made : Disk} {name : String}
    (same : made.content? (location ++ [name]) = disk.content? (location ++ [name])) :
    IsStaleFile disk location files extension name ∧ Disk.Fits directory name ↔
      name ∈ made.children location ∧ Swept directory files extension name ∧
        (made.content? (location ++ [name])).isSome = true := by
  rw [Swept, isStaleName_iff, same]
  constructor
  · rintro ⟨stale, fits⟩
    have there := (Disk.content?_isSome_iff.mp (same ▸ stale.present)).1
    exact ⟨Disk.mem_children_of_entry? there, ⟨⟨stale.extended, stale.ungenerated⟩, fits⟩,
      stale.present⟩
  · rintro ⟨_, ⟨⟨extended, ungenerated⟩, fits⟩, present⟩
    exact ⟨⟨present, extended, ungenerated⟩, fits⟩

/-! ### The whole reconciliation -/

/-- What became of the disk, and what the report says about it. -/
structure Outcome (directory : Path) (location : Location) (files : List GlueFile)
    (extension : String) (disk : Disk) (report : Reconciled) (after : Disk) : Prop where
  generated : ∀ file ∈ files,
    after.content? (location ++ [file.name]) = some file.content.toUTF8
  removed : ∀ name, name ∈ report.removed ↔
    IsStaleFile disk location files extension name ∧ Disk.Fits directory name
  ascending : (report.removed.map utf8Bytes).Pairwise (· < ·)
  gone : ∀ name ∈ report.removed, after.entry? (location ++ [name]) = none
  kept : ∀ place, (∀ name ∈ report.removed ++ files.map (·.name), place ≠ location ++ [name]) →
    after.entry? place = disk.entry? place ∨
      (disk.entry? place = none ∧ after.entry? place = some .directory)
  contents : ∀ place, (∀ name ∈ report.removed, place ≠ location ++ [name]) →
    (∀ file ∈ files, ¬disk.SameFile (location ++ [file.name]) place) →
      after.content? place = disk.content? place
  strays : after.strays = disk.strays
  written : report.written = (files.filter (!isHeld disk location ·)).map (·.name)
  unchanged : report.unchanged = (files.filter (isHeld disk location ·)).map (·.name)
  wellNamed : after.WellNamed

theorem ascending_mergeSort {names : List String} (once : names.Nodup) :
    (names.mergeSort.map utf8Bytes).Pairwise (· < ·) := by
  have sorted : names.mergeSort.Pairwise (· ≤ ·) := List.pairwise_mergeSort' (· ≤ ·) names
  have distinct : names.mergeSort.Nodup := (List.mergeSort_perm names _).nodup_iff.mpr once
  rw [List.pairwise_map]
  apply (sorted.and distinct).imp
  intro left right ⟨notAfter, apart⟩
  exact utf8Bytes_lt_iff.mpr (lt_of_le_of_ne notAfter apart)

namespace Stages

variable {report : Reconciled} (stages : Stages directory files extension disk report after)

include stages

theorem mem_removed_iff (wellNamed : disk.WellNamed)
    (direct : Direct files extension disk stages.location) {name : String} :
    name ∈ stages.removed ↔
      IsStaleFile disk stages.location files extension name ∧ Disk.Fits directory name := by
  obtain ⟨_, members⟩ := sweep_removed stages.opens (stages.listed (wellNamed stages.location))
    (direct.mono stages.adds.fewerLinks) stages.sweeps
  rw [members, isStaleFile_iff_swept (stages.adds.content?_eq _)]

theorem removed_nodup (wellNamed : disk.WellNamed)
    (direct : Direct files extension disk stages.location) : stages.removed.Nodup :=
  (sweep_removed stages.opens (stages.listed (wellNamed stages.location))
    (direct.mono stages.adds.fewerLinks) stages.sweeps).1

theorem entries (wellNamed : disk.WellNamed) (direct : Direct files extension disk stages.location)
    {place : Location}
    (elsewhere : ∀ name ∈ files.map (·.name), place ≠ stages.location ++ [name]) :
    after.entry? place = if ∃ name ∈ stages.removed, place = stages.location ++ [name] then none
      else stages.made.entry? place := by
  have notLinks : ∀ file ∈ files, ¬stages.swept.IsLink (stages.location ++ [file.name]) :=
    fun file member => (stages.separate direct).notLink file.name (List.mem_map_of_mem member)
  rw [writeFiles_entries stages.opensSwept stages.isNames notLinks stages.writes elsewhere,
    sweep_entries stages.opens (stages.listed (wellNamed stages.location)) stages.sweeps]

/-- The sweep leaves the files that are generated, so what it leaves tells what is held. -/
theorem isHeld_swept (wellNamed : disk.WellNamed) {file : GlueFile} (member : file ∈ files) :
    isHeld stages.swept stages.location file = isHeld disk stages.location file := by
  apply isHeld_congr
  apply stages.content?_swept (wellNamed stages.location)
  intro name gone same
  cases Disk.append_name_inj.mp same
  exact stages.ungenerated gone (List.mem_map_of_mem member)

theorem names (wellNamed : disk.WellNamed) (distinct : (files.map (·.name)).Nodup)
    (direct : Direct files extension disk stages.location) :
    report.written = (files.filter (!isHeld disk stages.location ·)).map (·.name) ∧
      report.unchanged = (files.filter (isHeld disk stages.location ·)).map (·.name) := by
  have held : ∀ file ∈ files,
      isHeld stages.swept stages.location file = isHeld disk stages.location file :=
    fun file member => stages.isHeld_swept wellNamed member
  obtain ⟨written, unchanged⟩ := writeFiles_names stages.opensSwept stages.isNames distinct
    (stages.separate direct) stages.writes
  rw [List.filter_congr fun file member => congrArg not (held file member)] at written
  rw [List.filter_congr held] at unchanged
  exact ⟨written, unchanged⟩

theorem outcome (wellNamed : disk.WellNamed) (distinct : (files.map (·.name)).Nodup)
    (direct : Direct files extension disk stages.location) :
    Outcome directory stages.location files extension disk report after := by
  obtain ⟨held, keptContents⟩ := writeFiles_leaves stages.opensSwept stages.isNames distinct
    (stages.separate direct) stages.writes
  obtain ⟨written, unchanged⟩ := stages.names wellNamed distinct direct
  constructor
  case generated => exact fun file member => (held file member).2
  case removed =>
    intro name
    rw [stages.mem_removed, stages.mem_removed_iff wellNamed direct]
  case ascending =>
    rw [stages.sorted]
    exact ascending_mergeSort (stages.removed_nodup wellNamed direct)
  case gone =>
    intro name member
    rw [stages.mem_removed] at member
    rw [stages.entries wellNamed direct, if_pos ⟨name, member, rfl⟩]
    intro other generated same
    cases Disk.append_name_inj.mp same
    exact stages.ungenerated member generated
  case kept =>
    intro place elsewhere
    have unremoved : ¬∃ name ∈ stages.removed, place = stages.location ++ [name] := by
      rintro ⟨name, member, here⟩
      exact elsewhere name (List.mem_append_left _ (stages.mem_removed.mpr member)) here
    rw [stages.entries wellNamed direct fun name generated =>
      elsewhere name (List.mem_append_right _ generated), if_neg unremoved]
    exact stages.adds.entries place
  case contents =>
    intro place unremoved apart
    rw [keptContents place fun file member same =>
        apart file member (stages.fewerSwept.sameFile same),
      stages.content?_swept (wellNamed stages.location)]
    exact fun name member => unremoved name (stages.mem_removed.mpr member)
  case strays =>
    rw [(writeFiles_sameDirectories stages.writes).strays,
      (sweep_sameDirectories stages.sweeps).strays, stages.adds.strays]
  case written => exact written
  case unchanged => exact unchanged
  case wellNamed => exact fun place => stages.named direct (wellNamed place)

end Stages

theorem outcome_of_completes {report : Reconciled} (wellNamed : disk.WellNamed)
    (distinct : (files.map (·.name)).Nodup)
    (completed : Completes (reconcile directory files extension) disk report after) :
    ∃ location, after.Opens directory location ∧
      (∀ other, disk.Opens directory other → other = location) ∧
      (Direct files extension disk location →
        Outcome directory location files extension disk report after) := by
  obtain ⟨stages⟩ := completes_reconcile_iff.mp completed
  exact ⟨stages.location, stages.opensAfter, stages.unique, stages.outcome wellNamed distinct⟩

/-- All stale files are gone just if all of them can be named. -/
theorem Outcome.gone_iff {report : Reconciled}
    (outcome : Outcome directory location files extension disk report after) :
    (∀ name, IsStaleFile disk location files extension name →
      after.entry? (location ++ [name]) = none) ↔
      ∀ name, IsStaleFile disk location files extension name → Disk.Fits directory name := by
  constructor
  · intro cleared name stale
    by_contra long
    have unremoved : name ∉ report.removed := by
      intro member
      exact long ((outcome.removed name).mp member).2
    have elsewhere : ∀ other ∈ report.removed ++ files.map (·.name),
        location ++ [name] ≠ location ++ [other] := by
      intro other member same
      cases Disk.append_name_inj.mp same
      exact (List.mem_append.mp member).elim unremoved stale.ungenerated
    have present := (Disk.content?_isSome_iff.mp stale.present).1
    rcases outcome.kept _ elsewhere with same | ⟨absent, _⟩
    · rw [← same, cleared name stale] at present
      cases present
    · rw [absent] at present
      cases present
  · intro named name stale
    exact outcome.gone name ((outcome.removed name).mpr ⟨stale, named name stale⟩)

/-- In a directory whose names concerned are no links, and no two of them names of one file,
the stale files whose paths are too long and those whose names are no texts are all that a
reconciliation overlooks. -/
theorem reconcile_outcome {report : Reconciled} (wellNamed : disk.WellNamed)
    (distinct : (files.map (·.name)).Nodup)
    (completed : Completes (reconcile directory files extension) disk report after) :
    ∃ location, after.Opens directory location ∧
      (∀ other, disk.Opens directory other → other = location) ∧
      (Direct files extension disk location →
        Outcome directory location files extension disk report after ∧
        (((∀ name, IsStaleFile disk location files extension name →
            after.entry? (location ++ [name]) = none) ∧
          ∀ stray ∈ after.strays, ¬IsStaleStray location extension stray) ↔
          (∀ name, IsStaleFile disk location files extension name → Disk.Fits directory name) ∧
            ∀ stray ∈ disk.strays, ¬IsStaleStray location extension stray)) := by
  obtain ⟨location, opens, unique, outcome⟩ := outcome_of_completes wellNamed distinct completed
  refine ⟨location, opens, unique, fun direct => ⟨outcome direct, ?_⟩⟩
  rw [(outcome direct).gone_iff, (outcome direct).strays]

end

/-! ### A directory of many kinds -/

namespace Mixed

def files : List GlueFile := [⟨"same.c", "int x;\n"⟩, ⟨"new.c", "int y;\n"⟩]

/-- The name of the stray is `.c` behind a byte that begins no character. -/
def stray : Stray :=
  ⟨["work", "out"], ⟨⟨#[0xff, 0x2e, 0x63]⟩, by decide +kernel⟩, .file .empty⟩

def disk : Disk where
  entries := [(["work", "out", "stale.c"], .shared 0), (["work", "kept.c"], .shared 0),
    (["work", "out", "same.c"], .file "int x;\n".toUTF8),
    (["work", "out", "notes.txt"], .file .empty), (["work", "out", "sub.c"], .directory),
    (["work", "out", "link"], .link ⟨"../kept.c"⟩), (["work", "out"], .directory),
    (["work"], .directory)]
  workingDirectory := ["work"]
  contents := [(0, "int z;\n".toUTF8)]
  strays := [stray]

theorem opens : disk.Opens ⟨"out"⟩ ["work", "out"] :=
  ⟨rfl, rfl⟩

theorem direct : Direct files "c" disk ["work", "out"] where
  generated := by
    apply Disk.separate_of_unlinked
    intro name member
    rcases List.mem_pair.mp member with rfl | rfl
    · exact .of_file rfl
    · exact .of_none rfl
  stale := by
    rintro name stale ⟨target, linked⟩
    obtain ⟨rfl, _⟩ : name = "link" ∧ target = ⟨"../kept.c"⟩ := by
      simpa [disk] using Disk.mem_entries_of_entry? linked (Disk.append_name_ne_nil _ _)
    revert stale
    decide

theorem wellNamed : disk.WellNamed :=
  Disk.wellNamed_iff.mpr (by decide)

theorem isStaleStray : IsStaleStray ["work", "out"] "c" stray :=
  ⟨rfl, rfl, by decide, [0xff], by decide, by decide +kernel⟩

end Mixed

/-- A stale file goes, and its other name stays; a directory of such a name, a file of another
kind and one whose name is no text stay too. -/
theorem reconcile_outcome_mixed :
    ∃ report after, Mixed.disk.WellNamed ∧ (Mixed.files.map (·.name)).Nodup ∧
      Completes (reconcile ⟨"out"⟩ Mixed.files "c") Mixed.disk report after ∧
      Direct Mixed.files "c" Mixed.disk ["work", "out"] ∧
      "stale.c" ∈ report.removed ∧ "sub.c" ∉ report.removed ∧
      report.written = ["new.c"] ∧ report.unchanged = ["same.c"] ∧
      IsStaleStray ["work", "out"] "c" Mixed.stray ∧ Mixed.stray ∈ after.strays ∧
      Outcome ⟨"out"⟩ ["work", "out"] Mixed.files "c" Mixed.disk report after := by
  have distinct : (Mixed.files.map (·.name)).Nodup := by decide
  obtain ⟨report, after, completed⟩ := reconcile_completes Mixed.files "c" (by decide)
    Mixed.opens.createDirectories Mixed.opens (Mixed.wellNamed _) (by decide)
  obtain ⟨location, _, unique, described⟩ := reconcile_outcome Mixed.wellNamed distinct completed
  cases unique _ Mixed.opens
  obtain ⟨outcome, _⟩ := described Mixed.direct
  refine ⟨report, after, Mixed.wellNamed, distinct, completed, Mixed.direct, ?_, ?_, ?_, ?_,
    Mixed.isStaleStray, ?_, outcome⟩
  · exact (outcome.removed _).mpr ⟨⟨by decide, by decide, by decide⟩, by decide⟩
  · intro member
    exact absurd ((outcome.removed _).mp member).1.present (by decide)
  · rw [outcome.written]
    decide
  · rw [outcome.unchanged]
    decide
  · rw [outcome.strays]
    exact List.mem_singleton_self _

/-! ### A stale file that stays -/

namespace OutOfReach

/-- The directory `out` with separators behind it, as many as make `a.c` too long. -/
def directory : Path := ⟨"out" ++ Disk.separators 4090⟩

def disk : Disk :=
  .plain [(["work", "out", "a.c"], .file .empty), (["work", "out"], .directory),
    (["work"], .directory)] ["work"]

theorem opens : disk.Opens directory ["work", "out"] := by
  have here : disk.Opens ⟨"out"⟩ ["work", "out"] := ⟨rfl, rfl⟩
  exact here.closed (by decide)

theorem not_fits : ¬Disk.Fits directory "a.c" := by
  intro ⟨checked, _⟩
  obtain ⟨-, -, short⟩ := Disk.checkPath_eq_ok_iff.mp checked
  have size : directory.text.utf8ByteSize = 4093 := by
    rw [directory, String.utf8ByteSize_append, Disk.utf8ByteSize_separators]
    rfl
  have joined : directory.text.utf8ByteSize + 3 ≤ (directory.join "a.c").text.utf8ByteSize := by
    have relative : Path.isAbsolute ⟨"a.c"⟩ = false := by decide
    have three : "a.c".utf8ByteSize = 3 := by decide
    simp only [Path.join, relative, Bool.false_eq_true, if_false]
    split <;> simp only [String.utf8ByteSize_append, three] <;> omega
  rw [Disk.pathLimit] at short
  omega

theorem direct : Direct [] "c" disk ["work", "out"] :=
  direct_of_unlinked fun _ => Disk.unlinked_of_plain (by decide) _

end OutOfReach

/-- A stale file can stay although the reconciliation completes. -/
theorem reconcile_leaves_stale_file :
    ¬∀ (directory : Path) (files : List GlueFile) (extension : String) (disk after : Disk)
        (report : Reconciled) (location : Location),
      disk.WellNamed → (files.map (·.name)).Nodup → Direct files extension disk location →
      Completes (reconcile directory files extension) disk report after →
      after.Opens directory location →
      ∀ name, IsStaleFile disk location files extension name →
        after.entry? (location ++ [name]) = none := by
  intro always
  have wellNamed : OutOfReach.disk.WellNamed := Disk.wellNamed_iff.mpr (by decide)
  have distinct : (([] : List GlueFile).map (·.name)).Nodup := List.nodup_nil
  obtain ⟨report, after, completed⟩ := reconcile_completes [] "c" rfl
    OutOfReach.opens.createDirectories OutOfReach.opens (wellNamed _) nofun
  obtain ⟨location, opens, unique, outcome⟩ := outcome_of_completes wellNamed distinct completed
  cases unique _ OutOfReach.opens
  have cleared := always _ _ _ _ _ _ _ wellNamed distinct OutOfReach.direct completed opens
  have stale : IsStaleFile OutOfReach.disk ["work", "out"] [] "c" "a.c" :=
    ⟨by decide, by decide, List.not_mem_nil⟩
  exact OutOfReach.not_fits ((outcome OutOfReach.direct).gone_iff.mp cleared "a.c" stale)

end Reconcile

end GuestGlue
