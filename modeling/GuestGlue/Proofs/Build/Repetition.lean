/-
Reconciliation as a fixed point.  A directory is settled if every generated file is found in
place and no stale file is found; a second reconciliation has nothing to do exactly if the
first has left the directory settled.  It has where the names concerned are no links and each
generated one has a file of its own: of two names of one file every run would write both, as
it would two files of one name.
-/

import GuestGlue.Proofs.Build.Outcome
import GuestGlue.Proofs.Glue.FileNames
import GuestGlue.Proofs.Glue.Forwarder

namespace GuestGlue

namespace Reconcile

variable {disk after : Disk} {directory : Path} {location : Location}
variable {files : List GlueFile} {extension : String}

/-! ### Settled directories -/

/-- Nothing is removed exactly if no stale file is found. -/
theorem sweep_idle_iff {names : List String} :
    Completes (sweep directory files extension (names.map textItem)) disk [] after ↔
      (∀ name ∈ names, isStaleName files extension name = true →
        disk.hasFile (directory.join name) = false) ∧ after = disk := by
  induction names with
  | nil =>
      rw [List.map_nil, sweep, completes_pure_iff]
      simp
  | cons name rest ih =>
      rw [List.map_cons, completes_sweep_cons_iff, ih, List.forall_mem_cons, and_assoc]
      constructor
      · rintro (⟨_, _, _, _, _, _, same⟩ | ⟨stays, later⟩)
        · cases same
        · exact ⟨fun stale => Bool.eq_false_iff.mpr fun found => stays ⟨stale, found⟩, later⟩
      · rintro ⟨here, later⟩
        refine Or.inr ⟨?_, later⟩
        rintro ⟨stale, found⟩
        rw [here stale] at found
        cases found

/-- Nothing is written exactly if every file has its content. -/
theorem writeFiles_idle_iff {unchanged : List String} :
    Completes (writeFiles directory files) disk ([], unchanged) after ↔
      (∀ file ∈ files,
        disk.readFile (directory.join file.name) = .ok file.content.toUTF8) ∧
      unchanged = files.map (·.name) ∧ after = disk := by
  induction files generalizing unchanged with
  | nil =>
      rw [writeFiles, completes_pure_iff, Prod.mk.injEq]
      simp
  | cons file rest ih =>
      rw [completes_writeFiles_cons_iff, List.forall_mem_cons]
      constructor
      · rintro (⟨held, others, wrote, same⟩ | ⟨_, _, _, _, _, same⟩)
        · obtain ⟨written, rfl⟩ := Prod.mk.inj same
          have whole : others = ([], others.2) := Prod.ext written.symm rfl
          rw [whole] at wrote
          obtain ⟨later, names, rfl⟩ := ih.mp wrote
          exact ⟨⟨held, later⟩, congrArg (file.name :: ·) names, rfl⟩
        · cases (Prod.mk.inj same).1
      · rintro ⟨⟨held, later⟩, rfl, rfl⟩
        exact Or.inl ⟨held, _, ih.mpr ⟨later, rfl, rfl⟩, rfl⟩

theorem firstInvalid?_eq_none (plain : ∀ file ∈ files, FileName.isPlain file.name = true) :
    firstInvalid? files = none := by
  rw [firstInvalid?, List.find?_eq_none]
  exact List.forall_mem_map.mpr fun file member => by simp [plain file member]

/-- There is nothing left to do in the directory. -/
structure Settled (directory : Path) (location : Location) (files : List GlueFile)
    (extension : String) (disk : Disk) : Prop where
  held : ∀ file ∈ files,
    disk.readFile (directory.join file.name) = .ok file.content.toUTF8
  unstale : ∀ name ∈ disk.children location, isStaleName files extension name = true →
    disk.hasFile (directory.join name) = false

/-- Just in a settled directory a reconciliation does nothing. -/
theorem completes_idle_iff (opens : disk.Opens directory location)
    (plain : ∀ file ∈ files, FileName.isPlain file.name = true) :
    Completes (reconcile directory files extension) disk
        { written := [], unchanged := files.map (·.name), removed := [] } disk ↔
      Settled directory location files extension disk := by
  rw [completes_reconcile_iff]
  constructor
  · rintro ⟨made, other, removed, middle, _, created, opened, swept, wrote, sorted⟩
    cases created.symm.trans opens.createDirectories
    cases opens.unique opened
    have permuted := List.mergeSort_perm removed (· ≤ ·)
    rw [← sorted, List.nil_perm] at permuted
    subst permuted
    obtain ⟨unstale, rfl⟩ := sweep_idle_iff.mp swept
    exact ⟨(writeFiles_idle_iff.mp wrote).1, unstale⟩
  · intro settled
    exact ⟨⟨disk, location, [], disk, firstInvalid?_eq_none plain, opens.createDirectories, opens,
      sweep_idle_iff.mpr ⟨settled.unstale, rfl⟩, writeFiles_idle_iff.mpr ⟨settled.held, rfl, rfl⟩,
      List.mergeSort_nil.symm⟩⟩

/-- What a reconciliation leaves is settled if the names concerned lead nowhere else. -/
theorem Leaves.settled (leaves : Leaves directory location files extension disk after)
    (opens : after.Opens directory location)
    (plain : ∀ file ∈ files, FileName.isPlain file.name = true)
    (direct : Direct files extension after location) :
    Settled directory location files extension after where
  held file member := by
    have notLink := direct.generated.notLink _ (List.mem_map_of_mem member)
    exact (opens.readFile_join (.of_isPlain (plain file member)) notLink).mpr
      (leaves.generated file member)
  unstale name listed stale := by
    rw [Bool.eq_false_iff, Ne,
      opens.hasFile_join (leaves.names name listed) (direct.stale name stale)]
    rintro ⟨fits, present⟩
    rw [leaves.swept name ⟨stale, fits⟩] at present
    cases present

/-! ### Two names of one file -/

theorem writeFiles_shared {names : List String × List String} {place : Location} {number : Nat}
    (shared : disk.entry? place = some (.shared number))
    (completed : Completes (writeFiles directory files) disk names after) :
    after.entry? place = some (.shared number) := by
  refine writeFiles_maintains ?_ shared completed
  intro file _ part middle later before put
  obtain ⟨_, _, rfl⟩ := Disk.writeFile_fills put
  exact Disk.entry?_fill_of_shared before

/-- A generated name stays one of several names of its file. -/
theorem reconcile_shared {report : Reconciled} {file : GlueFile} {number : Nat}
    (wellNamed : disk.WellNamed) (opens : disk.Opens directory location) (listed : file ∈ files)
    (shared : disk.entry? (location ++ [file.name]) = some (.shared number))
    (completed : Completes (reconcile directory files extension) disk report after) :
    after.entry? (location ++ [file.name]) = some (.shared number) := by
  obtain ⟨_, _, removed, swept, _, created, opened, sweeps, wrote, _⟩ :=
    completes_reconcile_iff.mp completed
  cases created.symm.trans opens.createDirectories
  cases opens.unique opened
  apply writeFiles_shared _ wrote
  rw [sweep_entries opened (wellNamed location) sweeps, if_neg, shared]
  rintro ⟨name, gone, here⟩
  cases Disk.append_name_inj.mp here
  exact (isStaleName_iff.mp (sweep_stale sweeps gone)).2 (List.mem_map_of_mem listed)

/-- While two generated names with different contents are names of one file, there is something
left to do. -/
theorem not_settled_of_shared {first second : GlueFile} {number : Nat}
    (opens : disk.Opens directory location)
    (plain : ∀ file ∈ files, FileName.isPlain file.name = true) (firstListed : first ∈ files)
    (secondListed : second ∈ files) (differ : first.content.toUTF8 ≠ second.content.toUTF8)
    (firstShared : disk.entry? (location ++ [first.name]) = some (.shared number))
    (secondShared : disk.entry? (location ++ [second.name]) = some (.shared number)) :
    ¬Settled directory location files extension disk := by
  intro settled
  -- what the one name holds the other holds too
  have content : ∀ file ∈ files, disk.entry? (location ++ [file.name]) = some (.shared number) →
      (disk.contents.lookup number).getD .empty = file.content.toUTF8 := by
    intro file member shared
    have notLink : ¬disk.IsLink (location ++ [file.name]) := by
      rintro ⟨target, linked⟩
      rw [shared] at linked
      cases linked
    have isName := IsName.of_isPlain (plain file member)
    have same := ((opens.readFile_join isName notLink).mp (settled.held file member)).2
    rw [Disk.content?, shared] at same
    exact Option.some.inj same
  exact differ ((content first firstListed firstShared).symm.trans
    (content second secondListed secondShared))

end Reconcile

open Reconcile Glue

/-- After a reconciliation with generated files a second one does nothing exactly if it finds
the directory settled, and it does if the names concerned are no links and each generated one
has a file of its own. -/
theorem reconcile_generated_again {options : Options} {boilerplate : String}
    {exports : List ExportBinding} {imports : List ImportBinding} {directory : Path}
    {extension : String} {disk after : Disk} {report : Reconciled} (wellNamed : disk.WellNamed)
    (completed : Completes
      (reconcile directory (generate options boilerplate exports imports).files extension)
      disk report after) :
    let files := (generate options boilerplate exports imports).files
    let again := Completes (reconcile directory files extension) after
      { written := []
        unchanged := (generate options boilerplate exports imports).fileNames
        removed := [] }
      after
    ∃ location, after.Opens directory location ∧
      (∀ other, disk.Opens directory other → other = location) ∧
      (again ↔ Settled directory location files extension after) ∧
      (Direct files extension disk location → again) := by
  intro files again
  obtain ⟨plain, location, unique, opens, fewer, leaves⟩ :=
    reconcile_leaves (generate_names_nodup options boilerplate exports imports) completed
  have idle : again ↔ Settled directory location files extension after :=
    completes_idle_iff opens plain
  refine ⟨location, opens, unique, idle, fun direct => idle.mpr ?_⟩
  exact (leaves (wellNamed location) direct).settled opens plain (direct.mono fewer)

/-! ### A generation with two files -/

namespace Ping

def imports : List ImportBinding :=
  [⟨⟨"App.dll", "", "Api", "ping", [], .void⟩, "host", none⟩]

theorem names : (generate .standard "" [] imports).fileNames = ["host.c", "env.c"] := by
  decide +kernel

theorem completes {disk : Disk} (wellNamed : disk.WellNamed)
    (opens : disk.Opens ⟨"out"⟩ ["work", "out"])
    (writable : ∀ name ∈ ["host.c", "env.c"], Writable ⟨"out"⟩ ["work", "out"] disk name) :
    ∃ report after, Completes (reconcile ⟨"out"⟩ (generate .standard "" [] imports).files "c") disk
      report after := by
  rw [← names] at writable
  exact reconcile_completes _ "c" (by decide +kernel) opens.createDirectories opens (wellNamed _)
    writable

theorem contents_differ :
    let files := (generate .standard "" [] imports).files
    ∃ first ∈ files, first.name = "host.c" ∧
      ∃ second ∈ files, second.name = "env.c" ∧ first.content.toUTF8 ≠ second.content.toUTF8 := by
  intro files
  have untargeted : ∃ file ∈ files, file.name = "env.c" ∧ file.content = "" := by decide +kernel
  obtain ⟨second, secondListed, secondNamed, empty⟩ := untargeted
  have forwarded : ⟨⟨"App.dll", "", "Api", "ping", [], .void⟩, "host", none⟩ ∈
      (planImports .standard .runtime imports).forwarded := by decide +kernel
  obtain ⟨returned, _, first, imported, firstNamed, holds⟩ := planImports_forwarded "" forwarded
  have firstListed : first ∈ (generate .standard "" [] imports).files := by
    rw [generate_files]
    exact List.mem_append_left _ imported
  refine ⟨first, firstListed, firstNamed.trans (by decide), second, secondListed, secondNamed,
    fun same => ?_⟩
  -- the one file holds the forwarder, and the other nothing
  rw [String.toByteArray_inj.mp same, empty, forwarder_eq, importText] at holds
  simp at holds

end Ping

namespace StaleBefore

def disk : Disk :=
  .plain [(["work", "out", "stale.c"], .file .empty), (["work", "out", "notes.txt"], .file .empty),
    (["work", "out"], .directory), (["work"], .directory)] ["work"]

end StaleBefore

theorem reconcile_generated_again_stale :
    let files := (generate .standard "" [] Ping.imports).files
    ∃ report after, StaleBefore.disk.WellNamed ∧
      Completes (reconcile ⟨"out"⟩ files "c") StaleBefore.disk report after ∧
      "stale.c" ∈ report.removed ∧ report.written = ["host.c", "env.c"] ∧
      Settled ⟨"out"⟩ ["work", "out"] files "c" after ∧
      Completes (reconcile ⟨"out"⟩ files "c") after
        { written := [], unchanged := ["host.c", "env.c"], removed := [] } after := by
  intro files
  have opens : StaleBefore.disk.Opens ⟨"out"⟩ ["work", "out"] := ⟨rfl, rfl⟩
  have wellNamed : StaleBefore.disk.WellNamed := Disk.wellNamed_iff.mpr (by decide)
  have direct : Direct files "c" StaleBefore.disk ["work", "out"] :=
    direct_of_unlinked fun name => Disk.unlinked_of_plain (by decide) _
  obtain ⟨report, after, completed⟩ := Ping.completes wellNamed opens (by decide)
  obtain ⟨location, _, unique, described⟩ := outcome_of_completes wellNamed
    (generate_names_nodup .standard "" [] Ping.imports) completed
  cases unique _ opens
  have outcome := described direct
  obtain ⟨location, _, unique, settled, repeated⟩ := reconcile_generated_again wellNamed completed
  cases unique _ opens
  have again := repeated direct
  refine ⟨report, after, wellNamed, completed, ?_, ?_, settled.mp again, ?_⟩
  · exact (outcome.removed _).mpr ⟨⟨by decide, by decide, by decide +kernel⟩, by decide⟩
  · rw [outcome.written]
    decide +kernel
  · rw [← Ping.names]
    exact again

namespace SharedBefore

/-- Both generated names are names of one file. -/
def disk : Disk where
  entries := [(["work", "out", "host.c"], .shared 0), (["work", "out", "env.c"], .shared 0),
    (["work", "out"], .directory), (["work"], .directory)]
  workingDirectory := ["work"]
  contents := []
  strays := []

end SharedBefore

/-- Without files of their own for the names every run writes again. -/
theorem reconcile_generated_rewrites :
    ¬∀ (options : Options) (boilerplate : String) (exports : List ExportBinding)
        (imports : List ImportBinding) (directory : Path) (extension : String) (disk after : Disk)
        (report : Reconciled),
      disk.WellNamed →
      Completes
        (reconcile directory (generate options boilerplate exports imports).files extension)
        disk report after →
      Completes
        (reconcile directory (generate options boilerplate exports imports).files extension) after
        { written := []
          unchanged := (generate options boilerplate exports imports).fileNames
          removed := [] }
        after := by
  intro always
  have opens : SharedBefore.disk.Opens ⟨"out"⟩ ["work", "out"] := ⟨rfl, rfl⟩
  have wellNamed : SharedBefore.disk.WellNamed := Disk.wellNamed_iff.mpr (by decide)
  obtain ⟨first, firstListed, firstNamed, second, secondListed, secondNamed, differ⟩ :=
    Ping.contents_differ
  obtain ⟨report, after, completed⟩ := Ping.completes wellNamed opens (by decide)
  have again := always _ _ _ _ _ _ _ _ _ wellNamed completed
  obtain ⟨plain, _, unique, opensAfter, _⟩ :=
    reconcile_leaves (generate_names_nodup .standard "" [] Ping.imports) completed
  cases unique _ opens
  have firstShared := reconcile_shared wellNamed opens firstListed
    (by rw [firstNamed]; rfl) completed
  have secondShared := reconcile_shared wellNamed opens secondListed
    (by rw [secondNamed]; rfl) completed
  exact not_settled_of_shared opensAfter plain firstListed secondListed differ firstShared
    secondShared ((completes_idle_iff opensAfter plain).mp again)

end GuestGlue
