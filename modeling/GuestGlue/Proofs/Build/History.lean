/-
Histories of builds into one directory.  The sweep knows a generated file by the
extension of its name.  It overlooks every file if the generated extension has a
point in it, and always the file whose name is nothing but the extension; those
files stay from earlier builds, and all others go with what they were made for.
-/

import GuestGlue.Proofs.Build.Reconcile
import GuestGlue.Proofs.Glue.FileNames

namespace GuestGlue

open Reconcile

structure BuildInput where
  boilerplate : String
  exports : List ExportBinding
  imports : List ImportBinding

namespace BuildInput

def files (input : BuildInput) (options : Options) : List GlueFile :=
  (Glue.generate options input.boilerplate input.exports input.imports).files

def content? (input : BuildInput) (options : Options) (name : String) : Option ByteArray :=
  contentIn? (input.files options) name

theorem nodup_names (input : BuildInput) (options : Options) :
    ((input.files options).map (·.name)).Nodup :=
  Glue.generate_names_nodup options input.boilerplate input.exports input.imports

end BuildInput

def buildAll (options : Options) (directory : Path) : List BuildInput → BuildM DiskM Unit
  | [] => pure ()
  | input :: later => do
      let _ ← reconcile directory (input.files options) options.extension
      buildAll options directory later

/-! ### Names that the sweep overlooks -/

def Overlooked (options : Options) (name : String) : Prop :=
  '.' ∈ options.extension.toList ∨ name = "." ++ options.extension

instance (options : Options) (name : String) : Decidable (Overlooked options name) :=
  inferInstanceAs (Decidable (_ ∨ _))

theorem fileName_eq_iff {options : Options} {stem : String} :
    options.fileName stem = "." ++ options.extension ↔ stem = "" := by
  rw [Options.fileName, ← String.toList_inj, ← String.toList_inj]
  simp

theorem extension?_fileName_iff {options : Options} {stem : String}
    (plain : FileName.isPlain (options.fileName stem) = true) :
    FileName.extension? (options.fileName stem) = some options.extension ↔
      ¬Overlooked options (options.fileName stem) := by
  rw [Overlooked, fileName_eq_iff, not_or]
  exact FileName.extension?_eq_some_iff (IsName.of_isPlain plain).notPoints

theorem Overlooked.extension?_ne {options : Options} {name : String}
    (overlooked : Overlooked options name) : FileName.extension? name ≠ some options.extension := by
  rintro found
  rcases overlooked with point | rfl
  · exact FileName.no_point_of_extension? found point
  · by_cases points : "." ++ options.extension = ".."
    · simp only [FileName.extension?, points, if_true] at found
      cases found
    · exact ((@FileName.extension?_eq_some_iff "" _ points).mp found).2 rfl

/-! ### Steps of a history -/

def heldAfter (options : Options) (name : String) : List BuildInput → Option ByteArray
  | [] => none
  | last :: earlier =>
      (last.content? options name).or
        (if Overlooked options name then earlier.findSome? (·.content? options name) else none)

theorem heldAfter_of_overlooked {options : Options} {name : String}
    (overlooked : Overlooked options name) (builds : List BuildInput) :
    heldAfter options name builds = builds.findSome? (·.content? options name) := by
  cases builds with
  | nil => rfl
  | cons last earlier =>
      rw [heldAfter, if_pos overlooked, List.findSome?_cons]
      cases last.content? options name <;> rfl

theorem mem_last_of_heldAfter {options : Options} {name : String} {builds : List BuildInput}
    (seen : ¬Overlooked options name) (held : heldAfter options name builds ≠ none) :
    ∃ build ∈ builds, build.content? options name ≠ none := by
  cases builds with
  | nil => exact absurd rfl held
  | cons last earlier =>
      rw [heldAfter, if_neg seen, Option.or_none] at held
      exact ⟨last, List.mem_cons_self, held⟩

structure Tracks (options : Options) (directory : Path) (location : Location) (disk : Disk)
    (builds : List BuildInput) : Prop where
  names : ∀ name ∈ disk.children location, IsName name
  unlinked : ∀ name, disk.Unlinked (location ++ [name])
  contents : ∀ name, disk.file? location name = heldAfter options name builds
  generated : ∀ build ∈ builds, ∀ file ∈ build.files options,
    FileName.isPlain file.name = true ∧ Disk.Fits directory file.name

section Builds

variable {options : Options} {directory : Path} {location : Location} {disk after : Disk}

theorem tracks_empty (empty : disk.children location = []) :
    Tracks options directory location disk [] := by
  have absent := Disk.entry?_of_childless empty
  constructor
  case names => simp [empty]
  case unlinked => exact fun name => .of_none (absent name)
  case contents =>
    intro name
    rw [heldAfter, Disk.file?, absent]
  case generated => exact List.forall_mem_nil _

theorem Tracks.unswept {builds : List BuildInput} (tracks : Tracks options directory location disk builds)
    {input : BuildInput} {name : String} (ungenerated : input.content? options name = none) :
    (if Swept directory (input.files options) options.extension name then none
      else disk.file? location name) = heldAfter options name (input :: builds) := by
  rw [heldAfter, ungenerated, Option.none_or, tracks.contents]
  -- a name that the sweep overlooks stays as it is; any other that is held was generated
  -- by an earlier build, so the sweep finds it
  by_cases overlooked : Overlooked options name
  · have kept : ¬Swept directory (input.files options) options.extension name := by
      rintro ⟨stale, _⟩
      simp only [isStaleName, Bool.and_eq_true, decide_eq_true_eq] at stale
      exact overlooked.extension?_ne stale.1
    rw [if_neg kept, if_pos overlooked, heldAfter_of_overlooked overlooked]
  · rw [if_neg overlooked]
    split
    · rfl
    · next kept =>
      by_contra held
      obtain ⟨build, built, present⟩ := mem_last_of_heldAfter overlooked held
      have named : name ∈ (build.files options).map (·.name) := by
        by_contra absent
        exact present (contentIn?_eq_none_iff.mpr absent)
      obtain ⟨file, member, rfl⟩ := List.mem_map.mp named
      obtain ⟨plain, fits⟩ := tracks.generated build built file member
      obtain ⟨stem, same⟩ := Glue.generate_stem member
      rw [same] at kept overlooked plain fits ungenerated
      refine kept ⟨?_, fits⟩
      have absent := contentIn?_eq_none_iff.mp ungenerated
      rw [isStaleName, Bool.and_eq_true, decide_eq_true_eq, extension?_fileName_iff plain]
      refine ⟨overlooked, ?_⟩
      simpa using absent

theorem reconcile_tracks {input : BuildInput} {report : Reconciled}
    (completed : Completes (reconcile directory (input.files options) options.extension) disk report after) :
    ∃ location, (∀ other, disk.Opens directory other → other = location) ∧
      after.Opens directory location ∧
      ∀ builds, Tracks options directory location disk builds →
        Tracks options directory location after (input :: builds) := by
  obtain ⟨plain, location, unique, opens, described⟩ :=
    reconcile_files (input.nodup_names options) completed
  refine ⟨location, unique, opens, fun builds tracks => ?_⟩
  obtain ⟨names, unlinked, fits, contents⟩ := described tracks.names tracks.unlinked
  refine ⟨names, unlinked, fun name => ?_, ?_⟩
  · rw [contents]
    change (input.content? options name).or _ = _
    cases generated : input.content? options name with
    | none =>
        rw [Option.none_or]
        exact tracks.unswept generated
    | some content => rw [heldAfter, generated, Option.some_or, Option.some_or]
  · refine List.forall_mem_cons.mpr ⟨fun file member => ?_, tracks.generated⟩
    exact ⟨plain file member, fits file member⟩

/-! ### Whole histories -/

theorem buildAll_tracks {later : List BuildInput} (opens : disk.Opens directory location)
    (completed : Completes (buildAll options directory later) disk () after) :
    after.Opens directory location ∧
      ∀ builds, Tracks options directory location disk builds →
        Tracks options directory location after (later.reverse ++ builds) := by
  induction later generalizing disk with
  | nil =>
      obtain ⟨-, rfl⟩ := completes_pure_iff.mp completed
      exact ⟨opens, fun _ tracks => tracks⟩
  | cons input later ih =>
      obtain ⟨_, middle, reconciled, ran⟩ := completes_bind_iff.mp completed
      obtain ⟨place, unique, opened, step⟩ := reconcile_tracks reconciled
      cases unique location opens
      obtain ⟨opens, rest⟩ := ih opened ran
      refine ⟨opens, fun builds tracks => ?_⟩
      rw [List.reverse_cons, List.append_assoc]
      exact rest _ (step builds tracks)

theorem content?_eq_none_iff {build : BuildInput} {name : String} :
    build.content? options name = none ↔ ∀ file ∈ build.files options, file.name ≠ name := by
  rw [BuildInput.content?, contentIn?_eq_none_iff]
  simp

/-- Only the last build is left if it has every name of earlier builds that the sweep
overlooks. -/
theorem heldAfter_eq_last_iff {last : BuildInput} {earlier : List BuildInput} :
    (∀ name, heldAfter options name (last :: earlier) = last.content? options name) ↔
      ∀ build ∈ earlier, ∀ file ∈ build.files options, Overlooked options file.name →
        file.name ∈ (last.files options).map (·.name) := by
  constructor
  · intro same build built file member overlooked
    by_contra absent
    have held := same file.name
    have nothing : last.content? options file.name = none := contentIn?_eq_none_iff.mpr absent
    rw [heldAfter, nothing, Option.none_or, if_pos overlooked] at held
    have unheld := List.findSome?_eq_none_iff.mp held build built
    exact content?_eq_none_iff.mp unheld file member rfl
  · intro covered name
    rw [heldAfter]
    cases generated : last.content? options name with
    | some content => rfl
    | none =>
        rw [Option.none_or]
        split
        · next overlooked =>
          refine List.findSome?_eq_none_iff.mpr fun build built => content?_eq_none_iff.mpr ?_
          rintro file member rfl
          exact contentIn?_eq_none_iff.mp generated (covered build built file member overlooked)
        · rfl

/-- After a history of builds into a directory that was empty, a name has the content
of the last build; if that build has no such file and the sweep overlooks the name, it
has the content of the latest build that had one.  So the directory holds the files of
the last build and no others just if that build has every overlooked name of the
builds before it. -/
theorem buildAll_files {earlier : List BuildInput} {last : BuildInput}
    (completed : Completes (buildAll options directory (earlier ++ [last])) disk () after) :
    ∃ location, after.Opens directory location ∧
      (disk.children location = [] →
        (∀ name, after.file? location name =
          (last.content? options name).or
            (if Overlooked options name then earlier.reverse.findSome? (·.content? options name)
              else none)) ∧
        ((∀ name, after.file? location name = last.content? options name) ↔
          ∀ build ∈ earlier, ∀ file ∈ build.files options, Overlooked options file.name →
            file.name ∈ (last.files options).map (·.name))) := by
  obtain ⟨first, later, builds⟩ := List.exists_cons_of_ne_nil
    (List.append_ne_nil_of_right_ne_nil earlier (List.cons_ne_nil last []))
  rw [builds] at completed
  obtain ⟨_, middle, reconciled, ran⟩ := completes_bind_iff.mp completed
  obtain ⟨location, _, opened, step⟩ := reconcile_tracks reconciled
  obtain ⟨opens, rest⟩ := buildAll_tracks opened ran
  refine ⟨location, opens, fun empty => ?_⟩
  have tracks := rest _ (step [] (tracks_empty empty))
  have latestFirst : later.reverse ++ [first] = last :: earlier.reverse := by
    rw [← List.reverse_cons, ← builds, List.reverse_append]
    rfl
  rw [latestFirst] at tracks
  have contents := tracks.contents
  refine ⟨contents, ?_⟩
  simp only [contents, heldAfter_eq_last_iff, List.mem_reverse]

end Builds

/-! ### A history that leaves a file behind -/

namespace LeftBehind

def options : Options := { Options.standard with extension := "gen.c" }

def first : BuildInput :=
  ⟨"", [], [⟨⟨"App.dll", "", "App", "run", [], .void⟩, "a", none⟩]⟩

def last : BuildInput := ⟨"", [], []⟩

def disk : Disk := .plain [(["work", "out"], .directory), (["work"], .directory)] ["work"]

theorem first_names : (first.files options).map (·.name) = ["a.gen.c", "env.gen.c"] := by
  decide +kernel

theorem last_names : (last.files options).map (·.name) = ["env.gen.c"] := by
  decide +kernel

theorem completes : ∃ after, Completes (buildAll options ⟨"out"⟩ ([first] ++ [last])) disk () after ∧
    after.Opens ⟨"out"⟩ ["work", "out"] ∧
    Tracks options ⟨"out"⟩ ["work", "out"] after [last, first] := by
  have opens : disk.Opens ⟨"out"⟩ ["work", "out"] := ⟨rfl, rfl⟩
  obtain ⟨_, middle, built⟩ := reconcile_completes (first.files options) options.extension
    (by decide +kernel) opens.createDirectories opens nofun (by rw [first_names]; decide)
  obtain ⟨_, unique, opensNext, step⟩ := reconcile_tracks built
  cases unique _ opens
  have tracks := step [] (tracks_empty rfl)
  have present : (middle.file? ["work", "out"] "env.gen.c").isSome = true := by
    rw [tracks.contents]
    decide +kernel
  obtain ⟨_, after, rebuilt⟩ := reconcile_completes (last.files options) options.extension
    (by decide +kernel) opensNext.createDirectories opensNext tracks.names (by
      rw [last_names]
      exact List.forall_mem_singleton.mpr (writable_of_file? (by decide) present))
  obtain ⟨_, unique, opensLast, stepLast⟩ := reconcile_tracks rebuilt
  cases unique _ opensNext
  exact ⟨after, built.bind (rebuilt.bind (completes_pure_iff.mpr ⟨rfl, rfl⟩)), opensLast,
    stepLast _ tracks⟩

end LeftBehind

/-- The file of a host module stays after the last import from that module has gone. -/
theorem buildAll_files_left_behind :
    ∃ after location,
      Completes (buildAll LeftBehind.options ⟨"out"⟩ ([LeftBehind.first] ++ [LeftBehind.last]))
        LeftBehind.disk () after ∧
      after.Opens ⟨"out"⟩ location ∧ LeftBehind.disk.children location = [] ∧
      ¬∀ name, after.file? location name = LeftBehind.last.content? LeftBehind.options name := by
  obtain ⟨after, completed, opensLast, _⟩ := LeftBehind.completes
  obtain ⟨location, opens, described⟩ := buildAll_files completed
  cases opensLast.unique opens
  refine ⟨after, _, completed, opens, rfl, (described rfl).2.not.mpr fun covered => ?_⟩
  have generated : "a.gen.c" ∈ (LeftBehind.first.files LeftBehind.options).map (·.name) :=
    LeftBehind.first_names ▸ List.mem_cons_self
  obtain ⟨file, member, same⟩ := List.mem_map.mp generated
  have again := covered _ List.mem_cons_self file member (Or.inl (by decide))
  rw [same, LeftBehind.last_names] at again
  exact absurd again (by decide)

/-- A directory that was empty does not always hold just the files of the last build. -/
theorem buildAll_leaves_stale_file :
    ¬∀ (options : Options) (directory : Path) (earlier : List BuildInput) (last : BuildInput)
        (disk after : Disk) (location : Location),
      Completes (buildAll options directory (earlier ++ [last])) disk () after →
      after.Opens directory location → disk.children location = [] →
      ∀ name, after.file? location name = last.content? options name := by
  intro always
  obtain ⟨after, completed, opens, tracks⟩ := LeftBehind.completes
  have held := always _ _ _ _ _ after _ completed opens rfl "a.gen.c"
  rw [tracks.contents] at held
  have kept : (LeftBehind.first.content? LeftBehind.options "a.gen.c").isSome = true := by
    decide +kernel
  have gone : LeftBehind.last.content? LeftBehind.options "a.gen.c" = none := by decide +kernel
  have overlooked : Overlooked LeftBehind.options "a.gen.c" := Or.inl (by decide)
  rw [heldAfter, gone, Option.none_or, if_pos overlooked, List.findSome?_singleton] at held
  rw [held] at kept
  cases kept

end GuestGlue
