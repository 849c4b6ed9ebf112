/-
Builds into a fresh directory.  A host module whose file name is not plain gets no file
and its imports are reported, so only names that are plain and that the system cannot
take all the same, such as names with a zero character, can stop the build.
-/

import GuestGlue.Proofs.Build.Outcome
import GuestGlue.Proofs.Build.Refusal
import GuestGlue.Proofs.Files.Fresh

namespace GuestGlue

open Reconcile

/-! ### Fresh directories -/

namespace Reconcile

variable {disk made after : Disk} {directory : Path} {location : Location}
variable {files : List GlueFile} {extension : String}

/-- In a fresh directory every file is written, and there is nothing else. -/
theorem reconcile_fresh {report : Reconciled} (creates : disk.Creates directory location made)
    (distinct : (files.map (·.name)).Nodup)
    (completed : Completes (reconcile directory files extension) disk report after) :
    (∀ file ∈ files, Disk.Fits directory file.name) ∧ after.Opens directory location ∧
      (∀ name, after.file? location name = contentIn? files name) ∧
      report = ⟨files.map (·.name), [], []⟩ := by
  obtain ⟨written, unchanged, _⟩ := report
  obtain ⟨stages⟩ := completes_reconcile_iff.mp completed
  have isNames := stages.isNames
  obtain ⟨_, place, removed, middle, _, created, opens, sweeps, wrote, sorted⟩ := stages
  cases creates.created.symm.trans created
  cases creates.opens.unique opens
  rw [creates.empty] at sweeps
  obtain ⟨rfl, rfl⟩ := completes_pure_iff.mp sweeps
  have absent := Disk.entry?_of_childless creates.empty
  have nothing (name : String) : middle.content? (location ++ [name]) = none := by
    rw [Disk.content?, absent]
  have unlinked (name : String) : middle.Unlinked (location ++ [name]) := .of_none (absent name)
  have separate : middle.Separate location (files.map (·.name)) :=
    Disk.separate_of_unlinked fun name _ => unlinked name
  obtain ⟨held, kept⟩ := writeFiles_leaves opens isNames distinct separate wrote
  obtain ⟨writes, leaves⟩ := writeFiles_names opens isNames distinct separate wrote
  have unheld : isHeld middle location = fun _ => false := by
    funext file
    simp [isHeld, nothing]
  refine ⟨fun file member => (held file member).1,
    opens.mono (writeFiles_sameLinks wrote).waysIn, fun name => ?_, ?_⟩
  · rw [← Disk.content?_eq_file? ((writeFiles_fewerLinks wrote).unlinked (unlinked name))]
    by_cases generated : name ∈ files.map (·.name)
    · obtain ⟨file, member, rfl⟩ := List.mem_map.mp generated
      rw [(held file member).2, contentIn?_of_mem distinct member]
    · rw [contentIn?_eq_none_iff.mpr generated, kept, nothing]
      intro file member same
      have here := Disk.append_name_inj.mp (Disk.sameFile_of_unlinked (unlinked file.name) same)
      exact generated (here ▸ List.mem_map_of_mem member)
  · simp only [unheld, Bool.not_false, List.filter_true, List.filter_false,
      List.map_nil] at writes leaves
    rw [Reconciled.mk.injEq]
    exact ⟨writes, leaves, sorted.trans List.mergeSort_nil⟩

theorem reconcile_fresh_completes_iff (creates : disk.Creates directory location made)
    (distinct : (files.map (·.name)).Nodup) (valid : firstInvalid? files = none) :
    (∃ report after, Completes (reconcile directory files extension) disk report after) ↔
      ∀ file ∈ files, Disk.Fits directory file.name := by
  constructor
  · intro ⟨report, after, completed⟩
    exact (reconcile_fresh creates distinct completed).1
  · intro fits
    refine reconcile_completes files extension valid creates.created creates.opens
      (by simp [creates.empty]) ?_
    intro name named
    obtain ⟨file, member, rfl⟩ := List.mem_map.mp named
    refine ⟨fits file member, ?_⟩
    rw [Disk.takesFile, Disk.entry?_of_childless creates.empty]
    rfl

end Reconcile

/-! ### Host modules -/

namespace Glue

variable {options : Options} {imports : List ImportBinding} {binding : ImportBinding}

theorem hostModule_mem (imported : binding ∈ imports) : binding.hostModule ∈ hostModules imports :=
  mem_firstSeen.mpr (List.mem_map_of_mem imported)

/-- A host module with a plain file name gets its file, unless that name is in use. -/
theorem filed_of_isPlain (symbols : CSource.SymbolTable) (imported : binding ∈ imports)
    (plain : FileName.isPlain (options.fileName binding.hostModule) = true) :
    FileName.Same (options.fileName binding.hostModule) options.exportsFileName ∨
      ∃ filed ∈ (planImports options symbols imports).filed options,
        FileName.Same (options.fileName binding.hostModule) (options.fileName filed) := by
  have reservedFiled := planImports_reserved_mem options symbols imports
  by_cases reserved : binding.hostModule = options.reservedModule
  · exact Or.inr ⟨_, reservedFiled, congrArg (FileName.folded ∘ options.fileName) reserved⟩
  · obtain ⟨before, after, split⟩ := List.append_of_mem (hostModule_mem imported)
    by_contra unused
    rw [not_or] at unused
    obtain ⟨notExports, unfiled⟩ := unused
    have isFiled : binding.hostModule ∈ (planImports options symbols imports).filed options := by
      refine (mem_planImports_filed_iff split reserved).mpr ⟨plain, notExports, ?_, ?_⟩
      · intro same
        exact unfiled ⟨_, reservedFiled, same⟩
      · intro earlier _ earlierFiled _ same
        exact unfiled ⟨earlier, earlierFiled, same⟩
    exact unfiled ⟨_, isFiled, rfl⟩

/-- An import is refused if its host module's file name is not plain. -/
theorem refused_of_unplain (symbols : CSource.SymbolTable) (imported : binding ∈ imports)
    (notReserved : binding.hostModule ≠ options.reservedModule)
    (unplain : FileName.isPlain (options.fileName binding.hostModule) = false) :
    ∃ diagnostic ∈ (planImports options symbols imports).diagnostics,
      Refuses options diagnostic binding := by
  have unfiled : binding.hostModule ∉ (planImports options symbols imports).filed options := by
    intro isFiled
    have plain := (plain_of_mem_planImports_filed isFiled notReserved).1
    rw [unplain] at plain
    cases plain
  have ruled : binding ∈ (planImports options symbols imports).rulings.map (·.binding) :=
    (planImports_bindings options symbols imports).mem_iff.mpr imported
  obtain ⟨ruling, listed, rfl⟩ := List.mem_map.mp ruled
  obtain ⟨diagnostic, reported, refuses⟩ := ruling_refused listed unfiled
  exact ⟨diagnostic, List.mem_filterMap.mpr ⟨ruling, listed, reported⟩, refuses⟩

end Glue

/-! ### Whole builds -/

/-- What a build leaves in a directory that it has made, and what it reports. -/
structure FreshBuild (request : BuildRequest) (scanned : ScanResult) (location : Location)
    (report : BuildReport) (after : Disk) : Prop where
  opens : after.Opens request.outputDirectory location
  contents : ∀ name, after.file? location name = contentIn? (request.glue scanned).files name
  reconciled : report.reconciled = ⟨(request.glue scanned).fileNames, [], []⟩
  diagnostics : report.diagnostics =
    .ofHistory (scanned.diagnostics.entries ++ (request.glue scanned).diagnostics)
  filed : ∀ binding ∈ scanned.imports,
    FileName.isPlain (request.config.options.fileName binding.hostModule) = true →
      ∃ name ∈ request.config.options.exportsFileName :: report.reconciled.written,
        FileName.Same (request.config.options.fileName binding.hostModule) name
  refused : ∀ binding ∈ scanned.imports,
    FileName.isPlain (request.config.options.fileName binding.hostModule) = false →
      ∃ diagnostic ∈ (request.glue scanned).diagnostics,
        Glue.Refuses request.config.options diagnostic binding

section Builds

variable {disk made after : Disk} {request : BuildRequest} {location : Location}
  {scanned : ScanResult}

theorem valid_of_standard (standard : request.config.options = .standard) :
    firstInvalid? (request.glue scanned).files = none := by
  have reservedPlain : FileName.isPlain Options.standard.reservedFileName = true := by decide
  have exportsPlain : FileName.isPlain Options.standard.exportsFileName = true := by decide
  rw [← Option.not_isSome_iff_eq_none, BuildRequest.glue, firstInvalid?_isSome_iff, standard]
  simp [reservedPlain, exportsPlain]

theorem freshBuild_of_completes {report : BuildReport}
    (standard : request.config.options = .standard)
    (scans : disk.scanned request.modulePath request.config = .ok scanned)
    (creates : disk.Creates request.outputDirectory location made)
    (completed : Completes (build request) disk report after) :
    FreshBuild request scanned location report after := by
  obtain ⟨_, reconciled, again, ran, rfl⟩ := completes_build_iff.mp completed
  cases Except.ok.inj (scans.symm.trans again)
  have distinct := Glue.generate_names_nodup request.config.options request.boilerplate
    scanned.exports scanned.imports
  obtain ⟨_, opens, contents, rfl⟩ := reconcile_fresh creates distinct ran
  have names := Glue.generate_fileNames request.config.options request.boilerplate
    scanned.exports scanned.imports
  constructor
  case opens => exact opens
  case contents => exact contents
  case reconciled => rfl
  case diagnostics => rfl
  case filed =>
    intro binding imported plain
    rcases Glue.filed_of_isPlain .runtime imported plain with
      exported | ⟨filed, isFiled, same⟩
    · exact ⟨_, List.mem_cons_self, exported⟩
    · refine ⟨_, List.mem_cons_of_mem _ ?_, same⟩
      change _ ∈ (Glue.generate _ _ _ _).fileNames
      rw [names]
      exact List.mem_append_left _ (List.mem_map_of_mem isFiled)
  case refused =>
    intro binding imported unplain
    have notReserved : binding.hostModule ≠ request.config.options.reservedModule := by
      intro reserved
      have plain : FileName.isPlain (Options.standard.fileName Options.standard.reservedModule) =
        true := by decide
      rw [reserved, standard, plain] at unplain
      cases unplain
    obtain ⟨diagnostic, reported, refuses⟩ :=
      Glue.refused_of_unplain .runtime imported notReserved unplain
    refine ⟨diagnostic, ?_, refuses⟩
    rw [BuildRequest.glue, Glue.generate_reports, Glue.ImportPlan.objections_diagnostics]
    exact List.mem_append_left _ reported

theorem build_completes_iff_fits (standard : request.config.options = .standard)
    (scans : disk.scanned request.modulePath request.config = .ok scanned)
    (creates : disk.Creates request.outputDirectory location made) :
    (∃ report after, Completes (build request) disk report after) ↔
      ∀ name ∈ (request.glue scanned).fileNames, Disk.Fits request.outputDirectory name := by
  have distinct := Glue.generate_names_nodup request.config.options request.boilerplate
    scanned.exports scanned.imports
  have reconciles : (∃ report after, Completes (reconcile request.outputDirectory
      (request.glue scanned).files request.config.options.extension) disk report after) ↔
        ∀ file ∈ (request.glue scanned).files, Disk.Fits request.outputDirectory file.name :=
    reconcile_fresh_completes_iff creates distinct (valid_of_standard standard)
  rw [Glue.Output.fileNames, List.forall_mem_map, ← reconciles]
  simp only [completes_build_iff]
  constructor
  · rintro ⟨_, after, _, reconciled, again, ran, _⟩
    cases Except.ok.inj (scans.symm.trans again)
    exact ⟨reconciled, after, ran⟩
  · rintro ⟨reconciled, after, ran⟩
    exact ⟨_, after, scanned, reconciled, scans, ran, rfl⟩

/-- With standard options a build into a fresh directory completes exactly if the system
takes every generated name; which names the host modules have matters in no other way. -/
theorem build_hostModules (standard : request.config.options = .standard)
    (scans : disk.scanned request.modulePath request.config = .ok scanned)
    (creates : disk.Creates request.outputDirectory location made) :
    ((∃ report after, Completes (build request) disk report after) ↔
      ∀ name ∈ (request.glue scanned).fileNames, '\x00' ∉ name.toList ∧
        name.utf8ByteSize ≤ Disk.nameLimit ∧
        (request.outputDirectory.join name).text.utf8ByteSize < Disk.pathLimit) ∧
    (∀ report after, Completes (build request) disk report after →
      FreshBuild request scanned location report after) ∧
    ∀ error, ((build (m := DiskM) request).run disk).1 = .error error →
      ∃ path cause, error = .file path cause := by
  have valid := @valid_of_standard request scanned standard
  refine ⟨?_, ?_, ?_⟩
  · rw [build_completes_iff_fits standard scans creates]
    refine forall₂_congr fun name named => creates.opens.fits_iff (.of_isPlain ?_)
    obtain ⟨file, member, rfl⟩ := List.mem_map.mp named
    exact isPlain_of_firstInvalid? valid file member
  · intro report after completed
    exact freshBuild_of_completes standard scans creates completed
  · intro error failed
    exact error_of_plain scans valid failed

end Builds

/-! ### A name that is plain and cannot be used -/

namespace Importing

/-- A root module that imports one function from each of these host modules. -/
def root (hostModules : List String) : Module :=
  ⟨"A", none, [], [⟨"", "T", hostModules.map fun hostModule =>
    ⟨"Run", true, [], .void, [.imported hostModule none]⟩⟩]⟩

def disk (hostModules : List String) : Disk :=
  .plain [(["work", "A.json"], .file (root hostModules).toJson.toUTF8), (["work"], .directory)]
    ["work"]

def request (output : Path) : BuildRequest := ⟨⟨"A.json"⟩, output, "", .standard⟩

theorem wellNamed (hostModules : List String) : (disk hostModules).WellNamed := by
  refine Disk.wellNamed_iff.mpr (List.forall_mem_cons.mpr ⟨?_, ?_⟩)
  · change ∀ name ∈ some "A.json", IsName name
    decide
  · decide

theorem scans (hostModules : List String) (output : Path) :
    (disk hostModules).scanned (request output).modulePath (request output).config =
      .ok (.ofModules [] (root hostModules)) := by
  have held : (disk hostModules).readFile ⟨"A.json"⟩ = .ok (root hostModules).toJson.toUTF8 := rfl
  have alone : ∀ read : String → Except ReadError Module,
      scan (request output).config.references read (root hostModules) =
        .ok (.ofModules [] (root hostModules)) := by
    intro read
    exact scan_eq_ok_iff.mpr ⟨[], _, .done _, rfl⟩
  exact scanned_eq_ok_iff.mpr ⟨root hostModules, onDisk_readModuleFile_toJson held, alone _⟩

end Importing

/-- One host module has a plain file name, and the imports of the other are reported. -/
theorem build_hostModules_mixed :
    let disk := Importing.disk ["h", "a/b"]
    let request := Importing.request (Path.join ⟨"."⟩ "out")
    let scanned := ScanResult.ofModules [] (Importing.root ["h", "a/b"])
    (request.glue scanned).fileNames = ["h.c", "env.c"] ∧
      ∃ report after, Completes (build request) disk report after ∧
        FreshBuild request scanned ["work", "out"] report after := by
  intro disk request scanned
  have here : disk.Opens ⟨"."⟩ ["work"] := ⟨rfl, rfl⟩
  have isName : IsName "out" := by decide
  have creates := here.creates isName (by decide) rfl rfl
  obtain ⟨completes, fresh, _⟩ := build_hostModules rfl (Importing.scans _ _) creates
  have names : (request.glue scanned).fileNames = ["h.c", "env.c"] := by decide +kernel
  have usable : ∀ name ∈ (request.glue scanned).fileNames, '\x00' ∉ name.toList ∧
      name.utf8ByteSize ≤ Disk.nameLimit ∧
      (request.outputDirectory.join name).text.utf8ByteSize < Disk.pathLimit := by
    rw [names]
    decide
  obtain ⟨report, after, completed⟩ := completes.mpr usable
  exact ⟨names, report, after, completed, fresh report after completed⟩

/-- The name of a host module can abort a build. -/
theorem build_aborted_by_hostModule :
    ¬∀ (request : BuildRequest) (disk made : Disk) (location : Location) (scanned : ScanResult),
      request.config.options = .standard →
      disk.scanned request.modulePath request.config = .ok scanned →
      disk.Creates request.outputDirectory location made →
      ∃ report after, Completes (build request) disk report after := by
  intro always
  have scans := Importing.scans ["a\x00b"] ⟨"out"⟩
  have creates : (Importing.disk ["a\x00b"]).Creates ⟨"out"⟩ ["work", "out"] _ :=
    Disk.creates_name (by decide) (by decide) rfl (by decide) rfl rfl
  have completes := always (Importing.request ⟨"out"⟩) _ _ _ _ rfl scans creates
  have fits := (build_completes_iff_fits rfl scans creates).mp completes
  have named : "a\x00b.c" ∈ ((Importing.request ⟨"out"⟩).glue
      (.ofModules [] (Importing.root ["a\x00b"]))).fileNames := by decide +kernel
  exact absurd (fits _ named) (by decide)

end GuestGlue
