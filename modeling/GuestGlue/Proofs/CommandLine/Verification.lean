/-
A generation and a verification after it.  Both load the configuration and scan in the
same way, but only the generation takes another reserved module from the command line.  So
a guest is held against what the configuration alone would have bridged, which is what was
bridged if both names are set apart from all other files, and need not be otherwise.
-/

import GuestGlue.CommandLine.Run
import GuestGlue.Proofs.Build.HostNames
import GuestGlue.Proofs.Build.Scanning
import GuestGlue.Proofs.Build.Verification
import GuestGlue.Proofs.Glue.Reserved

namespace GuestGlue

open Reconcile

/-! ### Commands that complete -/

section Commands

variable {ε δ α : Type} {disk after : Disk}

theorem run_adapt_ok_iff {program : ExceptT ε DiskM α} {convert : ε → δ} {answer : α} :
    (ExceptT.adapt convert program).run disk = (.ok answer, after) ↔
      program.run disk = (.ok answer, after) := by
  have adapted : (ExceptT.adapt convert program).run disk =
      ((program.run disk).1.mapError convert, (program.run disk).2) := rfl
  rw [adapted]
  rcases program.run disk with ⟨error | value, middle⟩
  · exact iff_of_false nofun nofun
  · constructor
    · intro same
      cases same
      rfl
    · intro same
      cases same
      rfl

theorem ReadOnly.run_eq {program : ExceptT ε DiskM α} (readOnly : ReadOnly program)
    (disk : Disk) : program.run disk = (onDisk disk program, disk) :=
  Prod.ext rfl (readOnly disk)

theorem ReadOnly.run_eq_ok_iff {program : ExceptT ε DiskM α} (readOnly : ReadOnly program)
    {answer : α} :
    program.run disk = (.ok answer, after) ↔ onDisk disk program = .ok answer ∧ after = disk := by
  rw [readOnly.run_eq, Prod.mk.injEq, eq_comm (a := disk)]

theorem onPath_readOnly {path : Path} {operation : DiskM (Except FileError α)}
    (reads : ∀ disk, (operation disk).2 = disk) : ReadOnly (onPath path operation) := by
  intro disk
  rw [run_onPath_snd]
  exact reads disk

theorem readConfig_readOnly (path : Path) : ReadOnly (readConfig (m := DiskM) path) := by
  refine (onPath_readOnly (readText_reads path)).bind fun text => ?_
  split
  · exact .pure _
  · exact .throw _

end Commands

namespace CommandLine

section Loading

variable {disk later built : Disk} {arguments : ModuleArguments}

theorem configPath?_reads (arguments : ModuleArguments) (disk : Disk) :
    (configPath? (m := DiskM) arguments disk).2 = disk := by
  unfold configPath?
  cases arguments.config with
  | some path => rfl
  | none =>
      dsimp only
      rw [bind_apply]
      split <;> rfl

theorem loadConfig_readOnly (arguments : ModuleArguments) :
    ReadOnly (loadConfig (m := DiskM) arguments) := by
  refine (ReadOnly.lift (configPath?_reads arguments)).bind fun found => ?_
  cases found with
  | some path => exact ((readConfig_readOnly path).adapt _).bind fun _ => .pure _
  | none => exact (ReadOnly.pure Config.standard).bind fun _ => .pure _

theorem run_reading_ok_iff {α : Type} {context : String} {operation : DiskM (Except FileError α)}
    {answer : α} :
    (reading context operation).run disk = (.ok answer, later) ↔
      operation disk = (.ok answer, later) :=
  run_adapt_ok_iff

theorem run_readText_ok_iff {path : Path} {text : String} :
    FileSystem.readText (m := DiskM) path disk = (.ok text, later) ↔
      (FileSystem.readText (m := DiskM) path disk).1 = .ok text ∧ later = disk := by
  have unchanged : (FileSystem.readText (m := DiskM) path disk).2 = disk := readText_reads path disk
  rw [Prod.ext_iff, unchanged, eq_comm (a := disk)]

/-- A generation that completes has loaded a configuration and built with it. -/
theorem run_runGenerate_ok_iff {output boilerplate : Path} {reserved : Option String}
    {outcome : Outcome} :
    (runGenerate (m := DiskM) arguments output boilerplate reserved).run disk =
        (.ok outcome, built) ↔
      ∃ config text report, onDisk disk (loadConfig arguments) = .ok config ∧
        (FileSystem.readText (m := DiskM) boilerplate disk).1 = .ok text ∧
        Completes (build ⟨arguments.modulePath, output, text, overrideReserved config reserved⟩)
          disk report built ∧
        outcome = buildOutcome report := by
  have loading := loadConfig_readOnly arguments
  constructor
  · intro ran
    obtain ⟨config, _, loaded, ranLoaded⟩ := run_bind_ok_iff.mp ran
    obtain ⟨found, rfl⟩ := loading.run_eq_ok_iff.mp loaded
    obtain ⟨text, _, read, ranRead⟩ := run_bind_ok_iff.mp ranLoaded
    obtain ⟨held, rfl⟩ := run_readText_ok_iff.mp (run_reading_ok_iff.mp read)
    obtain ⟨report, _, builds, ranBuilt⟩ := run_bind_ok_iff.mp ranRead
    have completed := run_adapt_ok_iff.mp builds
    cases ranBuilt
    exact ⟨config, text, report, found, held, completed, rfl⟩
  · rintro ⟨config, text, report, found, held, completed, rfl⟩
    refine run_bind_ok_iff.mpr ⟨config, disk, loading.run_eq_ok_iff.mpr ⟨found, rfl⟩, ?_⟩
    have read := run_readText_ok_iff.mpr ⟨held, rfl⟩
    refine run_bind_ok_iff.mpr ⟨text, disk, run_reading_ok_iff.mpr read, ?_⟩
    exact run_bind_ok_iff.mpr ⟨report, built, run_adapt_ok_iff.mpr completed, rfl⟩

theorem run_runVerify {config : Config} {scanned : ScanResult} {wasm : Path}
    {binary : ByteArray} {report : VerifyReport}
    (found : onDisk disk (loadConfig arguments) = .ok config)
    (scans : disk.scanned arguments.modulePath config = .ok scanned)
    (held : disk.readFile wasm = .ok binary)
    (verified : verifyGuest binary scanned config.options = .ok report) :
    (runVerify (m := DiskM) arguments wasm).run disk = (.ok (verifyOutcome wasm report), disk) := by
  have loaded := (loadConfig_readOnly arguments).run_eq_ok_iff.mpr ⟨found, rfl⟩
  have scan := run_scanModule disk arguments.modulePath config
  rw [scans] at scan
  have read : FileSystem.read (m := DiskM) wasm disk = (.ok binary, disk) := congrArg (·, disk) held
  refine run_bind_ok_iff.mpr ⟨config, disk, loaded, ?_⟩
  refine run_bind_ok_iff.mpr ⟨scanned, disk, run_adapt_ok_iff.mpr scan, ?_⟩
  refine run_bind_ok_iff.mpr ⟨binary, disk, run_reading_ok_iff.mpr read, ?_⟩
  refine run_bind_ok_iff.mpr ⟨report, disk, run_adapt_ok_iff.mpr ?_, rfl⟩
  rw [verified]
  rfl

end Loading

end CommandLine

/-! ### What is expected of a guest -/

def Config.contract (config : Config) (scanned : ScanResult) : Contract :=
  (Glue.generate config.options "" scanned.exports scanned.imports).contract config.options

theorem BuildRequest.glue_contract (request : BuildRequest) (scanned : ScanResult) :
    (request.glue scanned).contract request.config.options = request.config.contract scanned :=
  Glue.generate_contract_congr _ _ _ _ _

def emptyGuest : ByteArray :=
  ⟨#[0x00, 0x61, 0x73, 0x6d, 0x01, 0x00, 0x00, 0x00]⟩

theorem interface?_emptyGuest : Wasm.interface? emptyGuest = some .empty :=
  rfl

theorem Contract.missing_empty (contract : Contract) :
    contract.missing .empty = ⟨contract.exports, contract.imports⟩ := by
  rw [Contract.missing, VerifyReport.mk.injEq, List.filter_eq_self, List.filter_eq_self]
  refine ⟨fun name _ => decide_eq_true ?_, fun wanted _ => decide_eq_true ?_⟩
  · rintro ⟨entry, member, _⟩
    cases member
  · rintro ⟨entry, member, _⟩
    cases member

theorem Contract.missing_eq_iff {contract other : Contract} :
    (∀ binary guest, Wasm.interface? binary = some guest →
      contract.missing guest = other.missing guest) ↔ contract = other := by
  constructor
  · intro same
    have lacking := same emptyGuest .empty interface?_emptyGuest
    rw [missing_empty, missing_empty, VerifyReport.mk.injEq] at lacking
    cases contract
    cases other
    rwa [Contract.mk.injEq]
  · rintro rfl _ _ _
    rfl

namespace CommandLine

theorem contract_overrideReserved {config : Config} {scanned : ScanResult} {name : String}
    (reserved : Glue.SetApart config.options scanned.imports config.options.reservedModule)
    (named : Glue.SetApart config.options scanned.imports name) :
    (overrideReserved config (some name)).contract scanned = config.contract scanned := by
  obtain ⟨exports, imports⟩ := Glue.generate_withReserved "" scanned.exports reserved named
  change (Glue.generate (config.options.withReserved name) "" scanned.exports
    scanned.imports).contract (config.options.withReserved name) = _
  rw [Glue.Output.contract, exports, imports]
  rfl

/-! ### A generation and a verification -/

structure SameMetadata (arguments : ModuleArguments) (disk later : Disk) : Prop where
  config : onDisk later (loadConfig arguments) = onDisk disk (loadConfig arguments)
  scanned : ∀ config, onDisk disk (loadConfig arguments) = .ok config →
    later.scanned arguments.modulePath config = disk.scanned arguments.modulePath config

structure ChecksGlue (arguments : ModuleArguments) (reserved : Option String) (later : Disk)
    (config : Config) (scanned : ScanResult) (bridged : Contract) : Prop where
  verified : ∀ wasm binary guest, later.readFile wasm = .ok binary →
    Wasm.interface? binary = some guest →
      (runCommand (m := DiskM) (.verify arguments wasm)).run later =
        (.ok (verifyOutcome wasm ((config.contract scanned).missing guest)), later)
  same_iff : (∀ binary guest, Wasm.interface? binary = some guest →
    (config.contract scanned).missing guest = bridged.missing guest) ↔
      config.contract scanned = bridged
  unchanged : (∀ name ∈ reserved, name = config.options.reservedModule) →
    config.contract scanned = bridged
  setApart : Glue.SetApart config.options scanned.imports config.options.reservedModule →
    (∀ name ∈ reserved, Glue.SetApart config.options scanned.imports name) →
      config.contract scanned = bridged

theorem overrideReserved_scanned (disk : Disk) (modulePath : Path) (config : Config)
    (reserved : Option String) :
    disk.scanned modulePath (overrideReserved config reserved) =
      disk.scanned modulePath config := by
  cases reserved <;> rfl

/-- After a generation that completes, a verification with the same arguments expects what
the configuration promises, and that is what was bridged as long as the other reserved
module leaves all names of files apart. -/
theorem verify_after_generate {arguments : ModuleArguments} {output boilerplate : Path}
    {reserved : Option String} {disk built later : Disk} {outcome : Outcome}
    (generated : (runCommand (m := DiskM) (.generate arguments output boilerplate reserved)).run
      disk = (.ok outcome, built))
    (fixed : SameMetadata arguments disk later) :
    ∃ config text scanned report,
      let request : BuildRequest :=
        ⟨arguments.modulePath, output, text, overrideReserved config reserved⟩
      onDisk disk (loadConfig arguments) = .ok config ∧
      disk.scanned request.modulePath request.config = .ok scanned ∧
      Completes (build request) disk report built ∧ outcome = buildOutcome report ∧
      ChecksGlue arguments reserved later config scanned
        ((request.glue scanned).contract request.config.options) := by
  obtain ⟨config, text, report, found, _, completed, ended⟩ := run_runGenerate_ok_iff.mp generated
  obtain ⟨scanned, _, scans, _, _⟩ := completes_build_iff.mp completed
  refine ⟨config, text, scanned, report, found, scans, completed, ended, ?_⟩
  rw [BuildRequest.glue_contract]
  have scansLater : later.scanned arguments.modulePath config = .ok scanned := by
    rw [fixed.scanned config found]
    exact (overrideReserved_scanned disk _ config reserved).symm.trans scans
  constructor
  case verified =>
    intro wasm binary guest held valid
    exact run_runVerify (fixed.config.trans found) scansLater held
      (verifyGuest_eq valid scanned config.options "")
  case same_iff => exact Contract.missing_eq_iff
  case unchanged =>
    intro same
    cases reserved with
    | none => rfl
    | some name =>
        cases same name rfl
        rfl
  case setApart =>
    intro apart named
    cases reserved with
    | none => rfl
    | some name => exact (contract_overrideReserved apart (named name rfl)).symm

/-! ### Another reserved module -/

namespace Overridden

/-- The root module in the working directory, and nothing else on the command line. -/
def arguments : ModuleArguments := ⟨Path.join ⟨"."⟩ "A.json", [], none⟩

def wasm : Path := Path.join ⟨"."⟩ "A.wasm"

/-- A root with one import, a guest without functions, and a directory for the glue. -/
def disk (hostModule : String) : Disk :=
  .plain [(["work", "A.json"], .file (Importing.root [hostModule]).toJson.toUTF8),
    (["work", "A.wasm"], .file emptyGuest), (["work", "env.h"], .file "".toUTF8),
    (["work", "out"], .directory), (["work"], .directory)] ["work"]

def config (reservedModule : String) : Config :=
  overrideReserved .standard (some reservedModule)

def scanned (hostModule : String) : ScanResult :=
  .ofModules [] (Importing.root [hostModule])

def request (reservedModule : String) : BuildRequest :=
  ⟨arguments.modulePath, ⟨"out"⟩, "", config reservedModule⟩

variable {hostModule reservedModule : String}

structure Untouched (hostModule : String) (later : Disk) : Prop where
  opens : later.Opens ⟨"."⟩ ["work"]
  entry? : ∀ name, later.entry? (["work"] ++ [name]) =
    Disk.entry? (disk hostModule) (["work"] ++ [name])

theorem Untouched.first (hostModule : String) : Untouched hostModule (disk hostModule) :=
  ⟨⟨rfl, rfl⟩, fun _ => rfl⟩

theorem Untouched.file? {later : Disk} (untouched : Untouched hostModule later) (name : String) :
    later.file? ["work"] name = (disk hostModule).file? ["work"] name := by
  rw [Disk.file?, untouched.entry?]
  rfl

theorem Untouched.unlinked {later : Disk} (untouched : Untouched hostModule later) (name : String) :
    later.Unlinked (["work"] ++ [name]) := by
  have plain : ∀ held ∈ (disk hostModule).entries, Disk.isPlainEntry held.2 = true := by
    refine List.forall_mem_cons.mpr ⟨rfl, ?_⟩
    decide
  exact (Disk.unlinked_of_plain plain _).congr (untouched.entry? name)

theorem Untouched.loads {later : Disk} (untouched : Untouched hostModule later) :
    onDisk later (loadConfig arguments) = .ok .standard := by
  have beside : arguments.modulePath.directory.join Config.fileName =
      Path.join ⟨"."⟩ "pdkgen.json" := by
    decide +kernel
  have absent : later.hasFile (Path.join ⟨"."⟩ "pdkgen.json") = false := by
    rw [Bool.eq_false_iff, ne_eq, untouched.opens.hasFile_unlinked (by decide)
      (untouched.unlinked _), untouched.file?]
    exact fun present => nomatch present.2
  have asked : configPath? (m := DiskM) arguments later = (none, later) := by
    have found : FileSystem.isFile (m := DiskM) (arguments.modulePath.directory.join
        Config.fileName) later = (false, later) := by
      rw [beside]
      exact congrArg (·, later) absent
    change (FileSystem.isFile (m := DiskM) _ >>= _) later = _
    rw [bind_apply, found]
    rfl
  rw [loadConfig, onDisk_bind later (ReadOnly.lift (configPath?_reads arguments)), onDisk_lift,
    asked]
  rfl

theorem Untouched.scans {later : Disk} (untouched : Untouched hostModule later) (config : Config) :
    later.scanned arguments.modulePath config = .ok (scanned hostModule) := by
  have held : later.readFile arguments.modulePath =
      .ok (Importing.root [hostModule]).toJson.toUTF8 := by
    apply (untouched.opens.readFile_unlinked (by decide) (untouched.unlinked _)).mpr
    exact ⟨by decide, untouched.file? "A.json"⟩
  refine scanned_eq_ok_iff.mpr ⟨_, onDisk_readModuleFile_toJson held, ?_⟩
  exact scan_eq_ok_iff.mpr ⟨[], _, .done _, rfl⟩

theorem Untouched.reads {later : Disk} (untouched : Untouched hostModule later) :
    later.readFile wasm = .ok emptyGuest := by
  apply (untouched.opens.readFile_unlinked (by decide) (untouched.unlinked _)).mpr
  exact ⟨by decide, untouched.file? "A.wasm"⟩

theorem Untouched.sameMetadata {later : Disk} (untouched : Untouched hostModule later) :
    SameMetadata arguments (disk hostModule) later where
  config := untouched.loads.trans (Untouched.first hostModule).loads.symm
  scanned config _ := (untouched.scans config).trans ((Untouched.first hostModule).scans config).symm

theorem Untouched.of_writeFiles {files : List GlueFile} {names : List String × List String}
    {built : Disk} (isNames : ∀ file ∈ files, IsName file.name)
    (notLinks : ∀ file ∈ files, ¬(disk hostModule).IsLink (["work", "out"] ++ [file.name]))
    (wrote : Completes (writeFiles ⟨"out"⟩ files) (disk hostModule) names built) :
    Untouched hostModule built := by
  have opens : (disk hostModule).Opens ⟨"out"⟩ ["work", "out"] := ⟨rfl, rfl⟩
  have within := (writeFiles_sameLinks wrote).waysIn
  refine ⟨(Untouched.first hostModule).opens.mono within, fun name => ?_⟩
  have elsewhere : ∀ other ∈ files.map (·.name), ["work"] ++ [name] ≠ ["work", "out"] ++ [other] := by
    intro other _ same
    cases same
  exact writeFiles_entries opens isNames notLinks wrote elsewhere

theorem generates
    (usable : ∀ name ∈ ((request reservedModule).glue (scanned hostModule)).fileNames,
      FileName.isPlain name = true ∧
        Writable ⟨"out"⟩ ["work", "out"] (disk hostModule) name) :
    ∃ outcome built, Untouched hostModule built ∧
      (runCommand (m := DiskM) (.generate arguments ⟨"out"⟩ (Path.join ⟨"."⟩ "env.h")
        (some reservedModule))).run (disk hostModule) = (.ok outcome, built) := by
  have untouched := Untouched.first hostModule
  have opens : (disk hostModule).Opens ⟨"out"⟩ ["work", "out"] := ⟨rfl, rfl⟩
  rw [Glue.Output.fileNames, List.forall_mem_map] at usable
  have isNames : ∀ file ∈ ((request reservedModule).glue (scanned hostModule)).files,
      IsName file.name := fun file member => .of_isPlain (usable file member).1
  have notLinks : ∀ file ∈ ((request reservedModule).glue (scanned hostModule)).files,
      ¬(disk hostModule).IsLink (["work", "out"] ++ [file.name]) :=
    fun file member => (Disk.takesFile_iff.mp (usable file member).2.2).2
  obtain ⟨names, built, wrote⟩ := writeFiles_completes opens isNames
    fun file member => (usable file member).2
  have valid : firstInvalid? ((request reservedModule).glue (scanned hostModule)).files = none := by
    rw [firstInvalid?, List.find?_eq_none, List.forall_mem_map]
    exact fun file member => by simp [(usable file member).1]
  have reconciled : Completes (reconcile ⟨"out"⟩ ((request reservedModule).glue
      (scanned hostModule)).files (request reservedModule).config.options.extension)
      (disk hostModule) ⟨names.1, names.2, [].mergeSort⟩ built := by
    exact completes_reconcile_iff.mpr ⟨⟨disk hostModule, _, [], disk hostModule, valid,
      opens.createDirectories, opens, completes_pure_iff.mpr ⟨rfl, rfl⟩, wrote, rfl⟩⟩
  have completed : ∃ report, Completes (build (request reservedModule)) (disk hostModule) report
      built :=
    ⟨_, completes_build_iff.mpr ⟨scanned hostModule, _, untouched.scans _, reconciled, rfl⟩⟩
  obtain ⟨report, completed⟩ := completed
  have held : (disk hostModule).readFile (Path.join ⟨"."⟩ "env.h") = .ok "".toUTF8 :=
    (untouched.opens.readFile_unlinked (by decide) (untouched.unlinked _)).mpr ⟨by decide, rfl⟩
  refine ⟨buildOutcome report, built, .of_writeFiles isNames notLinks wrote, ?_⟩
  exact run_runGenerate_ok_iff.mpr
    ⟨.standard, "", report, untouched.loads, congrArg Prod.fst (readText_of_held held), completed, rfl⟩

/-- For the configuration the file of this module is the reserved one. -/
theorem expects_nothing : Config.standard.contract (scanned "ENV") = ⟨[], []⟩ := by
  have capital : FileName.folded (Options.standard.fileName "ENV") = "env.c" := by decide +kernel
  have small : FileName.folded Options.standard.reservedFileName = "env.c" := by decide +kernel
  have alike : ∀ binding ∈ (scanned "ENV").imports,
      binding.hostModule ≠ Options.standard.reservedModule ∧
        FileName.Same (Options.standard.fileName binding.hostModule)
          Options.standard.reservedFileName := by
    intro binding imported
    cases List.mem_singleton.mp imported
    exact ⟨by decide, capital.trans small.symm⟩
  have imports := Glue.generate_imports_eq_nil "" (scanned "ENV").exports alike
  have exports : (Glue.generate .standard "" (scanned "ENV").exports
      (scanned "ENV").imports).exports = [] := by
    rw [Glue.generate_exports]
    exact ite_self []
  unfold Config.contract Glue.Output.contract
  rw [show Config.standard.options = .standard from rfl, imports, exports]
  rfl

end Overridden

open Overridden in
/-- A verification sees the glue of another reserved module whose name is set apart. -/
theorem verify_after_generate_apart :
    ∃ outcome built,
      (runCommand (m := DiskM) (.generate arguments ⟨"out"⟩ (Path.join ⟨"."⟩ "env.h")
        (some "host"))).run (disk "log") = (.ok outcome, built) ∧
      SameMetadata arguments (disk "log") built ∧
      (runCommand (m := DiskM) (.verify arguments wasm)).run built =
        (.ok (verifyOutcome wasm ⟨[], [⟨"log", "Run"⟩]⟩), built) := by
  have names : ((request "host").glue (scanned "log")).fileNames = ["log.c", "host.c"] := by
    decide +kernel
  have expects : Config.standard.contract (scanned "log") = ⟨[], [⟨"log", "Run"⟩]⟩ := by
    rw [Config.contract, Glue.Output.contract, Glue.generate_exports, Glue.generate_imports]
    decide +kernel
  obtain ⟨outcome, built, untouched, ran⟩ := @generates "log" "host" (by rw [names]; decide)
  obtain ⟨config, _, found, _, loaded, scans, _, _, checks⟩ :=
    verify_after_generate ran untouched.sameMetadata
  have first := Untouched.first "log"
  obtain rfl := Except.ok.inj (loaded.symm.trans first.loads)
  obtain rfl := Except.ok.inj (scans.symm.trans (first.scans _))
  have verified := checks.verified wasm emptyGuest .empty untouched.reads interface?_emptyGuest
  rw [expects, Contract.missing_empty] at verified
  exact ⟨outcome, built, ran, untouched.sameMetadata, verified⟩

open Overridden in
/-- A verification can overlook what was bridged under another reserved module. -/
theorem verify_overlooks_bridged :
    ¬∀ (arguments : ModuleArguments) (output boilerplate : Path) (reserved : Option String)
        (disk built : Disk) (outcome : Outcome),
      (runCommand (m := DiskM) (.generate arguments output boilerplate reserved)).run disk =
        (.ok outcome, built) →
      SameMetadata arguments disk built →
      ∀ config text scanned, onDisk disk (loadConfig arguments) = .ok config →
        disk.scanned arguments.modulePath config = .ok scanned →
        ∀ wasm binary guest, built.readFile wasm = .ok binary →
          Wasm.interface? binary = some guest →
          let request : BuildRequest :=
            ⟨arguments.modulePath, output, text, overrideReserved config reserved⟩
          (runCommand (m := DiskM) (.verify arguments wasm)).run built =
            (.ok (verifyOutcome wasm
              (((request.glue scanned).contract request.config.options).missing guest)), built) := by
  intro always
  have names : ((request "host").glue (scanned "ENV")).fileNames = ["ENV.c", "host.c"] := by
    decide +kernel
  have bridges : (request "host").config.contract (scanned "ENV") = ⟨[], [⟨"ENV", "Run"⟩]⟩ := by
    rw [Config.contract, Glue.Output.contract, Glue.generate_exports, Glue.generate_imports]
    decide +kernel
  obtain ⟨outcome, built, untouched, ran⟩ := @generates "ENV" "host" (by rw [names]; decide)
  have first := Untouched.first "ENV"
  have passed : (runVerify (m := DiskM) arguments wasm).run built =
      (.ok (verifyOutcome wasm ((((request "host").glue (scanned "ENV")).contract
        (request "host").config.options).missing .empty)), built) :=
    always _ _ _ _ _ _ _ ran untouched.sameMetadata .standard "" (scanned "ENV") first.loads
      (first.scans _) wasm emptyGuest .empty untouched.reads interface?_emptyGuest
  have verified : (runVerify (m := DiskM) arguments wasm).run built =
      (.ok (verifyOutcome wasm ((Config.standard.contract (scanned "ENV")).missing .empty)),
        built) :=
    run_runVerify untouched.loads (untouched.scans _) untouched.reads
      (verifyGuest_eq interface?_emptyGuest (scanned "ENV") Config.standard.options "")
  rw [expects_nothing, Contract.missing_empty] at verified
  have answers := passed.symm.trans verified
  rw [BuildRequest.glue_contract, bridges, Contract.missing_empty] at answers
  have outcomes := Except.ok.inj (Prod.mk.inj answers).1
  exact absurd (congrArg Outcome.code outcomes) (by decide)

end CommandLine

end GuestGlue
