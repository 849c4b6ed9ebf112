/-
Verification of a guest against the glue it was linked with.  The glue promises an export
for each wrapper and an import for each forwarder, whatever text the reserved module's
file starts with.  A report lists, in order and without repeats, the promised functions
that the guest lacks; entries of another kind do not count as functions.
-/

import GuestGlue.Build.Verify
import GuestGlue.Proofs.Glue.Forwarder
import GuestGlue.Proofs.Glue.Symbols

namespace GuestGlue

/-! ### Functions of a guest -/

namespace Wasm.Interface

def OffersFunction (guest : Interface) (name : String) : Prop :=
  ∃ entry ∈ guest.exports, entry.name = name ∧ entry.type.kind = .function

def AsksForFunction (guest : Interface) (wanted : ImportName) : Prop :=
  ∃ entry ∈ guest.imports,
    (entry.moduleName = wanted.moduleName ∧ entry.name = wanted.name) ∧
      entry.type.kind = .function

instance (guest : Interface) (name : String) : Decidable (guest.OffersFunction name) :=
  inferInstanceAs (Decidable (∃ entry ∈ guest.exports, _))

instance (guest : Interface) (wanted : ImportName) : Decidable (guest.AsksForFunction wanted) :=
  inferInstanceAs (Decidable (∃ entry ∈ guest.imports, _))

theorem functionExports_contains (guest : Interface) (name : String) :
    guest.functionExports.contains name = decide (guest.OffersFunction name) := by
  rw [Bool.eq_iff_iff, decide_eq_true_eq, List.contains_iff_mem, functionExports, List.mem_map]
  apply exists_congr
  intro entry
  rw [List.mem_filter, decide_eq_true_eq, and_assoc, and_comm (a := entry.type.kind = _)]

theorem functionImports_contains (guest : Interface) (wanted : ImportName) :
    guest.functionImports.contains (wanted.moduleName, wanted.name) =
      decide (guest.AsksForFunction wanted) := by
  rw [Bool.eq_iff_iff, decide_eq_true_eq, List.contains_iff_mem, functionImports, List.mem_map]
  apply exists_congr
  intro entry
  rw [List.mem_filter, decide_eq_true_eq, and_assoc, and_comm (a := entry.type.kind = _),
    Prod.mk.injEq]

end Wasm.Interface

/-! ### What glue promises -/

def Options.importName (options : Options) (binding : ImportBinding) : ImportName :=
  ⟨options.importModule binding.hostModule, binding.functionName⟩

structure Contract where
  exports : List String
  imports : List ImportName
  deriving DecidableEq

namespace Contract

def missing (contract : Contract) (guest : Wasm.Interface) : VerifyReport where
  missingExports := contract.exports.filter (¬guest.OffersFunction ·)
  missingImports := contract.imports.filter (¬guest.AsksForFunction ·)

theorem missing_isOk_iff {contract : Contract} {guest : Wasm.Interface} :
    (contract.missing guest).isOk = true ↔
      (∀ name ∈ contract.exports, guest.OffersFunction name) ∧
        ∀ wanted ∈ contract.imports, guest.AsksForFunction wanted := by
  rw [VerifyReport.isOk, Bool.and_eq_true, List.isEmpty_iff, List.isEmpty_iff, missing,
    List.filter_eq_nil_iff, List.filter_eq_nil_iff]
  simp only [decide_eq_true_eq, not_not]

end Contract

namespace Glue

def Output.contract (glue : Output) (options : Options) : Contract where
  exports := glue.exports.map (·.exportName)
  imports := glue.imports.map options.importName

theorem ofInterface_eq_missing (guest : Wasm.Interface) (options : Options) (glue : Output) :
    VerifyReport.ofInterface guest options glue.exports glue.imports =
      (glue.contract options).missing guest := by
  rw [VerifyReport.ofInterface, Contract.missing, VerifyReport.mk.injEq]
  constructor
  · apply List.filter_congr
    intro name _
    rw [Wasm.Interface.functionExports_contains, decide_not]
  · apply List.filter_congr
    intro wanted _
    rw [Wasm.Interface.functionImports_contains, decide_not]

/-! ### Independence of the caller's text -/

/-- What is promised does not depend on the text of the reserved module's file. -/
theorem generate_contract_congr (options : Options) (boilerplate other : String)
    (exports : List ExportBinding) (imports : List ImportBinding) :
    (generate options boilerplate exports imports).contract options =
      (generate options other exports imports).contract options := by
  rw [Output.contract, Output.contract, generate_exports, generate_exports, generate_imports,
    generate_imports]

/-! ### Distinct names -/

theorem nodup_map_of_flatMap {α β : Type} {items : List α} {name : α → β} {names : α → List β}
    (own : ∀ item, name item ∈ names item) (distinct : (items.flatMap names).Nodup) :
    (items.map name).Nodup := by
  apply List.pairwise_map.mpr
  refine (List.nodup_flatMap.mp distinct).2.imp ?_
  intro item other apart same
  exact apart (own item) (same ▸ own other)

theorem generate_contract_nodup (options : Options) (boilerplate : String)
    (exports : List ExportBinding) (imports : List ImportBinding) :
    let contract := (generate options boilerplate exports imports).contract options
    contract.exports.Nodup ∧ contract.imports.Nodup := by
  obtain ⟨_, takes⟩ := generate_takes options boilerplate exports imports
  obtain ⟨importNames, exportNames, _⟩ := List.nodup_append.mp takes.distinct
  refine ⟨nodup_map_of_flatMap (fun _ => List.mem_cons_self) exportNames, ?_⟩
  have functions : ((generate options boilerplate exports imports).imports.map
      (·.functionName)).Nodup :=
    nodup_map_of_flatMap (fun _ => List.mem_cons_self) importNames
  -- names of functions are distinct, whichever modules they are imported from
  apply List.Nodup.of_map (·.name)
  rwa [Output.contract, List.map_map]

/-! ### Promises in the text -/

def exportText (binding : ExportBinding) : String :=
  "__attribute__((export_name(\"" ++ binding.exportName ++ "\"))) int "

theorem infix_join {piece : String} {pieces : List String} (member : piece ∈ pieces) :
    piece.toList <:+: (String.join pieces).toList := by
  rw [String.toList_join]
  exact List.infix_of_mem_flatten (List.mem_map_of_mem member)

theorem infix_wrapper (binding : ExportBinding) :
    (exportText binding).toList <:+: (wrapper binding).toList := by
  have listed : exportText binding ++ binding.exportName ++ "(void)" ∈ wrapperLines binding :=
    List.mem_cons_of_mem _ (List.mem_cons_of_mem _ List.mem_cons_self)
  refine List.IsInfix.trans ?_ (infix_join (List.mem_map_of_mem (f := (· ++ "\n")) listed))
  rw [String.toList_append, String.toList_append, String.toList_append]
  exact (((List.prefix_append _ _).trans (List.prefix_append _ _)).trans
    (List.prefix_append _ _)).isInfix

/-- An export that is wrapped has its wrapper in the file of the exports. -/
theorem ExportPlan.infix_file {plan : ExportPlan} {options : Options} {file : GlueFile}
    (found : plan.file? options = some file) {binding : ExportBinding}
    (wrapped : binding ∈ plan.wrapped) :
    (wrapper binding).toList <:+: file.content.toList := by
  rw [ExportPlan.file?] at found
  split at found
  · cases found
  · cases found
    have joined := infix_join (List.mem_map_of_mem (f := ("\n" ++ wrapper ·)) wrapped)
    rw [String.toList_append] at joined
    rw [String.toList_append]
    exact ((List.suffix_append _ _).isInfix.trans joined).trans (List.suffix_append _ _).isInfix

theorem generate_exportText {options : Options} {boilerplate : String}
    {exports : List ExportBinding} {imports : List ImportBinding} {binding : ExportBinding}
    (bridged : binding ∈ (generate options boilerplate exports imports).exports) :
    ∃ file ∈ (generate options boilerplate exports imports).files,
      file.name = options.exportsFileName ∧
        (exportText binding).toList <:+: file.content.toList := by
  rcases generate_cases options boilerplate exports imports with
    ⟨_, ran⟩ | ⟨_, _, ran⟩ | ⟨_, _, file, found, ran⟩
  · rw [ran] at bridged
    cases bridged
  · rw [ran] at bridged
    cases bridged
  · rw [ran] at bridged ⊢
    refine ⟨file, List.mem_append_right _ List.mem_cons_self, ExportPlan.file?_name found, ?_⟩
    exact (infix_wrapper binding).trans (ExportPlan.infix_file found bridged)

theorem generate_importText {options : Options} {boilerplate : String}
    {exports : List ExportBinding} {imports : List ImportBinding} {binding : ImportBinding}
    (bridged : binding ∈ (generate options boilerplate exports imports).imports) :
    ∃ file ∈ (generate options boilerplate exports imports).files,
      file.name = options.fileName binding.hostModule ∧
        (importText options binding).toList <:+: file.content.toList := by
  rw [generate_imports] at bridged
  obtain ⟨returned, _, file, written, named, holds⟩ := planImports_forwarded boilerplate bridged
  refine ⟨file, ?_, named, ?_⟩
  · rw [generate_files]
    exact List.mem_append_left _ written
  · rw [forwarder_eq, String.toList_append] at holds
    exact (List.prefix_append _ _).isInfix.trans holds

end Glue

/-! ### Reports -/

theorem verifyGuest_eq {binary : ByteArray} {guest : Wasm.Interface}
    (valid : Wasm.interface? binary = some guest) (scanned : ScanResult) (options : Options)
    (boilerplate : String) :
    verifyGuest binary scanned options = .ok
      (((Glue.generate options boilerplate scanned.exports scanned.imports).contract
        options).missing guest) := by
  rw [Glue.generate_contract_congr options boilerplate "", verifyGuest, valid,
    ← Glue.ofInterface_eq_missing]

/-- A report on a guest that some glue was made for. -/
structure VerifyReport.Describes (report : VerifyReport) (guest : Wasm.Interface)
    (options : Options) (glue : Glue.Output) : Prop where
  missingExports : report.missingExports =
    (glue.exports.map (·.exportName)).filter (¬guest.OffersFunction ·)
  missingImports : report.missingImports =
    (glue.imports.map options.importName).filter (¬guest.AsksForFunction ·)
  exportsDistinct : report.missingExports.Nodup
  importsDistinct : report.missingImports.Nodup
  isOk_iff : report.isOk = true ↔
    (∀ binding ∈ glue.exports, guest.OffersFunction binding.exportName) ∧
      ∀ binding ∈ glue.imports, guest.AsksForFunction (options.importName binding)
  exportText : ∀ binding ∈ glue.exports, ∃ file ∈ glue.files,
    file.name = options.exportsFileName ∧
      ("__attribute__((export_name(\"" ++ binding.exportName ++ "\"))) int ").toList <:+:
        file.content.toList
  importText : ∀ binding ∈ glue.imports, ∃ file ∈ glue.files,
    file.name = options.fileName binding.hostModule ∧
      ("IMPORT(" ++ CSource.stringLiteral (options.importName binding).moduleName ++ ", " ++
        CSource.stringLiteral (options.importName binding).name ++ ") extern ").toList <:+:
          file.content.toList

/-- A valid guest gets a report on the functions that the glue of any text bridges. -/
theorem verifyGuest_describes {binary : ByteArray} {guest : Wasm.Interface}
    (valid : Wasm.interface? binary = some guest) (scanned : ScanResult) (options : Options)
    (boilerplate : String) :
    ∃ report, verifyGuest binary scanned options = .ok report ∧
      report.Describes guest options
        (Glue.generate options boilerplate scanned.exports scanned.imports) := by
  obtain ⟨exportsDistinct, importsDistinct⟩ :=
    Glue.generate_contract_nodup options boilerplate scanned.exports scanned.imports
  refine ⟨_, verifyGuest_eq valid scanned options boilerplate, ?_⟩
  constructor
  case missingExports => rfl
  case missingImports => rfl
  case exportsDistinct => exact exportsDistinct.filter _
  case importsDistinct => exact importsDistinct.filter _
  case isOk_iff =>
    rw [Contract.missing_isOk_iff, Glue.Output.contract, List.forall_mem_map, List.forall_mem_map]
  case exportText => exact fun _ bridged => Glue.generate_exportText bridged
  case importText => exact fun _ bridged => Glue.generate_importText bridged

/-- A module that asks for a function `log` of `env` and offers its memory as `Run`. -/
def guestWithoutRun : ByteArray :=
  ⟨#[0x00, 0x61, 0x73, 0x6d, 0x01, 0x00, 0x00, 0x00,
    0x01, 0x04, 0x01, 0x60, 0x00, 0x00,
    0x02, 0x0b, 0x01, 0x03, 0x65, 0x6e, 0x76, 0x03, 0x6c, 0x6f, 0x67, 0x00, 0x00,
    0x05, 0x03, 0x01, 0x00, 0x01,
    0x07, 0x07, 0x01, 0x03, 0x52, 0x75, 0x6e, 0x02, 0x00]⟩

/-- A memory does not stand for the function of its name. -/
theorem verifyGuest_describes_memory :
    let run : ExportBinding := ⟨⟨"App.dll", "", "Api", "Run", [], .void⟩, none⟩
    let scanned : ScanResult := ⟨[run], [Glue.logImport "level"], .empty⟩
    ∃ report, verifyGuest guestWithoutRun scanned .standard = .ok report ∧
      report.missingExports = ["Run"] ∧ report.missingImports = [] := by
  intro run scanned
  have offers : (Wasm.interface? guestWithoutRun).map (fun guest =>
      (decide (guest.OffersFunction "Run"), decide (guest.AsksForFunction ⟨"env", "log"⟩))) =
        some (false, true) := by
    decide +kernel
  obtain ⟨guest, valid, found⟩ := Option.map_eq_some_iff.mp offers
  obtain ⟨absent, present⟩ := Prod.mk.inj found
  obtain ⟨report, verified, describes⟩ := verifyGuest_describes valid scanned .standard "// env\n"
  have bridged : (Glue.generate .standard "// env\n" [run] [Glue.logImport "level"]).exports.map
      (·.exportName) = ["Run"] ∧
    (Glue.generate .standard "// env\n" [run] [Glue.logImport "level"]).imports.map
      Options.standard.importName = [⟨"env", "log"⟩] := by
    rw [Glue.generate_exports, Glue.generate_imports]
    decide +kernel
  refine ⟨report, verified, ?_, ?_⟩
  · rw [describes.missingExports, bridged.1, List.filter_cons_of_pos, List.filter_nil]
    exact decide_eq_true (of_decide_eq_false absent)
  · rw [describes.missingImports, bridged.2, List.filter_cons_of_neg, List.filter_nil]
    simp [of_decide_eq_true present]

end GuestGlue
