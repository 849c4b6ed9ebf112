/-
Results of scans that are read back.  The counts of a log are natural numbers, so they
have to fit a word; everything else of a result is read back whatever it holds.
-/

import GuestGlue.Codec.Diagnostics
import GuestGlue.Proofs.Codec.Module

namespace GuestGlue.Codec

open Json

/-! ### Bindings -/

theorem reads_signature (method : MethodSignature) :
    Reads decodeSignature (encodeSignature method) method := by
  have moduleFile : ReadsMember signatureRecord.fields ("module_file", .string method.moduleFile)
      (.moduleFile method.moduleFile) :=
    ⟨_, rfl, (reads_string method.moduleFile).map _⟩
  have namespaceName : ReadsMember signatureRecord.fields
      ("namespace", .string method.namespaceName) (.namespaceName method.namespaceName) :=
    ⟨_, rfl, (reads_string method.namespaceName).map _⟩
  have typeName : ReadsMember signatureRecord.fields ("type_name", .string method.typeName)
      (.typeName method.typeName) :=
    ⟨_, rfl, (reads_string method.typeName).map _⟩
  have methodName : ReadsMember signatureRecord.fields ("method_name", .string method.methodName)
      (.methodName method.methodName) :=
    ⟨_, rfl, (reads_string method.methodName).map _⟩
  have parameters : ReadsMember signatureRecord.fields
      ("parameters", .array (method.parameters.map encodeParameter)) (.parameters method.parameters) :=
    ⟨_, rfl, (reads_list encodeParameter reads_parameter method.parameters).map _⟩
  have returnType : ReadsMember signatureRecord.fields
      ("return_type", encodeType method.returnType) (.returnType method.returnType) :=
    ⟨_, rfl, (reads_type method.returnType).map _⟩
  exact Record.reads (.cons moduleFile (.cons namespaceName (.cons typeName (.cons methodName
    (.cons parameters (.cons returnType .nil)))))) (by simp) rfl

theorem reads_export (binding : ExportBinding) :
    Reads decodeExport (encodeExport binding) binding := by
  obtain ⟨method, entryPoint⟩ := binding
  have readsMethod : ReadsMember exportRecord.fields ("method", encodeSignature method)
      (.method method) :=
    ⟨_, rfl, (reads_signature method).map _⟩
  cases entryPoint with
  | none =>
      change Reads _ (.object [("method", _)]) _
      exact Record.reads (.cons readsMethod .nil) (by simp) rfl
  | some entryPoint =>
      have readsEntry : ReadsMember exportRecord.fields ("entry_point", .string entryPoint)
          (.entryPoint (some entryPoint)) :=
        ⟨_, rfl, (reads_nullable (some entryPoint)).map _⟩
      change Reads _ (.object [("method", _), ("entry_point", _)]) _
      exact Record.reads (.cons readsMethod (.cons readsEntry .nil)) (by simp) rfl

theorem reads_import (binding : ImportBinding) :
    Reads decodeImport (encodeImport binding) binding := by
  obtain ⟨method, hostModule, entryPoint⟩ := binding
  have readsMethod : ReadsMember importRecord.fields ("method", encodeSignature method)
      (.method method) :=
    ⟨_, rfl, (reads_signature method).map _⟩
  have readsHost : ReadsMember importRecord.fields ("module", .string hostModule)
      (.hostModule hostModule) :=
    ⟨_, rfl, (reads_string hostModule).map _⟩
  cases entryPoint with
  | none =>
      change Reads _ (.object [("method", _), ("module", _)]) _
      exact Record.reads (.cons readsMethod (.cons readsHost .nil)) (by simp) rfl
  | some entryPoint =>
      have readsEntry : ReadsMember importRecord.fields ("entry_point", .string entryPoint)
          (.entryPoint (some entryPoint)) :=
        ⟨_, rfl, (reads_nullable (some entryPoint)).map _⟩
      change Reads _ (.object [("method", _), ("module", _), ("entry_point", _)]) _
      exact Record.reads (.cons readsMethod (.cons readsHost (.cons readsEntry .nil)))
        (by simp) rfl

/-! ### Diagnostics -/

theorem reads_code (code : Code) : Reads decodeCode (encodeCode code) code := by
  have small : code.number.toNat < 0x10000 := code.number.toNat_lt
  have fits : code.number.toNat < wordLimit := Nat.lt_trans small (by decide)
  have same : code.number.toNat.toUInt16 = code.number := UInt16.ofNat_toNat
  have number := (reads_number "u16" small fits).map fun number => (⟨number.toUInt16⟩ : Code)
  rwa [same] at number

theorem reads_severity (severity : Severity) :
    Reads decodeSeverity (encodeSeverity severity) severity := by
  cases severity with
  | error => exact reads_enum rfl (by decide)
  | warning => exact reads_enum rfl (by decide)

theorem reads_category (category : Category) :
    Reads decodeCategory (encodeCategory category) category := by
  cases category with
  | type => exact reads_enum rfl (by decide)
  | shape => exact reads_enum rfl (by decide)
  | marker => exact reads_enum rfl (by decide)
  | symbol => exact reads_enum rfl (by decide)

theorem reads_diagnostic (diagnostic : Diagnostic) :
    Reads decodeDiagnostic (encodeDiagnostic diagnostic) diagnostic := by
  have code : ReadsMember diagnosticRecord.fields ("code", encodeCode diagnostic.code)
      (.code diagnostic.code) :=
    ⟨_, rfl, (reads_code diagnostic.code).map _⟩
  have severity : ReadsMember diagnosticRecord.fields
      ("severity", encodeSeverity diagnostic.severity) (.severity diagnostic.severity) :=
    ⟨_, rfl, (reads_severity diagnostic.severity).map _⟩
  have category : ReadsMember diagnosticRecord.fields
      ("category", encodeCategory diagnostic.category) (.category diagnostic.category) :=
    ⟨_, rfl, (reads_category diagnostic.category).map _⟩
  have message : ReadsMember diagnosticRecord.fields ("message", .string diagnostic.message)
      (.message diagnostic.message) :=
    ⟨_, rfl, (reads_string diagnostic.message).map _⟩
  have symbol : ReadsMember diagnosticRecord.fields ("symbol", .string diagnostic.symbol)
      (.symbol diagnostic.symbol) :=
    ⟨_, rfl, (reads_string diagnostic.symbol).map _⟩
  exact Record.reads (.cons code (.cons severity (.cons category (.cons message
    (.cons symbol .nil))))) (by simp) rfl

/-- The counts of a log may be larger than the number of its entries, and are read as they are. -/
theorem reads_log {log : DiagnosticLog} (errorsFit : log.totalErrors < wordLimit)
    (warningsFit : log.totalWarnings < wordLimit) : Reads decodeLog (encodeLog log) log := by
  have entries : ReadsMember logRecord.fields ("entries", .array (log.entries.map encodeDiagnostic))
      (.entries log.entries) :=
    ⟨_, rfl, (reads_list encodeDiagnostic reads_diagnostic log.entries).map _⟩
  have errors : ReadsMember logRecord.fields ("total_errors", .number log.totalErrors)
      (.totalErrors log.totalErrors) :=
    ⟨_, rfl, (reads_number "usize" errorsFit errorsFit).map _⟩
  have warnings : ReadsMember logRecord.fields ("total_warnings", .number log.totalWarnings)
      (.totalWarnings log.totalWarnings) :=
    ⟨_, rfl, (reads_number "usize" warningsFit warningsFit).map _⟩
  exact Record.reads (.cons entries (.cons errors (.cons warnings .nil))) (by simp) rfl

/-! ### Results of scans -/

theorem reads_scanResult {result : ScanResult} (errorsFit : result.diagnostics.totalErrors < wordLimit)
    (warningsFit : result.diagnostics.totalWarnings < wordLimit) :
    Reads decodeScanResult (encodeScanResult result) result := by
  have readsExports : ReadsMember scanRecord.fields
      ("exports", .array (result.exports.map encodeExport)) (.exports result.exports) :=
    ⟨_, rfl, (reads_list encodeExport reads_export result.exports).map _⟩
  have readsImports : ReadsMember scanRecord.fields
      ("imports", .array (result.imports.map encodeImport)) (.imports result.imports) :=
    ⟨_, rfl, (reads_list encodeImport reads_import result.imports).map _⟩
  have readsLog : ReadsMember scanRecord.fields ("diagnostics", encodeLog result.diagnostics)
      (.diagnostics result.diagnostics) :=
    ⟨_, rfl, (reads_log errorsFit warningsFit).map _⟩
  exact Record.reads (.cons readsExports (.cons readsImports (.cons readsLog .nil))) (by simp) rfl

/-- A result is read back as it was from its compact form, from its laid-out form, and
from what a scan prints, which is the laid-out form with an end of line. -/
theorem decodeText_encodeScanResult (result : ScanResult)
    (errorsFit : result.diagnostics.totalErrors < wordLimit)
    (warningsFit : result.diagnostics.totalWarnings < wordLimit) :
    decodeText decodeScanResult (encodeScanResult result).compact = .ok result ∧
      decodeText decodeScanResult (encodeScanResult result).pretty = .ok result ∧
      decodeText decodeScanResult ((encodeScanResult result).pretty ++ "\n") = .ok result := by
  have reads := reads_scanResult errorsFit warningsFit
  have printed : (encodeScanResult result).tree.WrittenAs ((encodeScanResult result).pretty ++ "\n") :=
    (writtenAs_pretty _).endLine
  exact ⟨reads.decodeText_compact, reads.decodeText_pretty, reads.decodeText_written printed⟩

/-- Entry points that are left out, empty and given stand in one result, and the log has
counted more than it keeps. -/
def mixedScan : ScanResult :=
  let method : MethodSignature := ⟨"Sample.dll", "", "Main", "Run", [⟨"tag\n", ⟨"List<T>"⟩⟩], .void⟩
  let problem : Diagnostic := ⟨⟨65535⟩, .warning, .marker, "a \"quoted\" word", "Main::Run"⟩
  ⟨[⟨method, none⟩, ⟨method, some ""⟩, ⟨method, some "start"⟩], [⟨method, "env", some ""⟩],
    ⟨[problem], 3, 18446744073709551615⟩⟩

theorem decodeText_encodeScanResult_mixed :
    decodeText decodeScanResult (encodeScanResult mixedScan).compact = .ok mixedScan ∧
      decodeText decodeScanResult (encodeScanResult mixedScan).pretty = .ok mixedScan ∧
      decodeText decodeScanResult ((encodeScanResult mixedScan).pretty ++ "\n") = .ok mixedScan :=
  decodeText_encodeScanResult mixedScan (by decide) (by decide)

end GuestGlue.Codec
