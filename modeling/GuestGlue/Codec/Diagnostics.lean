/-
Diagnostics and the results of scans as JSON.  A code is its number.
-/

import GuestGlue.Codec.Types
import GuestGlue.Metadata.Scan

namespace GuestGlue.Codec

open Json

def encodeCode (code : Code) : Value :=
  .number code.number.toNat

def decodeCode : Decoder Code := fun node =>
  (decodeNat 0x10000 "u16" node).map fun number => ⟨number.toUInt16⟩

def decodeCount : Decoder Nat :=
  decodeNat wordLimit "usize"

def encodeSeverity (severity : Severity) : Value :=
  .string severity.keyword

def decodeSeverity : Decoder Severity :=
  decodeEnum [("error", .error), ("warning", .warning)]

def encodeCategory (category : Category) : Value :=
  .string category.keyword

def decodeCategory : Decoder Category :=
  decodeEnum [("type", .type), ("shape", .shape), ("marker", .marker), ("symbol", .symbol)]

/-! ### Diagnostics -/

def encodeDiagnostic (diagnostic : Diagnostic) : Value :=
  .object [
    ("code", encodeCode diagnostic.code),
    ("severity", encodeSeverity diagnostic.severity),
    ("category", encodeCategory diagnostic.category),
    ("message", .string diagnostic.message),
    ("symbol", .string diagnostic.symbol)]

inductive DiagnosticEntry where
  | code (value : Code)
  | severity (value : Severity)
  | category (value : Category)
  | message (value : String)
  | symbol (value : String)

namespace DiagnosticEntry

def code? : DiagnosticEntry → Option Code
  | code value => some value
  | _ => none

def severity? : DiagnosticEntry → Option Severity
  | severity value => some value
  | _ => none

def category? : DiagnosticEntry → Option Category
  | category value => some value
  | _ => none

def message? : DiagnosticEntry → Option String
  | message value => some value
  | _ => none

def symbol? : DiagnosticEntry → Option String
  | symbol value => some value
  | _ => none

end DiagnosticEntry

def diagnosticRecord : Record DiagnosticEntry Diagnostic :=
  { title := "Diagnostic"
    fields := [
      ⟨"code", fun node => (decodeCode node).map .code, false⟩,
      ⟨"severity", fun node => (decodeSeverity node).map .severity, false⟩,
      ⟨"category", fun node => (decodeCategory node).map .category, false⟩,
      ⟨"message", fun node => (decodeString node).map .message, false⟩,
      ⟨"symbol", fun node => (decodeString node).map .symbol, false⟩]
    make := fun entries => do
      let code ← required "code" DiagnosticEntry.code? entries
      let severity ← required "severity" DiagnosticEntry.severity? entries
      let category ← required "category" DiagnosticEntry.category? entries
      let message ← required "message" DiagnosticEntry.message? entries
      let symbol ← required "symbol" DiagnosticEntry.symbol? entries
      return { code, severity, category, message, symbol } }

def decodeDiagnostic : Decoder Diagnostic := diagnosticRecord.decode .direct

/-! ### Logs -/

def encodeLog (log : DiagnosticLog) : Value :=
  .object [
    ("entries", .array (log.entries.map encodeDiagnostic)),
    ("total_errors", .number log.totalErrors),
    ("total_warnings", .number log.totalWarnings)]

inductive LogEntry where
  | entries (value : List Diagnostic)
  | totalErrors (value : Nat)
  | totalWarnings (value : Nat)

namespace LogEntry

def entries? : LogEntry → Option (List Diagnostic)
  | entries value => some value
  | _ => none

def totalErrors? : LogEntry → Option Nat
  | totalErrors value => some value
  | _ => none

def totalWarnings? : LogEntry → Option Nat
  | totalWarnings value => some value
  | _ => none

end LogEntry

def logRecord : Record LogEntry DiagnosticLog :=
  { title := "Diagnostics"
    fields := [
      ⟨"entries", fun node => (decodeList decodeDiagnostic node).map .entries, false⟩,
      ⟨"total_errors", fun node => (decodeCount node).map .totalErrors, false⟩,
      ⟨"total_warnings", fun node => (decodeCount node).map .totalWarnings, false⟩]
    make := fun present => do
      let entries ← required "entries" LogEntry.entries? present
      let totalErrors ← required "total_errors" LogEntry.totalErrors? present
      let totalWarnings ← required "total_warnings" LogEntry.totalWarnings? present
      return { entries, totalErrors, totalWarnings } }

def decodeLog : Decoder DiagnosticLog := logRecord.decode .direct

/-! ### Scan results -/

def encodeScanResult (result : ScanResult) : Value :=
  .object [
    ("exports", .array (result.exports.map encodeExport)),
    ("imports", .array (result.imports.map encodeImport)),
    ("diagnostics", encodeLog result.diagnostics)]

inductive ScanEntry where
  | exports (value : List ExportBinding)
  | imports (value : List ImportBinding)
  | diagnostics (value : DiagnosticLog)

namespace ScanEntry

def exports? : ScanEntry → Option (List ExportBinding)
  | exports value => some value
  | _ => none

def imports? : ScanEntry → Option (List ImportBinding)
  | imports value => some value
  | _ => none

def diagnostics? : ScanEntry → Option DiagnosticLog
  | diagnostics value => some value
  | _ => none

end ScanEntry

def scanRecord : Record ScanEntry ScanResult :=
  { title := "ScanResult"
    fields := [
      ⟨"exports", fun node => (decodeList decodeExport node).map .exports, false⟩,
      ⟨"imports", fun node => (decodeList decodeImport node).map .imports, false⟩,
      ⟨"diagnostics", fun node => (decodeLog node).map .diagnostics, false⟩]
    make := fun entries => do
      let exports ← required "exports" ScanEntry.exports? entries
      let imports ← required "imports" ScanEntry.imports? entries
      let diagnostics ← required "diagnostics" ScanEntry.diagnostics? entries
      return { exports, imports, diagnostics } }

def decodeScanResult : Decoder ScanResult := scanRecord.decode .direct

end GuestGlue.Codec
