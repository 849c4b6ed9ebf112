/-
Verification of a linked guest: every function that the glue bridges has to be
among the guest's exports or imports.
-/

import GuestGlue.Build.Error
import GuestGlue.Codec.Diagnostics
import GuestGlue.Glue.Generation
import GuestGlue.Wasm.Binary

namespace GuestGlue

structure ImportName where
  moduleName : String
  name : String
  deriving DecidableEq, Repr

structure VerifyReport where
  missingExports : List String
  missingImports : List ImportName
  deriving DecidableEq, Repr

namespace VerifyReport

def isOk (report : VerifyReport) : Bool :=
  report.missingExports.isEmpty && report.missingImports.isEmpty

/-- Compares what a binary offers with the functions that are bridged. -/
def ofInterface (binary : Wasm.Interface) (options : Options) (exports : List ExportBinding)
    (imports : List ImportBinding) : VerifyReport :=
  let expectedImports := imports.map fun binding =>
    (⟨options.importModule binding.hostModule, binding.functionName⟩ : ImportName)
  { missingExports := (exports.map (·.exportName)).filter fun name =>
      !binary.functionExports.contains name
    missingImports := expectedImports.filter fun expected =>
      !binary.functionImports.contains (expected.moduleName, expected.name) }

end VerifyReport

/-- The text at the start of the reserved module's file does not change what is
bridged, so none is needed. -/
def verifyGuest (binary : ByteArray) (scanned : ScanResult) (options : Options) :
    Except BuildError VerifyReport :=
  match Wasm.interface? binary with
  | none => .error .invalidGuest
  | some interface =>
      let glue := Glue.generate options "" scanned.exports scanned.imports
      .ok (.ofInterface interface options glue.exports glue.imports)

end GuestGlue
