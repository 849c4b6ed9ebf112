/-
One build: scan the root module, generate the glue, reconcile the output
directory.  Every file is known before the directory is touched.  Diagnostics do
not fail a build; they are part of its report.
-/

import GuestGlue.Glue.Generation
import GuestGlue.Build.Reconcile
import GuestGlue.Codec.Config
import GuestGlue.Metadata.Scan

namespace GuestGlue

open Reconcile

structure BuildRequest where
  modulePath : Path
  outputDirectory : Path
  boilerplate : String
  config : Config

structure BuildReport where
  reconciled : Reconciled
  diagnostics : DiagnosticLog

def BuildReport.files (report : BuildReport) : List String :=
  report.reconciled.written ++ report.reconciled.unchanged

section Programs

variable {m : Type → Type} [Monad m] [FileSystem m]

def readConfig (path : Path) : BuildM m Config := do
  let text ← onPath path (FileSystem.readText path)
  match Config.ofJson text with
  | .ok config => return config
  | .error rejection => throw (.config path rejection)

def scanModule (modulePath : Path) (config : Config) : BuildM m ScanResult :=
  ExceptT.adapt BuildError.metadata do
    let root ← readModuleFile (m := m) modulePath
    let directory : ModuleDirectory := ⟨config.moduleDirectoryFor modulePath⟩
    scan config.references (directory.read (m := m)) root

def build (request : BuildRequest) : BuildM m BuildReport := do
  let config := request.config
  let scanned ← scanModule request.modulePath config
  let glue := Glue.generate config.options request.boilerplate scanned.exports scanned.imports
  let reconciled ← reconcile request.outputDirectory glue.files config.options.extension
  return {
    reconciled
    diagnostics := .ofHistory (scanned.diagnostics.entries ++ glue.diagnostics) }

end Programs

end GuestGlue
