/-
The whole glue of a run: the files of the import side, then the file of the
export side, unless the reserved module's file has its name.
-/

import GuestGlue.Glue.Import
import GuestGlue.Glue.Export

namespace GuestGlue.Glue

open CSource

structure Output where
  files : List GlueFile
  exports : List ExportBinding
  imports : List ImportBinding
  diagnostics : List Diagnostic

def Output.fileNames (output : Output) : List String :=
  output.files.map (·.name)

def Output.file? (output : Output) (name : String) : Option GlueFile :=
  output.files.find? (·.name = name)

def exportCollision (fileName : String) : Diagnostic :=
  .error .fileNameCollision fileName
    ("the export file `" ++ fileName ++ "` is already generated for a host module")

def generate (options : Options) (boilerplate : String) (exports : List ExportBinding)
    (imports : List ImportBinding) : Output :=
  let importPlan := planImports options .runtime imports
  let exportPlan := planExports importPlan.symbols exports
  let files := importPlan.files options boilerplate
  let diagnostics := importPlan.diagnostics ++ exportPlan.diagnostics
  match exportPlan.file? options with
  | none => ⟨files, [], importPlan.forwarded, diagnostics⟩
  | some file =>
      if files.any fun other => FileName.folded other.name = FileName.folded file.name then
        ⟨files, [], importPlan.forwarded, diagnostics ++ [exportCollision file.name]⟩
      else ⟨files ++ [file], exportPlan.wrapped, importPlan.forwarded, diagnostics⟩

end GuestGlue.Glue
