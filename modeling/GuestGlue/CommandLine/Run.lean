/-
The commands of the program: what they print, and the code they end with.  An
error is printed with its causes; a cause that the text of an error holds
already is printed again.
-/

import GuestGlue.Build.Run
import GuestGlue.Build.Verify
import GuestGlue.CommandLine.Help

namespace GuestGlue

def ReadError.causes (error : ReadError) : List String :=
  match error with
  | .unreadable _ cause => [error.message, cause.message]
  | .malformed _ rejection => [error.message, rejection.message]
  | .missing _ _ | .misnamed _ _ _ => [error.message]

def BuildError.causes (error : BuildError) : List String :=
  match error with
  | .metadata cause => cause.causes
  | .file _ cause => [error.message, cause.message]
  | .config _ rejection => [error.message, rejection.message]
  | .invalidFileName _ => [error.message]
  | .invalidGuest => [error.message, "malformed binary"]

namespace CommandLine

/-- The code a run ends with, and what it printed. -/
structure Outcome where
  code : Nat
  output : String
  errors : String
  deriving DecidableEq, Repr

namespace Outcome

def success (output : String) : Outcome := ⟨0, output, ""⟩

def failure (causes : List String) : Outcome :=
  ⟨1, "", "error: " ++ ": ".intercalate causes ++ "\n"⟩

def rejected : Outcome :=
  ⟨2, "", "error: the arguments are not understood\n"⟩

end Outcome

def versionText : String := "pdkgen 0.1.1\n"

/-! ### Reports -/

def diagnosticLines (log : DiagnosticLog) : List String :=
  let hidden := log.totalErrors - log.entries.length
  log.entries.map (fun diagnostic => diagnostic.symbol ++ ": " ++ diagnostic.display) ++
    if 0 < hidden then [s!"... and {hidden} more"] else []

def buildOutcome (report : BuildReport) : Outcome :=
  if report.diagnostics.hasErrors then
    ⟨1, "", Text.unlines (diagnosticLines report.diagnostics)⟩
  else .success ""

def missingLines (report : VerifyReport) : List String :=
  report.missingExports.map (fun name => "missing export: " ++ name) ++
    report.missingImports.map fun missing =>
      "missing import: " ++ missing.moduleName ++ " " ++ missing.name

def verifyOutcome (wasm : Path) (report : VerifyReport) : Outcome :=
  if report.isOk then .success (wasm.text ++ ": all bindings present\n")
  else ⟨1, Text.unlines (missingLines report), ""⟩

/-! ### Commands -/

section Commands

variable {m : Type → Type} [Monad m] [FileSystem m]

abbrev CommandM (m : Type → Type) := ExceptT (List String) m

def inContext {α : Type} (context : String) (program : ExceptT BuildError m α) : CommandM m α :=
  ExceptT.adapt (fun error => context :: error.causes) program

def reading {α : Type} (context : String) (operation : m (Except FileError α)) : CommandM m α :=
  ExceptT.adapt (fun error => [context, error.message]) (ExceptT.mk operation)

/-- The configuration that is named, or one that lies beside the module. -/
def configPath? (arguments : ModuleArguments) : m (Option Path) := do
  match arguments.config with
  | some path => return some path
  | none =>
      let beside := arguments.modulePath.directory.join Config.fileName
      if ← FileSystem.isFile (m := m) beside then return some beside else return none

def loadConfig (arguments : ModuleArguments) : CommandM m Config := do
  let config ←
    match ← configPath? (m := m) arguments with
    | some path => inContext ("loading configuration " ++ path.text) (readConfig (m := m) path)
    | none => pure Config.standard
  return { config with references := NameSet.insertAll config.references arguments.references }

def overrideReserved (config : Config) : Option String → Config
  | none => config
  | some name => { config with options := { config.options with reservedModule := name } }

def runGenerate (arguments : ModuleArguments) (output boilerplate : Path)
    (reservedModule : Option String) : CommandM m Outcome := do
  let loaded ← loadConfig arguments
  let config := overrideReserved loaded reservedModule
  let text ← reading ("reading boilerplate " ++ boilerplate.text) (FileSystem.readText boilerplate)
  let request : BuildRequest := ⟨arguments.modulePath, output, text, config⟩
  let report ← inContext "glue generation failed" (build (m := m) request)
  return buildOutcome report

def runScan (arguments : ModuleArguments) : CommandM m Outcome := do
  let config ← loadConfig arguments
  let scanned ← inContext "scan failed" (scanModule (m := m) arguments.modulePath config)
  return .success ((Codec.encodeScanResult scanned).pretty ++ "\n")

def runVerify (arguments : ModuleArguments) (wasm : Path) : CommandM m Outcome := do
  let config ← loadConfig arguments
  let scanned ← inContext "scan failed" (scanModule (m := m) arguments.modulePath config)
  let binary ← reading ("reading " ++ wasm.text) (FileSystem.read wasm)
  let report ←
    inContext ("verifying " ++ wasm.text)
      (ExceptT.mk (pure (verifyGuest binary scanned config.options)))
  return verifyOutcome wasm report

def runCommand : Command → CommandM m Outcome
  | .generate arguments output boilerplate reservedModule =>
      runGenerate arguments output boilerplate reservedModule
  | .scan arguments => runScan arguments
  | .verify arguments wasm => runVerify arguments wasm

def run (arguments : List String) : m Outcome := do
  match readArguments arguments with
  | none => return .rejected
  | some .version => return .success versionText
  | some (.help topic) => return .success topic.text
  | some (.run command) =>
      match ← (runCommand (m := m) command).run with
      | .ok outcome => return outcome
      | .error causes => return .failure causes

end Commands

end CommandLine

end GuestGlue
