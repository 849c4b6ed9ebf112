/-
The import side of the glue: one file for each host module, in the order in
which the modules are first named.  A binding becomes a raw declaration and a
function that forwards to it, or an error marker.  What is decided about each
binding is a ruling; the text of the files follows from the rulings, and only
the reserved module's file depends on the caller's text.
-/

import GuestGlue.Binding
import GuestGlue.Diagnostic
import GuestGlue.GlueFile
import GuestGlue.NameMap
import GuestGlue.Options
import GuestGlue.CSource.Identifier
import GuestGlue.CSource.Preamble
import GuestGlue.CSource.StringLiteral
import GuestGlue.CSource.SymbolTable

namespace GuestGlue.Glue

open CSource

/-! ### Groups by host module -/

structure Group where
  hostModule : String
  imports : List ImportBinding

structure Grouping where
  groups : Array Group
  index : NameMap Nat

namespace Grouping

def empty : Grouping := ⟨#[], .empty⟩

/-- The place of a host module's group; a module that is new gets a group at the end. -/
def slot (grouping : Grouping) (hostModule : String) : Nat × Grouping :=
  match grouping.index.find? hostModule with
  | some slot => (slot, grouping)
  | none =>
      let slot := grouping.groups.size
      (slot, ⟨grouping.groups.push ⟨hostModule, []⟩, grouping.index.insert hostModule slot⟩)

def place (grouping : Grouping) (binding : ImportBinding) : Grouping :=
  let (slot, grouping) := grouping.slot binding.hostModule
  { grouping with
    groups := grouping.groups.modify slot fun group =>
      { group with imports := group.imports ++ [binding] } }

end Grouping

def groups (imports : List ImportBinding) : List Group :=
  (imports.foldl Grouping.place .empty).groups.toList

/-! ### Rulings on single bindings -/

def rawName (name : String) : String :=
  name ++ "_import"

def checkImport (symbols : SymbolTable) (binding : ImportBinding) : Except Diagnostic Primitive :=
  let method := binding.method
  let symbol := method.fullName
  let name := binding.functionName
  match method.returnType.primitive? with
  | none =>
      .error (.error .unsupportedReturnType symbol
        ("unsupported return type `" ++ method.returnType.name ++ "` on import `" ++ symbol ++ "`"))
  | some returned =>
      match method.parameters.find? (!·.type.isParameter) with
      | some parameter =>
          .error (.error .unsupportedParameterType symbol
            ("unsupported parameter type `" ++ parameter.type.name ++ "` for `" ++ parameter.name ++
              "` on import `" ++ symbol ++ "`"))
      | none =>
          match (name :: method.parameters.map (·.name)).find? (!isIdentifier ·) with
          | some invalid =>
              .error (.error .invalidIdentifier symbol
                ("`" ++ invalid ++ "` is not a valid C identifier (import `" ++ symbol ++ "`)"))
          | none =>
              if symbols.contains name || symbols.contains (rawName name) then
                .error (.error .duplicateSymbol symbol
                  ("`" ++ name ++ "` is already defined; import `" ++ symbol ++ "` is skipped"))
              else .ok returned

structure ImportRuling where
  binding : ImportBinding
  outcome : Except Diagnostic Primitive

namespace ImportRuling

def forwarded? (ruling : ImportRuling) : Option ImportBinding :=
  match ruling.outcome with
  | .ok _ => some ruling.binding
  | .error _ => none

def diagnostic? (ruling : ImportRuling) : Option Diagnostic :=
  match ruling.outcome with
  | .ok _ => none
  | .error diagnostic => some diagnostic

end ImportRuling

/-- The table after a ruling: a binding that is forwarded takes two names. -/
def symbolsAfterImport (symbols : SymbolTable) (ruling : ImportRuling) : SymbolTable :=
  match ruling.outcome with
  | .ok _ =>
      (symbols.add ruling.binding.functionName).add (rawName ruling.binding.functionName)
  | .error _ => symbols

def ruleImport (symbols : SymbolTable) (binding : ImportBinding) : ImportRuling :=
  ⟨binding, checkImport symbols binding⟩

/-- Rules on bindings in order; each one sees the names taken before it. -/
def ruleImports (symbols : SymbolTable) : List ImportBinding → List ImportRuling × SymbolTable
  | [] => ([], symbols)
  | binding :: rest =>
      let ruling := ruleImport symbols binding
      let (rulings, symbols) := ruleImports (symbolsAfterImport symbols ruling) rest
      (ruling :: rulings, symbols)

/-! ### Rulings on host modules -/

structure Refusal where
  code : Code
  reason : String

/-- The objection to a module's file name, if `taken` holds the names of the
other files, written in small letters. -/
def refusal? (options : Options) (taken : List String) (hostModule : String) : Option Refusal :=
  let fileName := options.fileName hostModule
  if !FileName.isPlain fileName then
    some ⟨.invalidFileName,
      "host module `" ++ hostModule ++ "` does not give a plain file name (`" ++ fileName ++ "`)"⟩
  else if taken.contains (FileName.folded fileName) then
    some ⟨.fileNameCollision,
      "host module `" ++ hostModule ++ "` would be written to `" ++ fileName ++
        "`, which another generated file already uses"⟩
  else none

def Refusal.ruling (refusal : Refusal) (binding : ImportBinding) : ImportRuling :=
  let symbol := binding.method.fullName
  ⟨binding, .error (.error refusal.code symbol
    (refusal.reason ++ "; import `" ++ symbol ++ "` is skipped"))⟩

structure ModuleRuling where
  hostModule : String
  hasFile : Bool
  rulings : List ImportRuling

/-- Rules on host modules in order.  The reserved module always gets its file. -/
def ruleGroups (options : Options) (taken : List String) (symbols : SymbolTable) :
    List Group → List ModuleRuling × SymbolTable
  | [] => ([], symbols)
  | group :: rest =>
      let reserved := group.hostModule = options.reservedModule
      let refused := if reserved then none else refusal? options taken group.hostModule
      match refused with
      | some refusal =>
          let (modules, symbols) := ruleGroups options taken symbols rest
          (⟨group.hostModule, false, group.imports.map refusal.ruling⟩ :: modules, symbols)
      | none =>
          let taken :=
            if reserved then taken
            else FileName.folded (options.fileName group.hostModule) :: taken
          let (rulings, symbols) := ruleImports symbols group.imports
          let (modules, symbols) := ruleGroups options taken symbols rest
          (⟨group.hostModule, true, rulings⟩ :: modules, symbols)

structure ImportPlan where
  modules : List ModuleRuling
  symbols : SymbolTable

/-- The file names that no host module but the reserved one may have. -/
def takenAtFirst (options : Options) : List String :=
  [FileName.folded options.exportsFileName, FileName.folded options.reservedFileName]

def planImports (options : Options) (symbols : SymbolTable) (imports : List ImportBinding) :
    ImportPlan :=
  let (modules, symbols) := ruleGroups options (takenAtFirst options) symbols (groups imports)
  ⟨modules, symbols⟩

def ImportPlan.rulings (plan : ImportPlan) : List ImportRuling :=
  plan.modules.flatMap (·.rulings)

def ImportPlan.forwarded (plan : ImportPlan) : List ImportBinding :=
  plan.rulings.filterMap (·.forwarded?)

def ImportPlan.diagnostics (plan : ImportPlan) : List Diagnostic :=
  plan.rulings.filterMap (·.diagnostic?)

/-! ### Text -/

def parameterText (parameter : Parameter) : Option String :=
  parameter.type.primitive?.map fun primitive => primitive.spelling ++ " " ++ parameter.name

def parameterList (parameters : List Parameter) : String :=
  ", ".intercalate (parameters.filterMap parameterText)

def argumentList (parameters : List Parameter) : String :=
  ", ".intercalate (parameters.map (·.name))

def forwarder (options : Options) (binding : ImportBinding) (returned : Primitive) : String :=
  let name := binding.functionName
  let parameters := parameterList binding.method.parameters
  let arguments := argumentList binding.method.parameters
  let keyword := if returned.isVoid then "" else "return "
  "IMPORT(" ++ stringLiteral (options.importModule binding.hostModule) ++ ", " ++
      stringLiteral name ++ ") extern " ++ returned.spelling ++ " " ++ rawName name ++
      "(" ++ parameters ++ ");\n" ++
    "\n" ++
    returned.spelling ++ " " ++ name ++ "(" ++ parameters ++ ") \x7b\n" ++
    "    " ++ keyword ++ rawName name ++ "(" ++ arguments ++ ");\n" ++
    "\x7d"

def block (options : Options) (ruling : ImportRuling) : String :=
  match ruling.outcome with
  | .ok returned => forwarder options ruling.binding returned
  | .error diagnostic => errorMarker diagnostic.message

def endLine (text : String) : String :=
  if text = "" || text.toList.getLast? = some '\n' then text else text ++ "\n"

/-- A header and the blocks under it, with an empty line between blocks. -/
def fileText (header : String) (blocks : List String) : String :=
  endLine header ++ "\n".intercalate (blocks.map (· ++ "\n"))

def ModuleRuling.file? (options : Options) (boilerplate : String) (ruling : ModuleRuling) :
    Option GlueFile :=
  if ruling.hasFile then
    let header :=
      if ruling.hostModule = options.reservedModule then boilerplate else preamble ++ "\n"
    some ⟨options.fileName ruling.hostModule, fileText header (ruling.rulings.map (block options))⟩
  else none

/-- The files of a plan; the reserved module's file comes last if nothing is
imported from that module. -/
def ImportPlan.files (plan : ImportPlan) (options : Options) (boilerplate : String) :
    List GlueFile :=
  let files := plan.modules.filterMap (·.file? options boilerplate)
  if plan.modules.any (·.hostModule = options.reservedModule) then files
  else files ++ [⟨options.reservedFileName, boilerplate⟩]

end GuestGlue.Glue
