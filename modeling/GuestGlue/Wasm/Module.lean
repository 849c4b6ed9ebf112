/-
Binary modules: the order of sections, their contents, and what they may refer
to.  Sections without order hold text for tools and are not looked into beyond
their name.
-/

import GuestGlue.Wasm.Code.Instruction

namespace GuestGlue.Wasm

structure Module where
  context : Context
  importedFunctions : Nat
  imports : List Import
  exports : List Export
  bodies : Nat
  segments : Nat
  order : Nat

namespace Module

def ofStore (store : TypeStore) : Module :=
  { context := .ofStore store
    importedFunctions := 0
    imports := []
    exports := []
    bodies := 0
    segments := 0
    order := 0 }

/-! ### Bounds -/

def tableLimit : Nat := 100

def memoryLimit : Nat := 100

/-- The most types that the imports and exports of a module may mention. -/
def sizeLimit : Nat := 1000000

def size (module : Module) : Nat :=
  let store := module.context.store
  let imported := module.imports.foldl (fun total entry => total + store.sizeOf entry.type) 1
  module.exports.foldl (fun total entry => total + store.sizeOf entry.type) imported

def isWithinBounds (module : Module) : Bool :=
  module.context.tables.length ≤ tableLimit && module.context.memories.length ≤ memoryLimit &&
    module.size < sizeLimit

/-! ### Sections -/

abbrev Section := Module → Reader Module

def repeated {α : Type} (step : α → Reader α) (start : α) : Nat → Reader α
  | 0 => pure start
  | more + 1 => do repeated step (← step start) more

def addTypes (context : Context) : Reader Context := do
  let (types, store) ← Reader.typeGroup context.store context.typeIndices context.types.length
  return { context with store, types := context.types ++ types }

def typeSection : Section := fun module => do
  let context ← repeated addTypes module.context (← Reader.u32)
  return { module with context }

def addImport (module : Module) (entry : Import) : Module :=
  let context := module.context
  let imports := module.imports ++ [entry]
  match entry.type with
  | .function type =>
      { module with
        imports
        importedFunctions := module.importedFunctions + 1
        context := { context with functions := context.functions ++ [type] } }
  | .table table =>
      { module with imports, context := { context with tables := context.tables ++ [table] } }
  | .memory limits =>
      { module with
        imports, context := { context with memories := context.memories ++ [limits] } }
  | .global global =>
      { module with imports, context := { context with globals := context.globals ++ [global] } }
  | .tag type =>
      { module with imports, context := { context with tags := context.tags ++ [type] } }

def importSection : Section := fun module => do
  let imports ← Reader.vector (Reader.importEntry module.context.store module.context.typeIndices)
  return imports.foldl addImport module

def functionSection : Section := fun module => do
  let context := module.context
  let functions ← Reader.vector (Reader.functionIndex context.store context.typeIndices)
  return { module with context := { context with functions := context.functions ++ functions } }

def mention (functions : List Nat) (context : Context) : Context :=
  { context with referenced := functions ++ context.referenced }

/-- A constant expression of some type; the functions in it may be referred to. -/
def constant (context : Context) (type : ValueType) : Reader Context := do
  return mention (← Code.constantOf context type) context

/-- A table.  Its elements start as null, or with a value of their own. -/
def tableEntry (context : Context) : Reader Context := do
  let explicit := (← Reader.peek) = 0x40
  if explicit then
    Reader.check ((← Reader.take 2) = [0x40, 0x00])
  let table ← Reader.tableType context.typeIndices
  let context ←
    if explicit then constant context (.reference table.element)
    else do
      Reader.check table.element.nullable
      pure context
  return { context with tables := context.tables ++ [table] }

def tableSection : Section := fun module => do
  let context ← repeated tableEntry module.context (← Reader.u32)
  return { module with context }

def memorySection : Section := fun module => do
  let context := module.context
  let memories ← Reader.vector Reader.memoryType
  return { module with context := { context with memories := context.memories ++ memories } }

def tagSection : Section := fun module => do
  let context := module.context
  let tags ← Reader.vector (Reader.tagType context.store context.typeIndices)
  return { module with context := { context with tags := context.tags ++ tags } }

def globalEntry (context : Context) : Reader Context := do
  let global ← Reader.globalType context.typeIndices
  let context ← constant context global.value
  return { context with globals := context.globals ++ [global] }

def globalSection : Section := fun module => do
  let context ← repeated globalEntry module.context (← Reader.u32)
  return { module with context }

/-! ### Exports -/

def external? (context : Context) (kind : ExternalKind) (index : Nat) : Option ExternalType :=
  match kind with
  | .function => context.functions[index]?.map .function
  | .table => context.tables[index]?.map .table
  | .memory => context.memories[index]?.map .memory
  | .global => context.globals[index]?.map .global
  | .tag => context.tags[index]?.map .tag

def exportEntry (module : Module) : Reader Module := do
  let name ← Reader.name
  let kind ← Reader.externalKind
  let index ← Reader.u32
  let type ← Reader.demand (external? module.context kind index)
  let mentioned := if kind = .function then [index] else []
  return { module with
    exports := module.exports ++ [⟨name, type⟩]
    context := mention mentioned module.context }

def exportSection : Section := fun module => do
  let module ← repeated exportEntry module (← Reader.u32)
  Reader.check ((module.exports.map (·.name)).Nodup)
  return module

def startSection : Section := fun module => do
  let index ← Reader.u32
  let context := module.context
  Reader.check
    ((context.functions[index]? >>= context.store.function?) = some ⟨[], []⟩)
  return module

/-! ### Segments -/

def functionElements (context : Context) : Reader Context := do
  let functions ← Reader.vector Reader.u32
  Reader.check (functions.all fun index => index < context.functions.length)
  return mention functions context

def expressionElements (element : ReferenceType) (context : Context) : Reader Context := do
  repeated (fun context => constant context (.reference element)) context (← Reader.u32)

def elementPlace (explicit : Bool) (context : Context) : Reader (TableType × Context) := do
  let index ← if explicit then Reader.u32 else pure 0
  let table ← Reader.demand context.tables[index]?
  return (table, ← constant context table.limits.address)

def elementKind : Reader ReferenceType := do
  Reader.check ((← Reader.byte) = 0)
  return ReferenceType.funcRef.nonNull

/-- The flags tell whether a segment has a place, whether the table and the
kind are written, and whether expressions or functions are listed. -/
def elementEntry (context : Context) : Reader Context := do
  let flags ← Reader.u32
  Reader.check (flags < 8)
  let placed := flags % 2 = 0
  let explicit := flags / 2 % 2 = 1
  let expressions := flags / 4 = 1
  let (table, context) ←
    if placed then do
      let (table, context) ← elementPlace explicit context
      pure (some table, context)
    else pure (none, context)
  let element ←
    if placed && !explicit then
      pure (if expressions then ReferenceType.funcRef else ReferenceType.funcRef.nonNull)
    else if expressions then Reader.referenceType context.typeIndices
    else elementKind
  Reader.check (table.all fun table => context.store.referenceIsBelow element table.element)
  let context ←
    if expressions then expressionElements element context else functionElements context
  return { context with elements := context.elements ++ [element] }

def elementSection : Section := fun module => do
  let context ← repeated elementEntry module.context (← Reader.u32)
  return { module with context }

def segmentLimit : Nat := 100000

def dataCountSection : Section := fun module => do
  let count ← Reader.u32
  Reader.check (count ≤ segmentLimit)
  return { module with context := { module.context with dataCount := some count } }

def dataEntry (context : Context) : Reader Unit := do
  let flags ← Reader.u32
  Reader.check (flags < 3)
  let index ← if flags = 2 then Reader.u32 else pure 0
  if flags ≠ 1 then
    let limits ← Reader.demand context.memories[index]?
    discard (constant context limits.address)
  discard Reader.sized

def dataSection : Section := fun module => do
  let segments ← Reader.vectorUpTo segmentLimit (dataEntry module.context)
  return { module with segments := segments.length }

def functionBodies (context : Context) : List Nat → Reader Unit
  | [] => pure ()
  | type :: types => do
      let part ← Reader.sized
      let type ← Reader.demand (context.store.function? type)
      Reader.demand (Reader.within part (Code.body context type))
      functionBodies context types

def codeSection : Section := fun module => do
  let count ← Reader.u32
  let own := module.context.functions.drop module.importedFunctions
  Reader.check (count = own.length)
  functionBodies module.context own
  return { module with bodies := count }

/-! ### Whole modules -/

/-- The place of a section in a module and its reader, by its number. -/
def section? (number : Nat) : Option (Nat × Section) :=
  match number with
  | 1 => some (1, typeSection)
  | 2 => some (2, importSection)
  | 3 => some (3, functionSection)
  | 4 => some (4, tableSection)
  | 5 => some (5, memorySection)
  | 13 => some (6, tagSection)
  | 6 => some (7, globalSection)
  | 7 => some (8, exportSection)
  | 8 => some (9, startSection)
  | 9 => some (10, elementSection)
  | 12 => some (11, dataCountSection)
  | 10 => some (12, codeSection)
  | 11 => some (13, dataSection)
  | _ => none

def toolSection : Reader Unit := do
  discard Reader.name
  modify fun _ => []

def addSection (module : Module) (number : Nat) (part : Bytes) : Option Module := do
  if number = 0 then
    Reader.within part toolSection
    return module
  let (order, reader) ← section? number
  if order ≤ module.order then failure
  let module ← Reader.within part (reader module)
  return { module with order }

def addSections (module : Module) : Nat → Reader Module
  | 0 => failure
  | bound + 1 => do
      if ← Reader.atEnd then return module
      let number := (← Reader.byte).toNat
      let part ← Reader.sized
      let module ← Reader.demand (module.addSection number part)
      module.addSections bound

/-- Every function has its body, and segments are as many as announced. -/
def isComplete (module : Module) : Bool :=
  module.context.functions.length = module.importedFunctions + module.bodies &&
    module.context.dataCount.all (· = module.segments) && module.isWithinBounds

/-- A module, without its header, whose types are added to a store. -/
def ofBytes? (store : TypeStore) (bytes : Bytes) : Option Module := do
  let module ← Reader.within bytes ((ofStore store).addSections (bytes.length + 1))
  if module.isComplete then return module else failure

end Module

end GuestGlue.Wasm
