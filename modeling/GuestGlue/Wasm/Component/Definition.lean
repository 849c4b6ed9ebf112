/-
Definitions of types in components: types of values, functions, instances and
components, and the types of binary modules.
-/

import GuestGlue.Wasm.Component.Scope
import GuestGlue.Wasm.Module

namespace GuestGlue.Wasm.Component

def times (action : Builder Unit) : Nat → Builder Unit
  | 0 => pure ()
  | more + 1 => do
      action
      times action more

def listUpTo {α : Type} (limit : Nat) (item : Builder α) : Builder (List α) := do
  let count ← index
  check (count ≤ limit)
  let rec items : Nat → Builder (List α)
    | 0 => pure []
    | more + 1 => do
        let first ← item
        return first :: (← items more)
  items count

def optional {α : Type} (item : Builder α) : Builder (Option α) := do
  match (← liftM Reader.byte).toNat with
  | 0 => return none
  | 1 => some <$> item
  | _ => failure

def nextByte : Builder Nat := do
  let byte ← liftM Reader.byte
  return byte.toNat

/-! ### Binary modules -/

def ModuleType.ofModule? (module : Module) : Option ModuleType := do
  guard module.isWithinBounds
  guard (module.imports.map fun entry => (entry.moduleName, entry.name)).Nodup
  guard (module.exports.map (·.name)).Nodup
  return { imports := module.imports, exports := module.exports, size := module.size }

/-- Part of the type of a module: an import, types, a type from outside, or an
export. -/
def moduleDeclaration (outer : TypeIndices) (module : Module) : Reader Module := do
  let context := module.context
  match (← Reader.byte).toNat with
  | 0x00 => return module.addImport (← Reader.importEntry context.store context.typeIndices)
  | 0x01 => return { module with context := ← Module.addTypes context }
  | 0x02 =>
      Reader.check ((← Reader.take 2) = [0x10, 0x01])
      let type ← match ← Reader.u32 with
        | 0 => Reader.typeIndex context.typeIndices
        | 1 => Reader.typeIndex outer
        | _ => failure
      return { module with context := { context with types := context.types ++ [type] } }
  | 0x03 =>
      let name ← Reader.name
      let type ← Reader.externalType context.store context.typeIndices
      return { module with exports := module.exports ++ [⟨name, type⟩] }
  | _ => failure

def addModule (module : Module) : Builder ModuleType := do
  modify fun world => { world with store := module.context.store }
  demand (ModuleType.ofModule? module)

def addCoreTypes (types : List CoreType) : Builder Unit :=
  inScope fun scope => { scope with coreTypes := scope.coreTypes ++ types }

def declarationLimit : Nat := 100000

/-- Types of binary modules.  What starts like the type of a module may also be a
type of its own if a zero stands before it. -/
def coreType : Builder Unit := do
  let outer := (← scope).typeIndices
  match (← liftM Reader.peek).toNat with
  | 0x50 =>
      discard nextByte
      let count ← index
      check (count ≤ declarationLimit)
      let module ←
        liftM (Module.repeated (moduleDeclaration outer) (Module.ofStore (← get).store) count)
      addCoreTypes [.module (← addModule module)]
  | first =>
      if first = 0 then
        discard nextByte
        check ((← liftM Reader.peek) = 0x50)
      let world ← get
      let (types, store) ←
        liftM (Reader.typeGroup world.store outer (← scope).coreTypes.length)
      set { world with store }
      addCoreTypes (types.map .defined)

/-! ### Values -/

def primitive? (code : Nat) : Option Primitive :=
  match code with
  | 0x7f => some .bool
  | 0x7e => some .s8
  | 0x7d => some .u8
  | 0x7c => some .s16
  | 0x7b => some .u16
  | 0x7a => some .s32
  | 0x79 => some .u32
  | 0x78 => some .s64
  | 0x77 => some .u64
  | 0x76 => some .f32
  | 0x75 => some .f64
  | 0x74 => some .char
  | 0x73 => some .string
  | _ => none

/-- A primitive type, or a defined one by its index, which keeps 32 bits. -/
def valueType : Builder ValueType := do
  match primitive? (← liftM Reader.peek).toNat with
  | some type =>
      discard nextByte
      return .primitive type
  | none =>
      let index ← liftM Reader.s33
      match ← storedAt (index % 0x100000000).toNat with
      | (number, .value _) => return .defined number
      | _ => failure

def label : Builder String := do
  let name ← liftM Reader.name
  check (isLabel name.toList)
  return name

def areDistinct (labels : List String) : Bool := (labels.map labelKey).Nodup

def memberLimit : Nat := 10000

def flagLimit : Nat := 32

def labels (limit : Nat) : Builder (List String) := do
  let labels ← listUpTo limit label
  check (!labels.isEmpty && areDistinct labels)
  return labels

def namedType : Builder (String × ValueType) := do
  let name ← label
  return (name, ← valueType)

def variantCase : Builder (VariantCase × Option Nat) := do
  let name ← label
  let payload ← optional valueType
  let refined ← optional index
  return (⟨name, payload⟩, refined)

def shape (code : Nat) : Builder Shape := do
  match code with
  | 0x72 =>
      let fields ← listUpTo memberLimit namedType
      check (!fields.isEmpty && areDistinct (fields.map (·.1)))
      return .record fields
  | 0x71 =>
      let cases ← listUpTo memberLimit variantCase
      check (!cases.isEmpty && areDistinct (cases.map (·.1.name)))
      check (cases.zipIdx.all fun ((_, refined), place) => refined.all (· < place))
      return .variant (cases.map (·.1))
  | 0x70 => .list <$> valueType
  | 0x6f =>
      let types ← listUpTo memberLimit valueType
      check (!types.isEmpty)
      return .tuple types
  | 0x6e => .flags <$> labels flagLimit
  | 0x6d => .enumeration <$> labels memberLimit
  | 0x6b => .option <$> valueType
  | 0x6a =>
      let ok ← optional valueType
      let error ← optional valueType
      return .result ok error
  | 0x69 => do return .own (← resourceAt (← index))
  | 0x68 => do return .borrow (← resourceAt (← index))
  | _ => .primitive <$> demand (primitive? code)

/-! ### Functions and resources -/

def functionResult : Builder (Option ValueType) := do
  match ← nextByte with
  | 0x00 => some <$> valueType
  | 0x01 =>
      check ((← nextByte) = 0)
      return none
  | _ => failure

def functionType : Builder FunctionType := do
  let parameters ← listUpTo Reader.signatureLimit namedType
  let result ← functionResult
  check (areDistinct (parameters.map (·.1)))
  check (!result.any (← catalogue).borrows)
  return ⟨parameters, result⟩

/-- A new resource, kept as a number of 32 bits; what it is dropped with takes
that number. -/
def resourceType : Builder Resource := do
  check ((← scope).kind = .component)
  check ((← nextByte) = 0x7f)
  match ← optional index with
  | none => pure ()
  | some index => check ((← coreFunctionAt index) = ⟨[.i32], []⟩)
  let resource ← cataloguing freshResource
  inScope fun scope =>
    { scope with definedResources := scope.definedResources ++ [(resource.identity, true)] }
  return resource

/-! ### Names and references -/

def externalName : Builder String := do
  check ((← nextByte) < 2)
  liftM Reader.name

inductive ItemKind where
  | module | function | type | component | inst
  deriving DecidableEq

def itemKind : Builder ItemKind := do
  match ← nextByte with
  | 0x00 =>
      check ((← nextByte) = 0x11)
      return .module
  | 0x01 => return .function
  | 0x03 => return .type
  | 0x04 => return .component
  | 0x05 => return .inst
  | _ => failure

/-- What an import or export is said to be: something of a type, or a type that is
the same as another one or a new resource. -/
def itemType : Builder Item := do
  match ← itemKind with
  | .module =>
      let index ← index
      match (← scope).coreTypes[index]? with
      | some (.module type) => return .module type
      | _ => failure
  | .function =>
      match ← storedAt (← index) with
      | (number, .function _) => return .function number
      | _ => failure
  | .inst =>
      match ← storedAt (← index) with
      | (number, .inst _) => return .inst number
      | _ => failure
  | .component =>
      match ← storedAt (← index) with
      | (number, .component _) => return .component number
      | _ => failure
  | .type =>
      match ← nextByte with
      | 0x00 =>
          let type ← typeAt (← index)
          return .type type (← cataloguing (renamed type))
      | 0x01 =>
          let resource ← cataloguing freshResource
          return .type (.resource resource) (.resource resource)
      | _ => failure

def importItem : Builder Unit := do
  let name ← externalName
  addNamed .imported name (← itemType)

/-! ### References to other scopes -/

def outerScope (distance : Nat) : Builder Scope := do
  demand (← get).scopes[distance]?

/-- A type of a scope around this one.  What comes from outside of a component
must not rest on resources there. -/
def outerType (distance index : Nat) : Builder TypeName := do
  let type ← demand (← outerScope distance).types[index]?
  if 0 < distance && (← outerScope (distance - 1)).kind = .component then
    check ((← catalogue).free type).isEmpty
  return type

def addTypeName (type : TypeName) : Builder Unit :=
  inScope fun scope => { scope with types := scope.types ++ [type] }

def exportOf (number : Nat) (name : String) : Builder Item := do
  let type ← demand ((← catalogue).instance? number)
  demand (type.exports.lookup name)

def Item.kind : Item → ItemKind
  | .module _ => .module
  | .function _ => .function
  | .type _ _ => .type
  | .inst _ => .inst
  | .component _ => .component

def itemKindOf? (first : Nat) (second : Option Nat) : Option ItemKind :=
  match first, second with
  | 0x00, some 0x11 => some .module
  | 0x01, _ => some .function
  | 0x03, _ => some .type
  | 0x04, _ => some .component
  | 0x05, _ => some .inst
  | _, _ => none

def coreReference (kind : Option Nat) : Builder Unit := do
  let exports ← coreInstanceAt (← index)
  let name ← liftM Reader.name
  let entry ← demand (exports.find? (·.name = name))
  let code ← demand kind
  let kind ← demand (Reader.within [UInt8.ofNat code] Reader.externalKind)
  check (entry.type.kind = kind)
  addCoreItem entry.type

def outerReference (first : Nat) (second : Option Nat) : Builder Unit := do
  let distance ← index
  let index ← index
  match first, second with
  | 0x00, some 0x10 =>
      addCoreTypes [← demand (← outerScope distance).coreTypes[index]?]
  | 0x00, some 0x11 => addItem (.module (← demand (← outerScope distance).coreModules[index]?))
  | 0x03, _ => addTypeName (← outerType distance index)
  | 0x04, _ => addItem (.component (← demand (← outerScope distance).components[index]?))
  | _, _ => failure

/-- Gives a number to something that has one elsewhere: in an instance, in an
instance of a module, or in a scope around this one. -/
def reference : Builder Unit := do
  let first ← nextByte
  let second ← if first = 0 then some <$> nextByte else pure none
  match ← nextByte with
  | 0x00 =>
      let kind ← demand (itemKindOf? first second)
      let item ← exportOf (← instanceAt (← index)) (← liftM Reader.name)
      check (item.kind = kind)
      addItem item
  | 0x01 => coreReference second
  | 0x02 => outerReference first second
  | _ => failure

/-! ### Types of instances and components -/

/-- Part of the type of an instance or component, `define` reading types. -/
def declaration (define : Builder TypeName) : Builder Unit := do
  match ← nextByte with
  | 0x00 => coreType
  | 0x01 => addTypeName (← define)
  | 0x02 => reference
  | 0x03 =>
      check ((← scope).kind = .componentType)
      importItem
  | 0x04 =>
      let name ← externalName
      addNamed .exported name (← itemType)
  | _ => failure

def declarations (kind : ScopeKind) (define : Builder TypeName) : Builder Scope := do
  let count ← index
  check (count ≤ memberLimit)
  openScope kind
  times (declaration define) count
  closeScope

def typeDefinition : Nat → Builder TypeName
  | 0 => failure
  | depth + 1 => do
      match ← nextByte with
      | 0x3f => .resource <$> resourceType
      | 0x40 => do return .stored (← addType (.function (← functionType)))
      | 0x41 =>
          let scope ← declarations .componentType (typeDefinition depth)
          return .stored (← addType (.component (← componentType scope)))
      | 0x42 =>
          let scope ← declarations .instanceType (typeDefinition depth)
          return .stored (← addType (.inst (instanceType scope)))
      | code => do return .stored (← addType (.value (← shape code)))

def defineType : Builder Unit := do
  let depth ← liftM Reader.remaining
  addTypeName (← typeDefinition depth)

end GuestGlue.Wasm.Component
