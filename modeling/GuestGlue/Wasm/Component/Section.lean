/-
Sections of components: instances, functions that cross between components and
binary modules, imports and exports.
-/

import GuestGlue.Wasm.Component.Definition
import GuestGlue.Wasm.Component.Lowering

namespace GuestGlue.Wasm.Component

def argumentLimit : Nat := 100000

/-! ### Instances of modules -/

/-- An argument is an instance that stands for one of the names a module imports
from. -/
def coreArgument : Builder (String × List Export) := do
  let name ← liftM Reader.name
  check ((← nextByte) = 0x12)
  return (name, ← coreInstanceAt (← index))

def instantiateModule : Builder (List Export) := do
  let type ← moduleAt (← index)
  let arguments ← listUpTo argumentLimit coreArgument
  check (arguments.map (·.1)).Nodup
  let store := (← get).store
  check (type.imports.all fun wanted =>
    (arguments.lookup wanted.moduleName).any fun given =>
      (given.find? (·.name = wanted.name)).any fun found =>
        store.externalIsBelow found.type wanted.type)
  return type.exports

def coreExport : Builder Export := do
  let name ← liftM Reader.name
  let kind ← liftM Reader.externalKind
  return ⟨name, ← coreItemAt kind (← index)⟩

def coreInstance : Builder Unit := do
  let exports ← match ← nextByte with
    | 0x00 => instantiateModule
    | 0x01 =>
        let exports ← listUpTo argumentLimit coreExport
        check (exports.map (·.name)).Nodup
        let store := (← get).store
        check (exports.foldl (fun total entry => total + store.sizeOf entry.type) 1 < sizeLimit)
        pure exports
    | _ => failure
  inScope fun scope => { scope with coreInstances := scope.coreInstances ++ [exports] }

/-! ### Instances of components -/

/-- An item that the scope has a number for, by its kind and index. -/
def itemAt (kind : ItemKind) (index : Nat) : Builder Item := do
  match kind with
  | .module => .module <$> moduleAt index
  | .function => .function <$> functionAt index
  | .type =>
      let type ← typeAt index
      return .type type type
  | .inst => .inst <$> instanceAt index
  | .component => .component <$> componentAt index

def argument : Builder (String × Item) := do
  let name ← liftM Reader.name
  let kind ← itemKind
  return (name, ← itemAt kind (← index))

/-- An instance of a component has resources of its own, and those that the
arguments bring in. -/
def instantiateComponent : Builder Nat := do
  let number ← componentAt (← index)
  let type ← demand ((← catalogue).component? number)
  let arguments ← listUpTo argumentLimit argument
  check (arguments.map (·.1)).Nodup
  let store := (← get).store
  let supplied ← cataloguing (supply (checkItem store) arguments type.imports type.imported)
  let fresh ← type.defined.mapM fun (resource, _) => do
    return (resource, (← cataloguing freshResource).identity)
  let substitution := Substitution.ofResources (supplied ++ fresh)
  let (exports, _) ← cataloguing ((substituteItems type.exports).run substitution)
  inScope fun scope =>
    { scope with
      definedResources := scope.definedResources ++ fresh.map fun entry => (entry.2, false) }
  addType (.inst { exports, defined := [], explicit := substitution.explicit type.explicit })

def resourcePaths (catalogue : Catalogue) (place : Nat) : Item → List (Nat × ResourcePath)
  | .type _ (.resource resource) => [(resource.identity, [place])]
  | .inst type =>
      match catalogue.instance? type with
      | some type => type.explicit.map fun (resource, path) => (resource, place :: path)
      | none => []
  | _ => []

/-- Items put together under names; none of the names is one of a resource's
functions. -/
def bundle : Builder Nat := do
  let items ← listUpTo argumentLimit do
    let name ← externalName
    let kind ← itemKind
    return (name, ← itemAt kind (← index))
  let catalogue ← catalogue
  let side ← demand (items.foldlM
    (fun side (name, item) => side.add? catalogue .exported name item) NamedSide.empty)
  let paths := items.zipIdx.flatMap fun ((_, item), place) => resourcePaths catalogue place item
  addType (.inst
    { exports := side.items
      defined := []
      explicit := paths.foldl (fun known (resource, path) => assign resource path known) [] })

def componentInstance : Builder Unit := do
  let number ← match ← nextByte with
    | 0x00 => instantiateComponent
    | 0x01 => bundle
    | _ => failure
  addItem (.inst number)

/-! ### Functions across the border -/

inductive PassingOption where
  | encoding
  | memory (index : Nat)
  | allocation (index : Nat)
  | cleanup (index : Nat)

def passingOption : Builder PassingOption := do
  match ← nextByte with
  | 0x00 | 0x01 | 0x02 => return .encoding
  | 0x03 => .memory <$> index
  | 0x04 => .allocation <$> index
  | 0x05 => .cleanup <$> index
  | _ => failure

def checkMemory (index : Nat) : Builder Unit := do
  match ← coreItemAt .memory index with
  | .memory limits => check (!limits.shared && !limits.wide)
  | _ => failure

/-- A function that allocates takes an old place and size, an alignment and a new
size, and gives a place. -/
def allocationType : Wasm.FunctionType := ⟨[.i32, .i32, .i32, .i32], [.i32]⟩

/-- Checks an option; `lifted` is the function of a module that is called. -/
def checkOption (lifted : Option Wasm.FunctionType) : PassingOption → Builder Unit
  | .encoding => pure ()
  | .memory index => checkMemory index
  | .allocation index => do check ((← coreFunctionAt index) = allocationType)
  | .cleanup index => do
      let type ← demand lifted
      check ((← coreFunctionAt index) = ⟨type.results, []⟩)

def PassingOption.place : PassingOption → Nat
  | .encoding => 0
  | .memory _ => 1
  | .allocation _ => 2
  | .cleanup _ => 3

def optionLimit : Nat := 10

/-- Each option is given once; what is needed to pass values has to be there. -/
def checkOptions (lifted : Option Wasm.FunctionType) (lowered : Lowered)
    (options : List PassingOption) : Builder Unit := do
  let places := options.map (·.place)
  check places.Nodup
  options.forM (checkOption lifted)
  check (!lowered.needsMemory || places.contains 1)
  check (!lowered.needsAllocation || places.contains 2)

def lift : Builder Unit := do
  check ((← nextByte) = 0)
  let core ← coreFunctionAt (← index)
  let options ← listUpTo optionLimit passingOption
  match ← storedAt (← index) with
  | (number, .function type) =>
      let lowered := lower (← catalogue) true type
      check (core = lowered.type)
      checkOptions (some core) lowered options
      addItem (.function number)
  | _ => failure

/-- A function of the component becomes one that modules can import. -/
def lowerFunction : Builder Unit := do
  check ((← nextByte) = 0)
  let type ← demand ((← catalogue).function? (← functionAt (← index)))
  let options ← listUpTo optionLimit passingOption
  let lowered := lower (← catalogue) false type
  checkOptions none lowered options
  addCoreFunction lowered.type

def checkOwnResource : Builder Unit := do
  let resource ← resourceAt (← index)
  check ((← scope).definedResources.any fun entry => entry = (resource.identity, true))

def borderFunction : Builder Unit := do
  match ← nextByte with
  | 0x00 => lift
  | 0x01 => lowerFunction
  | 0x02 =>
      checkOwnResource
      addCoreFunction ⟨[.i32], [.i32]⟩
  | 0x03 =>
      discard (resourceAt (← index))
      addCoreFunction ⟨[.i32], []⟩
  | 0x04 =>
      checkOwnResource
      addCoreFunction ⟨[.i32], [.i32]⟩
  | _ => failure

/-! ### Exports -/

/-- An exported type is named anew; any item may be exported as one that offers
less. -/
def exportItem : Builder Unit := do
  let name ← externalName
  let kind ← itemKind
  let item ← match ← itemAt kind (← index) with
    | .type type _ => do pure (.type type (← cataloguing (renamed type)))
    | item => pure item
  match ← optional itemType with
  | none => addNamed .exported name item
  | some expected =>
      checkGiven item expected
      addNamed .exported name expected

/-! ### Sections -/

def sectionItem? (number : Nat) : Option (Builder Unit) :=
  match number with
  | 2 => some coreInstance
  | 3 => some coreType
  | 5 => some componentInstance
  | 6 => some reference
  | 7 => some defineType
  | 8 => some borderFunction
  | 10 => some importItem
  | 11 => some exportItem
  | _ => none

def section? (number : Nat) : Option (Builder Unit) :=
  (sectionItem? number).map fun item => do times item (← index)

end GuestGlue.Wasm.Component
