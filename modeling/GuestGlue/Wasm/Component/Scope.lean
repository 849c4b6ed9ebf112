/-
Scopes of components.  A component, and the type of one, give numbers to what
they define, import and export, each kind of thing in its own order; a scope may
look into those around it.
-/

import GuestGlue.Wasm.Component.Subtyping
import GuestGlue.Wasm.Encoding

namespace GuestGlue.Wasm.Component

inductive ScopeKind where
  | component | componentType | instanceType
  deriving DecidableEq

inductive Direction where
  | imported | exported
  deriving DecidableEq

/-- A type that binary modules are made with: one of their own, or a whole
module's. -/
inductive CoreType where
  | defined (type : Nat)
  | module (type : ModuleType)

structure NamedSide where
  items : List (String × Item)
  names : List ExternalName
  types : List TypeName
  resources : List (Resource × String)

def NamedSide.empty : NamedSide := ⟨[], [], [], []⟩

structure Scope where
  kind : ScopeKind
  coreTypes : List CoreType
  coreModules : List ModuleType
  coreInstances : List (List Export)
  coreItems : List ExternalType
  types : List TypeName
  functions : List Nat
  instances : List Nat
  components : List Nat
  imports : NamedSide
  exports : NamedSide
  importedResources : List (Nat × ResourcePath)
  definedResources : List (Nat × Bool)
  explicitResources : List (Nat × ResourcePath)

namespace Scope

def ofKind (kind : ScopeKind) : Scope :=
  { kind
    coreTypes := []
    coreModules := []
    coreInstances := []
    coreItems := []
    types := []
    functions := []
    instances := []
    components := []
    imports := .empty
    exports := .empty
    importedResources := []
    definedResources := []
    explicitResources := [] }

def side (scope : Scope) : Direction → NamedSide
  | .imported => scope.imports
  | .exported => scope.exports

/-- Where a type of binary modules is meant, that of a whole module is none. -/
def typeIndices (scope : Scope) : TypeIndices := fun index =>
  match scope.coreTypes[index]? with
  | some (.defined type) => some type
  | _ => none

def coreItem? (scope : Scope) (kind : ExternalKind) (index : Nat) : Option ExternalType :=
  (scope.coreItems.filter (·.kind = kind))[index]?

def moduleLimit : Nat := 1000

def instanceLimit : Nat := 1000

def tableLimit : Nat := 100

def isWithinBounds (scope : Scope) : Bool :=
  scope.coreModules.length ≤ moduleLimit && scope.components.length ≤ moduleLimit &&
    scope.coreInstances.length + scope.instances.length ≤ instanceLimit &&
    (scope.coreItems.filter (·.kind = .table)).length ≤ tableLimit &&
    (scope.coreItems.filter (·.kind = .memory)).length ≤ tableLimit

end Scope

structure World where
  store : TypeStore
  catalogue : Catalogue
  scopes : List Scope

abbrev Builder := StateT World Reader

/-! ### Access -/

def check (condition : Bool) : Builder Unit :=
  if condition then pure () else failure

def demand {α : Type} (value : Option α) : Builder α :=
  match value with
  | some value => pure value
  | none => failure

def scope : Builder Scope := do
  demand (← get).scopes.head?

def catalogue : Builder Catalogue := do
  return (← get).catalogue

def inScope (change : Scope → Scope) : Builder Unit :=
  modify fun world =>
    match world.scopes with
    | [] => world
    | scope :: outer => { world with scopes := change scope :: outer }

def cataloguing {α : Type} (action : Cataloguing α) : Builder α := do
  let world ← get
  let (value, catalogue) ← demand (action.run world.catalogue)
  set { world with catalogue }
  return value

def addType (definition : Definition) : Builder Nat := cataloguing (addDefinition definition)

def checkGiven (item expected : Item) : Builder Unit := do
  cataloguing (checkItem (← get).store item expected)

def addCoreItem (type : ExternalType) : Builder Unit :=
  inScope fun scope => { scope with coreItems := scope.coreItems ++ [type] }

def addCoreFunction (type : Wasm.FunctionType) : Builder Unit := do
  let world ← get
  let (number, store) := world.store.functionType type
  set { world with store }
  addCoreItem (.function number)

/-! ### What indices stand for -/

def index : Builder Nat := liftM Reader.u32

def typeAt (index : Nat) : Builder TypeName := do
  demand (← scope).types[index]?

def functionAt (index : Nat) : Builder Nat := do
  demand (← scope).functions[index]?

def instanceAt (index : Nat) : Builder Nat := do
  demand (← scope).instances[index]?

def componentAt (index : Nat) : Builder Nat := do
  demand (← scope).components[index]?

def moduleAt (index : Nat) : Builder ModuleType := do
  demand (← scope).coreModules[index]?

def coreInstanceAt (index : Nat) : Builder (List Export) := do
  demand (← scope).coreInstances[index]?

def coreItemAt (kind : ExternalKind) (index : Nat) : Builder ExternalType := do
  demand ((← scope).coreItem? kind index)

def coreFunctionAt (index : Nat) : Builder Wasm.FunctionType := do
  match ← coreItemAt .function index with
  | .function type => demand ((← get).store.function? type)
  | _ => failure

def resourceAt (index : Nat) : Builder Resource := do
  match ← typeAt index with
  | .resource resource => return resource
  | .stored _ => failure

def storedAt (index : Nat) : Builder (Nat × Definition) := do
  match ← typeAt index with
  | .stored number => return (number, ← demand ((← catalogue).definition? number))
  | .resource _ => failure

/-! ### Functions of resources -/

/-- Whether a reference to a resource is one to the resource of some name. -/
def isResourceNamed (side : NamedSide) (resource : Resource) (name : String) : Bool :=
  side.resources.lookup resource = some name

def referredBy (catalogue : Catalogue) (owning : Bool) (type : ValueType) : Option Resource :=
  match type with
  | .primitive _ => none
  | .defined number =>
      match catalogue.shape? number with
      | some (.own resource) => if owning then some resource else none
      | some (.borrow resource) => if owning then none else some resource
      | _ => none

/-- A creator gives the resource it is named for, and a method starts with it. -/
def fitsName (catalogue : Catalogue) (side : NamedSide) (item : Item) (name : ExternalName) :
    Bool :=
  let function? :=
    match item with
    | .function type => catalogue.function? type
    | _ => none
  match name with
  | .creator resource =>
      function?.any fun function =>
        (function.result.bind (referredBy catalogue true)).any fun found =>
          isResourceNamed side found resource
  | .method resource _ =>
      function?.any fun function =>
        match function.parameters with
        | ("self", type) :: _ =>
            (referredBy catalogue false type).any fun found =>
              isResourceNamed side found resource
        | _ => false
  | .static resource _ => function?.isSome && side.resources.any (·.2 = resource)
  | _ => true

def NamedSide.add? (side : NamedSide) (catalogue : Catalogue) (direction : Direction)
    (text : String) (item : Item) : Option NamedSide := do
  let name ← ExternalName.ofString? text
  guard (direction = .imported || name.isExportable)
  guard (fitsName catalogue side item name)
  guard (!side.names.contains name.key)
  guard (!side.items.any (·.1 = text))
  return { side with items := side.items ++ [(text, item)], names := name.key :: side.names }

/-! ### Importing and exporting -/

def inSide (direction : Direction) (change : NamedSide → NamedSide) : Builder Unit :=
  inScope fun scope =>
    match direction with
    | .imported => { scope with imports := change scope.imports }
    | .exported => { scope with exports := change scope.exports }

/-- The type of an instance that is imported or exported.  Resources that every
instance would have for itself become resources of the scope. -/
def openInstance (direction : Direction) (number : Nat) : Builder Nat := do
  let type ← demand ((← catalogue).instance? number)
  let place := ((← scope).side direction).items.length
  let fresh ← type.defined.mapM fun resource => do
    return (resource, (← cataloguing freshResource).identity)
  let opened ←
    if fresh.isEmpty then pure type
    else
      let substitution := Substitution.ofResources fresh
      let (exports, _) ← cataloguing ((substituteItems type.exports).run substitution)
      pure { exports, defined := [], explicit := substitution.explicit type.explicit }
  let paths := opened.explicit.map fun (resource, path) => (resource, place :: path)
  let own := fresh.map (·.2)
  match direction with
  | .imported =>
      inScope fun scope =>
        { scope with
          importedResources :=
            scope.importedResources ++ paths.filter fun entry => own.contains entry.1 }
  | .exported =>
      inScope fun scope =>
        { scope with
          definedResources := scope.definedResources ++ own.map fun resource => (resource, false)
          explicitResources :=
            paths.foldl (fun known (resource, path) => assign resource path known)
              scope.explicitResources }
  if fresh.isEmpty then return number
  else
    let entry ← demand (← catalogue).entries[number]?
    cataloguing (addEntry { entry with definition := .inst opened })

/-- Notes that a resource crosses the border of the scope; it is a new one if its
first name is given here. -/
def noteResource (direction : Direction) (resource : Resource) (isNew : Bool) : Builder Unit :=
  inScope fun scope =>
    let path := [(scope.side direction).items.length]
    match direction with
    | .imported =>
        if isNew then
          { scope with importedResources := scope.importedResources ++ [(resource.identity, path)] }
        else scope
    | .exported =>
        { scope with
          definedResources :=
            if isNew then scope.definedResources ++ [(resource.identity, false)]
            else scope.definedResources
          explicitResources := assign resource.identity path scope.explicitResources }

def addItem (item : Item) : Builder Unit :=
  inScope fun scope =>
    match item with
    | .module type => { scope with coreModules := scope.coreModules ++ [type] }
    | .function type => { scope with functions := scope.functions ++ [type] }
    | .type _ created => { scope with types := scope.types ++ [created] }
    | .inst type => { scope with instances := scope.instances ++ [type] }
    | .component type => { scope with components := scope.components ++ [type] }

def nameType (direction : Direction) (type : TypeName) : Builder Unit := do
  inSide .exported fun side => { side with types := type :: side.types }
  if direction = .imported then
    inSide .imported fun side => { side with types := type :: side.types }

/-- Checks that every type an item rests on has a name on its side, giving names
to the types that the item brings; instances lie at most `depth` deep inside each
other. -/
def nameItemIn (direction : Direction) : Nat → Item → Builder Unit
  | 0, _ => failure
  | depth + 1, item => do
      let catalogue ← catalogue
      let named := ((← scope).side direction).types
      match item with
      | .module _ | .component _ => pure ()
      | .function type => check (catalogue.restsOnNamed named (.stored type))
      | .inst type =>
          let type ← demand (catalogue.instance? type)
          for (_, item) in type.exports do nameItemIn direction depth item
      | .type referenced created =>
          check (catalogue.restsOnNamed named referenced)
          nameType direction created

/-- The types in the type of an instance need no names of their own. -/
def nameItem (direction : Direction) (item : Item) : Builder Unit := do
  if (← scope).kind ≠ .instanceType then
    nameItemIn direction ((← catalogue).depth + 1) item

/-- Imports or exports an item under a name, and gives it a number. -/
def addNamed (direction : Direction) (text : String) (item : Item) : Builder Unit := do
  let item ← match item with
    | .inst type => .inst <$> openInstance direction type
    | _ => pure item
  match item with
  | .type referenced (.resource resource) =>
      noteResource direction resource (referenced = .resource resource)
      inSide direction fun side =>
        { side with resources := (resource, text) :: side.resources }
  | _ => pure ()
  addItem item
  nameItem direction item
  let side := (← scope).side direction
  let side ← demand (side.add? (← catalogue) direction text item)
  inSide direction fun _ => side

/-! ### Scopes -/

def openScope (kind : ScopeKind) : Builder Unit :=
  modify fun world => { world with scopes := .ofKind kind :: world.scopes }

def closeScope : Builder Scope := do
  let world ← get
  match world.scopes with
  | [] => failure
  | scope :: outer =>
      check scope.isWithinBounds
      set { world with scopes := outer }
      return scope

/-- The type of a component.  Its own resources are not imported, and those that
are exported have a name of their own among the exports. -/
def componentType (scope : Scope) : Builder ComponentType := do
  let catalogue ← catalogue
  let imports := scope.imports.items
  let exports := scope.exports.items
  let imported := catalogue.freeInItems imports
  let exported := catalogue.freeInItems exports
  check (!scope.definedResources.any fun entry => imported.contains entry.1)
  let used := scope.definedResources.filter fun entry => exported.contains entry.1
  let defined ← used.mapM fun (resource, _) => do
    return (resource, ← demand (scope.explicitResources.lookup resource))
  return {
    imports, exports, defined
    imported := scope.importedResources
    explicit := scope.explicitResources }

def instanceType (scope : Scope) : InstanceType :=
  { exports := scope.exports.items
    defined := scope.definedResources.map (·.1)
    explicit := scope.explicitResources }

end GuestGlue.Wasm.Component
