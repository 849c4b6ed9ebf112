/-
The catalogue of component types: looking types up, adding them, finding the
resources in them, and putting other resources in their place.
-/

import GuestGlue.Wasm.Component.Types

namespace GuestGlue.Wasm.Component

/-- Types by their numbers, and the first number that no resource or mark has
yet. -/
structure Catalogue where
  entries : List Entry
  next : Nat

abbrev Cataloguing := StateT Catalogue Option

namespace Catalogue

def empty : Catalogue := ⟨[], 0⟩

def depth (catalogue : Catalogue) : Nat := catalogue.entries.length

def definition? (catalogue : Catalogue) (number : Nat) : Option Definition :=
  catalogue.entries[number]?.map (·.definition)

def shape? (catalogue : Catalogue) (number : Nat) : Option Shape :=
  match catalogue.definition? number with
  | some (.value shape) => some shape
  | _ => none

def function? (catalogue : Catalogue) (number : Nat) : Option FunctionType :=
  match catalogue.definition? number with
  | some (.function type) => some type
  | _ => none

def instance? (catalogue : Catalogue) (number : Nat) : Option InstanceType :=
  match catalogue.definition? number with
  | some (.inst type) => some type
  | _ => none

def component? (catalogue : Catalogue) (number : Nat) : Option ComponentType :=
  match catalogue.definition? number with
  | some (.component type) => some type
  | _ => none

/-! ### Sizes -/

def sizeOf (catalogue : Catalogue) (number : Nat) : Nat :=
  (catalogue.entries[number]?.map (·.size)).getD 1

def valueSize (catalogue : Catalogue) : ValueType → Nat
  | .primitive _ => 1
  | .defined number => catalogue.sizeOf number

def itemSize (catalogue : Catalogue) : Item → Nat
  | .module type => type.size
  | .function type | .inst type | .component type => catalogue.sizeOf type
  | .type (.resource _) _ => 1
  | .type (.stored number) _ => catalogue.sizeOf number

def itemSizes (catalogue : Catalogue) (items : List (String × Item)) : Nat :=
  items.foldl (fun total item => total + catalogue.itemSize item.2) 0

def valueSizes (catalogue : Catalogue) (types : List ValueType) : Nat :=
  types.foldl (fun total type => total + catalogue.valueSize type) 0

def shapeSize (catalogue : Catalogue) : Shape → Nat
  | .primitive _ | .flags _ | .enumeration _ | .own _ | .borrow _ => 1
  | .list type | .option type => catalogue.valueSize type
  | .result ok error =>
      (ok.map catalogue.valueSize).getD 1 + (error.map catalogue.valueSize).getD 1
  | shape => 1 + catalogue.valueSizes shape.parts

def size (catalogue : Catalogue) : Definition → Nat
  | .value shape => catalogue.shapeSize shape
  | .function type => 1 + catalogue.valueSizes type.parts
  | .inst type => 1 + catalogue.itemSizes type.exports
  | .component type => 1 + catalogue.itemSizes type.imports + catalogue.itemSizes type.exports

def borrows (catalogue : Catalogue) : ValueType → Bool
  | .primitive _ => false
  | .defined number => catalogue.entries[number]?.any (·.borrows)

def holdsBorrowed (catalogue : Catalogue) : Definition → Bool
  | .value (.borrow _) => true
  | .value shape => shape.parts.any catalogue.borrows
  | .function type => type.parts.any catalogue.borrows
  | _ => false

/-! ### Resources in types -/

/-- Resources that something mentions and does not bring along itself; types lie
at most `depth` deep inside each other. -/
def freeIn (catalogue : Catalogue) : Nat → TypeName → List Nat
  | _, .resource resource => [resource.identity]
  | 0, .stored _ => []
  | depth + 1, .stored number =>
      let ofItem (item : String × Item) : List Nat :=
        match item.2 with
        | .module _ => []
        | .function type | .inst type | .component type => catalogue.freeIn depth (.stored type)
        | .type _ created => catalogue.freeIn depth created
      let ofValue (type : ValueType) : List Nat :=
        match type with
        | .primitive _ => []
        | .defined number => catalogue.freeIn depth (.stored number)
      let found :=
        match catalogue.definition? number with
        | some (.value shape) =>
            (shape.resource?.map Resource.identity).toList ++ shape.parts.flatMap ofValue
        | some (.function type) => type.parts.flatMap ofValue
        | some (.inst type) =>
            (type.exports.flatMap ofItem).filter fun resource => !type.defined.contains resource
        | some (.component type) =>
            ((type.imports ++ type.exports).flatMap ofItem).filter fun resource =>
              !(type.imported ++ type.defined).any (·.1 = resource)
        | none => []
      found.eraseDups

def free (catalogue : Catalogue) (type : TypeName) : List Nat :=
  catalogue.freeIn (catalogue.depth + 1) type

def freeInItem (catalogue : Catalogue) : Item → List Nat
  | .module _ => []
  | .function type | .inst type | .component type => catalogue.free (.stored type)
  | .type _ created => catalogue.free created

def freeInItems (catalogue : Catalogue) (items : List (String × Item)) : List Nat :=
  (items.flatMap fun item => catalogue.freeInItem item.2).eraseDups

/-! ### Names for the types of values -/

/-- Whether every type that a value's type rests on and that needs a name is
among those that have one. -/
def isNamedIn (catalogue : Catalogue) (named : List TypeName) : Nat → ValueType → Bool
  | _, .primitive _ => true
  | 0, .defined _ => false
  | depth + 1, .defined number =>
      match catalogue.shape? number with
      | none => false
      | some shape =>
          if shape.needsName then named.contains (.stored number)
          else
            shape.resource?.all (fun resource => named.contains (.resource resource)) &&
              shape.parts.all (catalogue.isNamedIn named depth)

def isNamed (catalogue : Catalogue) (named : List TypeName) (type : ValueType) : Bool :=
  catalogue.isNamedIn named (catalogue.depth + 1) type

def restsOnNamedIn (catalogue : Catalogue) (named : List TypeName) : Nat → TypeName → Bool
  | _, .resource _ => true
  | 0, .stored _ => false
  | depth + 1, .stored number =>
      match catalogue.definition? number with
      | some (.value shape) =>
          shape.resource?.all (fun resource => named.contains (.resource resource)) &&
            shape.parts.all (catalogue.isNamed named)
      | some (.function type) => type.parts.all (catalogue.isNamed named)
      | some (.inst type) =>
          type.exports.all fun item =>
            match item.2 with
            | .module _ | .component _ => true
            | .function type | .inst type => catalogue.restsOnNamedIn named depth (.stored type)
            | .type _ created => catalogue.restsOnNamedIn named depth created
      | some (.component _) => true
      | none => false

def restsOnNamed (catalogue : Catalogue) (named : List TypeName) (type : TypeName) : Bool :=
  catalogue.restsOnNamedIn named (catalogue.depth + 1) type

end Catalogue

/-! ### Adding types -/

def sizeLimit : Nat := 1000000

def addEntry (entry : Entry) : Cataloguing Nat := do
  let catalogue ← get
  if sizeLimit ≤ entry.size then failure
  set { catalogue with entries := catalogue.entries ++ [entry] }
  return catalogue.entries.length

def addDefinition (definition : Definition) : Cataloguing Nat := do
  let catalogue ← get
  addEntry
    { definition
      size := catalogue.size definition
      borrows := catalogue.holdsBorrowed definition }

def freshNumber : Cataloguing Nat := do
  let catalogue ← get
  set { catalogue with next := catalogue.next + 1 }
  return catalogue.next

def freshResource : Cataloguing Resource := do
  return ⟨← freshNumber, ← freshNumber⟩

def renamed : TypeName → Cataloguing TypeName
  | .resource resource => do return .resource { resource with mark := ← freshNumber }
  | .stored number => do
      match (← get).entries[number]? with
      | some entry => .stored <$> addEntry entry
      | none => failure

/-! ### Putting resources in the place of others -/

/-- Which resources stand for others, and what has become of types so far. -/
structure Substitution where
  resources : List (Nat × Nat)
  types : List (Nat × Nat)

abbrev Substituting := StateT Substitution Cataloguing

namespace Substitution

def ofResources (resources : List (Nat × Nat)) : Substitution := ⟨resources, []⟩

def identity (substitution : Substitution) (resource : Nat) : Nat :=
  (substitution.resources.lookup resource).getD resource

def explicit (substitution : Substitution) (resources : List (Nat × ResourcePath)) :
    List (Nat × ResourcePath) :=
  resources.foldl (fun known (resource, path) =>
    assign (substitution.identity resource) path known) []

end Substitution

def substituteResource (resource : Resource) : Substituting Resource := do
  return { resource with identity := (← get).identity resource.identity }

def hasChanged (definition changed : Definition) : Bool :=
  let items (list : List (String × Item)) : List (Option (TypeName × TypeName)) :=
    list.map fun item =>
      match item.2 with
      | .module _ => none
      | .function type | .inst type | .component type => some (.stored type, .stored type)
      | .type referenced created => some (referenced, created)
  match definition, changed with
  | .value shape, .value other => shape.parts ≠ other.parts || shape.resource? ≠ other.resource?
  | .function type, .function other => type.parts ≠ other.parts
  | .inst type, .inst other =>
      items type.exports ≠ items other.exports || type.defined ≠ other.defined ||
        type.explicit ≠ other.explicit
  | .component type, .component other =>
      items type.imports ≠ items other.imports || items type.exports ≠ items other.exports ||
        type.imported ≠ other.imported || type.defined ≠ other.defined ||
        type.explicit ≠ other.explicit
  | _, _ => true

/-- A type with other resources in it; a type that keeps all of its resources
keeps its number. -/
def substituteIn : Nat → TypeName → Substituting TypeName
  | _, .resource resource => .resource <$> substituteResource resource
  | 0, .stored _ => failure
  | depth + 1, .stored number => do
      match (← get).types.lookup number with
      | some known => return .stored known
      | none =>
          let ofNumber (number : Nat) : Substituting Nat := do
            match ← substituteIn depth (.stored number) with
            | .stored number => return number
            | .resource _ => failure
          let ofValue (type : ValueType) : Substituting ValueType := do
            match type with
            | .primitive _ => return type
            | .defined number => .defined <$> ofNumber number
          let ofOption (type : Option ValueType) : Substituting (Option ValueType) :=
            type.mapM ofValue
          let ofItem (item : String × Item) : Substituting (String × Item) := do
            match item.2 with
            | .module _ => return item
            | .function type => return (item.1, .function (← ofNumber type))
            | .inst type => return (item.1, .inst (← ofNumber type))
            | .component type => return (item.1, .component (← ofNumber type))
            | .type referenced created =>
                return (item.1,
                  .type (← substituteIn depth referenced) (← substituteIn depth created))
          let entry ← match (← (get : Cataloguing Catalogue)).entries[number]? with
            | some entry => pure entry
            | none => failure
          let definition ← match entry.definition with
            | .value shape =>
                .value <$>
                  match shape with
                  | .primitive _ | .flags _ | .enumeration _ => pure shape
                  | .record fields => do
                      return .record (← fields.mapM fun (name, type) =>
                        return (name, ← ofValue type))
                  | .variant cases => do
                      return .variant (← cases.mapM fun entry =>
                        return { entry with payload := ← ofOption entry.payload })
                  | .list type => .list <$> ofValue type
                  | .tuple types => .tuple <$> types.mapM ofValue
                  | .option type => .option <$> ofValue type
                  | .result ok error => do return .result (← ofOption ok) (← ofOption error)
                  | .own resource => .own <$> substituteResource resource
                  | .borrow resource => .borrow <$> substituteResource resource
            | .function type => do
                let parameters ← type.parameters.mapM fun (name, type) =>
                  return (name, ← ofValue type)
                pure (.function { parameters, result := ← ofOption type.result })
            | .inst type => do
                let exports ← type.exports.mapM ofItem
                let substitution ← get
                pure (.inst { type with
                  exports, explicit := substitution.explicit type.explicit })
            | .component type => do
                let imports ← type.imports.mapM ofItem
                let exports ← type.exports.mapM ofItem
                let substitution ← get
                pure (.component { type with
                  imports, exports, explicit := substitution.explicit type.explicit })
          let target ←
            if hasChanged entry.definition definition then
              (addEntry { entry with definition } : Cataloguing Nat)
            else pure number
          modify fun state => { state with types := (number, target) :: state.types }
          return .stored target

def substitute (type : TypeName) : Substituting TypeName := do
  substituteIn ((← (get : Cataloguing Catalogue)).depth + 1) type

def substituteNumber (number : Nat) : Substituting Nat := do
  match ← substitute (.stored number) with
  | .stored number => return number
  | .resource _ => failure

def substituteItem : Item → Substituting Item
  | .module type => return .module type
  | .function type => .function <$> substituteNumber type
  | .inst type => .inst <$> substituteNumber type
  | .component type => .component <$> substituteNumber type
  | .type referenced created => do return .type (← substitute referenced) (← substitute created)

def substituteItems (items : List (String × Item)) : Substituting (List (String × Item)) :=
  items.mapM fun (name, item) => return (name, ← substituteItem item)

def substituteResources (resources : List (Nat × Nat)) (item : Item) : Cataloguing Item := do
  let (item, _) ← (substituteItem item).run (.ofResources resources)
  return item

end GuestGlue.Wasm.Component
