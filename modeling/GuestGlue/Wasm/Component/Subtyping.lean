/-
Which item may be given where another one is expected.  Items may offer more
than is expected; the types of values have to be the same.
-/

import GuestGlue.Wasm.Component.Catalogue
import GuestGlue.Wasm.Component.Name
import GuestGlue.Wasm.TypeStore

namespace GuestGlue.Wasm.Component

/-! ### Values and functions -/

namespace Catalogue

def agree {α : Type} (same : α → α → Bool) (first second : List α) : Bool :=
  first.length = second.length && (first.zip second).all fun (x, y) => same x y

def agreeOption {α : Type} (same : α → α → Bool) : Option α → Option α → Bool
  | none, none => true
  | some x, some y => same x y
  | _, _ => false

def sameLabel (first second : String) : Bool := labelKey first = labelKey second

/-- Whether values have the same shape, given when parts of them are the same. -/
def sameShape (same : ValueType → ValueType → Bool) : Shape → Shape → Bool
  | .primitive first, .primitive second => first = second
  | .record first, .record second =>
      agree (fun x y => sameLabel x.1 y.1 && same x.2 y.2) first second
  | .variant first, .variant second =>
      agree (fun x y => sameLabel x.name y.name && agreeOption same x.payload y.payload)
        first second
  | .list first, .list second | .option first, .option second => same first second
  | .tuple first, .tuple second => agree same first second
  | .flags first, .flags second | .enumeration first, .enumeration second =>
      agree sameLabel first second
  | .result ok error, .result ok' error' =>
      agreeOption same ok ok' && agreeOption same error error'
  | .own first, .own second | .borrow first, .borrow second =>
      first.identity = second.identity
  | _, _ => false

/-- Whether two types of values, at most `depth` deep, are the same. -/
def sameValueIn (catalogue : Catalogue) : Nat → ValueType → ValueType → Bool
  | 0, _, _ => false
  | depth + 1, first, second =>
      let shape? (type : ValueType) : Option Shape :=
        match type with
        | .primitive type => some (.primitive type)
        | .defined number => catalogue.shape? number
      match shape? first, shape? second with
      | some first, some second => sameShape (catalogue.sameValueIn depth) first second
      | _, _ => false

def sameValue (catalogue : Catalogue) (first second : ValueType) : Bool :=
  catalogue.sameValueIn (catalogue.depth + 2) first second

def sameFunction (catalogue : Catalogue) (first second : FunctionType) : Bool :=
  agree (fun x y => sameLabel x.1 y.1 && catalogue.sameValue x.2 y.2)
      first.parameters second.parameters &&
    agreeOption catalogue.sameValue first.result second.result

end Catalogue

/-! ### Modules -/

namespace ModuleType

def isBelow (store : TypeStore) (type above : ModuleType) : Bool :=
  (type.imports.all fun wanted =>
      above.imports.any fun given =>
        given.moduleName = wanted.moduleName && given.name = wanted.name &&
          store.externalIsBelow given.type wanted.type) &&
    above.exports.all fun wanted =>
      type.exports.any fun given =>
        given.name = wanted.name && store.externalIsBelow given.type wanted.type

end ModuleType

/-! ### Items -/

/-- What is given for a resource that lies on a path through expected items. -/
def suppliedFor (catalogue : Catalogue) (given expected : List (String × Item)) :
    ResourcePath → Option Nat
  | [] => none
  | place :: path => do
      let (name, item) ← expected[place]?
      let supplied ← given.lookup name
      match path, item, supplied with
      | [], _, .type _ (.resource resource) => some resource.identity
      | _ :: _, .inst expected, .inst given =>
          suppliedFor catalogue (← catalogue.instance? given).exports
            (← catalogue.instance? expected).exports path
      | _, _, _ => none

def suppliedResources (catalogue : Catalogue) (given expected : List (String × Item))
    (resources : List (Nat × ResourcePath)) : List (Nat × Nat) :=
  resources.filterMap fun (resource, path) =>
    (suppliedFor catalogue given expected path).map fun supplied => (resource, supplied)

/-- Checks that items are given for all expected ones, `below` checking single
items; gives the resources that stand for expected ones. -/
def supply (below : Item → Item → Cataloguing Unit) (given expected : List (String × Item))
    (resources : List (Nat × ResourcePath)) : Cataloguing (List (Nat × Nat)) := do
  let supplied := suppliedResources (← get) given expected resources
  for (name, item) in expected do
    match given.lookup name with
    | none => failure
    | some found => below found (← substituteResources supplied item)
  return supplied

/-- Checks that one item may be given for another one; types lie at most `depth`
deep inside each other. -/
def checkItemIn (store : TypeStore) : Nat → Item → Item → Cataloguing Unit
  | 0, _, _ => failure
  | depth + 1, item, expected => do
      let catalogue ← get
      let below := checkItemIn store depth
      match item, expected with
      | .module type, .module above => guard (type.isBelow store above)
      | .function type, .function above =>
          match catalogue.function? type, catalogue.function? above with
          | some type, some above => guard (catalogue.sameFunction type above)
          | _, _ => failure
      | .inst type, .inst above =>
          match catalogue.instance? type, catalogue.instance? above with
          | some type, some above => discard (supply below type.exports above.exports [])
          | _, _ => failure
      | .component type, .component above =>
          match catalogue.component? type, catalogue.component? above with
          | some type, some above =>
              let supplied ← supply below above.imports type.imports type.imported
              let (exports, _) ←
                (substituteItems type.exports).run (.ofResources supplied)
              discard (supply below exports above.exports above.defined)
          | _, _ => failure
      | .type (.resource resource) _, .type (.resource above) _ =>
          guard (resource.identity = above.identity)
      | .type (.stored type) _, .type (.stored above) _ =>
          match catalogue.definition? type, catalogue.definition? above with
          | some (.value _), some (.value _) =>
              guard (catalogue.sameValue (.defined type) (.defined above))
          | some (.function _), some (.function _) => below (.function type) (.function above)
          | some (.inst _), some (.inst _) => below (.inst type) (.inst above)
          | some (.component _), some (.component _) => below (.component type) (.component above)
          | _, _ => failure
      | _, _ => failure

def checkItem (store : TypeStore) (item expected : Item) : Cataloguing Unit := do
  checkItemIn store (2 * (← get).depth + 2) item expected

end GuestGlue.Wasm.Component
