/-
The store of defined types.  Types are defined in groups whose members may refer
to each other; groups of one shape are stored once, so that two types are the
same exactly if they have the same number.
-/

import GuestGlue.Wasm.Types

namespace GuestGlue.Wasm

/-- Types by their numbers, and the shapes of the groups they came in, each with
the number of its first type. -/
structure TypeStore where
  definitions : List TypeDefinition
  shapes : List (List TypeDefinition × Nat)

namespace TypeStore

def empty : TypeStore := ⟨[], []⟩

def definition? (store : TypeStore) (type : Nat) : Option TypeDefinition :=
  store.definitions[type]?

def function? (store : TypeStore) (type : Nat) : Option FunctionType :=
  match store.definition? type with
  | some ⟨_, _, .function type⟩ => some type
  | _ => none

def struct? (store : TypeStore) (type : Nat) : Option (List FieldType) :=
  match store.definition? type with
  | some ⟨_, _, .struct fields⟩ => some fields
  | _ => none

def array? (store : TypeStore) (type : Nat) : Option FieldType :=
  match store.definition? type with
  | some ⟨_, _, .array field⟩ => some field
  | _ => none

/-! ### Subtypes -/

def depthLimit : Nat := 63

/-- A type and those it extends, the nearest first, at most `bound` of them. -/
def supertypes (store : TypeStore) : Nat → Nat → List Nat
  | 0, _ => []
  | bound + 1, type =>
      match (store.definition? type).bind (·.supertype) with
      | some above => type :: store.supertypes bound above
      | none => [type]

def extends? (store : TypeStore) (type above : Nat) : Bool :=
  (store.supertypes (depthLimit + 1) type).contains above

end TypeStore

def HeapKind.isBelow (kind above : HeapKind) : Bool :=
  kind = above ||
    match kind, above with
    | .eq, .any | .i31, .any | .struct, .any | .array, .any | .none, .any => true
    | .i31, .eq | .struct, .eq | .array, .eq | .none, .eq => true
    | .none, .i31 | .none, .struct | .none, .array => true
    | .noFunc, .func | .noExternal, .external | .noException, .exception => true
    | _, _ => false

def HeapKind.top : HeapKind → HeapKind
  | .func | .noFunc => .func
  | .external | .noExternal => .external
  | .exception | .noException => .exception
  | _ => .any

namespace CompositeType

def kind : CompositeType → HeapKind
  | .function _ => .func
  | .struct _ => .struct
  | .array _ => .array

def bottom : CompositeType → HeapKind
  | .function _ => .noFunc
  | .struct _ | .array _ => .none

end CompositeType

namespace TypeStore

def heapIsBelow (store : TypeStore) (heap above : HeapType) : Bool :=
  match heap, above with
  | .kind kind, .kind above => kind.isBelow above
  | .defined type, .defined above => store.extends? type above
  | .defined type, .kind above =>
      (store.definition? type).any fun definition => definition.composite.kind.isBelow above
  | .kind kind, .defined above =>
      (store.definition? above).any fun definition => kind = definition.composite.bottom

def referenceIsBelow (store : TypeStore) (type above : ReferenceType) : Bool :=
  (!type.nullable || above.nullable) && store.heapIsBelow type.heap above.heap

def isBelow (store : TypeStore) (type above : ValueType) : Bool :=
  match type, above with
  | .reference type, .reference above => store.referenceIsBelow type above
  | _, _ => type = above

def allBelow (store : TypeStore) (types above : List ValueType) : Bool :=
  types.length = above.length &&
    (types.zip above).all fun (type, above) => store.isBelow type above

def storageIsBelow (store : TypeStore) : StorageType → StorageType → Bool
  | .value type, .value above => store.isBelow type above
  | storage, above => storage = above

/-- A field that can be written has to keep its type in both directions. -/
def fieldIsBelow (store : TypeStore) (field above : FieldType) : Bool :=
  field.isMutable = above.isMutable && store.storageIsBelow field.storage above.storage &&
    (!field.isMutable || store.storageIsBelow above.storage field.storage)

def compositeIsBelow (store : TypeStore) : CompositeType → CompositeType → Bool
  | .function type, .function above =>
      store.allBelow above.parameters type.parameters && store.allBelow type.results above.results
  | .struct fields, .struct above =>
      above.length ≤ fields.length &&
        (fields.zip above).all fun (field, above) => store.fieldIsBelow field above
  | .array field, .array above => store.fieldIsBelow field above
  | _, _ => false

def top (store : TypeStore) : HeapType → HeapKind
  | .kind kind => kind.top
  | .defined type => ((store.definition? type).map (·.composite.kind.top)).getD .any

/-! ### Adding groups -/

def isSound (store : TypeStore) (type : Nat) : Bool :=
  (store.definition? type).any fun definition =>
    match definition.supertype with
    | none => true
    | some above =>
        (store.definition? above).any fun extended =>
          !extended.isFinal && store.compositeIsBelow definition.composite extended.composite &&
            (store.supertypes (depthLimit + 2) type).length ≤ depthLimit + 1

/-- The shape of a group that starts at some number: odd numbers are places in
the group, even ones are twice the numbers of earlier types. -/
def shape (start : Nat) (group : List TypeDefinition) : List TypeDefinition :=
  group.map (·.renumber fun type => if start ≤ type then 2 * (type - start) + 1 else 2 * type)

/-- Adds a group, whose members refer to each other as if they stood at the end
of the store; gives the numbers of its types. -/
def addGroup? (store : TypeStore) (group : List TypeDefinition) :
    Option (List Nat × TypeStore) :=
  let start := store.definitions.length
  let shape := shape start group
  match store.shapes.lookup shape with
  | some known => some (List.range' known group.length, store)
  | none =>
      let types := List.range' start group.length
      let extended : TypeStore :=
        { definitions := store.definitions ++ group
          shapes := (shape, start) :: store.shapes }
      if types.all extended.isSound then some (types, extended) else none

def functionType (store : TypeStore) (type : FunctionType) : Nat × TypeStore :=
  match store.addGroup? [⟨true, none, .function type⟩] with
  | some (first :: _, store) => (first, store)
  | _ => (0, store)

/-! ### What crosses a module's boundary -/

def externalIsBelow (store : TypeStore) : ExternalType → ExternalType → Bool
  | .function type, .function above => store.extends? type above
  | .table type, .table above =>
      type.element = above.element && type.limits.isWithin above.limits
  | .memory limits, .memory above =>
      limits.shared = above.shared && limits.wide = above.wide && limits.isWithin above
  | .global type, .global above => type = above
  | .tag type, .tag above => store.extends? type above
  | _, _ => false

def sizeOf (store : TypeStore) : ExternalType → Nat
  | .function type | .tag type => ((store.function? type).map (·.size)).getD 1
  | _ => 1

end TypeStore

end GuestGlue.Wasm
