/-
Metadata of a compiled module: the modules it refers to, its types with their
methods, and the markers that make a method an export or an import.
-/

import GuestGlue.Binding

namespace GuestGlue

inductive Marker where
  | exported (entryPoint : Option String)
  | imported (hostModule : String) (entryPoint : Option String)
  deriving DecidableEq, Repr

def Marker.isExport : Marker → Bool
  | .exported _ => true
  | .imported _ _ => false

def Marker.isImport : Marker → Bool
  | .exported _ => false
  | .imported _ _ => true

structure MethodDef where
  name : String
  isStatic : Bool
  parameters : List Parameter
  returnType : TypeRef
  markers : List Marker
  deriving DecidableEq, Repr

structure TypeDef where
  namespaceName : String
  name : String
  methods : List MethodDef
  deriving DecidableEq, Repr

structure Module where
  name : String
  file : Option String
  references : List String
  types : List TypeDef
  deriving DecidableEq, Repr

namespace Module

def named (name : String) : Module :=
  ⟨name, none, [], []⟩

def fileName (module : Module) : String :=
  module.file.getD (module.name ++ ".dll")

def withReference (module : Module) (name : String) : Module :=
  { module with references := module.references ++ [name] }

def withType (module : Module) (type : TypeDef) : Module :=
  { module with types := module.types ++ [type] }

end Module

def TypeDef.named (namespaceName name : String) : TypeDef :=
  ⟨namespaceName, name, []⟩

def TypeDef.withMethod (type : TypeDef) (method : MethodDef) : TypeDef :=
  { type with methods := type.methods ++ [method] }

namespace MethodDef

def named (name : String) (returnType : TypeRef) : MethodDef :=
  ⟨name, true, [], returnType, []⟩

def withParameter (method : MethodDef) (name : String) (type : TypeRef) : MethodDef :=
  { method with parameters := method.parameters ++ [⟨name, type⟩] }

def asInstance (method : MethodDef) : MethodDef :=
  { method with isStatic := false }

def withMarker (method : MethodDef) (marker : Marker) : MethodDef :=
  { method with markers := method.markers ++ [marker] }

/-- The signature under the type and the module that declare the method. -/
def signature (method : MethodDef) (type : TypeDef) (module : Module) : MethodSignature :=
  { moduleFile := module.fileName
    namespaceName := type.namespaceName
    typeName := type.name
    methodName := method.name
    parameters := method.parameters
    returnType := method.returnType }

end MethodDef

end GuestGlue
