/-
Bindings between host and guest.  An export is a managed method that the host
calls; an import is a managed method whose body the host supplies.  Both are
known outside by their entry point, or by the method's name if that is empty or
left out.
-/

import GuestGlue.TypeTable

namespace GuestGlue

structure Parameter where
  name : String
  type : TypeRef
  deriving DecidableEq, Repr

structure MethodSignature where
  moduleFile : String
  namespaceName : String
  typeName : String
  methodName : String
  parameters : List Parameter
  returnType : TypeRef
  deriving DecidableEq, Repr

namespace MethodSignature

def declaringType (method : MethodSignature) : String :=
  if method.namespaceName = "" then method.typeName
  else method.namespaceName ++ "." ++ method.typeName

def fullName (method : MethodSignature) : String :=
  method.declaringType ++ "::" ++ method.methodName

def display (method : MethodSignature) : String :=
  let parameters := method.parameters.map fun parameter =>
    parameter.type.shortName ++ " " ++ parameter.name
  method.returnType.shortName ++ " " ++ method.fullName ++ "(" ++ ", ".intercalate parameters ++ ")"

def externalName (method : MethodSignature) : Option String → String
  | some entryPoint => if entryPoint = "" then method.methodName else entryPoint
  | none => method.methodName

end MethodSignature

structure ExportBinding where
  method : MethodSignature
  entryPoint : Option String
  deriving DecidableEq, Repr

def ExportBinding.exportName (binding : ExportBinding) : String :=
  binding.method.externalName binding.entryPoint

structure ImportBinding where
  method : MethodSignature
  hostModule : String
  entryPoint : Option String
  deriving DecidableEq, Repr

/-- The name of the host's function, and of the function that forwards to it. -/
def ImportBinding.functionName (binding : ImportBinding) : String :=
  binding.method.externalName binding.entryPoint

end GuestGlue
