/-
Types, bindings and generated files as JSON.  A type is its name in the
metadata.  An entry point that is left out is not written.
-/

import GuestGlue.Binding
import GuestGlue.GlueFile
import GuestGlue.Json.Record
import GuestGlue.Json.Value

namespace GuestGlue.Codec

open Json

def optionalMember (name : String) : Option String → List (String × Value)
  | none => []
  | some value => [(name, .string value)]

def nullable : Option String → Value
  | none => .null
  | some value => .string value

def encodePrimitive (primitive : Primitive) : Value :=
  .string primitive.keyword

def decodePrimitive : Decoder Primitive :=
  decodeEnum (Primitive.all.map fun primitive => (primitive.keyword, primitive))

def encodeType (type : TypeRef) : Value :=
  .string type.name

def decodeType : Decoder TypeRef := fun node =>
  (decodeString node).map TypeRef.mk

/-! ### Parameters -/

def encodeParameter (parameter : Parameter) : Value :=
  .object [("name", .string parameter.name), ("type", encodeType parameter.type)]

inductive ParameterEntry where
  | name (value : String)
  | type (value : TypeRef)

namespace ParameterEntry

def name? : ParameterEntry → Option String
  | name value => some value
  | _ => none

def type? : ParameterEntry → Option TypeRef
  | type value => some value
  | _ => none

end ParameterEntry

def parameterRecord : Record ParameterEntry Parameter :=
  { title := "Parameter"
    fields := [
      ⟨"name", fun node => (decodeString node).map .name, false⟩,
      ⟨"type", fun node => (decodeType node).map .type, false⟩]
    make := fun entries => do
      let name ← required "name" ParameterEntry.name? entries
      let type ← required "type" ParameterEntry.type? entries
      return ⟨name, type⟩ }

def decodeParameter : Decoder Parameter := parameterRecord.decode .direct

/-! ### Signatures -/

def encodeSignature (method : MethodSignature) : Value :=
  .object [
    ("module_file", .string method.moduleFile),
    ("namespace", .string method.namespaceName),
    ("type_name", .string method.typeName),
    ("method_name", .string method.methodName),
    ("parameters", .array (method.parameters.map encodeParameter)),
    ("return_type", encodeType method.returnType)]

inductive SignatureEntry where
  | moduleFile (value : String)
  | namespaceName (value : String)
  | typeName (value : String)
  | methodName (value : String)
  | parameters (value : List Parameter)
  | returnType (value : TypeRef)

namespace SignatureEntry

def moduleFile? : SignatureEntry → Option String
  | moduleFile value => some value
  | _ => none

def namespaceName? : SignatureEntry → Option String
  | namespaceName value => some value
  | _ => none

def typeName? : SignatureEntry → Option String
  | typeName value => some value
  | _ => none

def methodName? : SignatureEntry → Option String
  | methodName value => some value
  | _ => none

def parameters? : SignatureEntry → Option (List Parameter)
  | parameters value => some value
  | _ => none

def returnType? : SignatureEntry → Option TypeRef
  | returnType value => some value
  | _ => none

end SignatureEntry

def signatureRecord : Record SignatureEntry MethodSignature :=
  { title := "MethodSignature"
    fields := [
      ⟨"module_file", fun node => (decodeString node).map .moduleFile, false⟩,
      ⟨"namespace", fun node => (decodeString node).map .namespaceName, false⟩,
      ⟨"type_name", fun node => (decodeString node).map .typeName, false⟩,
      ⟨"method_name", fun node => (decodeString node).map .methodName, false⟩,
      ⟨"parameters", fun node => (decodeList decodeParameter node).map .parameters, false⟩,
      ⟨"return_type", fun node => (decodeType node).map .returnType, false⟩]
    make := fun entries => do
      let moduleFile ← required "module_file" SignatureEntry.moduleFile? entries
      let namespaceName ← required "namespace" SignatureEntry.namespaceName? entries
      let typeName ← required "type_name" SignatureEntry.typeName? entries
      let methodName ← required "method_name" SignatureEntry.methodName? entries
      let parameters ← required "parameters" SignatureEntry.parameters? entries
      let returnType ← required "return_type" SignatureEntry.returnType? entries
      return { moduleFile, namespaceName, typeName, methodName, parameters, returnType } }

def decodeSignature : Decoder MethodSignature := signatureRecord.decode .direct

/-! ### Exports -/

def encodeExport (binding : ExportBinding) : Value :=
  .object (("method", encodeSignature binding.method) ::
    optionalMember "entry_point" binding.entryPoint)

inductive ExportEntry where
  | method (value : MethodSignature)
  | entryPoint (value : Option String)

namespace ExportEntry

def method? : ExportEntry → Option MethodSignature
  | method value => some value
  | _ => none

def entryPoint? : ExportEntry → Option (Option String)
  | entryPoint value => some value
  | _ => none

end ExportEntry

def exportRecord : Record ExportEntry ExportBinding :=
  { title := "ExportBinding"
    fields := [
      ⟨"method", fun node => (decodeSignature node).map .method, false⟩,
      ⟨"entry_point", fun node => (decodeOption decodeString node).map .entryPoint, false⟩]
    make := fun entries => do
      let method ← required "method" ExportEntry.method? entries
      return ⟨method, defaulted none ExportEntry.entryPoint? entries⟩ }

def decodeExport : Decoder ExportBinding := exportRecord.decode .direct

/-! ### Imports -/

def encodeImport (binding : ImportBinding) : Value :=
  .object (("method", encodeSignature binding.method) :: ("module", .string binding.hostModule) ::
    optionalMember "entry_point" binding.entryPoint)

inductive ImportEntry where
  | method (value : MethodSignature)
  | hostModule (value : String)
  | entryPoint (value : Option String)

namespace ImportEntry

def method? : ImportEntry → Option MethodSignature
  | method value => some value
  | _ => none

def hostModule? : ImportEntry → Option String
  | hostModule value => some value
  | _ => none

def entryPoint? : ImportEntry → Option (Option String)
  | entryPoint value => some value
  | _ => none

end ImportEntry

def importRecord : Record ImportEntry ImportBinding :=
  { title := "ImportBinding"
    fields := [
      ⟨"method", fun node => (decodeSignature node).map .method, false⟩,
      ⟨"module", fun node => (decodeString node).map .hostModule, false⟩,
      ⟨"entry_point", fun node => (decodeOption decodeString node).map .entryPoint, false⟩]
    make := fun entries => do
      let method ← required "method" ImportEntry.method? entries
      let hostModule ← required "module" ImportEntry.hostModule? entries
      return ⟨method, hostModule, defaulted none ImportEntry.entryPoint? entries⟩ }

def decodeImport : Decoder ImportBinding := importRecord.decode .direct

/-! ### Generated files -/

def encodeGlueFile (file : GlueFile) : Value :=
  .object [("name", .string file.name), ("content", .string file.content)]

inductive GlueFileEntry where
  | name (value : String)
  | content (value : String)

namespace GlueFileEntry

def name? : GlueFileEntry → Option String
  | name value => some value
  | _ => none

def content? : GlueFileEntry → Option String
  | content value => some value
  | _ => none

end GlueFileEntry

def glueFileRecord : Record GlueFileEntry GlueFile :=
  { title := "GlueFile"
    fields := [
      ⟨"name", fun node => (decodeString node).map .name, false⟩,
      ⟨"content", fun node => (decodeString node).map .content, false⟩]
    make := fun entries => do
      let name ← required "name" GlueFileEntry.name? entries
      let content ← required "content" GlueFileEntry.content? entries
      return ⟨name, content⟩ }

def decodeGlueFile : Decoder GlueFile := glueFileRecord.decode .direct

end GuestGlue.Codec
