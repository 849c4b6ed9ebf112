/-
Module metadata as JSON.  A marker is told by its kind, which may stand anywhere
among its members; the other members are kept until the kind is known.
-/

import GuestGlue.Codec.Types
import GuestGlue.Metadata.Module

namespace GuestGlue.Codec

open Json

/-! ### Markers -/

def encodeMarker : Marker → Value
  | .exported entryPoint =>
      .object [("kind", .string "export"), ("entry_point", nullable entryPoint)]
  | .imported hostModule entryPoint =>
      .object [
        ("kind", .string "import"),
        ("module", .string hostModule),
        ("entry_point", nullable entryPoint)]

inductive MarkerKind where
  | export
  | import
  deriving DecidableEq

inductive MarkerEntry where
  | hostModule (value : String)
  | entryPoint (value : Option String)

namespace MarkerEntry

def hostModule? : MarkerEntry → Option String
  | hostModule value => some value
  | _ => none

def entryPoint? : MarkerEntry → Option (Option String)
  | entryPoint value => some value
  | _ => none

end MarkerEntry

def entryPointField : RecordField MarkerEntry :=
  ⟨"entry_point", fun node => (decodeOption decodeString node).map .entryPoint, true⟩

def hostModuleField : RecordField MarkerEntry :=
  ⟨"module", fun node => (decodeString node).map .hostModule, false⟩

def markerRecord : MarkerKind → Record MarkerEntry Marker
  | .export =>
      { title := "variant Marker::Export"
        fields := [entryPointField]
        make := fun entries =>
          return .exported (defaulted none MarkerEntry.entryPoint? entries) }
  | .import =>
      { title := "variant Marker::Import"
        fields := [hostModuleField, entryPointField]
        make := fun entries => do
          let hostModule ← required "module" MarkerEntry.hostModule? entries
          return .imported hostModule (defaulted none MarkerEntry.entryPoint? entries) }

def decodeKind : Decoder MarkerKind
  | .string (some "export") _ => .ok .export
  | .string (some "import") _ => .ok .import
  | .string (some name) stop =>
      .error (.unsuitable (.unknownVariant name ["export", "import"]) (some stop))
  | node => .error (node.mistyped "variant identifier")

/-- The kind of a marker and its other members, `kind?` being the kind read
before them. -/
def splitMarker (kind? : Option MarkerKind) : Members → Except Error (MarkerKind × Members)
  | .closed stop =>
      match kind? with
      | none => .error (.unsuitable (.missingField "kind") (some stop))
      | some kind => .ok (kind, .closed stop)
  | .broken => .error .malformed
  | .cons none _ _ _ _ => .error .malformed
  | .cons (some key) keyStop left value rest =>
      if key = "kind" then
        if kind?.isSome then .error (.unsuitable (.duplicateField "kind") (some left))
        else
          match decodeKind value with
          | .error error => .error error
          | .ok kind => splitMarker (some kind) rest
      else if value.readable then
        match splitMarker kind? rest with
        | .error error => .error error
        | .ok (kind, others) => .ok (kind, .cons (some key) keyStop left value others)
      else .error .malformed

/-- Reads what was kept of a marker; its places are no longer known. -/
def decodeKept (kind : MarkerKind) (kept : Node) : Except Error Marker :=
  ((markerRecord kind).decode .kept kept).mapError Error.unplaced

def decodeMarker : Decoder Marker
  | .object start depth members =>
      match splitMarker none members with
      | .error error => .error error
      | .ok (kind, others) => decodeKept kind (.object start depth others)
  | .array _ _ (.closed stop) => .error (.unsuitable (.missingField "kind") (some stop))
  | .array _ _ .broken => .error .malformed
  | .array start depth (.cons item left rest) =>
      match decodeKind item with
      | .error error => .error (error.placed left)
      | .ok kind =>
          if rest.readable then decodeKept kind (.array start depth rest) else .error .malformed
  | node => .error (node.mistyped "internally tagged enum Marker")

/-! ### Methods -/

def encodeMethod (method : MethodDef) : Value :=
  .object [
    ("name", .string method.name),
    ("is_static", .bool method.isStatic),
    ("parameters", .array (method.parameters.map encodeParameter)),
    ("return_type", encodeType method.returnType),
    ("markers", .array (method.markers.map encodeMarker))]

inductive MethodEntry where
  | name (value : String)
  | isStatic (value : Bool)
  | parameters (value : List Parameter)
  | returnType (value : TypeRef)
  | markers (value : List Marker)

namespace MethodEntry

def name? : MethodEntry → Option String
  | name value => some value
  | _ => none

def isStatic? : MethodEntry → Option Bool
  | isStatic value => some value
  | _ => none

def parameters? : MethodEntry → Option (List Parameter)
  | parameters value => some value
  | _ => none

def returnType? : MethodEntry → Option TypeRef
  | returnType value => some value
  | _ => none

def markers? : MethodEntry → Option (List Marker)
  | markers value => some value
  | _ => none

end MethodEntry

def methodRecord : Record MethodEntry MethodDef :=
  { title := "MethodDef"
    fields := [
      ⟨"name", fun node => (decodeString node).map .name, false⟩,
      ⟨"is_static", fun node => (decodeBool node).map .isStatic, true⟩,
      ⟨"parameters", fun node => (decodeList decodeParameter node).map .parameters, true⟩,
      ⟨"return_type", fun node => (decodeType node).map .returnType, true⟩,
      ⟨"markers", fun node => (decodeList decodeMarker node).map .markers, true⟩]
    make := fun entries => do
      let name ← required "name" MethodEntry.name? entries
      return {
        name
        isStatic := defaulted true MethodEntry.isStatic? entries
        parameters := defaulted [] MethodEntry.parameters? entries
        returnType := defaulted .void MethodEntry.returnType? entries
        markers := defaulted [] MethodEntry.markers? entries } }

def decodeMethod : Decoder MethodDef := methodRecord.decode .direct

/-! ### Types -/

def encodeTypeDef (type : TypeDef) : Value :=
  .object [
    ("namespace", .string type.namespaceName),
    ("name", .string type.name),
    ("methods", .array (type.methods.map encodeMethod))]

inductive TypeDefEntry where
  | namespaceName (value : String)
  | name (value : String)
  | methods (value : List MethodDef)

namespace TypeDefEntry

def namespaceName? : TypeDefEntry → Option String
  | namespaceName value => some value
  | _ => none

def name? : TypeDefEntry → Option String
  | name value => some value
  | _ => none

def methods? : TypeDefEntry → Option (List MethodDef)
  | methods value => some value
  | _ => none

end TypeDefEntry

def typeDefRecord : Record TypeDefEntry TypeDef :=
  { title := "TypeDef"
    fields := [
      ⟨"namespace", fun node => (decodeString node).map .namespaceName, true⟩,
      ⟨"name", fun node => (decodeString node).map .name, false⟩,
      ⟨"methods", fun node => (decodeList decodeMethod node).map .methods, true⟩]
    make := fun entries => do
      let name ← required "name" TypeDefEntry.name? entries
      return {
        namespaceName := defaulted "" TypeDefEntry.namespaceName? entries
        name
        methods := defaulted [] TypeDefEntry.methods? entries } }

def decodeTypeDef : Decoder TypeDef := typeDefRecord.decode .direct

/-! ### Modules -/

def encodeModule (module : Module) : Value :=
  .object (("name", .string module.name) :: (optionalMember "file_name" module.file ++ [
    ("references", .array (module.references.map .string)),
    ("types", .array (module.types.map encodeTypeDef))]))

inductive ModuleEntry where
  | name (value : String)
  | file (value : Option String)
  | references (value : List String)
  | types (value : List TypeDef)

namespace ModuleEntry

def name? : ModuleEntry → Option String
  | name value => some value
  | _ => none

def file? : ModuleEntry → Option (Option String)
  | file value => some value
  | _ => none

def references? : ModuleEntry → Option (List String)
  | references value => some value
  | _ => none

def types? : ModuleEntry → Option (List TypeDef)
  | types value => some value
  | _ => none

end ModuleEntry

def moduleRecord : Record ModuleEntry Module :=
  { title := "ModuleMetadata"
    fields := [
      ⟨"name", fun node => (decodeString node).map .name, false⟩,
      ⟨"file_name", fun node => (decodeOption decodeString node).map .file, true⟩,
      ⟨"references", fun node => (decodeList decodeString node).map .references, true⟩,
      ⟨"types", fun node => (decodeList decodeTypeDef node).map .types, true⟩]
    make := fun entries => do
      let name ← required "name" ModuleEntry.name? entries
      return {
        name
        file := defaulted none ModuleEntry.file? entries
        references := defaulted [] ModuleEntry.references? entries
        types := defaulted [] ModuleEntry.types? entries } }

def decodeModule : Decoder Module := moduleRecord.decode .direct

end GuestGlue.Codec

namespace GuestGlue.Module

def ofJson (text : String) : Except Json.Rejection Module :=
  Json.decodeText Codec.decodeModule text

def toJson (module : Module) : String :=
  (Codec.encodeModule module).pretty

end GuestGlue.Module
