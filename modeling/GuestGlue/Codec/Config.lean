/-
Options and configurations as JSON.  Every member has a default.  A
configuration holds the options of the glue among its own members; they are kept
until the whole object was read.
-/

import GuestGlue.Build.Config
import GuestGlue.Codec.Types

namespace GuestGlue.Codec

open Json

/-! ### Exception printers -/

def encodePrinter (printer : ExceptionPrinter) : Value :=
  .object [
    ("module_file", .string printer.moduleFile),
    ("namespace", .string printer.namespaceName),
    ("type_name", .string printer.typeName),
    ("method", .string printer.methodName)]

inductive PrinterEntry where
  | moduleFile (value : String)
  | namespaceName (value : String)
  | typeName (value : String)
  | methodName (value : String)

namespace PrinterEntry

def moduleFile? : PrinterEntry → Option String
  | moduleFile value => some value
  | _ => none

def namespaceName? : PrinterEntry → Option String
  | namespaceName value => some value
  | _ => none

def typeName? : PrinterEntry → Option String
  | typeName value => some value
  | _ => none

def methodName? : PrinterEntry → Option String
  | methodName value => some value
  | _ => none

end PrinterEntry

def makePrinter (entries : List PrinterEntry) : ExceptionPrinter :=
  let standard := ExceptionPrinter.standard
  { moduleFile := defaulted standard.moduleFile PrinterEntry.moduleFile? entries
    namespaceName := defaulted standard.namespaceName PrinterEntry.namespaceName? entries
    typeName := defaulted standard.typeName PrinterEntry.typeName? entries
    methodName := defaulted standard.methodName PrinterEntry.methodName? entries }

def printerRecord : Record PrinterEntry ExceptionPrinter :=
  { title := "ExceptionPrinter"
    fields := [
      ⟨"module_file", fun node => (decodeString node).map .moduleFile, true⟩,
      ⟨"namespace", fun node => (decodeString node).map .namespaceName, true⟩,
      ⟨"type_name", fun node => (decodeString node).map .typeName, true⟩,
      ⟨"method", fun node => (decodeString node).map .methodName, true⟩]
    make := fun entries => .ok (makePrinter entries) }

/-! ### Options -/

def aliasesValue (aliases : NameMap String) : Value :=
  .object (aliases.entries.map fun (name, target) => (name, .string target))

def encodeOptionsMembers (options : Options) : List (String × Value) := [
  ("reserved_module", .string options.reservedModule),
  ("extension", .string options.extension),
  ("exports_stem", .string options.exportsStem),
  ("module_aliases", aliasesValue options.moduleAliases),
  ("exception_printer", encodePrinter options.exceptionPrinter)]

def encodeOptions (options : Options) : Value :=
  .object (encodeOptionsMembers options)

def decodeAliases : Decoder (NameMap String) := fun node =>
  (decodeMembers decodeString node).map NameMap.ofList

inductive OptionsEntry where
  | reservedModule (value : String)
  | extension (value : String)
  | exportsStem (value : String)
  | moduleAliases (value : NameMap String)
  | exceptionPrinter (value : ExceptionPrinter)

namespace OptionsEntry

def reservedModule? : OptionsEntry → Option String
  | reservedModule value => some value
  | _ => none

def extension? : OptionsEntry → Option String
  | extension value => some value
  | _ => none

def exportsStem? : OptionsEntry → Option String
  | exportsStem value => some value
  | _ => none

def moduleAliases? : OptionsEntry → Option (NameMap String)
  | moduleAliases value => some value
  | _ => none

def exceptionPrinter? : OptionsEntry → Option ExceptionPrinter
  | exceptionPrinter value => some value
  | _ => none

end OptionsEntry

def makeOptions (entries : List OptionsEntry) : Options :=
  let standard := Options.standard
  { reservedModule := defaulted standard.reservedModule OptionsEntry.reservedModule? entries
    extension := defaulted standard.extension OptionsEntry.extension? entries
    exportsStem := defaulted standard.exportsStem OptionsEntry.exportsStem? entries
    moduleAliases := defaulted standard.moduleAliases OptionsEntry.moduleAliases? entries
    exceptionPrinter :=
      defaulted standard.exceptionPrinter OptionsEntry.exceptionPrinter? entries }

def optionsRecord (reading : Reading) : Record OptionsEntry Options :=
  { title := "GlueOptions"
    fields := [
      ⟨"reserved_module", fun node => (decodeString node).map .reservedModule, true⟩,
      ⟨"extension", fun node => (decodeString node).map .extension, true⟩,
      ⟨"exports_stem", fun node => (decodeString node).map .exportsStem, true⟩,
      ⟨"module_aliases", fun node => (decodeAliases node).map .moduleAliases, true⟩,
      ⟨"exception_printer",
        fun node => (printerRecord.decode reading node).map .exceptionPrinter, true⟩]
    make := fun entries => .ok (makeOptions entries) }

def decodePrinter : Decoder ExceptionPrinter := printerRecord.decode .direct

def decodeOptions : Decoder Options := (optionsRecord .direct).decode .direct

/-! ### Configurations -/

def encodeConfig (config : Config) : Value :=
  .object (encodeOptionsMembers config.options ++
    ("references", .array (config.references.toList.map .string)) ::
    optionalMember "module_dir" (config.moduleDirectory.map (·.text)))

/-- The members of a configuration that are its own, as far as they were read,
and those kept for its options. -/
structure ConfigParts where
  references? : Option (List String)
  moduleDirectory? : Option (Option Path)
  kept : Members

def decodePath : Decoder Path := fun node =>
  (decodeStringAs "path string" node).map Path.mk

/-- Reads the configuration's own members; the place is the one after the object. -/
def splitConfig (references? : Option (List String)) (moduleDirectory? : Option (Option Path)) :
    Members → Except Error (ConfigParts × Place)
  | .closed stop => .ok (⟨references?, moduleDirectory?, .closed stop⟩, stop)
  | .broken => .error .malformed
  | .cons none _ _ _ _ => .error .malformed
  | .cons (some key) keyStop left value rest =>
      if key = "references" then
        if references?.isSome then
          .error (.unsuitable (.duplicateField key) (some left))
        else
          match decodeList decodeString value with
          | .error error => .error error
          | .ok references => splitConfig (some references) moduleDirectory? rest
      else if key = "module_dir" then
        if moduleDirectory?.isSome then
          .error (.unsuitable (.duplicateField key) (some left))
        else
          match decodeOption decodePath value with
          | .error error => .error error
          | .ok moduleDirectory => splitConfig references? (some moduleDirectory) rest
      else if value.readable then
        match splitConfig references? moduleDirectory? rest with
        | .error error => .error error
        | .ok (parts, stop) =>
            .ok ({ parts with kept := .cons (some key) keyStop left value parts.kept }, stop)
      else .error .malformed

def decodeConfig : Decoder Config
  | .object start depth members =>
      match splitConfig none none members with
      | .error error => .error error
      | .ok (parts, stop) =>
          match (optionsRecord .kept).decode .kept (.object start depth parts.kept) with
          | .error error => .error (error.unplaced.placed stop)
          | .ok options =>
              .ok {
                options
                references := NameSet.ofList (parts.references?.getD [])
                moduleDirectory := parts.moduleDirectory?.getD none }
  | node => .error (node.mistyped "struct BuildConfig")

end GuestGlue.Codec

namespace GuestGlue.Config

def ofJson (text : String) : Except Json.Rejection Config :=
  Json.decodeText Codec.decodeConfig text

end GuestGlue.Config
