/-
Options of a run: the names of the generated files, the modules that host
functions are imported from, and the managed routine that describes an
exception.
-/

import GuestGlue.NameMap

namespace GuestGlue

structure ExceptionPrinter where
  moduleFile : String
  namespaceName : String
  typeName : String
  methodName : String
  deriving DecidableEq, Repr

namespace ExceptionPrinter

def standard : ExceptionPrinter :=
  { moduleFile := "Extism.Pdk.dll"
    namespaceName := "Extism"
    typeName := "Native"
    methodName := "PrintException" }

def fullName (printer : ExceptionPrinter) : String :=
  if printer.namespaceName = "" then printer.typeName ++ "." ++ printer.methodName
  else printer.namespaceName ++ "." ++ printer.typeName ++ "." ++ printer.methodName

end ExceptionPrinter

structure Options where
  reservedModule : String
  extension : String
  exportsStem : String
  moduleAliases : NameMap String
  exceptionPrinter : ExceptionPrinter

namespace Options

def standard : Options :=
  { reservedModule := "env"
    extension := "c"
    exportsStem := "exports"
    moduleAliases := NameMap.empty.insert "extism" "extism:host/user"
    exceptionPrinter := .standard }

def fileName (options : Options) (stem : String) : String :=
  stem ++ "." ++ options.extension

def exportsFileName (options : Options) : String :=
  options.fileName options.exportsStem

def reservedFileName (options : Options) : String :=
  options.fileName options.reservedModule

def importModule (options : Options) (hostModule : String) : String :=
  (options.moduleAliases.find? hostModule).getD hostModule

end Options

end GuestGlue
