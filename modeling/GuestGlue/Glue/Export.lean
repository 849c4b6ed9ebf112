/-
The export side of the glue: a single file with the support text and a wrapper
for each export.  A wrapper starts the managed runtime, looks its method up once,
calls it without arguments and returns the result as an int.  An export that
cannot be wrapped leaves no text behind.
-/

import GuestGlue.Binding
import GuestGlue.Diagnostic
import GuestGlue.GlueFile
import GuestGlue.Options
import GuestGlue.CSource.Identifier
import GuestGlue.CSource.Preamble
import GuestGlue.CSource.StringLiteral
import GuestGlue.CSource.SymbolTable

namespace GuestGlue.Glue

open CSource

/-! ### Rulings -/

def handleName (name : String) : String :=
  "glue_method_" ++ name

def isExportReturn (type : TypeRef) : Bool :=
  match type.primitive? with
  | some .void | some .i32 | some .u32 => true
  | _ => false

def checkExport (symbols : SymbolTable) (binding : ExportBinding) : Except Diagnostic Unit :=
  let method := binding.method
  let symbol := method.fullName
  let name := binding.exportName
  if !method.parameters.isEmpty then
    .error (.error .exportHasParameters symbol
      ("exported functions cannot take parameters: " ++ method.display))
  else if !isExportReturn method.returnType then
    .error (.error .unsupportedReturnType symbol
      ("exported functions return void or a 32-bit integer, not `" ++ method.returnType.name ++
        "`: " ++ method.display))
  else if !isIdentifier name then
    .error (.error .invalidIdentifier symbol
      ("`" ++ name ++ "` is not a valid C identifier (export `" ++ symbol ++ "`)"))
  else if symbols.contains name || symbols.contains (handleName name) then
    .error (.error .duplicateSymbol symbol
      ("`" ++ name ++ "` is already defined; export `" ++ symbol ++ "` is skipped"))
  else .ok ()

structure ExportRuling where
  binding : ExportBinding
  outcome : Except Diagnostic Unit

namespace ExportRuling

def wrapped? (ruling : ExportRuling) : Option ExportBinding :=
  match ruling.outcome with
  | .ok _ => some ruling.binding
  | .error _ => none

def diagnostic? (ruling : ExportRuling) : Option Diagnostic :=
  match ruling.outcome with
  | .ok _ => none
  | .error diagnostic => some diagnostic

end ExportRuling

/-- The table after a ruling: a binding that is wrapped takes two names. -/
def symbolsAfterExport (symbols : SymbolTable) (ruling : ExportRuling) : SymbolTable :=
  match ruling.outcome with
  | .ok _ => (symbols.add ruling.binding.exportName).add (handleName ruling.binding.exportName)
  | .error _ => symbols

def ruleExport (symbols : SymbolTable) (binding : ExportBinding) : ExportRuling :=
  ⟨binding, checkExport symbols binding⟩

/-- Rules on bindings in order; each one sees the names taken before it. -/
def ruleExports (symbols : SymbolTable) : List ExportBinding → List ExportRuling × SymbolTable
  | [] => ([], symbols)
  | binding :: rest =>
      let ruling := ruleExport symbols binding
      let (rulings, symbols) := ruleExports (symbolsAfterExport symbols ruling) rest
      (ruling :: rulings, symbols)

structure ExportPlan where
  rulings : List ExportRuling
  symbols : SymbolTable

def planExports (symbols : SymbolTable) (exports : List ExportBinding) : ExportPlan :=
  let (rulings, symbols) := ruleExports symbols exports
  ⟨rulings, symbols⟩

def ExportPlan.wrapped (plan : ExportPlan) : List ExportBinding :=
  plan.rulings.filterMap (·.wrapped?)

def ExportPlan.diagnostics (plan : ExportPlan) : List Diagnostic :=
  plan.rulings.filterMap (·.diagnostic?)

/-! ### Text -/

def lookupCall (moduleFile namespaceName typeName methodName : String) : String :=
  "lookup_dotnet_method(" ++ stringLiteral moduleFile ++ ", " ++ stringLiteral namespaceName ++
    ", " ++ stringLiteral typeName ++ ", " ++ stringLiteral methodName ++ ", -1)"

def wrapperLines (binding : ExportBinding) : List String :=
  let method := binding.method
  let name := binding.exportName
  let handle := handleName name
  let lookup :=
    lookupCall method.moduleFile method.namespaceName method.typeName method.methodName
  [ "static MonoMethod* " ++ handle ++ " = NULL;",
    "",
    "__attribute__((export_name(\"" ++ name ++ "\"))) int " ++ name ++ "(void)",
    "\x7b",
    "    initialize_runtime();",
    "",
    "    if (!" ++ handle ++ ") \x7b",
    "        " ++ handle ++ " = " ++ lookup ++ ";",
    "        if (!" ++ handle ++ ") \x7b",
    "            glue_report_error(" ++ stringLiteral ("Failed to lookup method: " ++ name) ++ ");",
    "            return 1;",
    "        \x7d",
    "    \x7d",
    "",
    "    assert(" ++ handle ++ ");",
    "    return glue_invoke_method(" ++ handle ++ ");",
    "\x7d" ]

def wrapper (binding : ExportBinding) : String :=
  Text.unlines (wrapperLines binding)

/-- The start of the runtime, the report of errors and the call of a method. -/
def supportLines (printer : ExceptionPrinter) : List String :=
  let lookup :=
    lookupCall printer.moduleFile printer.namespaceName printer.typeName printer.methodName
  let missing := stringLiteral ("Fatal: failed to find " ++ printer.fullName)
  [ "ExtismPointer extism_alloc(uint64_t size);",
    "void extism_error_set(ExtismPointer ptr);",
    "",
    "void mono_wasm_load_runtime(const char* unused, int debug_level);",
    "",
    "#ifdef WASI_AFTER_RUNTIME_LOADED_DECLARATIONS",
    "WASI_AFTER_RUNTIME_LOADED_DECLARATIONS",
    "#endif",
    "",
    "void initialize_runtime() \x7b",
    "    mono_wasm_load_runtime(\"\", 0);",
    "\x7d",
    "",
    "void mono_wasm_invoke_method_ref(MonoMethod* method, MonoObject** this_arg_in, void* params[], MonoObject** out_exc, MonoObject** out_result);",
    "MonoString* mono_object_try_to_string(MonoObject* obj, MonoObject** exc, MonoError* error);",
    "void mono_print_unhandled_exception(MonoObject* exc);",
    "",
    "static void glue_report_error(const char* message)",
    "\x7b",
    "    size_t length = strlen(message);",
    "    ExtismPointer ptr = extism_alloc(length);",
    "    memcpy((void*)ptr, message, length);",
    "    extism_error_set(ptr);",
    "\x7d",
    "",
    "// Guests run on a single thread; the cached handles need no locking.",
    "static MonoMethod* method_print_exception = NULL;",
    "",
    "static void glue_print_exception(MonoObject* exc)",
    "\x7b",
    "    if (!method_print_exception) \x7b",
    "        method_print_exception = " ++ lookup ++ ";",
    "        if (!method_print_exception) \x7b",
    "            glue_report_error(" ++ missing ++ ");",
    "            return;",
    "        \x7d",
    "    \x7d",
    "",
    "    void* method_params[] = \x7b exc \x7d;",
    "    MonoObject* nested_exception = NULL;",
    "    MonoObject* result = NULL;",
    "    mono_wasm_invoke_method_ref(method_print_exception, NULL, method_params, &nested_exception, &result);",
    "",
    "    if (nested_exception != NULL) \x7b",
    "        MonoError error;",
    "        MonoObject* string_exc = NULL;",
    "        MonoString* message = mono_object_try_to_string(nested_exception, &string_exc, &error);",
    "        if (!string_exc && message) \x7b",
    "            char* utf8_message = mono_string_to_utf8(message);",
    "            glue_report_error(utf8_message);",
    "            mono_free(utf8_message);",
    "        \x7d else \x7b",
    "            glue_report_error(\"An exception occurred while handling another exception\");",
    "        \x7d",
    "    \x7d",
    "\x7d",
    "",
    "static int glue_invoke_method(MonoMethod* method)",
    "\x7b",
    "    void* method_params[1] = \x7b NULL \x7d;",
    "    MonoObject* exception = NULL;",
    "    MonoObject* result = NULL;",
    "    mono_wasm_invoke_method_ref(method, NULL, method_params, &exception, &result);",
    "",
    "    if (exception != NULL) \x7b",
    "        mono_print_unhandled_exception(exception);",
    "        glue_print_exception(exception);",
    "        return 1;",
    "    \x7d",
    "",
    "    if (result == NULL) \x7b",
    "        return 0;",
    "    \x7d",
    "    return *(int*)mono_object_unbox(result);",
    "\x7d" ]

def supportText (printer : ExceptionPrinter) : String :=
  Text.unlines (supportLines printer)

def ExportPlan.file? (plan : ExportPlan) (options : Options) : Option GlueFile :=
  if plan.rulings.isEmpty then none
  else
    let wrappers := plan.wrapped.map fun binding => "\n" ++ wrapper binding
    some ⟨options.exportsFileName,
      preamble ++ "\n" ++ supportText options.exceptionPrinter ++ String.join wrappers⟩

end GuestGlue.Glue
