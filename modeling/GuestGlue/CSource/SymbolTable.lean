/-
The global names of the generated source.  One table is shared by all files of
a run and starts with the functions that every guest already has.
-/

namespace GuestGlue.CSource

/-- Functions that the support text and the host's text define, declare or call. -/
def runtimeSymbols : List String := [
  "initialize_runtime",
  "glue_report_error",
  "glue_print_exception",
  "glue_invoke_method",
  "method_print_exception",
  "extism_alloc",
  "extism_error_set",
  "mono_wasm_load_runtime",
  "mono_wasm_invoke_method_ref",
  "mono_object_try_to_string",
  "mono_object_unbox",
  "mono_string_to_utf8",
  "mono_free",
  "mono_print_unhandled_exception",
  "lookup_dotnet_method"]

structure SymbolTable where
  names : List String

namespace SymbolTable

def empty : SymbolTable := ⟨[]⟩

def runtime : SymbolTable := ⟨runtimeSymbols⟩

def contains (table : SymbolTable) (name : String) : Bool :=
  table.names.contains name

def add (table : SymbolTable) (name : String) : SymbolTable :=
  if table.contains name then table else ⟨name :: table.names⟩

def define (table : SymbolTable) (name : String) : Bool × SymbolTable :=
  (!table.contains name, table.add name)

end SymbolTable

end GuestGlue.CSource
