/-
The names that a guest has before any binding is bridged: the functions that the support
text declares, defines or calls, and what the preamble itself introduces.  Most of them
are reserved, so no binding takes them; the others a binding may take.
-/

import GuestGlue.Proofs.CSource.Tokens
import GuestGlue.Proofs.Glue.Rulings
import GuestGlue.Proofs.Glue.Symbols

namespace GuestGlue

namespace CSource

/-- The names in front of a bracket, without the keywords: all functions that a text
declares, defines or calls. -/
def functionNames : List Token → List String
  | .word name :: .mark '(' :: rest =>
      if isIdentifier name then name :: functionNames rest else functionNames rest
  | _ :: rest => functionNames rest
  | [] => []

/-- The macros with parameters and the types that a text introduces. -/
def introducedNames : List Token → List String
  | .mark '#' :: .word "define" :: .word name :: .mark '(' :: rest => name :: introducedNames rest
  | .word "typedef" :: .word _ :: .word name :: .mark ';' :: rest => name :: introducedNames rest
  | _ :: rest => introducedNames rest
  | [] => []

end CSource

namespace Glue

open CSource

/-! ### Reading the support text -/

def lookupTokens : List Token :=
  [.word "lookup_dotnet_method", .mark '(', .literal, .mark ',', .literal, .mark ',', .literal,
    .mark ',', .literal, .mark ',', .mark '-', .word "1", .mark ')']

theorem spells_lookupCall (moduleFile namespaceName typeName methodName : String) :
    Spells (lookupCall moduleFile namespaceName typeName methodName).toList lookupTokens := by
  have opening : Spells "lookup_dotnet_method(".toList
      [.word "lookup_dotnet_method", .mark '('] := by decide
  have comma : Spells ", ".toList [.mark ','] := by decide
  have closing : Spells ", -1)".toList [.mark ',', .mark '-', .word "1", .mark ')'] := by decide
  unfold lookupCall
  simp only [String.toList_append]
  exact (((((((opening.append (spells_stringLiteral _)).append comma).append
    (spells_stringLiteral _)).append comma).append (spells_stringLiteral _)).append comma).append
      (spells_stringLiteral _)).append closing

theorem readLine_lookup (moduleFile namespaceName typeName methodName : String) :
    readLine ("        method_print_exception = " ++
        lookupCall moduleFile namespaceName typeName methodName ++ ";") =
      ([.word "method_print_exception", .mark '='] ++ lookupTokens ++ [.mark ';'], .between) := by
  have opening : Spells "        method_print_exception = ".toList
      [.word "method_print_exception", .mark '='] := by decide
  have closing : Spells (";".toList ++ ['\n']) [.mark ';'] := by decide
  rw [readLine, String.toList_append, String.toList_append, List.append_assoc]
  exact (opening.append (spells_lookupCall _ _ _ _)).append closing

theorem readLine_missing (message : String) :
    readLine ("            glue_report_error(" ++ stringLiteral message ++ ");") =
      ([.word "glue_report_error", .mark '('] ++ [.literal] ++ [.mark ')', .mark ';'],
        .between) := by
  have opening : Spells "            glue_report_error(".toList
      [.word "glue_report_error", .mark '('] := by decide
  have closing : Spells (");".toList ++ ['\n']) [.mark ')', .mark ';'] := by decide
  rw [readLine, String.toList_append, String.toList_append, List.append_assoc]
  exact (opening.append (spells_stringLiteral _)).append closing

/-- No line of the support text leaves anything open, and of the functions in it these two
are not reserved, whatever routine describes an exception. -/
theorem supportLines_reads (printer : ExceptionPrinter) :
    (∀ read ∈ (supportLines printer).map readLine, read.2 = .between) ∧
      (functionNames (((supportLines printer).map readLine).flatMap (·.1))).filter
        (· ∉ runtimeSymbols) = ["strlen", "memcpy"] := by
  simp only [supportLines, List.map_cons, List.map_nil, readLine_lookup, readLine_missing]
  simp only [readLine]
  -- every line that is left is a literal, and `rw` finds the characters it is made of
  repeat rw [String.toList_ofList]
  constructor <;> decide +kernel

theorem supportText_unreserved (printer : ExceptionPrinter) :
    (functionNames (tokens (supportText printer))).filter (· ∉ runtimeSymbols) =
      ["strlen", "memcpy"] := by
  obtain ⟨closed, unreserved⟩ := supportLines_reads printer
  rw [supportText, tokens_unlines closed, unreserved]

theorem preambleLines_reads :
    (∀ read ∈ preambleLines.map readLine, read.2 = .between) ∧
      introducedNames ((preambleLines.map readLine).flatMap (·.1)) =
        ["IMPORT", "ExtismPointer"] := by
  simp only [preambleLines, List.map_cons, List.map_nil, readLine]
  repeat rw [String.toList_ofList]
  constructor <;> decide +kernel

theorem preamble_introducedNames :
    introducedNames (tokens preamble) = ["IMPORT", "ExtismPointer"] := by
  obtain ⟨closed, introduced⟩ := preambleLines_reads
  rw [preamble, tokens_unlines closed, introduced]

/-! ### Names of a guest -/

def guestNames (printer : ExceptionPrinter) : List String :=
  functionNames (tokens (supportText printer)) ++ introducedNames (tokens preamble)

def unreserved : List String :=
  ["strlen", "memcpy", "IMPORT", "ExtismPointer"]

theorem guestNames_filter (printer : ExceptionPrinter) :
    (guestNames printer).filter (· ∉ runtimeSymbols) = unreserved := by
  rw [guestNames, List.filter_append, supportText_unreserved, preamble_introducedNames]
  decide

theorem mem_guestNames_iff {printer : ExceptionPrinter} {name : String}
    (free : name ∉ runtimeSymbols) : name ∈ guestNames printer ↔ name ∈ unreserved := by
  rw [← guestNames_filter printer, List.mem_filter]
  exact (and_iff_left (decide_eq_true free)).symm

theorem rawName_notMem_unreserved (name : String) : rawName name ∉ unreserved := by
  have ending : "_import".toList <:+ (rawName name).toList := by
    rw [rawName, String.toList_append]
    exact List.suffix_append _ _
  have others : ∀ other ∈ unreserved, ¬"_import".toList <:+ other.toList := by decide
  exact fun member => others _ member ending

theorem handleName_notMem_unreserved (name : String) : handleName name ∉ unreserved := by
  have beginning : "glue_method_".toList <+: (handleName name).toList := by
    rw [handleName, String.toList_append]
    exact List.prefix_append _ _
  have others : ∀ other ∈ unreserved, ¬"glue_method_".toList <+: other.toList := by decide
  exact fun member => others _ member beginning

/-! ### Names of bindings -/

def Output.cNames (output : Output) : List String :=
  output.imports.flatMap ImportBinding.cNames ++ output.exports.flatMap ExportBinding.cNames

theorem mem_cNames_unreserved {output : Output} :
    (∀ name ∈ output.cNames, name ∉ unreserved) ↔
      (∀ binding ∈ output.imports, binding.functionName ∉ unreserved) ∧
        ∀ binding ∈ output.exports, binding.exportName ∉ unreserved := by
  simp only [Output.cNames, List.forall_mem_append, List.forall_mem_flatMap,
    ImportBinding.cNames, ExportBinding.cNames, List.forall_mem_cons]
  simp [rawName_notMem_unreserved, handleName_notMem_unreserved]

/-- Of the names of a guest the bridged bindings take those four at most, and none exactly
if no binding has one of the four as its own name. -/
theorem generate_cNames_guestNames (options : Options) (boilerplate : String)
    (exports : List ExportBinding) (imports : List ImportBinding) (printer : ExceptionPrinter) :
    let output := generate options boilerplate exports imports
    (∀ name ∈ output.cNames, name ∈ guestNames printer → name ∈ unreserved) ∧
      ((∀ name ∈ output.cNames, name ∉ guestNames printer) ↔
        (∀ binding ∈ output.imports, binding.functionName ∉ unreserved) ∧
          ∀ binding ∈ output.exports, binding.exportName ∉ unreserved) := by
  intro output
  obtain ⟨_, takes⟩ := generate_takes options boilerplate exports imports
  have guest : ∀ name ∈ output.cNames, (name ∈ guestNames printer ↔ name ∈ unreserved) :=
    fun name member => mem_guestNames_iff (takes.fresh name member)
  refine ⟨fun name member => (guest name member).mp, ?_⟩
  rw [← mem_cNames_unreserved]
  exact forall₂_congr fun name member => not_congr (guest name member)

/-- An import whose host function has the name of the library's copying of memory. -/
def copyImport : ImportBinding where
  method := ⟨"App.dll", "", "Api", "Copy",
    [⟨"target", .ofPrimitive .u32⟩, ⟨"source", .ofPrimitive .u32⟩, ⟨"count", .ofPrimitive .u32⟩],
    .ofPrimitive .u32⟩
  hostModule := "env"
  entryPoint := some "memcpy"

/-- A host function can take over one that the report of errors calls. -/
theorem generate_takes_guestName :
    ¬∀ options boilerplate exports imports printer,
      ∀ name ∈ (generate options boilerplate exports imports).cNames,
        name ∉ guestNames printer := by
  intro always
  let run : ExportBinding := ⟨⟨"App.dll", "", "Api", "Run", [], .void⟩, none⟩
  have bridged : copyImport ∈ (generate .standard "" [run] [copyImport]).imports := by
    rw [generate_imports]
    decide +kernel
  have taken : "memcpy" ∈ (generate .standard "" [run] [copyImport]).cNames :=
    List.mem_append_left _ (List.mem_flatMap.mpr ⟨copyImport, bridged, List.mem_cons_self⟩)
  refine always .standard "" [run] [copyImport] .standard "memcpy" taken ?_
  exact (mem_guestNames_iff (by decide)).mpr (by decide)

end Glue

end GuestGlue
