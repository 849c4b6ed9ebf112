/-
The lines of generated text.  Names from outside reach the text as identifiers or inside
of literals, and neither can hold the end of a line.  So a text has the lines of its
template, each of them starts with the template's own words, and what stands for a
binding that was rejected is one line.
-/

import GuestGlue.Proofs.CSource.Literals
import GuestGlue.Proofs.Glue.Forwarder

namespace GuestGlue

namespace CSource

/-! ### Lines -/

/-- The lines of a text; after a last newline there is an empty one. -/
def lines (text : String) : List (List Char) :=
  text.toList.splitOn '\n'

/-- What the lines of a text start with, an empty one with nothing. -/
def lineStarts (text : String) : List (Option Char) :=
  (lines text).map List.head?

theorem lines_append_newline (first second : String) :
    lines (first ++ "\n" ++ second) = lines first ++ lines second := by
  have characters : (first ++ "\n" ++ second).toList = first.toList ++ '\n' :: second.toList := by
    simp
  rw [lines, characters, List.splitOn_append_cons_self]
  rfl

theorem lines_endLine (block : String) : lines (block ++ "\n") = lines block ++ [[]] := by
  have split := lines_append_newline block ""
  rwa [String.append_empty] at split

/-- The lines of blocks that are written one under the other. -/
theorem lines_blocks {blocks : List String} (nonempty : blocks ≠ []) :
    lines ("\n".intercalate (blocks.map (· ++ "\n"))) =
      [[]].intercalate (blocks.map lines) ++ [[]] := by
  induction blocks with
  | nil => exact absurd rfl nonempty
  | cons first rest ih =>
      cases rest with
      | nil =>
          rw [List.map_singleton, String.intercalate_singleton, lines_endLine, List.map_singleton,
            List.intercalate_singleton]
      | cons second more =>
          have later := ih (List.cons_ne_nil second more)
          rw [List.map_cons, List.map_cons] at later ⊢
          rw [String.intercalate_cons_cons, lines_append_newline, later, lines_endLine,
            List.map_cons, List.map_cons, List.intercalate_cons_cons]
          simp only [List.append_assoc]

theorem newline_notMem {text : String} (clean : controls text = []) : '\n' ∉ text.toList := by
  intro member
  have harmless := controls_eq_nil_iff.mp clean '\n' member
  cases harmless

theorem lines_eq_singleton {text : String} (clean : controls text = []) :
    lines text = [text.toList] :=
  List.splitOn_eq_singleton (newline_notMem clean)

theorem filter_intercalate {α : Type} {test : α → Bool} {separator : List α}
    {pieces : List (List α)} (clean : ∀ piece ∈ pieces, piece.filter test = []) :
    (separator.intercalate pieces).filter test =
      (List.replicate (pieces.length - 1) (separator.filter test)).flatten := by
  induction pieces with
  | nil => rfl
  | cons first rest ih =>
      obtain ⟨here, later⟩ := List.forall_mem_cons.mp clean
      cases rest with
      | nil => simpa using here
      | cons second more =>
          rw [List.intercalate_cons_cons, List.filter_append, List.filter_append, here, ih later]
          rfl

theorem controls_intercalate {separator : String} {pieces : List String}
    (clean : ∀ piece ∈ pieces, controls piece = []) :
    controls (separator.intercalate pieces) =
      (List.replicate (pieces.length - 1) (controls separator)).flatten := by
  rw [controls, String.toList_intercalate, filter_intercalate, List.length_map]
  · rfl
  · exact List.forall_mem_map.mpr clean

/-- Text put together from lines has these lines and no others. -/
theorem lines_intercalate {pieces : List String} (nonempty : pieces ≠ [])
    (clean : ∀ piece ∈ pieces, controls piece = []) :
    controls ("\n".intercalate pieces) = List.replicate (pieces.length - 1) '\n' ∧
      lines ("\n".intercalate pieces) = pieces.map String.toList := by
  constructor
  · rw [controls_intercalate clean]
    exact List.flatten_replicate_singleton
  · rw [lines, String.toList_intercalate]
    apply List.splitOn_intercalate
    · exact List.forall_mem_map.mpr fun piece member => newline_notMem (clean piece member)
    · simpa using nonempty

theorem unlines_eq_intercalate (pieces : List String) :
    Text.unlines pieces = "\n".intercalate (pieces ++ [""]) := by
  induction pieces with
  | nil => rfl
  | cons first rest ih =>
      rw [Text.unlines, List.map_cons, String.join_cons, ← Text.unlines, ih]
      cases rest <;> simp [String.intercalate_cons_cons]

theorem lines_unlines {pieces : List String} (clean : ∀ piece ∈ pieces, controls piece = []) :
    controls (Text.unlines pieces) = List.replicate pieces.length '\n' ∧
      lines (Text.unlines pieces) = pieces.map String.toList ++ [[]] := by
  have cleanEnd : ∀ piece ∈ pieces ++ [""], controls piece = [] :=
    List.forall_mem_append.mpr ⟨clean, List.forall_mem_singleton.mpr rfl⟩
  have made := lines_intercalate (List.append_ne_nil_of_right_ne_nil pieces
    (List.cons_ne_nil "" [])) cleanEnd
  rw [← unlines_eq_intercalate, List.length_append, List.map_append] at made
  exact made

theorem lineStarts_unlines {pieces : List String}
    (clean : ∀ piece ∈ pieces, controls piece = []) :
    lineStarts (Text.unlines pieces) = pieces.map (·.toList.head?) ++ [none] := by
  rw [lineStarts, (lines_unlines clean).2, List.map_append, List.map_map]
  rfl

/-! ### What is put into the lines -/

theorem isControl_of_continuesIdentifier {character : Char}
    (continues : continuesIdentifier character = true) : isControl character = false := by
  have spelled : continuesIdentifier character =
      (decide (character = '_') ||
        (character.isUpper || character.isLower || character.isDigit)) := rfl
  have upper : character.isUpper =
      decide (65 ≤ character.toNat ∧ character.toNat ≤ 90) := rfl
  have lower : character.isLower =
      (decide (97 ≤ character.toNat) && decide (character.toNat ≤ 122)) := rfl
  have digit : character.isDigit =
      (decide (48 ≤ character.toNat) && decide (character.toNat ≤ 57)) := rfl
  rw [spelled, upper, lower, digit] at continues
  simp only [Bool.or_eq_true, Bool.and_eq_true, decide_eq_true_eq] at continues
  rcases continues with rfl | others
  · decide
  · simp only [isControl, Bool.or_eq_false_iff, Bool.and_eq_false_iff, decide_eq_false_iff_not]
    omega

theorem controls_of_isWord {text : String} (isWord : IsWord text.toList) : controls text = [] :=
  controls_eq_nil_iff.mpr fun character member =>
    isControl_of_continuesIdentifier (List.all_eq_true.mp isWord.2 character member)

theorem head?_append {first : String} (nonempty : first ≠ "") (second : String) :
    (first ++ second).toList.head? = first.toList.head? := by
  rw [String.toList_append]
  exact List.head?_append_of_ne_nil _ (by simpa using nonempty)

end CSource

namespace Glue

open CSource

/-! ### Forwarders -/

def forwarderLines (options : Options) (binding : ImportBinding) (returned : Primitive) :
    List String :=
  let name := binding.functionName
  let parameters := binding.method.parameters
  [ importText options binding ++ (prototypeText returned (rawName name) parameters ++ ";"),
    "",
    prototypeText returned name parameters ++ " \x7b",
    "    " ++ (returnText returned ++ (callText (rawName name) parameters ++ ";")),
    "\x7d" ]

theorem forwarder_eq_intercalate (options : Options) (binding : ImportBinding)
    (returned : Primitive) :
    forwarder options binding returned =
      "\n".intercalate (forwarderLines options binding returned) := by
  rw [forwarder_eq]
  apply String.toList_inj.mp
  simp [forwarderLines]

theorem controls_spelling (primitive : Primitive) : controls primitive.spelling = [] :=
  controls_of_isWord (isWord_spelling primitive)

theorem controls_name {name : String} (valid : isIdentifier name = true) : controls name = [] :=
  controls_of_isWord (isWord_of_isIdentifier valid)

theorem controls_rawName {name : String} (valid : isIdentifier name = true) :
    controls (rawName name) = [] :=
  controls_of_isWord (isWord_rawName valid)

theorem controls_parameterList {parameters : List Parameter}
    (named : ∀ parameter ∈ parameters, isIdentifier parameter.name = true) :
    controls (parameterList parameters) = [] := by
  have clean : ∀ piece ∈ parameters.filterMap parameterText, controls piece = [] := by
    intro piece member
    obtain ⟨parameter, present, written⟩ := List.mem_filterMap.mp member
    obtain ⟨primitive, _, rfl⟩ := Option.map_eq_some_iff.mp written
    rw [controls_append, controls_append, controls_spelling,
      controls_name (named parameter present)]
    rfl
  rw [parameterList, controls_intercalate clean]
  exact List.flatten_replicate_nil

theorem controls_argumentList {parameters : List Parameter}
    (named : ∀ parameter ∈ parameters, isIdentifier parameter.name = true) :
    controls (argumentList parameters) = [] := by
  have clean : ∀ piece ∈ parameters.map (·.name), controls piece = [] :=
    List.forall_mem_map.mpr fun parameter member => controls_name (named parameter member)
  rw [argumentList, controls_intercalate clean]
  exact List.flatten_replicate_nil

theorem controls_returnText (returned : Primitive) : controls (returnText returned) = [] := by
  cases returned <;> rfl

theorem forwarderLines_clean {options : Options} {binding : ImportBinding}
    {returned : Primitive} (forwardable : Forwardable binding returned) :
    ∀ line ∈ forwarderLines options binding returned, controls line = [] := by
  simp only [forwarderLines, importText, prototypeText, callText, List.forall_mem_cons,
    controls_append, controls_stringLiteral, controls_spelling, controls_name forwardable.name,
    controls_rawName forwardable.name, controls_parameterList forwardable.parameterNames,
    controls_argumentList forwardable.parameterNames, controls_returnText]
  decide

theorem lines_forwarder (options : Options) {binding : ImportBinding} {returned : Primitive}
    (forwardable : Forwardable binding returned) :
    controls (forwarder options binding returned) = List.replicate 4 '\n' ∧
      lines (forwarder options binding returned) =
        (forwarderLines options binding returned).map String.toList := by
  have nonempty : forwarderLines options binding returned ≠ [] := List.cons_ne_nil _ _
  rw [forwarder_eq_intercalate]
  exact lines_intercalate nonempty (forwarderLines_clean forwardable)

theorem forwarder_lines {options : Options} {binding : ImportBinding} {returned : Primitive}
    (forwardable : Forwardable binding returned) :
    controls (forwarder options binding returned) = List.replicate 4 '\n' ∧
      lineStarts (forwarder options binding returned) =
        [some 'I', none, returned.spelling.toList.head?, some ' ', some '\x7d'] := by
  obtain ⟨newlines, made⟩ := lines_forwarder options forwardable
  refine ⟨newlines, ?_⟩
  have spelled : returned.spelling ≠ "" := by cases returned <;> decide
  rw [lineStarts, made, List.map_map]
  simp (disch := simp [spelled]) only [forwarderLines, importText, prototypeText, List.map_cons,
    List.map_nil, Function.comp_apply, head?_append]
  rfl

/-! ### Wrappers and the support text -/

theorem controls_handleName {name : String} (valid : isIdentifier name = true) :
    controls (handleName name) = [] := by
  rw [handleName, controls_append, controls_name valid]
  rfl

theorem controls_lookupCall (moduleFile namespaceName typeName methodName : String) :
    controls (lookupCall moduleFile namespaceName typeName methodName) = [] := by
  unfold lookupCall
  simp only [controls_append, controls_stringLiteral]
  decide +kernel

theorem wrapperLines_clean {binding : ExportBinding} (wrappable : Wrappable binding) :
    ∀ line ∈ wrapperLines binding, controls line = [] := by
  rw [← List.flatMap_eq_nil_iff]
  simp only [wrapperLines, List.flatMap_cons, controls_append, controls_stringLiteral,
    controls_lookupCall, controls_name wrappable.name, controls_handleName wrappable.name]
  simp only [controls]
  repeat rw [String.toList_ofList]
  decide +kernel

theorem supportLines_clean (printer : ExceptionPrinter) :
    ∀ line ∈ supportLines printer, controls line = [] := by
  rw [← List.flatMap_eq_nil_iff]
  simp only [supportLines, List.flatMap_cons, controls_append, controls_stringLiteral,
    controls_lookupCall]
  -- every line that is left is a literal, and `rw` finds the characters it is made of
  simp only [controls]
  repeat rw [String.toList_ofList]
  decide +kernel

theorem supportLines_starts (printer other : ExceptionPrinter) :
    (supportLines printer).map (·.toList.head?) = (supportLines other).map (·.toList.head?) := by
  simp (disch := simp) only [supportLines, List.map_cons, head?_append]

theorem wrapperLines_starts (binding other : ExportBinding) :
    (wrapperLines binding).map (·.toList.head?) = (wrapperLines other).map (·.toList.head?) := by
  simp (disch := simp) only [wrapperLines, List.map_cons, head?_append]

theorem wrapper_lines {binding other : ExportBinding} (wrappable : Wrappable binding)
    (otherWrappable : Wrappable other) :
    controls (wrapper binding) = List.replicate 17 '\n' ∧
      lineStarts (wrapper binding) = lineStarts (wrapper other) := by
  have clean := wrapperLines_clean wrappable
  refine ⟨(lines_unlines clean).1, ?_⟩
  rw [wrapper, wrapper, lineStarts_unlines clean,
    lineStarts_unlines (wrapperLines_clean otherWrappable), wrapperLines_starts binding other]

theorem supportText_lines (printer other : ExceptionPrinter) :
    controls (supportText printer) = List.replicate 75 '\n' ∧
      lineStarts (supportText printer) = lineStarts (supportText other) := by
  have clean := supportLines_clean printer
  refine ⟨(lines_unlines clean).1, ?_⟩
  rw [supportText, supportText, lineStarts_unlines clean,
    lineStarts_unlines (supportLines_clean other), supportLines_starts printer other]

/-! ### Files -/

theorem endLine_cases (header : String) :
    endLine header = "" ∨ ∃ before, endLine header = before ++ "\n" := by
  rw [endLine]
  split
  · next ended =>
    rw [Bool.or_eq_true, decide_eq_true_eq, decide_eq_true_eq] at ended
    refine ended.imp_right fun last => ⟨String.ofList header.toList.dropLast, ?_⟩
    apply String.toList_inj.mp
    rw [String.toList_append, String.toList_ofList]
    exact (List.dropLast_append_getLast? '\n' last).symm
  · exact Or.inr ⟨header, rfl⟩

theorem lines_infix_fileText {header text : String} {blocks : List String}
    (member : text ∈ blocks) : lines text <:+: lines (fileText header blocks) := by
  have inBody : lines text <:+: lines ("\n".intercalate (blocks.map (· ++ "\n"))) := by
    rw [lines_blocks (List.ne_nil_of_mem member)]
    exact (infix_intercalate (List.mem_map_of_mem member)).trans (List.prefix_append _ _).isInfix
  rw [fileText]
  rcases endLine_cases header with empty | ⟨before, ended⟩
  · rwa [empty, String.empty_append]
  · rw [ended, lines_append_newline]
    exact inBody.trans (List.suffix_append _ _).isInfix

theorem ModuleRuling.exists_file_lines {module : ModuleRuling} (hasFile : module.hasFile = true)
    (options : Options) (boilerplate : String) :
    ∃ file, module.file? options boilerplate = some file ∧
      file.name = options.fileName module.hostModule ∧
        ∀ ruling ∈ module.rulings, lines (block options ruling) <:+: lines file.content := by
  refine ⟨_, if_pos hasFile, rfl, fun ruling member => ?_⟩
  exact lines_infix_fileText (List.mem_map_of_mem member)

theorem controls_errorMarker (message : String) : controls (errorMarker message) = [] := by
  rw [errorMarker, controls_append, controls_stringLiteral]
  decide

structure FixedLines (options : Options) : Prop where
  forwarder : ∀ symbols binding returned, checkImport symbols binding = .ok returned →
    let text := block options (ruleImport symbols binding)
    controls text = List.replicate 4 '\n' ∧
      lineStarts text = [some 'I', none, returned.spelling.toList.head?, some ' ', some '\x7d']
  marker : ∀ symbols binding diagnostic, checkImport symbols binding = .error diagnostic →
    let text := block options (ruleImport symbols binding)
    controls text = [] ∧ lines text = [text.toList] ∧ "#error ".toList <+: text.toList
  wrapper : ∀ symbols binding, checkExport symbols binding = .ok () →
    ∀ otherSymbols other, checkExport otherSymbols other = .ok () →
      controls (wrapper binding) = List.replicate 17 '\n' ∧
        lineStarts (wrapper binding) = lineStarts (wrapper other)
  support : ∀ printer other, controls (supportText printer) = List.replicate 75 '\n' ∧
    lineStarts (supportText printer) = lineStarts (supportText other)
  inFile : ∀ boilerplate exports imports,
    ∀ module ∈ (planImports options .runtime imports).modules, module.hasFile = true →
      ∃ file ∈ (generate options boilerplate exports imports).files,
        file.name = options.fileName module.hostModule ∧
          ∀ ruling ∈ module.rulings, lines (block options ruling) <:+: lines file.content

theorem generated_fixedLines (options : Options) : FixedLines options := by
  constructor
  case forwarder =>
    intro symbols binding returned accepted
    have text : block options (ruleImport symbols binding) =
        forwarder options binding returned := by
      simp only [block, ruleImport, accepted]
    rw [text]
    exact forwarder_lines (checkImport_eq_ok_iff.mp accepted).1
  case marker =>
    intro symbols binding diagnostic objected
    have text : block options (ruleImport symbols binding) = errorMarker diagnostic.message := by
      simp only [block, ruleImport, objected]
    have clean := controls_errorMarker diagnostic.message
    rw [text]
    refine ⟨clean, lines_eq_singleton clean, ?_⟩
    rw [errorMarker, String.toList_append]
    exact List.prefix_append _ _
  case wrapper =>
    intro symbols binding accepted otherSymbols other otherAccepted
    exact wrapper_lines (checkExport_eq_ok_iff.mp accepted).1
      (checkExport_eq_ok_iff.mp otherAccepted).1
  case support => exact supportText_lines
  case inFile =>
    intro boilerplate exports imports module listed hasFile
    obtain ⟨file, found, named, holds⟩ := module.exists_file_lines hasFile options boilerplate
    refine ⟨file, ?_, named, holds⟩
    rw [generate_files]
    exact List.mem_append_left _ (ImportPlan.mem_files listed found)

def hostileImport (returnType : TypeRef) : ImportBinding where
  method := ⟨"App.dll\n#undef NULL", "", "Api\"\n#include \"", "Run", [], returnType⟩
  hostModule := "host\r\n#error \\"
  entryPoint := some "run"

theorem generated_fixedLines_hostile :
    controls (block .standard (ruleImport .runtime (hostileImport .void))) =
        List.replicate 4 '\n' ∧
      controls (block .standard (ruleImport .runtime (hostileImport ⟨"\n#error"⟩))) = [] :=
  ⟨((generated_fixedLines .standard).forwarder _ _ .void (by decide +kernel)).1,
    ((generated_fixedLines .standard).marker _ _ _ (by rfl)).1⟩

end Glue

end GuestGlue
