/-
What the forwarder of an import says as C.  Its text stands in the file of the host
module, and reading it gives a declaration and a function that calls it.  The call
reaches the declared function, with the parameters in order, exactly if the names of the
parameters are distinct and none of them is that function's.
-/

import GuestGlue.Proofs.CSource.Functions
import GuestGlue.Proofs.Glue.Layout
import Mathlib.Data.List.Infix

namespace GuestGlue.Glue

open CSource

/-! ### The functions of a forwarder -/

def cParameter? (parameter : Parameter) : Option CParameter :=
  parameter.type.primitive?.map fun primitive => ⟨primitive.spelling, parameter.name⟩

def cParameters (binding : ImportBinding) : List CParameter :=
  binding.method.parameters.filterMap cParameter?

def parameterNames (binding : ImportBinding) : List String :=
  binding.method.parameters.map (·.name)

def forwarding (binding : ImportBinding) (returned : Primitive) : Forwarding where
  declared := ⟨returned.spelling, rawName binding.functionName, cParameters binding⟩
  defined := ⟨returned.spelling, binding.functionName, cParameters binding⟩
  returns := !returned.isVoid
  call := ⟨rawName binding.functionName, parameterNames binding⟩

theorem cParameters_names {binding : ImportBinding} {returned : Primitive}
    (forwardable : Forwardable binding returned) :
    (cParameters binding).map (·.name) = parameterNames binding := by
  rw [cParameters, List.map_filterMap, parameterNames, ← List.filterMap_eq_map]
  refine List.filterMap_congr fun parameter member => ?_
  have typed := forwardable.parameters parameter member
  unfold TypeRef.isParameter at typed
  cases found : parameter.type.primitive? with
  | none => simp [found] at typed
  | some primitive => simp [cParameter?, found]

/-- The call in the body is what it looks like exactly if no parameter gets in its way. -/
theorem forwarding_wellScoped_iff {binding : ImportBinding} {returned : Primitive}
    (forwardable : Forwardable binding returned) :
    (forwarding binding returned).WellScoped ↔
      (parameterNames binding).Nodup ∧ rawName binding.functionName ∉ parameterNames binding := by
  have names : (forwarding binding returned).defined.parameters.map (·.name) =
      parameterNames binding :=
    cParameters_names forwardable
  constructor
  · intro wellScoped
    have reached := Prototype.resolve_eq_global_iff.mp wellScoped.callee
    have distinct := wellScoped.distinct
    rw [names] at reached distinct
    exact ⟨distinct, reached⟩
  · rintro ⟨distinct, apart⟩
    rw [← names] at distinct apart
    constructor
    case distinct => exact distinct
    case callee => exact Prototype.resolve_eq_global_iff.mpr apart
    case arguments =>
      exact (congrArg (List.map _) names.symm).trans (Prototype.resolve_parameters distinct)
    case types => rfl
    case returned => rfl

/-! ### Text -/

theorem isWord_spelling (primitive : Primitive) : IsWord primitive.spelling.toList := by
  cases primitive <;> decide

theorem isWord_rawName {name : String} (valid : isIdentifier name = true) :
    IsWord (rawName name).toList := by
  rw [rawName, String.toList_append]
  exact (isWord_of_isIdentifier valid).append (by decide)

theorem spells_spelling (primitive : Primitive) :
    Spells (primitive.spelling.toList ++ [' ']) [.word primitive.spelling] :=
  SpellsOpen.word (isWord_spelling primitive) ' ' [] [] (by decide) (by decide)

theorem spells_name {name : String} (isWord : IsWord name.toList) :
    Spells (name.toList ++ ['(']) [.word name, .mark '('] :=
  SpellsOpen.word isWord '(' [] [.mark '('] (by decide) (by decide)

theorem parameterList_spells {parameters : List Parameter}
    (named : ∀ parameter ∈ parameters, isIdentifier parameter.name = true) :
    SpellsOpen (parameterList parameters).toList
      ([Token.mark ','].intercalate
        ((parameters.filterMap cParameter?).map CParameter.tokens)) := by
  refine SpellsOpen.intercalate ?_
  induction parameters with
  | nil => exact List.Forall₂.nil
  | cons parameter rest ih =>
      obtain ⟨here, later⟩ := List.forall_mem_cons.mp named
      cases typed : parameter.type.primitive? with
      | none => simpa [parameterText, cParameter?, typed] using ih later
      | some primitive =>
          have read := SpellsOpen.prepend (spells_spelling primitive)
            (SpellsOpen.word (isWord_of_isIdentifier here))
          simp only [List.filterMap_cons, parameterText, cParameter?, typed, Option.map_some,
            List.map_cons]
          refine List.Forall₂.cons ?_ (ih later)
          rw [String.toList_append, String.toList_append]
          exact read

theorem argumentList_spells {parameters : List Parameter}
    (named : ∀ parameter ∈ parameters, isIdentifier parameter.name = true) :
    SpellsOpen (argumentList parameters).toList
      ([Token.mark ','].intercalate ((parameters.map (·.name)).map nameTokens)) := by
  refine SpellsOpen.intercalate ?_
  rw [List.map_map, List.forall₂_map_left_iff, List.forall₂_map_right_iff, List.forall₂_same]
  intro parameter member
  exact SpellsOpen.word (isWord_of_isIdentifier (named parameter member))

theorem spells_list {α : Type} {spelled : α → List Token} {items : List α} {text : String}
    (read : SpellsOpen text.toList ([Token.mark ','].intercalate (items.map spelled))) :
    Spells (text.toList ++ [')']) (listTokens spelled items) :=
  read ')' [] [.mark ')'] (by decide) (by decide)

def importText (options : Options) (binding : ImportBinding) : String :=
  "IMPORT(" ++ stringLiteral (options.importModule binding.hostModule) ++ ", " ++
    stringLiteral binding.functionName ++ ") extern "

def prototypeText (returned : Primitive) (name : String) (parameters : List Parameter) : String :=
  returned.spelling ++ " " ++ name ++ "(" ++ parameterList parameters ++ ")"

def returnText (returned : Primitive) : String :=
  if returned.isVoid then "" else "return "

def callText (name : String) (parameters : List Parameter) : String :=
  name ++ "(" ++ argumentList parameters ++ ")"

theorem spells_importText (options : Options) (binding : ImportBinding) :
    Spells (importText options binding).toList Forwarding.importTokens := by
  have opening : Spells "IMPORT(".toList [.word "IMPORT", .mark '('] := by decide
  have comma : Spells ", ".toList [.mark ','] := by decide
  have closing : Spells ") extern ".toList [.mark ')', .word "extern"] := by decide
  rw [importText, String.toList_append, String.toList_append, String.toList_append,
    String.toList_append]
  exact (((opening.append (spells_stringLiteral _)).append comma).append
    (spells_stringLiteral _)).append closing

theorem spells_prototypeText {binding : ImportBinding} {returned : Primitive} {name : String}
    (forwardable : Forwardable binding returned) (isWord : IsWord name.toList) :
    Spells (prototypeText returned name binding.method.parameters).toList
      (Prototype.tokens ⟨returned.spelling, name, cParameters binding⟩) := by
  have pieces : (prototypeText returned name binding.method.parameters).toList =
      returned.spelling.toList ++ [' '] ++ (name.toList ++ ['('] ++
        ((parameterList binding.method.parameters).toList ++ [')'])) := by
    simp [prototypeText]
  rw [pieces]
  exact (spells_spelling returned).append ((spells_name isWord).append
    (spells_list (parameterList_spells forwardable.parameterNames)))

theorem spells_returnText (returned : Primitive) :
    Spells (returnText returned).toList (Forwarding.returnTokens !returned.isVoid) := by
  cases returned <;> decide

theorem spells_callText {binding : ImportBinding} {returned : Primitive}
    (forwardable : Forwardable binding returned) :
    Spells (callText (rawName binding.functionName) binding.method.parameters).toList
      (forwarding binding returned).call.tokens := by
  have pieces : (callText (rawName binding.functionName) binding.method.parameters).toList =
      (rawName binding.functionName).toList ++ ['('] ++
        ((argumentList binding.method.parameters).toList ++ [')']) := by
    simp [callText]
  rw [pieces]
  exact (spells_name (isWord_rawName forwardable.name)).append
    (spells_list (argumentList_spells forwardable.parameterNames))

theorem forwarder_eq (options : Options) (binding : ImportBinding) (returned : Primitive) :
    forwarder options binding returned =
      importText options binding ++
        (prototypeText returned (rawName binding.functionName) binding.method.parameters ++
          (";\n\n" ++ (prototypeText returned binding.functionName binding.method.parameters ++
            (" \x7b\n    " ++ (returnText returned ++
              (callText (rawName binding.functionName) binding.method.parameters ++
                ";\n\x7d")))))) := by
  apply String.toList_inj.mp
  unfold forwarder importText prototypeText returnText callText
  simp only [String.toList_append, List.append_assoc]
  simp

theorem tokens_forwarder {options : Options} {binding : ImportBinding} {returned : Primitive}
    (forwardable : Forwardable binding returned) :
    tokens (forwarder options binding returned) = (forwarding binding returned).tokens := by
  have declared := spells_prototypeText forwardable (isWord_rawName forwardable.name)
  have defined := spells_prototypeText forwardable (isWord_of_isIdentifier forwardable.name)
  have declaredEnds : Spells ";\n\n".toList [.mark ';'] := by decide
  have bodyBegins : Spells " \x7b\n    ".toList [.mark '\x7b'] := by decide
  have bodyEnds : Spells ";\n\x7d".toList [.mark ';', .mark '\x7d'] := by decide
  refine tokens_of_spells ?_
  simp only [forwarder_eq, String.toList_append]
  rw [Forwarding.tokens]
  exact (spells_importText options binding).append (declared.append (declaredEnds.append
    (defined.append (bodyBegins.append ((spells_returnText returned).append
      ((spells_callText forwardable).append bodyEnds))))))

theorem rawName_ne_return (name : String) : rawName name ≠ "return" := by
  intro same
  have lengths := congrArg List.length (String.toList_inj.mpr same)
  have ending : "_import".toList.length = 7 := by decide
  have word : "return".toList.length = 6 := by decide
  rw [rawName, String.toList_append, List.length_append, ending, word] at lengths
  omega

theorem read?_forwarder {options : Options} {binding : ImportBinding} {returned : Primitive}
    (forwardable : Forwardable binding returned) :
    Forwarding.read? (tokens (forwarder options binding returned)) =
      some (forwarding binding returned) := by
  rw [tokens_forwarder forwardable]
  exact Forwarding.read?_tokens (rawName_ne_return binding.functionName)

/-! ### Files -/

theorem infix_intercalate {α : Type} {separator piece : List α} {pieces : List (List α)}
    (member : piece ∈ pieces) : piece <:+: separator.intercalate pieces := by
  induction pieces with
  | nil => cases member
  | cons first rest ih =>
      cases rest with
      | nil =>
          rw [List.intercalate_singleton, List.mem_singleton.mp member]
      | cons second more =>
          rw [List.intercalate_cons_cons]
          rcases List.mem_cons.mp member with rfl | later
          · exact ((List.prefix_append _ _).trans (List.prefix_append _ _)).isInfix
          · exact (ih later).trans (List.suffix_append _ _).isInfix

theorem infix_fileText {header text : String} {blocks : List String} (member : text ∈ blocks) :
    text.toList <:+: (fileText header blocks).toList := by
  have ended : text.toList ++ ['\n'] ∈ (blocks.map (· ++ "\n")).map String.toList := by
    rw [List.map_map]
    exact List.mem_map.mpr ⟨text, member, String.toList_append⟩
  rw [fileText, String.toList_append, String.toList_intercalate]
  exact ((List.prefix_append _ _).isInfix.trans (infix_intercalate ended)).trans
    (List.suffix_append _ _).isInfix

theorem ModuleRuling.exists_file {module : ModuleRuling} (hasFile : module.hasFile = true)
    (options : Options) (boilerplate : String) :
    ∃ file, module.file? options boilerplate = some file ∧
      file.name = options.fileName module.hostModule ∧
        ∀ ruling ∈ module.rulings, (block options ruling).toList <:+: file.content.toList := by
  refine ⟨_, if_pos hasFile, rfl, fun ruling member => ?_⟩
  exact infix_fileText (List.mem_map_of_mem member)

theorem ImportPlan.mem_files {plan : ImportPlan} {module : ModuleRuling} {options : Options}
    {boilerplate : String} {file : GlueFile} (listed : module ∈ plan.modules)
    (found : module.file? options boilerplate = some file) :
    file ∈ plan.files options boilerplate := by
  have made : file ∈ plan.modules.filterMap (·.file? options boilerplate) :=
    List.mem_filterMap.mpr ⟨module, listed, found⟩
  unfold ImportPlan.files
  simp only
  split
  · exact made
  · exact List.mem_append_left _ made

/-- A forwarded import has its forwarder in the file of its host module. -/
theorem planImports_forwarded {options : Options} {symbols : SymbolTable}
    {imports : List ImportBinding} {binding : ImportBinding} (boilerplate : String)
    (forwarded : binding ∈ (planImports options symbols imports).forwarded) :
    ∃ returned, Forwardable binding returned ∧
      ∃ file ∈ (planImports options symbols imports).files options boilerplate,
        file.name = options.fileName binding.hostModule ∧
          (forwarder options binding returned).toList <:+: file.content.toList := by
  obtain ⟨⟨ruledOn, outcome⟩, ruled, accepted⟩ := List.mem_filterMap.mp forwarded
  obtain ⟨module, listed, inModule, own, ⟨hasFile, table, checked⟩ | ⟨_, _, refusal, _, made⟩⟩ :=
    planImports_origin ruled
  · cases outcome with
    | error diagnostic => cases accepted
    | ok returned =>
        cases accepted
        obtain ⟨file, found, named, holds⟩ := module.exists_file hasFile options boilerplate
        have text : block options ⟨ruledOn, .ok returned⟩ = forwarder options ruledOn returned :=
          rfl
        refine ⟨returned, (checkImport_eq_ok_iff.mp checked.symm).1, file,
          ImportPlan.mem_files listed found, ?_, ?_⟩
        · exact named.trans (congrArg options.fileName own.symm)
        · rw [← text]
          exact holds _ inModule
  · rw [made] at accepted
    cases accepted

/-- A bridged import has its forwarder in the file of its host module.  Read as C, it is
well scoped exactly if the names of the parameters are distinct and none of them is the
name of the function it calls. -/
theorem generate_wellScoped_iff {options : Options} {boilerplate : String}
    {exports : List ExportBinding} {imports : List ImportBinding} {binding : ImportBinding}
    (bridged : binding ∈ (generate options boilerplate exports imports).imports) :
    ∃ returned, binding.method.returnType.primitive? = some returned ∧
      (∃ file ∈ (generate options boilerplate exports imports).files,
        file.name = options.fileName binding.hostModule ∧
          (forwarder options binding returned).toList <:+: file.content.toList) ∧
      Forwarding.read? (tokens (forwarder options binding returned)) =
        some (forwarding binding returned) ∧
      ((forwarding binding returned).WellScoped ↔
        (parameterNames binding).Nodup ∧
          rawName binding.functionName ∉ parameterNames binding) := by
  rw [generate_imports] at bridged
  obtain ⟨returned, forwardable, file, written, named, holds⟩ :=
    planImports_forwarded boilerplate bridged
  refine ⟨returned, forwardable.returns, ⟨file, ?_, named, holds⟩,
    read?_forwarder forwardable, forwarding_wellScoped_iff forwardable⟩
  rw [generate_files]
  exact List.mem_append_left _ written

def logImport (parameter : String) : ImportBinding where
  method := ⟨"App.dll", "", "Api", "Log", [⟨parameter, .ofPrimitive .i32⟩], .void⟩
  hostModule := "env"
  entryPoint := some "log"

theorem generate_wellScoped_iff_level :
    logImport "level" ∈ (generate .standard "" [] [logImport "level"]).imports ∧
      ∃ returned, (forwarding (logImport "level") returned).WellScoped := by
  have bridged : logImport "level" ∈ (generate .standard "" [] [logImport "level"]).imports := by
    decide +kernel
  obtain ⟨returned, _, _, _, wellScoped⟩ := generate_wellScoped_iff bridged
  exact ⟨bridged, returned, wellScoped.mpr ⟨by decide, by decide⟩⟩

/-- A parameter with the name of the declared function gets in the way of the call. -/
theorem generate_not_wellScoped :
    ¬∀ options boilerplate exports imports,
      ∀ binding ∈ (generate options boilerplate exports imports).imports,
        ∀ returned, binding.method.returnType.primitive? = some returned →
          ∀ read, Forwarding.read? (tokens (forwarder options binding returned)) = some read →
            read.WellScoped := by
  intro always
  have bridged : logImport "log_import" ∈
      (generate .standard "" [] [logImport "log_import"]).imports := by
    decide +kernel
  have forwardable : Forwardable (logImport "log_import") .void :=
    ⟨by decide, by decide, by decide, by decide⟩
  have wellScoped := always .standard "" [] [logImport "log_import"] _ bridged .void
    forwardable.returns _ (read?_forwarder forwardable)
  exact absurd wellScoped.callee (by decide)

end GuestGlue.Glue
