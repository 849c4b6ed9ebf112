/-
The signature of a forwarder, read off its text.  The declaration, the head of the function
and the call each have a line in which their brackets come last.  The lists in the brackets
are split at commas with a blank behind them, and an item of a parameter list can be read
in one way only, so the text gives back the types and names of all parameters in order.
-/

import GuestGlue.Proofs.Glue.Lines
import GuestGlue.Proofs.Text.Pieces

namespace GuestGlue

namespace CSource

/-! ### Lines that name a function -/

/-- A function as a line of text names it: the word in front of the name, the name, and what
stands in the brackets behind it and after them. -/
structure FunctionLine where
  before : String
  name : String
  inside : String
  after : String
  deriving DecidableEq, Repr

def FunctionLine.read? (line : List Char) : Option FunctionLine :=
  let head := ((line.reverse.dropWhile (· ≠ '(')).drop 1).reverse
  let tail := (line.reverse.takeWhile (· ≠ '(')).reverse
  let inside := String.ofList (tail.takeWhile (· ≠ ')'))
  let after := String.ofList ((tail.dropWhile (· ≠ ')')).drop 1)
  match (head.splitOn ' ').reverse with
  | name :: before :: _ => some ⟨String.ofList before, String.ofList name, inside, after⟩
  | _ => none

def FunctionLine.text (line : FunctionLine) : String :=
  line.before ++ " " ++ line.name ++ "(" ++ line.inside ++ ")" ++ line.after

structure FunctionLine.Readable (line : FunctionLine) : Prop where
  before : ' ' ∉ line.before.toList
  name : ' ' ∉ line.name.toList
  opened : '(' ∉ line.inside.toList
  closed : ')' ∉ line.inside.toList
  after : '(' ∉ line.after.toList

/-- A function is read from its line, if a blank parts it from what stands in front. -/
theorem FunctionLine.Readable.read? {line : FunctionLine} (readable : line.Readable)
    {front : String} (apart : front = "" ∨ front.toList.getLast? = some ' ') :
    FunctionLine.read? (front ++ line.text).toList = some line := by
  have characters : (front ++ line.text).toList =
      front.toList ++ line.before.toList ++ ' ' :: line.name.toList ++
        '(' :: (line.inside.toList ++ ')' :: line.after.toList) := by
    simp [FunctionLine.text]
  have unopened : '(' ∉ (line.inside.toList ++ ')' :: line.after.toList).reverse := by
    simp [readable.opened, readable.after]
  have words : ∃ others, ((front.toList ++ line.before.toList ++
      ' ' :: line.name.toList).splitOn ' ').reverse =
        line.name.toList :: line.before.toList :: others := by
    rw [List.splitOn_append_cons_self, List.splitOn_eq_singleton readable.name]
    rcases apart with rfl | parted
    · rw [String.toList_empty, List.nil_append, List.splitOn_eq_singleton readable.before]
      exact ⟨[], rfl⟩
    · rw [← List.dropLast_append_getLast? ' ' parted, List.append_assoc, List.singleton_append,
        List.splitOn_append_cons_self, List.splitOn_eq_singleton readable.before]
      exact ⟨(front.toList.dropLast.splitOn ' ').reverse, by simp⟩
  obtain ⟨others, words⟩ := words
  rw [characters, FunctionLine.read?, List.reverse_append, List.reverse_cons, List.append_assoc,
    List.singleton_append, Text.takeWhile_append_cons unopened, Text.dropWhile_append_cons unopened,
    List.reverse_reverse, Text.takeWhile_append_cons readable.closed,
    Text.dropWhile_append_cons readable.closed]
  simp only [List.drop_succ_cons, List.drop_zero, List.reverse_reverse, words,
    String.ofList_toList]

theorem notMem_of_isWord {text : List Char} {mark : Char} (isWord : IsWord text)
    (other : continuesIdentifier mark = false) : mark ∉ text := by
  intro member
  rw [List.all_eq_true.mp isWord.2 mark member] at other
  cases other

end CSource

namespace Glue

open CSource

/-! ### Parameters in a text -/

/-- The kind and the name of a parameter are the only ones that an item can be read as. -/
def ReadsAs (item : String) (parameter : Parameter) : Prop :=
  ∃ primitive, parameter.type.primitive? = some primitive ∧
    ∀ kind name, item = kind.spelling ++ " " ++ name ↔
      kind = primitive ∧ name = parameter.name

theorem spelling_injective : Function.Injective Primitive.spelling := by
  intro first second same
  have distinct : (Primitive.all.map Primitive.spelling).Nodup := by decide
  have listed : ∀ primitive, primitive ∈ Primitive.all := by
    intro primitive
    cases primitive <;> decide
  exact List.inj_on_of_nodup_map distinct (listed first) (listed second) same

theorem spelled_inj {first second : Primitive} {name other : String} :
    first.spelling ++ " " ++ name = second.spelling ++ " " ++ other ↔
      first = second ∧ name = other := by
  constructor
  · intro same
    have characters : ∀ (kind : Primitive) (name : String),
        (kind.spelling ++ " " ++ name).toList = kind.spelling.toList ++ ' ' :: name.toList := by
      simp
    have blank : ∀ kind : Primitive, ' ' ∉ kind.spelling.toList :=
      fun kind => notMem_of_isWord (isWord_spelling kind) (by decide)
    have alike := String.toList_inj.mpr same
    rw [characters, characters] at alike
    have kinds := congrArg (List.takeWhile (· ≠ ' ')) alike
    have names := congrArg (List.dropWhile (· ≠ ' ')) alike
    rw [Text.takeWhile_append_cons (blank first), Text.takeWhile_append_cons (blank second)] at kinds
    rw [Text.dropWhile_append_cons (blank first), Text.dropWhile_append_cons (blank second)] at names
    exact ⟨spelling_injective (String.toList_inj.mp kinds),
      String.toList_inj.mp (List.cons.inj names).2⟩
  · rintro ⟨rfl, rfl⟩
    rfl

theorem readsAs_parameterTexts {parameters : List Parameter}
    (typed : ∀ parameter ∈ parameters, parameter.type.isParameter = true) :
    List.Forall₂ ReadsAs (parameters.filterMap parameterText) parameters := by
  induction parameters with
  | nil => exact .nil
  | cons parameter rest ih =>
      obtain ⟨here, later⟩ := List.forall_mem_cons.mp typed
      obtain ⟨primitive, known, _⟩ := (Option.any_eq_true _ _).mp here
      have text : parameterText parameter = some (primitive.spelling ++ " " ++ parameter.name) := by
        rw [parameterText, known, Option.map_some]
      rw [List.filterMap_cons_some text]
      exact .cons ⟨primitive, known, fun kind name => spelled_inj.trans
        (and_congr eq_comm eq_comm)⟩ (ih later)

/-- Nothing that could end an item of a list or the list stands in an item. -/
theorem notMem_parameterText {parameter : Parameter} {item : String}
    (named : isIdentifier parameter.name = true) (written : parameterText parameter = some item)
    {mark : Char} (other : continuesIdentifier mark = false) (visible : mark ≠ ' ') :
    mark ∉ item.toList := by
  obtain ⟨primitive, _, rfl⟩ := Option.map_eq_some_iff.mp written
  have inSpelling := notMem_of_isWord (isWord_spelling primitive) other
  have inName := notMem_of_isWord (isWord_of_isIdentifier named) other
  simp [inSpelling, inName, visible]

section Lists

variable {parameters : List Parameter}
  (named : ∀ parameter ∈ parameters, isIdentifier parameter.name = true)

include named

theorem notMem_parameterTexts {mark : Char} (other : continuesIdentifier mark = false)
    (visible : mark ≠ ' ') :
    ∀ item ∈ parameters.filterMap parameterText, mark ∉ item.toList := by
  intro item member
  obtain ⟨parameter, present, written⟩ := List.mem_filterMap.mp member
  exact notMem_parameterText (named parameter present) written other visible

theorem notMem_names {mark : Char} (other : continuesIdentifier mark = false) :
    ∀ item ∈ parameters.map (·.name), mark ∉ item.toList :=
  List.forall_mem_map.mpr fun parameter member =>
    notMem_of_isWord (isWord_of_isIdentifier (named parameter member)) other

theorem listItems_parameterList :
    Text.listItems (parameterList parameters) = parameters.filterMap parameterText := by
  refine Text.listItems_intercalate ?_ (notMem_parameterTexts named (by decide) (by decide))
  intro item member
  obtain ⟨parameter, _, written⟩ := List.mem_filterMap.mp member
  obtain ⟨primitive, _, rfl⟩ := Option.map_eq_some_iff.mp written
  simp

theorem listItems_argumentList :
    Text.listItems (argumentList parameters) = parameters.map (·.name) := by
  refine Text.listItems_intercalate ?_ (notMem_names named (by decide))
  refine List.forall_mem_map.mpr fun parameter member empty => ?_
  exact (isWord_of_isIdentifier (named parameter member)).1 (by rw [empty]; rfl)

theorem notMem_parameterList {mark : Char} (other : continuesIdentifier mark = false)
    (visible : mark ∉ ", ".toList) : mark ∉ (parameterList parameters).toList := by
  have noBlank : mark ≠ ' ' := by
    rintro rfl
    exact visible (by decide)
  rw [parameterList, String.toList_intercalate]
  exact Text.notMem_intercalate visible
    (List.forall_mem_map.mpr (notMem_parameterTexts named other noBlank))

theorem notMem_argumentList {mark : Char} (other : continuesIdentifier mark = false)
    (visible : mark ∉ ", ".toList) : mark ∉ (argumentList parameters).toList := by
  rw [argumentList, String.toList_intercalate]
  exact Text.notMem_intercalate visible (List.forall_mem_map.mpr (notMem_names named other))

end Lists

/-! ### Forwarders -/

structure ForwarderText where
  declared : FunctionLine
  defined : FunctionLine
  call : FunctionLine

def ForwarderText.read? (text : String) : Option ForwarderText :=
  match lines text with
  | [declaration, [], definition, call, ['\x7d']] => do
      let declared ← FunctionLine.read? declaration
      let defined ← FunctionLine.read? definition
      let call ← FunctionLine.read? call
      return ⟨declared, defined, call⟩
  | _ => none

def declaredLine (binding : ImportBinding) (returned : Primitive) : FunctionLine :=
  ⟨returned.spelling, rawName binding.functionName, parameterList binding.method.parameters, ";"⟩

def definedLine (binding : ImportBinding) (returned : Primitive) : FunctionLine :=
  ⟨returned.spelling, binding.functionName, parameterList binding.method.parameters, " \x7b"⟩

def callLine (binding : ImportBinding) (returned : Primitive) : FunctionLine :=
  ⟨if returned.isVoid then "" else "return", rawName binding.functionName,
    argumentList binding.method.parameters, ";"⟩

theorem exists_callLine_text (binding : ImportBinding) (returned : Primitive) :
    ∃ front : String, front.toList.getLast? = some ' ' ∧
      "    " ++ (returnText returned ++
          (callText (rawName binding.functionName) binding.method.parameters ++ ";")) =
        front ++ (callLine binding returned).text := by
  unfold returnText callLine callText FunctionLine.text
  cases returned.isVoid with
  | true => exact ⟨"   ", by decide, String.toList_inj.mp (by simp)⟩
  | false => exact ⟨"    ", by decide, String.toList_inj.mp (by simp)⟩

section Lines

variable {binding : ImportBinding} {returned : Primitive}

theorem readable_prototype {name after : String} (isWord : IsWord name.toList)
    (ended : '(' ∉ after.toList) (forwardable : Forwardable binding returned) :
    FunctionLine.Readable ⟨returned.spelling, name,
      parameterList binding.method.parameters, after⟩ where
  before := notMem_of_isWord (isWord_spelling returned) (by decide)
  name := notMem_of_isWord isWord (by decide)
  opened := notMem_parameterList forwardable.parameterNames (by decide) (by decide)
  closed := notMem_parameterList forwardable.parameterNames (by decide) (by decide)
  after := ended

theorem readable_callLine (forwardable : Forwardable binding returned) :
    (callLine binding returned).Readable where
  before := by
    have words : ∀ isVoid : Bool, ' ' ∉ (if isVoid then "" else "return").toList := by decide
    exact words returned.isVoid
  name := notMem_of_isWord (isWord_rawName forwardable.name) (by decide)
  opened := notMem_argumentList forwardable.parameterNames (by decide) (by decide)
  closed := notMem_argumentList forwardable.parameterNames (by decide) (by decide)
  after := (by decide : '(' ∉ ";".toList)

/-- The lines of a forwarder that name functions, and what stands in front of two of them. -/
theorem lines_forwarder_eq (options : Options) (forwardable : Forwardable binding returned) :
    ∃ above indent : String, above.toList.getLast? = some ' ' ∧ indent.toList.getLast? = some ' ' ∧
      lines (forwarder options binding returned) =
        [(above ++ (declaredLine binding returned).text).toList, [],
          (definedLine binding returned).text.toList,
          (indent ++ (callLine binding returned).text).toList, ['\x7d']] := by
  obtain ⟨indent, indented, called⟩ := exists_callLine_text binding returned
  refine ⟨importText options binding, indent, ?_, indented, ?_⟩
  · have ends : ") extern ".toList.getLast? = some ' ' := by decide
    rw [importText, String.toList_append, List.getLast?_append, ends, Option.some_or]
  · have blank : "".toList = [] := by decide
    have closing : "\x7d".toList = ['\x7d'] := by decide
    rw [(lines_forwarder options forwardable).2, forwarderLines, called, ← closing, ← blank]
    rfl

theorem read?_forwarderText (options : Options) (forwardable : Forwardable binding returned) :
    ForwarderText.read? (forwarder options binding returned) =
      some ⟨declaredLine binding returned, definedLine binding returned,
        callLine binding returned⟩ := by
  obtain ⟨above, indent, parted, indented, made⟩ := lines_forwarder_eq options forwardable
  have declared := (readable_prototype (isWord_rawName forwardable.name)
    (by decide : '(' ∉ ";".toList) forwardable).read? (Or.inr parted)
  have defined := (readable_prototype (isWord_of_isIdentifier forwardable.name)
    (by decide : '(' ∉ " \x7b".toList) forwardable).read? (Or.inl rfl)
  have call := (readable_callLine forwardable).read? (Or.inr indented)
  rw [String.empty_append] at defined
  rw [ForwarderText.read?, made]
  exact Option.bind_eq_some_iff.mpr ⟨_, declared, Option.bind_eq_some_iff.mpr
    ⟨_, defined, Option.bind_eq_some_iff.mpr ⟨_, call, rfl⟩⟩⟩

end Lines

/-- A text with the signature of a method that returns this kind. -/
structure Mirrors (binding : ImportBinding) (returned : Primitive) (text : ForwarderText) :
    Prop where
  returnKind : binding.method.returnType.primitive? = some returned
  declaredName : text.declared.name = rawName binding.functionName
  definedName : text.defined.name = binding.functionName
  calledName : text.call.name = text.declared.name
  isDeclaration : text.declared.after = ";"
  isDefinition : text.defined.after = " \x7b"
  spelled : text.declared.before = returned.spelling
  sameReturn : text.defined.before = text.declared.before
  sameList : text.defined.inside = text.declared.inside
  parameters :
    List.Forall₂ ReadsAs (Text.listItems text.declared.inside) binding.method.parameters
  arguments : Text.listItems text.call.inside = parameterNames binding
  returns : text.call.before = if returned = .void then "" else "return"

/-- An import that is accepted is rendered with its signature. -/
theorem forwarder_mirrors_signature {symbols : SymbolTable} {binding : ImportBinding}
    {returned : Primitive} (options : Options)
    (accepted : checkImport symbols binding = .ok returned) :
    ∃ text, ForwarderText.read? (block options (ruleImport symbols binding)) = some text ∧
      Mirrors binding returned text := by
  obtain ⟨forwardable, _⟩ := checkImport_eq_ok_iff.mp accepted
  have rendered : block options (ruleImport symbols binding) =
      forwarder options binding returned := by
    rw [block, ruleImport, accepted]
  refine ⟨_, by rw [rendered, read?_forwarderText options forwardable], ?_⟩
  constructor
  case returnKind => exact forwardable.returns
  case declaredName => rfl
  case definedName => rfl
  case calledName => rfl
  case isDeclaration => rfl
  case isDefinition => rfl
  case spelled => rfl
  case sameReturn => rfl
  case sameList => rfl
  case parameters =>
    rw [declaredLine, listItems_parameterList forwardable.parameterNames]
    exact readsAs_parameterTexts forwardable.parameters
  case arguments => exact listItems_argumentList forwardable.parameterNames
  case returns => cases returned <;> rfl

/-- An import that takes a count and a factor and returns a number. -/
def scaleImport : ImportBinding where
  method := ⟨"App.dll", "", "Api", "Scale",
    [⟨"count", .ofPrimitive .i32⟩, ⟨"factor", .ofPrimitive .f64⟩], .ofPrimitive .i64⟩
  hostModule := "env (1)"
  entryPoint := some "scale"

theorem forwarder_mirrors_signature_scale :
    checkImport .runtime scaleImport = .ok .i64 ∧
      ∃ text, ForwarderText.read? (block .standard (ruleImport .runtime scaleImport)) = some text ∧
        Mirrors scaleImport .i64 text := by
  have accepted : checkImport .runtime scaleImport = .ok .i64 := by rfl
  exact ⟨accepted, forwarder_mirrors_signature .standard accepted⟩

end Glue

end GuestGlue
