/-
Configurations and what their texts say.  The options of a configuration are kept until
its own members were taken out, and then read as a record; that they are read as they
would be directly follows from what both readers understand.
-/

import GuestGlue.Codec.Config
import GuestGlue.Proofs.Json.Fields
import GuestGlue.Proofs.Json.Lexemes
import GuestGlue.Proofs.Json.Written
import GuestGlue.Proofs.NameMap

namespace GuestGlue.Codec

open Json

/-! ### Exception printers -/

def printerColumns : List (Column PrinterEntry ExceptionPrinter) := [
  stringColumn "module_file" (some ExceptionPrinter.standard.moduleFile) (·.moduleFile)
    .moduleFile PrinterEntry.moduleFile? fun _ => rfl,
  stringColumn "namespace" (some ExceptionPrinter.standard.namespaceName) (·.namespaceName)
    .namespaceName PrinterEntry.namespaceName? fun _ => rfl,
  stringColumn "type_name" (some ExceptionPrinter.standard.typeName) (·.typeName)
    .typeName PrinterEntry.typeName? fun _ => rfl,
  stringColumn "method" (some ExceptionPrinter.standard.methodName) (·.methodName)
    .methodName PrinterEntry.methodName? fun _ => rfl]

theorem printerTable : Table printerRecord printerColumns where
  fields := rfl
  apart := by
    simp [printerColumns, stringColumn, Column.Apart, PrinterEntry.moduleFile?,
      PrinterEntry.namespaceName?, PrinterEntry.typeName?, PrinterEntry.methodName?]
  made := by
    intro entries printer
    obtain ⟨moduleFile, namespaceName, typeName, methodName⟩ := printer
    simp [printerRecord, printerColumns, stringColumn, makePrinter, Column.Filled, defaulted,
      -Option.or_eq_some_iff]

def describesPrinter : Description ExceptionPrinter :=
  .record (printerColumns.map Column.toSlot)

/-! ### Options -/

def describesAliases : Description (NameMap String) := fun depth tree aliases =>
  ∃ targets, Description.members .string depth tree targets ∧
    ∀ name, aliases.find? name = targets.reverse.lookup name

theorem understands_aliases : Understands decodeAliases describesAliases where
  whole := by
    intro node aliases decoded
    obtain ⟨targets, read, _⟩ := map_ok_iff.mp decoded
    exact understands_string.members.whole read
  iff := by
    intro depth tree node holds aliases
    have answers : ∀ targets, NameMap.ofList targets = aliases ↔
        ∀ name, aliases.find? name = targets.reverse.lookup name := by
      intro targets
      constructor
      · rintro rfl
        exact NameMap.find?_ofList targets
      · intro found
        apply NameMap.ext_find?
        intro name
        rw [NameMap.find?_ofList, found]
    simp only [decodeAliases, map_ok_iff, understands_string.members.iff holds, answers,
      describesAliases]

def optionsColumns (reading : Reading) : List (Column OptionsEntry Options) := [
  stringColumn "reserved_module" (some Options.standard.reservedModule) (·.reservedModule)
    .reservedModule OptionsEntry.reservedModule? fun _ => rfl,
  stringColumn "extension" (some Options.standard.extension) (·.extension)
    .extension OptionsEntry.extension? fun _ => rfl,
  stringColumn "exports_stem" (some Options.standard.exportsStem) (·.exportsStem)
    .exportsStem OptionsEntry.exportsStem? fun _ => rfl,
  { name := "module_aliases", Value := NameMap String, describes := describesAliases
    default := some Options.standard.moduleAliases, get := (·.moduleAliases)
    decode := decodeAliases, wrap := .moduleAliases, select := OptionsEntry.moduleAliases?
    understands := understands_aliases, selects := fun _ => rfl },
  { name := "exception_printer", Value := ExceptionPrinter, describes := describesPrinter
    default := some Options.standard.exceptionPrinter, get := (·.exceptionPrinter)
    decode := printerRecord.decode reading, wrap := .exceptionPrinter
    select := OptionsEntry.exceptionPrinter?
    understands := printerTable.understands reading, selects := fun _ => rfl }]

theorem optionsTable (reading : Reading) :
    Table (optionsRecord reading) (optionsColumns reading) where
  fields := rfl
  apart := by
    simp [optionsColumns, stringColumn, Column.Apart, OptionsEntry.reservedModule?,
      OptionsEntry.extension?, OptionsEntry.exportsStem?, OptionsEntry.moduleAliases?,
      OptionsEntry.exceptionPrinter?]
  made := by
    intro entries options
    obtain ⟨reservedModule, extension, exportsStem, moduleAliases, exceptionPrinter⟩ := options
    simp [optionsRecord, optionsColumns, stringColumn, makeOptions, Column.Filled, defaulted,
      -Option.or_eq_some_iff]

def describesOptions : Description Options :=
  .record ((optionsColumns .direct).map Column.toSlot)

/-- Kept options are described like those that are read as they stand. -/
theorem understands_options (reading : Reading) :
    Understands ((optionsRecord reading).decode reading) describesOptions :=
  (optionsTable reading).understands reading

/-! ### Configurations -/

theorem understands_path : Understands decodePath (.as .string Path.text) :=
  (understands_stringAs "path string").map fun part path => by
    obtain ⟨text⟩ := path
    simp

def Own (member : Option String × Tree) : Prop :=
  member.1 = some "references" ∨ member.1 = some "module_dir"

/-- The members of a configuration that are its own come to these values, behind those
that were read before; members of other names can be kept. -/
def Comes (depth : Nat) (references? : Option (List String)) (directory? : Option (Option Path))
    (members : List (Option String × Tree)) (references : List String) (directory : Option Path) :
    Prop :=
  (∀ member ∈ members, member.1.isSome = true) ∧
    (∀ member ∈ members, ¬ Own member → member.2.Readable depth) ∧
    Takes (.list .string) (some []) depth references references? (valuesOf "references" members) ∧
    Takes (.option (.as .string Path.text)) (some none) depth directory directory?
      (valuesOf "module_dir" members)

/-- A configuration in a document: its own members, and those of its options. -/
def describesConfig : Description Config
  | depth, .object members, config =>
      (∃ references, Comes (depth + 1) none none members references config.moduleDirectory ∧
        NameSet.ofList references = config.references) ∧
      describesOptions depth (.object members) config.options
  | _, _, _ => False

theorem splitConfig_whole {references? : Option (List String)} {directory? : Option (Option Path)}
    {members : Members} {read : ConfigParts × Place}
    (split : splitConfig references? directory? members = .ok read) : members.whole = true := by
  fun_induction splitConfig references? directory? members generalizing read with
  | case1 => rfl
  | case2 => cases split
  | case3 => cases split
  | case4 => cases split
  | case5 => cases split
  | case6 _ _ _ _ value rest _ references held ih =>
    rw [Members.whole, understands_string.list.whole held, ih split, Bool.and_self]
  | case7 => cases split
  | case8 => cases split
  | case9 _ _ _ _ value rest _ directory held _ ih =>
    rw [Members.whole, understands_path.option.whole held, ih split, Bool.and_self]
  | case10 => cases split
  | case11 _ _ _ _ _ value rest _ _ readable _ _ splitRest ih =>
    rw [Members.whole, value.whole_of_readable readable, ih splitRest, Bool.and_self]
  | case12 => cases split

theorem splitConfig_kept {depth : Nat} {trees : List (Option String × Tree)} {members : Members}
    (hold : Members.Hold depth trees members) {references? : Option (List String)}
    {directory? : Option (Option Path)} {parts : ConfigParts} {stop : Place}
    (split : splitConfig references? directory? members = .ok (parts, stop)) :
    ∃ kept, Members.Hold depth kept parts.kept ∧ (∀ member ∈ kept, member.1.isSome = true) ∧
      ∀ name, name ≠ "references" → name ≠ "module_dir" → valuesOf name kept = valuesOf name trees := by
  fun_induction splitConfig references? directory? members generalizing trees parts stop with
  | case1 =>
    cases hold
    cases split
    exact ⟨[], .closed, List.forall_mem_nil _, fun _ _ _ => rfl⟩
  | case2 => cases split
  | case3 => cases split
  | case4 => cases split
  | case5 => cases split
  | case6 _ _ _ _ value rest _ references read ih =>
    cases hold with
    | cons first others =>
        obtain ⟨kept, holdKept, keys, values⟩ := ih others split
        refine ⟨kept, holdKept, keys, fun name other apart => ?_⟩
        rw [values name other apart, valuesOf_cons_of_ne (by simpa using other.symm)]
  | case7 => cases split
  | case8 => cases split
  | case9 _ _ _ _ value rest _ directory read _ ih =>
    cases hold with
    | cons first others =>
        obtain ⟨kept, holdKept, keys, values⟩ := ih others split
        refine ⟨kept, holdKept, keys, fun name other apart => ?_⟩
        rw [values name other apart, valuesOf_cons_of_ne (by simpa using apart.symm)]
  | case10 => cases split
  | case11 _ _ key _ _ value rest _ _ readable parts stop splitRest ih =>
    cases split
    cases hold with
    | @cons _ _ tree trees _ _ _ _ first others =>
        obtain ⟨kept, holdKept, keys, values⟩ := ih others splitRest
        refine ⟨(some key, tree) :: kept, .cons first holdKept, ?_, fun name other apart => ?_⟩
        · exact List.forall_mem_cons.mpr ⟨rfl, keys⟩
        · exact valuesOf_cons_congr (values name other apart) _
  | case12 => cases split

/-- A member of another name has to be readable, and says nothing. -/
theorem comes_cons_iff {depth : Nat} {references? : Option (List String)}
    {directory? : Option (Option Path)} {key : String} (noReferences : key ≠ "references")
    (noDirectory : key ≠ "module_dir") {tree : Tree} {trees : List (Option String × Tree)}
    {references : List String} {directory : Option Path} :
    Comes depth references? directory? ((some key, tree) :: trees) references directory ↔
      tree.Readable depth ∧ Comes depth references? directory? trees references directory := by
  have other : ¬ Own (some key, tree) := by
    simp [Own, noReferences, noDirectory]
  have values : ∀ name, name = "references" ∨ name = "module_dir" →
      valuesOf name ((some key, tree) :: trees) = valuesOf name trees := by
    rintro name (rfl | rfl)
    · exact valuesOf_cons_of_ne (by simpa using noReferences) tree trees
    · exact valuesOf_cons_of_ne (by simpa using noDirectory) tree trees
  simp [Comes, other, values, and_assoc, and_left_comm]

/-- A configuration's own members are split off exactly if they come to something. -/
theorem splitConfig_iff {depth : Nat} {trees : List (Option String × Tree)} {members : Members}
    (hold : Members.Hold depth trees members) (references? : Option (List String))
    (directory? : Option (Option Path)) (references : List String) (directory : Option Path) :
    (∃ parts stop, splitConfig references? directory? members = .ok (parts, stop) ∧
        parts.references?.getD [] = references ∧ parts.moduleDirectory?.getD none = directory) ↔
      Comes depth references? directory? trees references directory := by
  fun_induction splitConfig references? directory? members generalizing trees with
  | case1 references? directory? =>
    cases hold
    cases references? <;> cases directory? <;> simp [Comes, valuesOf, Takes]
  | case2 => cases hold
  | case3 =>
    cases hold
    simp [Comes]
  | case4 references? _ _ _ value rest again =>
    cases hold
    obtain ⟨held, rfl⟩ := Option.isSome_iff_exists.mp again
    simp [Comes, valuesOf_cons_self, Takes]
  | case5 references? _ _ _ value rest fresh error failed =>
    cases Option.not_isSome_iff_eq_none.mp fresh
    cases hold with
    | cons first others =>
        simp [Comes, valuesOf_cons_self, takes_cons_iff understands_string.list first, failed]
  | case6 references? _ _ _ value rest fresh names read ih =>
    cases Option.not_isSome_iff_eq_none.mp fresh
    cases hold with
    | cons first others =>
        rw [ih others]
        simp [Comes, Own, valuesOf_cons_self, valuesOf_cons_of_ne,
          takes_cons_iff understands_string.list first, read]
  | case7 _ directory? _ _ value rest again =>
    cases hold
    obtain ⟨held, rfl⟩ := Option.isSome_iff_exists.mp again
    simp [Comes, valuesOf_cons_self, Takes]
  | case8 _ directory? _ _ value rest fresh error failed =>
    cases Option.not_isSome_iff_eq_none.mp fresh
    cases hold with
    | cons first others =>
        simp [Comes, valuesOf_cons_self, takes_cons_iff understands_path.option first, failed]
  | case9 _ directory? _ _ value rest fresh path read _ ih =>
    cases Option.not_isSome_iff_eq_none.mp fresh
    cases hold with
    | cons first others =>
        rw [ih others]
        simp [Comes, Own, valuesOf_cons_self, valuesOf_cons_of_ne,
          takes_cons_iff understands_path.option first, read]
  | case10 _ _ key _ _ value rest noReferences noDirectory readable error failed ih =>
    cases hold with
    | cons first others =>
        rw [comes_cons_iff noReferences noDirectory, ← ih others, failed]
        simp
  | case11 _ _ key _ _ value rest noReferences noDirectory readable parts stop splitRest ih =>
    cases hold with
    | cons first others =>
        have inside := ih others
        rw [splitRest] at inside
        rw [comes_cons_iff noReferences noDirectory, ← inside]
        simp [first.readable_iff.mp readable]
  | case12 _ _ key _ _ value rest noReferences noDirectory unreadable =>
    cases hold with
    | cons first others =>
        rw [first.readable_iff] at unreadable
        simp [comes_cons_iff noReferences noDirectory, unreadable]

theorem decodeConfig_object_ok_iff {start : Place} {depth : Nat} {members : Members}
    {config : Config} :
    decodeConfig (.object start depth members) = .ok config ↔
      ∃ parts stop, splitConfig none none members = .ok (parts, stop) ∧
        (optionsRecord .kept).decode .kept (.object start depth parts.kept) = .ok config.options ∧
        NameSet.ofList (parts.references?.getD []) = config.references ∧
        parts.moduleDirectory?.getD none = config.moduleDirectory := by
  obtain ⟨options, references, directory⟩ := config
  rw [decodeConfig]
  cases splitConfig none none members with
  | error error => simp
  | ok read =>
      obtain ⟨parts, stop⟩ := read
      dsimp only
      cases decoded : (optionsRecord .kept).decode .kept (.object start depth parts.kept) with
      | error error => simp [decoded]
      | ok found => simp [decoded]

theorem understands_config : Understands decodeConfig describesConfig where
  whole := by
    intro node config decoded
    cases node with
    | object start depth members =>
        obtain ⟨parts, stop, split, _⟩ := decodeConfig_object_ok_iff.mp decoded
        exact splitConfig_whole split
    | _ => cases decoded
  iff := by
    intro depth tree node holds config
    cases holds with
    | @object _ trees start members hold =>
        have names : ∀ field ∈ (optionsColumns .direct).map Column.toSlot,
            field.name ≠ "references" ∧ field.name ≠ "module_dir" := by
          simp [optionsColumns, stringColumn]
        -- what is kept describes the same options as the whole object
        have options : ∀ parts stop, splitConfig none none members = .ok (parts, stop) →
            (∀ member ∈ trees, member.1.isSome = true) →
              ((optionsRecord .kept).decode .kept (.object start depth parts.kept) =
                  .ok config.options ↔
                describesOptions depth (.object trees) config.options) := by
          intro parts stop split keys
          obtain ⟨kept, holdKept, keysKept, values⟩ := splitConfig_kept hold split
          rw [(understands_options .kept).iff (.object holdKept)]
          apply Description.record_object_congr keysKept keys
          intro field member
          exact values field.name (names field member).1 (names field member).2
        rw [decodeConfig_object_ok_iff]
        constructor
        · rintro ⟨parts, stop, split, decoded, references, directory⟩
          have comes := (splitConfig_iff hold none none _ _).mp ⟨parts, stop, split, rfl, rfl⟩
          rw [directory] at comes
          exact ⟨⟨_, comes, references⟩, (options parts stop split comes.1).mp decoded⟩
        · rintro ⟨⟨names, comes, references⟩, described⟩
          obtain ⟨parts, stop, split, rfl, directory⟩ :=
            (splitConfig_iff hold none none _ _).mpr comes
          exact ⟨parts, stop, split, (options parts stop split comes.1).mpr described, references,
            directory⟩
    | _ => exact iff_of_false nofun nofun

/-! ### Configurations that were written -/

theorem describes_strings (depth : Nat) (names : List String) :
    Description.list .string depth (Value.array (names.map .string)).tree names := by
  rw [Value.tree, treesOfItems_eq, List.map_map, Description.list, List.forall₂_map_left_iff,
    List.forall₂_same]
  exact fun _ _ => rfl

theorem describes_aliasesValue (depth : Nat) (aliases : NameMap String) :
    describesAliases depth (aliasesValue aliases).tree aliases := by
  refine ⟨aliases.entries, ?_, fun name => ?_⟩
  · rw [aliasesValue, Value.tree, treesOfMembers_eq, List.map_map, Description.members,
      List.forall₂_map_left_iff, List.forall₂_same]
    exact fun _ _ => ⟨rfl, rfl⟩
  · rw [← NameMap.find?_ofList, NameMap.ofList_entries]

theorem describes_encodePrinter (depth : Nat) (printer : ExceptionPrinter) :
    describesPrinter depth (encodePrinter printer).tree printer := by
  simp [describesPrinter, Description.record, encodePrinter, Value.tree, treesOfMembers,
    printerColumns, stringColumn, valuesOf, Slot.Given, Description.string]

theorem readable_string (depth : Nat) (value : String) : (Value.string value).tree.Readable depth :=
  .string

theorem readable_aliasesValue {depth : Nat} (shallow : depth < depthLimit)
    (aliases : NameMap String) : (aliasesValue aliases).tree.Readable depth := by
  rw [aliasesValue, Value.tree, treesOfMembers_eq, List.map_map]
  refine .object shallow ?_ ?_
  · rw [List.forall_mem_map]
    exact fun _ _ => rfl
  · rw [List.forall_mem_map]
    exact fun entry _ => readable_string (depth + 1) entry.2

theorem readable_encodePrinter {depth : Nat} (shallow : depth < depthLimit)
    (printer : ExceptionPrinter) : (encodePrinter printer).tree.Readable depth := by
  rw [encodePrinter, Value.tree, treesOfMembers_eq]
  refine .object shallow ?_ ?_
  · simp
  · simp [readable_string]

theorem describes_encodeConfig (config : Config) :
    describesConfig 0 (encodeConfig config).tree config := by
  obtain ⟨options, references, directory⟩ := config
  have string : ∀ value, Description.string 1 (Value.string value).tree value := fun _ => rfl
  have shallow : 1 < depthLimit := by decide
  have listed := describes_strings 1 references.toList
  have whole := references.ofList_toList
  rw [encodeConfig, encodeOptionsMembers, Value.tree, treesOfMembers_eq]
  cases directory with
  | none =>
    simp [describesConfig, Comes, Own, Takes, describesOptions, Description.record, optionsColumns,
      stringColumn, valuesOf, Slot.Given, optionalMember, string, readable_string,
      readable_aliasesValue shallow, readable_encodePrinter shallow, describes_aliasesValue,
      describes_encodePrinter]
    exact ⟨_, listed, whole⟩
  | some directory =>
    have path : Description.option (.as .string Path.text) 1 (Value.string directory.text).tree
        (some directory) :=
      ⟨directory, rfl, rfl⟩
    simp [describesConfig, Comes, Own, Takes, describesOptions, Description.record, optionsColumns,
      stringColumn, valuesOf, Slot.Given, optionalMember, string, readable_string,
      readable_aliasesValue shallow, readable_encodePrinter shallow, describes_aliasesValue,
      describes_encodePrinter, path]
    exact ⟨_, listed, whole⟩

end GuestGlue.Codec

namespace GuestGlue.Config

open Codec Json

/-- A configuration is read back as it was written.  And a text that is read as a
configuration holds an object; options are read from it directly as well, and they are the
configuration's: those that are left out are the standard ones, also inside a printer, and
the others are what stands in the text. -/
theorem ofJson_options (config : Config) :
    (Config.ofJson (encodeConfig config).compact = .ok config ∧
      Config.ofJson (encodeConfig config).pretty = .ok config) ∧
    ∀ text, Config.ofJson text = .ok config →
      decodeText decodeOptions text = .ok config.options ∧
      (∃ members, (Tree.object members).WrittenAs text) ∧
      ∀ tree : Tree, tree.WrittenAs text → describesOptions 0 tree config.options := by
  have described := describes_encodeConfig config
  refine ⟨⟨?_, ?_⟩, fun text accepted => ?_⟩
  · exact (understands_config.decodeText_of_written (writtenAs_compact _) config).mpr described
  · exact (understands_config.decodeText_of_written (writtenAs_pretty _) config).mpr described
  · have options : ∀ tree : Tree, describesConfig 0 tree config →
        describesOptions 0 tree config.options ∧ ∃ members, tree = .object members := by
      intro tree describes
      cases tree with
      | object members => exact ⟨describes.2, members, rfl⟩
      | _ => exact describes.elim
    obtain ⟨tree, written, describes⟩ := (understands_config.decodeText_iff config).mp accepted
    obtain ⟨describesTree, members, rfl⟩ := options tree describes
    refine ⟨?_, ⟨members, written⟩, fun other writtenOther => ?_⟩
    · exact ((understands_options .direct).decodeText_of_written written _).mpr describesTree
    · have describesOther := (understands_config.decodeText_of_written writtenOther config).mp accepted
      exact (options other describesOther).1

deriving instance DecidableEq for NameMap, Options, Config

def partialText : String :=
  Value.compact (.object [
    ("references", .array [.string "B", .string "A", .string "B"]),
    ("comment", .array [.bool true, .null]),
    ("exception_printer", .object [("type_name", .string "Printer"), ("other", .number 1)]),
    ("module_aliases", .object [("a", .string "first"), ("a", .string "second")])])

def partialConfig : Config :=
  { options :=
      { Options.standard with
        moduleAliases := NameMap.empty.insert "a" "second"
        exceptionPrinter := ⟨"Extism.Pdk.dll", "Extism", "Printer", "PrintException"⟩ }
    references := .ofList ["A", "B"]
    moduleDirectory := none }

theorem ofJson_options_partial :
    Config.ofJson partialText = .ok partialConfig ∧
      decodeText decodeOptions partialText = .ok partialConfig.options := by
  have accepted : Config.ofJson partialText = .ok partialConfig :=
    decodeText_ofList 400 (by decide +kernel) (by decide +kernel)
  exact ⟨accepted, ((ofJson_options partialConfig).2 partialText accepted).1⟩

end GuestGlue.Config
