/-
Descriptions of modules and what they say.  Every record is described by its fields; a
marker is described by its kind, wherever that stands, and by the fields of the kind.
-/

import GuestGlue.Codec.Module
import GuestGlue.Proofs.Json.Fields

namespace GuestGlue.Codec

open Json

variable {α β ε : Type}

theorem bind_ok_iff {result : Except ε α} {next : α → Except ε β} {value : β} :
    (result >>= next) = .ok value ↔ ∃ part, result = .ok part ∧ next part = .ok value := by
  cases result with
  | error error => exact iff_of_false nofun nofun
  | ok part => simp [bind, Except.bind]

theorem required_ok_iff {name : String} {select : ε → Option β} {entries : List ε} {value : β} :
    required name select entries = .ok value ↔ entries.findSome? select = some value := by
  unfold required
  cases entries.findSome? select with
  | none => simp
  | some found => simp

/-! ### Parameters -/

def describesType : Description TypeRef :=
  .as .string TypeRef.name

theorem understands_type : Understands decodeType describesType :=
  understands_string.map fun part type => by
    obtain ⟨name⟩ := type
    simp

def parameterColumns : List (Column ParameterEntry Parameter) := [
  stringColumn "name" none (·.name) .name ParameterEntry.name? fun _ => rfl,
  { name := "type", Value := TypeRef, describes := describesType, default := none, get := (·.type)
    decode := decodeType, wrap := .type, select := ParameterEntry.type?
    understands := understands_type, selects := fun _ => rfl }]

theorem parameterTable : Table parameterRecord parameterColumns where
  fields := rfl
  apart := by
    simp [parameterColumns, stringColumn, Column.Apart, ParameterEntry.name?, ParameterEntry.type?]
  made := by
    intro entries parameter
    obtain ⟨name, type⟩ := parameter
    simp [parameterRecord, parameterColumns, stringColumn, Column.Filled, bind_ok_iff,
      required_ok_iff, pure, Except.pure]

def describesParameter : Description Parameter :=
  .record (parameterColumns.map Column.toSlot)

theorem understands_parameter : Understands decodeParameter describesParameter :=
  parameterTable.understands .direct

/-! ### Fields of markers -/

theorem understands_nullable : Understands (decodeOption decodeString) (.option .string) :=
  understands_string.option

def exportParts : Record MarkerEntry (Option String) :=
  { title := "variant Marker::Export"
    fields := [entryPointField]
    make := fun entries => .ok (defaulted none MarkerEntry.entryPoint? entries) }

def importParts : Record MarkerEntry (String × Option String) :=
  { title := "variant Marker::Import"
    fields := [hostModuleField, entryPointField]
    make := fun entries => do
      let hostModule ← required "module" MarkerEntry.hostModule? entries
      return (hostModule, defaulted none MarkerEntry.entryPoint? entries) }

def entryPointColumn {α : Type} (get : α → Option String) : Column MarkerEntry α :=
  { name := "entry_point", Value := Option String, describes := .option .string
    default := some none, get, decode := decodeOption decodeString, wrap := .entryPoint
    select := MarkerEntry.entryPoint?, understands := understands_nullable, selects := fun _ => rfl }

def exportColumns : List (Column MarkerEntry (Option String)) :=
  [entryPointColumn id]

def importColumns : List (Column MarkerEntry (String × Option String)) := [
  stringColumn "module" none (·.1) .hostModule MarkerEntry.hostModule? fun _ => rfl,
  entryPointColumn (·.2)]

theorem exportTable : Table exportParts exportColumns where
  fields := rfl
  apart := List.pairwise_singleton _ _
  made := by
    intro entries entryPoint
    simp [exportParts, exportColumns, entryPointColumn, Column.Filled, defaulted,
      -Option.or_eq_some_iff]

theorem importTable : Table importParts importColumns where
  fields := rfl
  apart := by
    simp [importColumns, stringColumn, entryPointColumn, Column.Apart, MarkerEntry.hostModule?,
      MarkerEntry.entryPoint?]
  made := by
    intro entries parts
    obtain ⟨hostModule, entryPoint⟩ := parts
    simp [importParts, importColumns, stringColumn, entryPointColumn, Column.Filled, bind_ok_iff,
      required_ok_iff, defaulted, pure, Except.pure, -Option.or_eq_some_iff]

/-! ### Markers -/

def MarkerKind.name : MarkerKind → String
  | .export => "export"
  | .import => "import"

def describesKind : Description MarkerKind :=
  .as .string MarkerKind.name

theorem understands_kind : Understands decodeKind describesKind where
  whole := by
    intro node kind decoded
    cases node with
    | array start depth items => cases decoded
    | object start depth members => cases decoded
    | absent => cases decoded
    | _ => rfl
  iff := by
    intro depth tree node holds kind
    have described : describesKind depth tree kind ↔ tree = .string (some kind.name) := Iff.rfl
    rw [described]
    cases holds with
    | @string _ content _ =>
        by_cases isExport : content = some "export"
        · subst isExport
          cases kind <;> simp [decodeKind, MarkerKind.name]
        · by_cases isImport : content = some "import"
          · subst isImport
            cases kind <;> simp [decodeKind, MarkerKind.name]
          · cases content <;> cases kind <;> simp_all [decodeKind, MarkerKind.name]
    | _ => simp [decodeKind]

def describesParts : MarkerKind → Description Marker
  | .export => fun depth tree marker => ∃ entryPoint,
      Description.record (exportColumns.map Column.toSlot) depth tree entryPoint ∧
        .exported entryPoint = marker
  | .import => fun depth tree marker => ∃ parts : String × Option String,
      Description.record (importColumns.map Column.toSlot) depth tree parts ∧
        .imported parts.1 parts.2 = marker

theorem understands_parts (kind : MarkerKind) :
    Understands ((markerRecord kind).decode .kept) (describesParts kind) := by
  cases kind with
  | «export» =>
      have parts := exportTable.understands .kept
      have read : ∀ {node marker}, (markerRecord .export).decode .kept node = .ok marker ↔
          ∃ entryPoint, exportParts.decode .kept node = .ok entryPoint ∧
            .exported entryPoint = marker :=
        Record.decode_ok_iff_parts Marker.exported rfl rfl fun _ => rfl
      refine ⟨fun decoded => ?_, fun holds marker => ?_⟩
      · obtain ⟨entryPoint, decoded, _⟩ := read.mp decoded
        exact parts.whole decoded
      · simp only [read, parts.iff holds, describesParts]
  | «import» =>
      have parts := importTable.understands .kept
      have made : ∀ entries, (markerRecord .import).make entries =
          (importParts.make entries).map fun parts => Marker.imported parts.1 parts.2 := by
        intro entries
        simp only [markerRecord, importParts]
        cases required "module" MarkerEntry.hostModule? entries <;> rfl
      have read : ∀ {node marker}, (markerRecord .import).decode .kept node = .ok marker ↔
          ∃ parts, importParts.decode .kept node = .ok parts ∧ .imported parts.1 parts.2 = marker :=
        Record.decode_ok_iff_parts
          (fun parts : String × Option String => Marker.imported parts.1 parts.2) rfl rfl made
      refine ⟨fun decoded => ?_, fun holds marker => ?_⟩
      · obtain ⟨entryPoint, decoded, _⟩ := read.mp decoded
        exact parts.whole decoded
      · simp only [read, parts.iff holds, describesParts]

theorem decodeKept_ok_iff {kind : MarkerKind} {kept : Node} {marker : Marker} :
    decodeKept kind kept = .ok marker ↔ (markerRecord kind).decode .kept kept = .ok marker := by
  unfold decodeKept
  cases (markerRecord kind).decode .kept kept with
  | error error => exact iff_of_false nofun nofun
  | ok found => simp [Except.mapError]

def kindField : Slot MarkerKind :=
  { name := "kind", Value := MarkerKind, describes := describesKind, default := none, get := id }

/-- The kind of a marker stands under its name, and the other members have to be readable;
or it is the first item of a list, and so have the other items. -/
def describesMarker : Description Marker
  | depth, .object members, marker =>
      (∀ member ∈ members, member.1.isSome = true) ∧
        (∀ member ∈ members, member.1 ≠ some "kind" → member.2.Readable (depth + 1)) ∧
        ∃ kind, kindField.Given (depth + 1) kind (valuesOf "kind" members) ∧
          describesParts kind depth (.object members) marker
  | depth, .array (first :: items), marker =>
      (∀ item ∈ items, item.Readable (depth + 1)) ∧
        ∃ kind, kindField.Given (depth + 1) kind [first] ∧
          describesParts kind depth (.array items) marker
  | _, _, _ => False

/-- The members of a marker come to a kind, behind one that was read before; members of other
names can be kept. -/
def ComesToKind (depth : Nat) (kind? : Option MarkerKind) (members : List (Option String × Tree))
    (kind : MarkerKind) : Prop :=
  (∀ member ∈ members, member.1.isSome = true) ∧
    (∀ member ∈ members, member.1 ≠ some "kind" → member.2.Readable depth) ∧
    Takes describesKind none depth kind kind? (valuesOf "kind" members)

theorem comesToKind_cons_iff {depth : Nat} {kind? : Option MarkerKind} {key : String}
    (other : key ≠ "kind") {tree : Tree} {trees : List (Option String × Tree)} {kind : MarkerKind} :
    ComesToKind depth kind? ((some key, tree) :: trees) kind ↔
      tree.Readable depth ∧ ComesToKind depth kind? trees kind := by
  have different : some key ≠ some "kind" := by simpa using other
  simp [ComesToKind, different, valuesOf_cons_of_ne different, and_assoc, and_left_comm]

theorem splitMarker_whole {kind? : Option MarkerKind} {members : Members}
    {read : MarkerKind × Members} (split : splitMarker kind? members = .ok read) :
    members.whole = true := by
  fun_induction splitMarker kind? members generalizing read with
  | case1 => cases split
  | case2 => rfl
  | case3 => cases split
  | case4 => cases split
  | case5 => cases split
  | case6 => cases split
  | case7 _ _ _ value rest _ kind held ih =>
    rw [Members.whole, understands_kind.whole held, ih split, Bool.and_self]
  | case8 => cases split
  | case9 _ _ _ _ value rest _ readable _ _ splitRest ih =>
    rw [Members.whole, value.whole_of_readable readable, ih splitRest, Bool.and_self]
  | case10 => cases split

/-- The other members of a marker hold what stands under all other names. -/
theorem splitMarker_others {depth : Nat} {trees : List (Option String × Tree)} {members : Members}
    (hold : Members.Hold depth trees members) {kind? : Option MarkerKind} {kind : MarkerKind}
    {others : Members} (split : splitMarker kind? members = .ok (kind, others)) :
    ∃ kept, Members.Hold depth kept others ∧ (∀ member ∈ kept, member.1.isSome = true) ∧
      ∀ name, name ≠ "kind" → valuesOf name kept = valuesOf name trees := by
  fun_induction splitMarker kind? members generalizing trees kind others with
  | case1 => cases split
  | case2 =>
    cases hold
    cases split
    exact ⟨[], .closed, List.forall_mem_nil _, fun _ _ => rfl⟩
  | case3 => cases split
  | case4 => cases split
  | case5 => cases split
  | case6 => cases split
  | case7 _ _ _ value rest _ kind held ih =>
    cases hold with
    | cons first others =>
        obtain ⟨kept, holdKept, keys, values⟩ := ih others split
        refine ⟨kept, holdKept, keys, fun name other => ?_⟩
        rw [values name other, valuesOf_cons_of_ne (by simpa using other.symm)]
  | case8 => cases split
  | case9 _ key _ _ value rest _ readable _ _ splitRest ih =>
    cases split
    cases hold with
    | @cons _ _ tree trees _ _ _ _ first others =>
        obtain ⟨kept, holdKept, keys, values⟩ := ih others splitRest
        refine ⟨(some key, tree) :: kept, .cons first holdKept, ?_, fun name other => ?_⟩
        · exact List.forall_mem_cons.mpr ⟨rfl, keys⟩
        · exact valuesOf_cons_congr (values name other) _
  | case10 => cases split

theorem splitMarker_iff {depth : Nat} {trees : List (Option String × Tree)} {members : Members}
    (hold : Members.Hold depth trees members) (kind? : Option MarkerKind) (kind : MarkerKind) :
    (∃ others, splitMarker kind? members = .ok (kind, others)) ↔
      ComesToKind depth kind? trees kind := by
  fun_induction splitMarker kind? members generalizing trees with
  | case1 =>
    cases hold
    simp [ComesToKind, valuesOf, Takes]
  | case2 =>
    cases hold
    simp [ComesToKind, valuesOf, Takes]
  | case3 => cases hold
  | case4 =>
    cases hold
    simp [ComesToKind]
  | case5 _ _ _ value rest again =>
    cases hold
    obtain ⟨held, rfl⟩ := Option.isSome_iff_exists.mp again
    simp [ComesToKind, valuesOf_cons_self, Takes]
  | case6 _ _ _ value rest fresh error failed =>
    cases Option.not_isSome_iff_eq_none.mp fresh
    cases hold with
    | cons first others =>
        simp [ComesToKind, valuesOf_cons_self, takes_cons_iff understands_kind first, failed]
  | case7 _ _ _ value rest fresh held read ih =>
    cases Option.not_isSome_iff_eq_none.mp fresh
    cases hold with
    | cons first others =>
        rw [ih others]
        simp [ComesToKind, valuesOf_cons_self, takes_cons_iff understands_kind first, read]
  | case8 _ key _ _ value rest other readable error failed ih =>
    cases hold with
    | cons first others =>
        rw [comesToKind_cons_iff other, ← ih others, failed]
        simp
  | case9 _ key _ _ value rest other readable found kept splitRest ih =>
    cases hold with
    | cons first others =>
        have inside := ih others
        rw [splitRest] at inside
        rw [comesToKind_cons_iff other, ← inside]
        simp [first.readable_iff.mp readable]
  | case10 _ key _ _ value rest other unreadable =>
    cases hold with
    | cons first others =>
        rw [first.readable_iff] at unreadable
        simp [comesToKind_cons_iff other, unreadable]

theorem describesParts_object_congr {kind : MarkerKind} {left right : List (Option String × Tree)}
    (leftKeys : ∀ member ∈ left, member.1.isSome = true)
    (rightKeys : ∀ member ∈ right, member.1.isSome = true)
    (values : ∀ name, name ≠ "kind" → valuesOf name left = valuesOf name right) {depth : Nat}
    {marker : Marker} :
    describesParts kind depth (.object left) marker ↔
      describesParts kind depth (.object right) marker := by
  cases kind with
  | «export» =>
      have names : ∀ field ∈ exportColumns.map Column.toSlot, field.name ≠ "kind" := by
        simp [exportColumns, entryPointColumn]
      refine exists_congr fun entryPoint => and_congr_left fun _ => ?_
      exact Description.record_object_congr leftKeys rightKeys fun field member =>
        values field.name (names field member)
  | «import» =>
      have names : ∀ field ∈ importColumns.map Column.toSlot, field.name ≠ "kind" := by
        simp [importColumns, stringColumn, entryPointColumn]
      refine exists_congr fun parts => and_congr_left fun _ => ?_
      exact Description.record_object_congr leftKeys rightKeys fun field member =>
        values field.name (names field member)

theorem decodeMarker_object_ok_iff {start : Place} {depth : Nat} {members : Members}
    {marker : Marker} :
    decodeMarker (.object start depth members) = .ok marker ↔
      ∃ kind others, splitMarker none members = .ok (kind, others) ∧
        (markerRecord kind).decode .kept (.object start depth others) = .ok marker := by
  rw [decodeMarker]
  cases splitMarker none members with
  | error error => simp
  | ok read =>
      obtain ⟨kind, others⟩ := read
      simp [decodeKept_ok_iff]

theorem decodeMarker_array_ok_iff {start : Place} {depth : Nat} {item : Node} {left : Place}
    {rest : Items} {marker : Marker} :
    decodeMarker (.array start depth (.cons item left rest)) = .ok marker ↔
      rest.readable = true ∧ ∃ kind, decodeKind item = .ok kind ∧
        (markerRecord kind).decode .kept (.array start depth rest) = .ok marker := by
  rw [decodeMarker]
  cases decodeKind item with
  | error error => simp
  | ok kind =>
      cases rest.readable with
      | false => simp
      | true => simp [decodeKept_ok_iff]

theorem understands_marker : Understands decodeMarker describesMarker where
  whole := by
    intro node marker decoded
    cases node with
    | object start depth members =>
        obtain ⟨kind, others, split, _⟩ := decodeMarker_object_ok_iff.mp decoded
        exact splitMarker_whole split
    | array start depth items =>
        cases items with
        | cons item left rest =>
            obtain ⟨readable, kind, named, _⟩ := decodeMarker_array_ok_iff.mp decoded
            rw [Node.whole, Items.whole, understands_kind.whole named,
              rest.whole_of_readable readable, Bool.and_self]
        | _ => cases decoded
    | _ => cases decoded
  iff := by
    intro depth tree node holds marker
    cases holds with
    | @object _ trees start members hold =>
        -- what is kept of the other members describes the same marker
        have parts : ∀ kind others, splitMarker none members = .ok (kind, others) →
            (∀ member ∈ trees, member.1.isSome = true) →
              ((markerRecord kind).decode .kept (.object start depth others) = .ok marker ↔
                describesParts kind depth (.object trees) marker) := by
          intro kind others split keys
          obtain ⟨kept, holdKept, keysKept, values⟩ := splitMarker_others hold split
          rw [(understands_parts kind).iff (.object holdKept)]
          exact describesParts_object_congr keysKept keys values
        rw [decodeMarker_object_ok_iff]
        constructor
        · rintro ⟨kind, others, split, decoded⟩
          obtain ⟨keys, readable, taken⟩ := (splitMarker_iff hold none kind).mp ⟨others, split⟩
          exact ⟨keys, readable, kind, Slot.given_iff_takes.mpr taken,
            (parts kind others split keys).mp decoded⟩
        · rintro ⟨keys, readable, kind, given, described⟩
          obtain ⟨others, split⟩ := (splitMarker_iff hold none kind).mpr
            ⟨keys, readable, Slot.given_iff_takes.mp given⟩
          exact ⟨kind, others, split, (parts kind others split keys).mpr described⟩
    | @array _ trees start items hold =>
        cases hold with
        | closed => exact iff_of_false nofun nofun
        | cons first others =>
            rw [decodeMarker_array_ok_iff, others.readable_iff]
            simp only [understands_kind.iff first, (understands_parts _).iff (.array others)]
            rfl
    | _ => exact iff_of_false nofun nofun

/-! ### Methods, types and modules -/

def methodColumns : List (Column MethodEntry MethodDef) := [
  stringColumn "name" none (·.name) .name MethodEntry.name? fun _ => rfl,
  { name := "is_static", Value := Bool, describes := .bool, default := some true
    get := (·.isStatic), decode := decodeBool, wrap := .isStatic, select := MethodEntry.isStatic?
    understands := understands_bool, selects := fun _ => rfl },
  { name := "parameters", Value := List Parameter, describes := .list describesParameter
    default := some [], get := (·.parameters), decode := decodeList decodeParameter
    wrap := .parameters, select := MethodEntry.parameters?
    understands := understands_parameter.list, selects := fun _ => rfl },
  { name := "return_type", Value := TypeRef, describes := describesType, default := some .void
    get := (·.returnType), decode := decodeType, wrap := .returnType
    select := MethodEntry.returnType?, understands := understands_type, selects := fun _ => rfl },
  { name := "markers", Value := List Marker, describes := .list describesMarker
    default := some [], get := (·.markers), decode := decodeList decodeMarker, wrap := .markers
    select := MethodEntry.markers?, understands := understands_marker.list
    selects := fun _ => rfl }]

theorem methodTable : Table methodRecord methodColumns where
  fields := rfl
  apart := by
    simp [methodColumns, stringColumn, Column.Apart, MethodEntry.name?, MethodEntry.isStatic?,
      MethodEntry.parameters?, MethodEntry.returnType?, MethodEntry.markers?]
  made := by
    intro entries method
    obtain ⟨name, isStatic, parameters, returnType, markers⟩ := method
    simp [methodRecord, methodColumns, stringColumn, Column.Filled, bind_ok_iff, required_ok_iff,
      defaulted, pure, Except.pure, -Option.or_eq_some_iff]

def describesMethod : Description MethodDef :=
  .record (methodColumns.map Column.toSlot)

theorem understands_method : Understands decodeMethod describesMethod :=
  methodTable.understands .direct

def typeDefColumns : List (Column TypeDefEntry TypeDef) := [
  stringColumn "namespace" (some "") (·.namespaceName) .namespaceName TypeDefEntry.namespaceName?
    fun _ => rfl,
  stringColumn "name" none (·.name) .name TypeDefEntry.name? fun _ => rfl,
  { name := "methods", Value := List MethodDef, describes := .list describesMethod
    default := some [], get := (·.methods), decode := decodeList decodeMethod, wrap := .methods
    select := TypeDefEntry.methods?, understands := understands_method.list
    selects := fun _ => rfl }]

theorem typeDefTable : Table typeDefRecord typeDefColumns where
  fields := rfl
  apart := by
    simp [typeDefColumns, stringColumn, Column.Apart, TypeDefEntry.namespaceName?,
      TypeDefEntry.name?, TypeDefEntry.methods?]
  made := by
    intro entries type
    obtain ⟨namespaceName, name, methods⟩ := type
    simp [typeDefRecord, typeDefColumns, stringColumn, Column.Filled, bind_ok_iff, required_ok_iff,
      defaulted, pure, Except.pure, -Option.or_eq_some_iff, and_left_comm]

def describesTypeDef : Description TypeDef :=
  .record (typeDefColumns.map Column.toSlot)

theorem understands_typeDef : Understands decodeTypeDef describesTypeDef :=
  typeDefTable.understands .direct

def moduleColumns : List (Column ModuleEntry Module) := [
  stringColumn "name" none (·.name) .name ModuleEntry.name? fun _ => rfl,
  { name := "file_name", Value := Option String, describes := .option .string
    default := some none, get := (·.file), decode := decodeOption decodeString, wrap := .file
    select := ModuleEntry.file?, understands := understands_nullable, selects := fun _ => rfl },
  { name := "references", Value := List String, describes := .list .string, default := some []
    get := (·.references), decode := decodeList decodeString, wrap := .references
    select := ModuleEntry.references?, understands := understands_string.list
    selects := fun _ => rfl },
  { name := "types", Value := List TypeDef, describes := .list describesTypeDef
    default := some [], get := (·.types), decode := decodeList decodeTypeDef, wrap := .types
    select := ModuleEntry.types?, understands := understands_typeDef.list
    selects := fun _ => rfl }]

theorem moduleTable : Table moduleRecord moduleColumns where
  fields := rfl
  apart := by
    simp [moduleColumns, stringColumn, Column.Apart, ModuleEntry.name?, ModuleEntry.file?,
      ModuleEntry.references?, ModuleEntry.types?]
  made := by
    intro entries module
    obtain ⟨name, file, references, types⟩ := module
    simp [moduleRecord, moduleColumns, stringColumn, Column.Filled, bind_ok_iff, required_ok_iff,
      defaulted, pure, Except.pure, -Option.or_eq_some_iff]

def describesModule : Description Module :=
  .record (moduleColumns.map Column.toSlot)

theorem understands_module : Understands decodeModule describesModule :=
  moduleTable.understands .direct

end GuestGlue.Codec
