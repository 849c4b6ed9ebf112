/-
What rewritten descriptions say.  A step in an object keeps what stands under the names
that are asked for, and a step further in keeps what is said there; so, from the parameters
of a method up to the module, every part of a description goes on saying what it said.
-/

import GuestGlue.Proofs.Codec.ModuleDescription
import GuestGlue.Proofs.Codec.Rewriting

namespace GuestGlue.Codec

open Json

variable {α : Type}

/-! ### What rewritten trees say -/

/-- What a tree of the role says is said by what it is rewritten to. -/
def Stable (role : Role) (describes : Description α) : Prop :=
  ∀ ⦃tree changed⦄, Rewrite role tree changed →
    ∀ ⦃depth value⦄, describes depth tree value → describes depth changed value

theorem stable_string (role : Role) : Stable role .string := by
  intro tree changed rewrite depth value described
  cases described
  cases rewrite

theorem stable_bool (role : Role) : Stable role .bool := by
  intro tree changed rewrite depth value described
  cases described
  cases rewrite

theorem stable_nullable (role : Role) : Stable role (.option .string) := by
  intro tree changed rewrite depth value described
  cases tree with
  | array items =>
      obtain ⟨_, _, described⟩ := described
      cases described
  | object members =>
      obtain ⟨_, _, described⟩ := described
      cases described
  | _ => cases rewrite

theorem Stable.as {β : Type} {role : Role} {describes : Description α}
    (stable : Stable role describes) (parts : β → α) : Stable role (.as describes parts) := by
  intro tree changed rewrite depth value described
  exact stable rewrite described

theorem stable_type (role : Role) : Stable role describesType :=
  (stable_string role).as TypeRef.name

theorem forall₂_replace {β : Type} {related : α → β → Prop} {before after : List α}
    {item changed : α} {values : List β} (step : ∀ value, related item value → related changed value)
    (all : List.Forall₂ related (before ++ item :: after) values) :
    List.Forall₂ related (before ++ changed :: after) values := by
  induction before generalizing values with
  | nil =>
      cases all with
      | cons here others => exact .cons (step _ here) others
  | cons first before ih =>
      cases all with
      | cons here others => exact .cons here (ih others)

theorem Stable.list {role inner : Role} {describes : Description α}
    (items : ∀ index, role.ofItem index = inner) (stable : Stable inner describes) :
    Stable role (.list describes) := by
  intro tree changed rewrite depth values described
  cases rewrite with
  | item rewrite =>
      rw [items] at rewrite
      exact forall₂_replace (fun _ described => stable rewrite described) described
  | _ => exact described.elim

/-! ### Fields -/

theorem given_append_iff {slot : Slot α} {depth : Nat} {record : α} {before after : List Tree}
    {tree : Tree} :
    slot.Given depth record (before ++ tree :: after) ↔
      before = [] ∧ after = [] ∧ slot.describes depth tree (slot.get record) := by
  cases before with
  | nil =>
      cases after with
      | nil => simp [Slot.Given]
      | cons next after => simp [Slot.Given]
  | cons first before =>
      cases before with
      | nil => simp [Slot.Given]
      | cons second before => simp [Slot.Given]

theorem given_perm {slot : Slot α} {depth : Nat} {record : α} {values changed : List Tree}
    (permuted : values.Perm changed) (given : slot.Given depth record values) :
    slot.Given depth record changed := by
  cases values with
  | nil =>
      cases permuted.nil_eq
      exact given
  | cons value values =>
      cases values with
      | nil =>
          cases List.perm_singleton.mp permuted.symm
          exact given
      | cons second values => exact given.elim

/-- What may be left out under the name of a field says the default of the field. -/
def Omits (role : Role) (slot : Slot α) : Prop :=
  ∀ tree, (slot.name, tree) ∈ role.defaults →
    ∀ depth value, slot.describes depth tree value → slot.default = some value

theorem given_rewrite {role : Role} {slot : Slot α}
    (stable : Stable (role.ofMember (some slot.name)) slot.describes) (omits : Omits role slot)
    {members changed : List (Option String × Tree)}
    (rewrite : Rewrite role (.object members) (.object changed))
    (known : role.Knows members slot.name) {depth : Nat} {record : α}
    (given : slot.Given depth record (valuesOf slot.name members)) :
    slot.Given depth record (valuesOf slot.name changed) := by
  cases rewrite with
  | permute permuted => exact given_perm (permuted.filterMap _) given
  | @add _ before after name value unknown _ =>
      have other : some name ≠ some slot.name := by
        rintro ⟨⟩
        exact unknown known
      rw [valuesOf_append, valuesOf_cons_of_ne other, ← valuesOf_append]
      exact given
  | @drop _ before after name value listed =>
      rw [valuesOf_append] at given ⊢
      by_cases same : name = slot.name
      · subst same
        rw [valuesOf_cons_self, given_append_iff] at given
        obtain ⟨noneBefore, noneAfter, described⟩ := given
        rw [noneBefore, noneAfter]
        exact omits value listed depth _ described
      · have other : some name ≠ some slot.name := by simpa using same
        rw [valuesOf_cons_of_ne other] at given
        exact given
  | @member _ before after key value changed rewrite =>
      rw [valuesOf_append] at given ⊢
      by_cases same : key = some slot.name
      · subst same
        rw [valuesOf_cons_self, given_append_iff] at given ⊢
        obtain ⟨noneBefore, noneAfter, described⟩ := given
        exact ⟨noneBefore, noneAfter, stable rewrite described⟩
      · rw [valuesOf_cons_of_ne same] at given ⊢
        exact given

/-! ### Records -/

/-- What holds of all members, and of members that may be added, holds of the changed ones. -/
theorem Rewrite.forall_members {role : Role} {members changed : List (Option String × Tree)}
    (rewrite : Rewrite role (.object members) (.object changed))
    {holds : Option String × Tree → Prop}
    (simple : ∀ {name value}, Simple value → holds (some name, value))
    (inner : ∀ {role key value changed}, Rewrite role value changed → holds (key, value) →
      holds (key, changed))
    (held : ∀ member ∈ members, holds member) : ∀ member ∈ changed, holds member := by
  cases rewrite with
  | permute permuted => exact fun member listed => held member (permuted.mem_iff.mpr listed)
  | add _ added =>
      rw [List.forall_mem_append] at held ⊢
      exact ⟨held.1, List.forall_mem_cons.mpr ⟨simple added, held.2⟩⟩
  | drop _ =>
      rw [List.forall_mem_append, List.forall_mem_cons] at held
      exact List.forall_mem_append.mpr ⟨held.1, held.2.2⟩
  | member rewrite =>
      rw [List.forall_mem_append, List.forall_mem_cons] at held ⊢
      exact ⟨held.1, inner rewrite held.2.1, held.2.2⟩

theorem Rewrite.keys {role : Role} {members changed : List (Option String × Tree)}
    (rewrite : Rewrite role (.object members) (.object changed))
    (keys : ∀ member ∈ members, member.1.isSome = true) :
    ∀ member ∈ changed, member.1.isSome = true :=
  rewrite.forall_members (fun _ => rfl) (fun _ key => key) keys

theorem record_object_rewrite {role : Role} {slots : List (Slot α)}
    (stable : ∀ slot ∈ slots, Stable (role.ofMember (some slot.name)) slot.describes)
    (omits : ∀ slot ∈ slots, Omits role slot) {members changed : List (Option String × Tree)}
    (rewrite : Rewrite role (.object members) (.object changed))
    (known : ∀ slot ∈ slots, role.Knows members slot.name) {depth : Nat} {record : α}
    (described : Description.record slots depth (.object members) record) :
    Description.record slots depth (.object changed) record := by
  obtain ⟨keys, given⟩ := described
  refine ⟨rewrite.keys keys, fun slot listed => ?_⟩
  exact given_rewrite (stable slot listed) (omits slot listed) rewrite (known slot listed)
    (given slot listed)

theorem listed_replace {slots : List (Slot α)} {before after : List Tree} {item changed : Tree}
    {depth : Nat} {record : α}
    (step : ∀ slot ∈ slots[before.length]?, ∀ value, slot.describes depth item value →
      slot.describes depth changed value)
    (listed : Listed depth record slots (before ++ item :: after)) :
    Listed depth record slots (before ++ changed :: after) := by
  induction before generalizing slots with
  | nil =>
      cases slots with
      | nil => exact listed
      | cons slot slots => exact ⟨step slot rfl _ listed.1, listed.2⟩
  | cons first before ih =>
      cases slots with
      | nil => exact listed
      | cons slot slots => exact ⟨listed.1, ih step listed.2⟩

structure Fits (role : Role) (slots : List (Slot α)) : Prop where
  fields : List.Forall₂ (fun field slot => field.1 = slot.name ∧ Stable field.2 slot.describes)
    role.fields slots
  omits : ∀ slot ∈ slots, Omits role slot
  ofItem : ∀ index, role.ofItem index = (role.fields[index]?.map Prod.snd).getD .plain
  knows : ∀ members name, role.Knows members name ↔ name ∈ role.fields.map Prod.fst

theorem lookup_of_mem {β : Type} {entries : List (String × β)}
    (apart : (entries.map Prod.fst).Nodup) {name : String} {value : β}
    (listed : (name, value) ∈ entries) : entries.lookup name = some value := by
  induction entries with
  | nil => cases listed
  | cons entry entries ih =>
      rw [List.map_cons, List.nodup_cons] at apart
      cases listed with
      | head => simp
      | tail _ listed =>
          have other : name ≠ entry.1 := by
            intro same
            exact apart.1 (List.mem_map.mpr ⟨(name, value), listed, same⟩)
          rw [List.lookup_cons, beq_false_of_ne other]
          exact ih apart.2 listed

theorem Role.fields_nodup (role : Role) : (role.fields.map Prod.fst).Nodup := by
  cases role <;> simp [fields]

theorem Role.ofMember_of_mem {role : Role} {name : String} {inner : Role}
    (listed : (name, inner) ∈ role.fields) : role.ofMember (some name) = inner := by
  rw [ofMember, Option.bind_some, lookup_of_mem role.fields_nodup listed]
  rfl

namespace Fits

variable {role : Role} {slots : List (Slot α)}

theorem exists_field (fits : Fits role slots) {slot : Slot α} (listed : slot ∈ slots) :
    ∃ inner, (slot.name, inner) ∈ role.fields ∧ Stable inner slot.describes := by
  obtain ⟨index, bound, rfl⟩ := List.mem_iff_getElem.mp listed
  have inside : index < role.fields.length := fits.fields.length_eq ▸ bound
  obtain ⟨name, stable⟩ := fits.fields.get inside bound
  change role.fields[index].1 = slots[index].name at name
  refine ⟨role.fields[index].2, ?_, stable⟩
  rw [← name]
  exact List.getElem_mem inside

theorem stable_item (fits : Fits role slots) {index : Nat} {slot : Slot α}
    (listed : slot ∈ slots[index]?) : Stable (role.ofItem index) slot.describes := by
  obtain ⟨bound, rfl⟩ := List.getElem?_eq_some_iff.mp listed
  have inside : index < role.fields.length := fits.fields.length_eq ▸ bound
  rw [fits.ofItem, List.getElem?_eq_getElem inside]
  exact (fits.fields.get inside bound).2

theorem stable (fits : Fits role slots) : Stable role (.record slots) := by
  intro tree changed rewrite depth record described
  cases tree with
  | object members =>
      obtain ⟨others, rfl⟩ := rewrite.object_cases
      refine record_object_rewrite (fun slot listed => ?_) fits.omits rewrite
        (fun slot listed => ?_) described
      · obtain ⟨inner, field, stable⟩ := fits.exists_field listed
        rw [Role.ofMember_of_mem field]
        exact stable
      · obtain ⟨inner, field, _⟩ := fits.exists_field listed
        rw [fits.knows]
        exact List.mem_map_of_mem (f := Prod.fst) field
  | array items =>
      cases rewrite with
      | item rewrite =>
          refine listed_replace (fun slot listed value described => ?_) described
          exact fits.stable_item listed rewrite described
  | _ => cases rewrite

end Fits

/-! ### Parameters -/

theorem stable_parameter : Stable .parameter describesParameter := by
  refine Fits.stable ⟨?_, ?_, fun _ => rfl, fun _ _ => Iff.rfl⟩
  · exact .cons ⟨rfl, stable_string _⟩ (.cons ⟨rfl, stable_type _⟩ .nil)
  · simp [Omits, Role.defaults]

/-! ### Markers -/

theorem stable_kind (role : Role) : Stable role describesKind :=
  (stable_string role).as MarkerKind.name

theorem mem_of_given_kind {depth : Nat} {kind : MarkerKind}
    {members : List (Option String × Tree)}
    (given : kindField.Given depth kind (valuesOf "kind" members)) :
    (some "kind", .string (some kind.name)) ∈ members := by
  refine mem_valuesOf_iff.mp ?_
  cases values : valuesOf "kind" members with
  | nil =>
      rw [values] at given
      cases given
  | cons tree others =>
      rw [values] at given
      cases others with
      | nil =>
          have named : tree = .string (some kind.name) := given
          exact List.mem_singleton.mpr named.symm
      | cons second others => exact given.elim

/-- The fields of a kind are read from the members and from the items of a marker alike. -/
theorem stable_exportColumns {slot : Slot (Option String)}
    (listed : slot ∈ exportColumns.map Column.toSlot) (role : Role) : Stable role slot.describes := by
  cases List.mem_singleton.mp listed
  exact stable_nullable role

theorem stable_importColumns {slot : Slot (String × Option String)}
    (listed : slot ∈ importColumns.map Column.toSlot) (role : Role) : Stable role slot.describes := by
  cases listed with
  | head => exact stable_string role
  | tail _ listed =>
      cases List.mem_singleton.mp listed
      exact stable_nullable role

theorem describesParts_object_rewrite {kind : MarkerKind}
    {members changed : List (Option String × Tree)}
    (rewrite : Rewrite .marker (.object members) (.object changed))
    (named : (some "kind", .string (some kind.name)) ∈ members) {depth : Nat} {marker : Marker}
    (described : describesParts kind depth (.object members) marker) :
    describesParts kind depth (.object changed) marker := by
  cases kind with
  | «export» =>
      obtain ⟨entryPoint, described, made⟩ := described
      refine ⟨entryPoint, ?_, made⟩
      refine record_object_rewrite (fun slot listed => stable_exportColumns listed _) ?_ rewrite ?_
        described
      · simp [Omits, Role.defaults, exportColumns, entryPointColumn, Description.option]
      · simp [Role.Knows, exportColumns, entryPointColumn]
  | «import» =>
      obtain ⟨parts, described, made⟩ := described
      refine ⟨parts, ?_, made⟩
      refine record_object_rewrite (fun slot listed => stable_importColumns listed _) ?_ rewrite ?_
        described
      · simp [Omits, Role.defaults, importColumns, stringColumn, entryPointColumn,
          Description.option]
      · -- the kind stands among the members, so the name of the host module is known there
        simpa [Role.Knows, importColumns, stringColumn, entryPointColumn,
          MarkerKind.name] using named

theorem describesParts_array_replace {kind : MarkerKind} {before after : List Tree} {role : Role}
    {value changed : Tree} (rewrite : Rewrite role value changed) {depth : Nat} {marker : Marker}
    (described : describesParts kind depth (.array (before ++ value :: after)) marker) :
    describesParts kind depth (.array (before ++ changed :: after)) marker := by
  cases kind with
  | «export» =>
      obtain ⟨entryPoint, described, made⟩ := described
      refine ⟨entryPoint, listed_replace (fun slot listed value described => ?_) described, made⟩
      exact stable_exportColumns (List.mem_of_getElem? listed) role rewrite described
  | «import» =>
      obtain ⟨parts, described, made⟩ := described
      refine ⟨parts, listed_replace (fun slot listed value described => ?_) described, made⟩
      exact stable_importColumns (List.mem_of_getElem? listed) role rewrite described

theorem stable_marker : Stable .marker describesMarker := by
  intro tree changed rewrite depth marker described
  cases tree with
  | object members =>
      obtain ⟨others, rfl⟩ := rewrite.object_cases
      obtain ⟨keys, readable, kind, given, parts⟩ := described
      refine ⟨rewrite.keys keys, ?_, kind, ?_, ?_⟩
      · refine rewrite.forall_members (fun simple _ => ?_) (fun inner readable other => ?_) readable
        · exact hereditary_readable.simple simple
        · exact hereditary_readable.rewrite inner _ (readable other)
      · refine given_rewrite (stable_kind _) ?_ rewrite (.inl rfl) given
        simp [Omits, Role.defaults, kindField]
      · exact describesParts_object_rewrite rewrite (mem_of_given_kind given) parts
  | array items =>
      cases rewrite with
      | @item _ before after value changed rewrite =>
          -- the first item is the kind itself
          cases before with
          | nil =>
              obtain ⟨readable, kind, given, parts⟩ := described
              have named : describesKind (depth + 1) value kind := given
              exact ⟨readable, kind, stable_kind _ rewrite named, parts⟩
          | cons first before =>
              obtain ⟨readable, kind, given, parts⟩ := described
              refine ⟨?_, kind, given, describesParts_array_replace rewrite parts⟩
              rw [List.append_eq, List.forall_mem_append, List.forall_mem_cons] at readable ⊢
              obtain ⟨before, value, after⟩ := readable
              exact ⟨before, hereditary_readable.rewrite rewrite _ value, after⟩
  | _ => cases rewrite

/-! ### Methods, types and modules -/

theorem stable_method : Stable .method describesMethod := by
  refine Fits.stable ⟨?_, ?_, fun _ => rfl, fun _ _ => Iff.rfl⟩
  · exact .cons ⟨rfl, stable_string _⟩ (.cons ⟨rfl, stable_bool _⟩
      (.cons ⟨rfl, stable_parameter.list fun _ => rfl⟩ (.cons ⟨rfl, stable_type _⟩
        (.cons ⟨rfl, stable_marker.list fun _ => rfl⟩ .nil))))
  · have void : ∀ type : TypeRef, "System.Void" = type.name → TypeRef.void = type := by
      rintro ⟨name⟩ rfl
      rfl
    simpa [Omits, Role.defaults, methodColumns, stringColumn, describesType, Description.as,
      Description.bool, Description.list, Description.string] using void

theorem stable_typeDef : Stable .typeDef describesTypeDef := by
  refine Fits.stable ⟨?_, ?_, fun _ => rfl, fun _ _ => Iff.rfl⟩
  · exact .cons ⟨rfl, stable_string _⟩ (.cons ⟨rfl, stable_string _⟩
      (.cons ⟨rfl, stable_method.list fun _ => rfl⟩ .nil))
  · simp [Omits, Role.defaults, typeDefColumns, stringColumn, Description.list, Description.string]

theorem stable_module : Stable .module describesModule := by
  refine Fits.stable ⟨?_, ?_, fun _ => rfl, fun _ _ => Iff.rfl⟩
  · exact .cons ⟨rfl, stable_string _⟩ (.cons ⟨rfl, stable_nullable _⟩
      (.cons ⟨rfl, (stable_string .plain).list fun _ => rfl⟩
        (.cons ⟨rfl, stable_typeDef.list fun _ => rfl⟩ .nil)))
  · simp [Omits, Role.defaults, moduleColumns, stringColumn, Description.option,
      Description.list, Description.string]

/-! ### Texts that say the same -/

theorem Stable.rewrites {role : Role} {describes : Description α} (stable : Stable role describes)
    {tree changed : Tree} (rewrites : Relation.ReflTransGen (Rewrite role) tree changed) {depth : Nat}
    {value : α} (described : describes depth tree value) : describes depth changed value := by
  induction rewrites with
  | refl => exact described
  | tail _ rewrite ih => exact stable rewrite ih

end GuestGlue.Codec

namespace GuestGlue.Module

open Codec Json
open Relation (ReflTransGen)

/-- An accepted text holds a tree that describes the module.  Whatever such a tree is rewritten
to can be written, and in every layout it is accepted as the same module. -/
theorem ofJson_rewritten (text : String) (module : Module)
    (accepted : Module.ofJson text = .ok module) :
    (∃ tree : Tree, tree.WrittenAs text ∧ describesModule 0 tree module) ∧
      ∀ tree changed : Tree, tree.WrittenAs text → ReflTransGen (Rewrite .module) tree changed →
        (∃ other, changed.WrittenAs other) ∧
          ∀ other, changed.WrittenAs other → Module.ofJson other = .ok module := by
  constructor
  · exact (understands_module.decodeText_iff module).mp accepted
  · intro tree changed written rewrites
    refine ⟨exists_written_of_rewrites rewrites written, fun other writtenOther => ?_⟩
    have described := (understands_module.decodeText_of_written written module).mp accepted
    rw [Module.ofJson, understands_module.decodeText_of_written writtenOther]
    exact stable_module.rewrites rewrites described

def markedValue (marker : Value) : Value :=
  .object [
    ("types", .array [.object [
      ("methods", .array [.object [("markers", .array [marker]), ("name", .string "Run")]]),
      ("name", .string "Main")]]),
    ("name", .string "App")]

theorem rewrite_markedValue {marker changed : Value}
    (rewrite : Rewrite .marker marker.tree changed.tree) :
    Rewrite .module (markedValue marker).tree (markedValue changed).tree := by
  have markers := @Rewrite.item .markers [] [] _ _ rewrite
  have method := @Rewrite.member .method [] [(some "name", .string (some "Run"))]
    (some "markers") _ _ markers
  have methods := @Rewrite.item .methods [] [] _ _ method
  have type := @Rewrite.member .typeDef [] [(some "name", .string (some "Main"))]
    (some "methods") _ _ methods
  have types := @Rewrite.item .types [] [] _ _ type
  exact @Rewrite.member .module [] [(some "name", .string (some "App"))] (some "types") _ _ types

def markedModule : Module :=
  ⟨"App", none, [], [⟨"", "Main", [⟨"Run", true, [], .void, [.exported none]⟩]⟩]⟩

def fullExport : Value :=
  .object [("kind", .string "export"), ("entry_point", .null)]

/-- An export has no module, so that its name is one among the unknown ones. -/
def namedExport : Value :=
  .object [("module", .string "env"), ("kind", .string "export")]

theorem ofJson_rewritten_export :
    Module.ofJson (markedValue fullExport).compact = .ok markedModule ∧
      Module.ofJson (markedValue namedExport).pretty = .ok markedModule := by
  have accepted : Module.ofJson (markedValue fullExport).compact = .ok markedModule :=
    decodeText_ofList 400 (by decide +kernel) (by decide +kernel)
  have dropped : Rewrite .marker fullExport.tree
      (Value.object [("kind", .string "export")]).tree :=
    @Rewrite.drop .marker [(some "kind", .string (some "export"))] [] "entry_point" .null
      (List.mem_singleton.mpr rfl)
  have added : Rewrite .marker (Value.object [("kind", .string "export")]).tree
      (Value.object [("kind", .string "export"), ("module", .string "env")]).tree :=
    @Rewrite.add .marker [(some "kind", .string (some "export"))] [] "module" (.string (some "env"))
      (by simp [Role.Knows]) .string
  have permuted : Rewrite .marker
      (Value.object [("kind", .string "export"), ("module", .string "env")]).tree
      namedExport.tree :=
    .permute (.swap _ _ _)
  have rewrites := ((ReflTransGen.single (rewrite_markedValue dropped)).tail
    (rewrite_markedValue added)).tail (rewrite_markedValue permuted)
  have rewritten := ofJson_rewritten _ markedModule accepted
  exact ⟨accepted, (rewritten.2 _ _ (writtenAs_compact _) rewrites).2 _ (writtenAs_pretty _)⟩

end GuestGlue.Module
