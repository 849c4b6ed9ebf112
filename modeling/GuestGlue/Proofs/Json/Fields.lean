/-
Records in a document, field by field.  A field is left out, which leaves it at its
default, or given once.  A table ties the fields of a record to the way its reader goes:
the entries that the values are read as, and the record that is made from the entries.
From it the reader of the record is known to understand the record's description.
-/

import GuestGlue.Json.Record
import GuestGlue.Proofs.Json.Description

namespace GuestGlue.Json

variable {α ε : Type}

/-! ### Descriptions of records -/

def valuesOf (name : String) (members : List (Option String × Tree)) : List Tree :=
  members.filterMap fun member => if member.1 = some name then some member.2 else none

theorem valuesOf_cons_self (name : String) (value : Tree) (members : List (Option String × Tree)) :
    valuesOf name ((some name, value) :: members) = value :: valuesOf name members := by
  simp [valuesOf]

theorem valuesOf_cons_of_ne {name : String} {key : Option String} (other : key ≠ some name)
    (value : Tree) (members : List (Option String × Tree)) :
    valuesOf name ((key, value) :: members) = valuesOf name members := by
  simp [valuesOf, other]

theorem valuesOf_cons_congr {name : String} {left right : List (Option String × Tree)}
    (same : valuesOf name left = valuesOf name right) (member : Option String × Tree) :
    valuesOf name (member :: left) = valuesOf name (member :: right) := by
  simp only [valuesOf, List.filterMap_cons] at same ⊢
  rw [same]

theorem valuesOf_append (name : String) (left right : List (Option String × Tree)) :
    valuesOf name (left ++ right) = valuesOf name left ++ valuesOf name right :=
  List.filterMap_append

theorem mem_valuesOf_iff {name : String} {tree : Tree} {members : List (Option String × Tree)} :
    tree ∈ valuesOf name members ↔ (some name, tree) ∈ members := by
  induction members with
  | nil => simp [valuesOf]
  | cons member members ih =>
      obtain ⟨key, value⟩ := member
      by_cases same : key = some name
      · subst same
        simp [valuesOf_cons_self, ih]
      · simp [valuesOf_cons_of_ne same, ih, Ne.symm same]

structure Slot (α : Type) where
  name : String
  Value : Type
  describes : Description Value
  default : Option Value
  get : α → Value

/-- What stands under the name of a field says what it is in the record. -/
def Slot.Given (field : Slot α) (depth : Nat) (record : α) : List Tree → Prop
  | [] => field.default = some (field.get record)
  | [tree] => field.describes depth tree (field.get record)
  | _ => False

/-- The items are the values of the first fields in order, and the others are left out. -/
def Listed (depth : Nat) (record : α) : List (Slot α) → List Tree → Prop
  | fields, [] => ∀ field ∈ fields, field.Given depth record []
  | [], _ :: _ => False
  | field :: fields, item :: items =>
      field.Given depth record [item] ∧ Listed depth record fields items

/-- An object that holds the fields by name, among others, or a list of their values. -/
def Description.record (fields : List (Slot α)) : Description α
  | depth, .object members, record =>
      (∀ member ∈ members, member.1.isSome = true) ∧
        ∀ field ∈ fields, field.Given (depth + 1) record (valuesOf field.name members)
  | depth, .array items, record => Listed (depth + 1) record fields items
  | _, _, _ => False

/-- Members that give the same values under the names of the fields describe the same. -/
theorem Description.record_object_congr {fields : List (Slot α)}
    {left right : List (Option String × Tree)} (leftKeys : ∀ member ∈ left, member.1.isSome = true)
    (rightKeys : ∀ member ∈ right, member.1.isSome = true)
    (values : ∀ field ∈ fields, valuesOf field.name left = valuesOf field.name right) {depth : Nat}
    {record : α} :
    Description.record fields depth (.object left) record ↔
      Description.record fields depth (.object right) record := by
  refine and_congr (iff_of_true leftKeys rightKeys) (forall₂_congr fun field member => ?_)
  rw [values field member]

/-! ### Members that are held until the object was read -/

/-- What is held of a field before these values, and what it comes to behind them. -/
def Takes (describes : Description α) (default : Option α) (depth : Nat) (value : α) :
    Option α → List Tree → Prop
  | none, [] => default = some value
  | none, [tree] => describes depth tree value
  | some held, [] => held = value
  | _, _ => False

theorem takes_cons_iff {decode : Decoder α} {describes : Description α}
    (understands : Understands decode describes) {default : Option α} {depth : Nat} {value : α}
    {tree : Tree} {node : Node} (holds : node.Holds depth tree) (values : List Tree) :
    Takes describes default depth value none (tree :: values) ↔
      ∃ held, decode node = .ok held ∧ Takes describes default depth value (some held) values := by
  cases values with
  | nil => simp [Takes, understands.iff holds]
  | cons second others => simp [Takes]

theorem Slot.given_iff_takes {field : Slot α} {depth : Nat} {record : α} {values : List Tree} :
    field.Given depth record values ↔
      Takes field.describes field.default depth (field.get record) none values := by
  cases values with
  | nil => rfl
  | cons tree values =>
      cases values with
      | nil => rfl
      | cons second others => rfl

/-! ### Tables -/

structure Column (ε α : Type) extends Slot α where
  decode : Decoder Value
  wrap : Value → ε
  select : ε → Option Value
  understands : Understands decode describes
  selects : ∀ value, select (wrap value) = some value

def stringColumn (name : String) (default : Option String) (get : α → String) (wrap : String → ε)
    (select : ε → Option String) (selects : ∀ value, select (wrap value) = some value) :
    Column ε α :=
  { name, Value := String, describes := .string, default, get
    decode := decodeString, wrap, select, understands := understands_string, selects }

namespace Column

def recordField (column : Column ε α) : RecordField ε :=
  ⟨column.name, fun node => (column.decode node).map column.wrap, column.default.isSome⟩

/-- What the entries hold for the column, or else its default, is in the record. -/
def Filled (column : Column ε α) (entries : List ε) (record : α) : Prop :=
  (entries.findSome? column.select).or column.default = some (column.get record)

theorem filled_nil_iff {column : Column ε α} {record : α} :
    column.Filled [] record ↔ column.default = some (column.get record) := by
  simp [Filled]

theorem filled_self_iff {column : Column ε α} {part : column.Value} {entries : List ε} {record : α} :
    column.Filled (column.wrap part :: entries) record ↔ part = column.get record := by
  simp [Filled, column.selects]

theorem filled_cons_iff {column : Column ε α} {entry : ε} (other : column.select entry = none)
    {entries : List ε} {record : α} :
    column.Filled (entry :: entries) record ↔ column.Filled entries record := by
  simp [Filled, other]

def GivenAfter (column : Column ε α) (seen : List String) (depth : Nat) (record : α)
    (values : List Tree) : Prop :=
  if column.name ∈ seen then values = [] else column.Given depth record values

theorem givenAfter_cons_iff {column : Column ε α} {seen : List String} (fresh : column.name ∉ seen)
    {depth : Nat} {record : α} {tree : Tree} {values : List Tree} :
    column.GivenAfter seen depth record (tree :: values) ↔
      column.describes depth tree (column.get record) ∧
        column.GivenAfter (column.name :: seen) depth record values := by
  rw [GivenAfter, if_neg fresh, GivenAfter, if_pos List.mem_cons_self]
  cases values with
  | nil => simp [Slot.Given]
  | cons second others => simp [Slot.Given]

theorem givenAfter_cons_name_iff {column : Column ε α} {name : String} (other : column.name ≠ name)
    {seen : List String} {depth : Nat} {record : α} {values : List Tree} :
    column.GivenAfter (name :: seen) depth record values ↔
      column.GivenAfter seen depth record values := by
  simp [GivenAfter, other]

def Apart (left right : Column ε α) : Prop :=
  left.name ≠ right.name ∧ (∀ value, left.select (right.wrap value) = none) ∧
    ∀ value, right.select (left.wrap value) = none

instance : Std.Symm (Apart : Column ε α → Column ε α → Prop) where
  symm _ _ := fun ⟨different, left, right⟩ => ⟨different.symm, right, left⟩

end Column

structure Table (record : Record ε α) (columns : List (Column ε α)) : Prop where
  fields : record.fields = columns.map Column.recordField
  apart : columns.Pairwise Column.Apart
  made : ∀ entries value, record.make entries = .ok value ↔
    ∀ column ∈ columns, column.Filled entries value

/-! ### Wholeness -/

section Wholeness

variable {fields : List (RecordField ε)}

theorem Members.entries_whole
    (sound : ∀ field ∈ fields, ∀ node entry, field.decode node = .ok entry → node.whole = true)
    {members : Members} {seen : List String} {read : List ε × Place}
    (decoded : members.entries fields seen = .ok read) : members.whole = true := by
  fun_induction Members.entries fields seen members generalizing read with
  | case1 => rfl
  | case2 => cases decoded
  | case3 => cases decoded
  | case4 seen key keyStop left value rest unknown whole ih =>
    rw [Members.whole, whole, ih decoded, Bool.and_self]
  | case5 => cases decoded
  | case6 => cases decoded
  | case7 => cases decoded
  | case8 => cases decoded
  | case9 seen key keyStop left value rest field found fresh entry readEntry entries stop readRest ih =>
    have member := List.mem_of_find?_eq_some found
    rw [Members.whole, sound field member value entry readEntry, ih readRest, Bool.and_self]

theorem Items.entries_whole
    (sound : ∀ field ∈ fields, ∀ node entry, field.decode node = .ok entry → node.whole = true)
    {reading : Reading} {expected : String} {index : Nat} {items : Items} {entries : List ε}
    (decoded : items.entries reading expected index fields = .ok entries) : items.whole = true := by
  fun_induction Items.entries reading expected index fields items generalizing entries with
  | case1 => cases decoded
  | case2 => rfl
  | case3 => cases decoded
  | case4 => cases decoded
  | case5 => cases decoded
  | case6 => cases decoded
  | case7 index field fields item left rest entry readEntry entries readRest ih =>
    have soundRest := (List.forall_mem_cons.mp sound).2
    have soundHere := (List.forall_mem_cons.mp sound).1
    rw [Items.whole, soundHere item entry readEntry, ih soundRest readRest, Bool.and_self]

end Wholeness

/-! ### Objects -/

theorem Members.entries_cons_ok_iff {fields : List (RecordField ε)} {field : RecordField ε}
    {key : String} {seen : List String}
    (found : fields.find? (fun field => field.name = key) = some field) (fresh : key ∉ seen)
    {keyStop left stop : Place} {value : Node} {rest : Members} {entries : List ε} :
    (Members.cons (some key) keyStop left value rest).entries fields seen = .ok (entries, stop) ↔
      ∃ entry others, field.decode value = .ok entry ∧
        rest.entries fields (key :: seen) = .ok (others, stop) ∧ entries = entry :: others := by
  rw [Members.entries]
  simp only [found, if_neg fresh]
  cases field.decode value with
  | error error => simp
  | ok entry =>
      cases rest.entries fields (key :: seen) with
      | error error => simp
      | ok read =>
          obtain ⟨others, after⟩ := read
          simp [and_comm, eq_comm]

section Objects

variable {columns : List (Column ε α)}

theorem sound_recordField (columns : List (Column ε α)) : ∀ field ∈ columns.map Column.recordField, ∀ node entry,
    field.decode node = .ok entry → node.whole = true := by
  intro field member node entry decoded
  obtain ⟨column, _, rfl⟩ := List.mem_map.mp member
  obtain ⟨part, read, _⟩ := map_ok_iff.mp decoded
  exact column.understands.whole read

theorem find?_recordField (name : String) :
    (columns.map Column.recordField).find? (fun field => field.name = name) =
      (columns.find? fun column => column.name = name).map Column.recordField := by
  rw [List.find?_map]
  rfl

/-- An entry is taken by the column it was read for, and by no other one. -/
theorem filled_wrap_iff (apart : columns.Pairwise Column.Apart) {column : Column ε α}
    (member : column ∈ columns) (part : column.Value) {seen : List String}
    (fresh : column.name ∉ seen) (entries : List ε) (record : α) :
    (∀ other ∈ columns, other.name ∉ seen → other.Filled (column.wrap part :: entries) record) ↔
      part = column.get record ∧
        ∀ other ∈ columns, other.name ∉ column.name :: seen → other.Filled entries record := by
  have elsewhere : ∀ other ∈ columns, other ≠ column → column.Apart other :=
    fun other listed different => apart.forall member listed different.symm
  constructor
  · intro filled
    refine ⟨Column.filled_self_iff.mp (filled column member fresh), fun other listed unseen => ?_⟩
    rw [List.mem_cons, not_or] at unseen
    have different : other ≠ column := fun same => unseen.1 (congrArg (·.name) same)
    have untaken := (elsewhere other listed different).2.2 part
    exact (Column.filled_cons_iff untaken).mp (filled other listed unseen.2)
  · rintro ⟨same, filled⟩ other listed unseen
    by_cases different : other = column
    · cases different
      exact Column.filled_self_iff.mpr same
    · obtain ⟨names, _, untaken⟩ := elsewhere other listed different
      rw [Column.filled_cons_iff (untaken part)]
      apply filled other listed
      rw [List.mem_cons, not_or]
      exact ⟨names.symm, unseen⟩

theorem givenAfter_known (apart : columns.Pairwise Column.Apart) {column : Column ε α}
    (listed : column ∈ columns) {seen : List String} (fresh : column.name ∉ seen) {depth : Nat}
    {record : α} (tree : Tree) (trees : List (Option String × Tree)) :
    (∀ other ∈ columns, other.GivenAfter seen depth record
        (valuesOf other.name ((some column.name, tree) :: trees))) ↔
      column.describes depth tree (column.get record) ∧
        ∀ other ∈ columns,
          other.GivenAfter (column.name :: seen) depth record (valuesOf other.name trees) := by
  have here : column.GivenAfter seen depth record (tree :: valuesOf column.name trees) ↔ _ :=
    Column.givenAfter_cons_iff fresh
  have elsewhere : ∀ other ∈ columns, other ≠ column →
      (other.GivenAfter seen depth record (valuesOf other.name ((some column.name, tree) :: trees)) ↔
        other.GivenAfter (column.name :: seen) depth record (valuesOf other.name trees)) := by
    intro other member different
    have names := (apart.forall listed member different.symm).1
    rw [valuesOf_cons_of_ne (by simpa using names), Column.givenAfter_cons_name_iff names.symm]
  rw [← valuesOf_cons_self] at here
  constructor
  · intro given
    obtain ⟨describes, after⟩ := here.mp (given column listed)
    refine ⟨describes, fun other member => ?_⟩
    by_cases different : other = column
    · cases different
      exact after
    · exact (elsewhere other member different).mp (given other member)
  · rintro ⟨describes, given⟩ other member
    by_cases different : other = column
    · cases different
      exact here.mpr ⟨describes, given column listed⟩
    · exact (elsewhere other member different).mpr (given other member)

/-- The members of an object are read as entries of the record exactly if they give its fields. -/
theorem Members.entries_iff (apart : columns.Pairwise Column.Apart) {depth : Nat}
    {trees : List (Option String × Tree)} {members : Members}
    (hold : Members.Hold depth trees members) (seen : List String) (record : α) :
    (∃ entries stop, members.entries (columns.map Column.recordField) seen = .ok (entries, stop) ∧
        ∀ column ∈ columns, column.name ∉ seen → column.Filled entries record) ↔
      (∀ member ∈ trees, member.1.isSome = true) ∧
        ∀ column ∈ columns, column.GivenAfter seen depth record (valuesOf column.name trees) := by
  induction trees generalizing members seen with
  | nil =>
      cases hold
      have fresh : ∀ column : Column ε α, column.GivenAfter seen depth record [] ↔
          (column.name ∉ seen → column.Filled [] record) := by
        intro column
        rw [Column.filled_nil_iff, Column.GivenAfter]
        split
        · next again => simp [again]
        · next fresh => simp [fresh, Slot.Given]
      simp [Members.entries, valuesOf, fresh]
  | cons member trees ih =>
      obtain ⟨key, tree⟩ := member
      cases hold with
      | @cons _ _ _ _ keyStop left node rest first others =>
          cases key with
          | none =>
              refine iff_of_false ?_ ?_
              · rintro ⟨_, _, decoded, _⟩
                cases decoded
              · rintro ⟨keys, _⟩
                cases keys _ List.mem_cons_self
          | some name =>
              have keys : (∀ member ∈ (some name, tree) :: trees, member.1.isSome = true) ↔
                  ∀ member ∈ trees, member.1.isSome = true := by
                simp
              rw [keys]
              cases found : columns.find? fun column => column.name = name with
              | none =>
                  have unknown : ∀ column ∈ columns, some name ≠ some column.name := by
                    intro column listed same
                    cases same
                    exact absurd (List.find?_eq_none.mp found column listed) (by simp)
                  have values : ∀ column ∈ columns,
                      valuesOf column.name ((some name, tree) :: trees) = valuesOf column.name trees :=
                    fun column listed => valuesOf_cons_of_ne (unknown column listed) tree trees
                  simp only [Members.entries, find?_recordField, found, Option.map_none, first.whole,
                    if_true]
                  rw [ih others seen]
                  refine and_congr_right fun _ => forall₂_congr fun column listed => ?_
                  rw [values column listed]
              | some column =>
                  have listed := List.mem_of_find?_eq_some found
                  cases (by simpa using List.find?_some found : column.name = name)
                  have field : (columns.map Column.recordField).find?
                      (fun field => field.name = column.name) = some column.recordField := by
                    rw [find?_recordField, found, Option.map_some]
                  by_cases fresh : column.name ∈ seen
                  · -- a second value of one field
                    refine iff_of_false ?_ ?_
                    · rintro ⟨_, _, decoded, _⟩
                      rw [Members.entries] at decoded
                      simp only [field, if_pos fresh] at decoded
                      cases decoded
                    · rintro ⟨_, given⟩
                      have left := given column listed
                      rw [Column.GivenAfter, if_pos fresh, valuesOf_cons_self] at left
                      cases left
                  · rw [givenAfter_known apart listed fresh tree trees, ← and_left_comm,
                      ← ih others (column.name :: seen), ← column.understands.iff first]
                    constructor
                    · rintro ⟨_, stop, decoded, filled⟩
                      obtain ⟨_, entries, readEntry, readRest, rfl⟩ :=
                        (Members.entries_cons_ok_iff field fresh).mp decoded
                      obtain ⟨part, read, rfl⟩ := map_ok_iff.mp readEntry
                      obtain ⟨rfl, filledRest⟩ :=
                        (filled_wrap_iff apart listed part fresh entries record).mp filled
                      exact ⟨read, entries, stop, readRest, filledRest⟩
                    · rintro ⟨read, entries, stop, readRest, filled⟩
                      refine ⟨_, stop, (Members.entries_cons_ok_iff field fresh).mpr
                        ⟨_, entries, map_ok_iff.mpr ⟨_, read, rfl⟩, readRest, rfl⟩, ?_⟩
                      exact (filled_wrap_iff apart listed _ fresh entries record).mpr ⟨rfl, filled⟩

end Objects

/-! ### Lists -/

section Lists

variable {columns : List (Column ε α)}

theorem endOfItems_ok_iff (expected : String) (stop : Place) (index : Nat)
    (fields : List (RecordField ε)) (entries : List ε) :
    endOfItems expected stop index fields = .ok entries ↔
      entries = [] ∧ ∀ field ∈ fields, field.optional = true := by
  induction fields generalizing index with
  | nil =>
      constructor
      · rintro ⟨⟩
        exact ⟨rfl, nofun⟩
      · rintro ⟨rfl, _⟩
        rfl
  | cons field fields ih =>
      rw [endOfItems, List.forall_mem_cons]
      by_cases optional : field.optional = true
      · rw [if_pos optional, ih]
        simp [optional]
      · rw [if_neg optional]
        simp [optional]

theorem endOfItems_iff (columns : List (Column ε α)) (expected : String) (stop : Place) (index : Nat)
    (depth : Nat) (record : α) :
    (∃ entries, endOfItems expected stop index (columns.map Column.recordField) = .ok entries ∧
        ∀ column ∈ columns, column.Filled entries record) ↔
      Listed depth record (columns.map Column.toSlot) [] := by
  have listed : Listed depth record (columns.map Column.toSlot) [] ↔
      ∀ column ∈ columns, column.default = some (column.get record) := by
    rw [Listed, List.forall_mem_map]
    rfl
  simp only [endOfItems_ok_iff, listed]
  constructor
  · rintro ⟨_, ⟨rfl, _⟩, filled⟩ column member
    exact Column.filled_nil_iff.mp (filled column member)
  · intro defaults
    refine ⟨[], ⟨rfl, ?_⟩, fun column member => Column.filled_nil_iff.mpr (defaults column member)⟩
    intro field member
    obtain ⟨column, listed, rfl⟩ := List.mem_map.mp member
    exact Option.isSome_iff_exists.mpr ⟨_, defaults column listed⟩

theorem Items.entries_cons_ok_iff {reading : Reading} {expected : String} {index : Nat}
    {field : RecordField ε} {fields : List (RecordField ε)} {item : Node} {left : Place}
    {rest : Items} {entries : List ε} :
    (Items.cons item left rest).entries reading expected index (field :: fields) = .ok entries ↔
      ∃ entry others, field.decode item = .ok entry ∧
        rest.entries reading expected (index + 1) fields = .ok others ∧ entries = entry :: others := by
  rw [Items.entries]
  cases field.decode item with
  | error error => simp
  | ok entry =>
      cases rest.entries reading expected (index + 1) fields with
      | error error => simp
      | ok others => simp [eq_comm]

/-- The items of a list are read as entries of the record exactly if they give its fields in order. -/
theorem Items.entries_iff (apart : columns.Pairwise Column.Apart) {depth : Nat} {trees : List Tree}
    {items : Items} (hold : Items.Hold depth trees items) (reading : Reading) (expected : String)
    (index : Nat) (record : α) :
    (∃ entries, items.entries reading expected index (columns.map Column.recordField) = .ok entries ∧
        ∀ column ∈ columns, column.Filled entries record) ↔
      Listed depth record (columns.map Column.toSlot) trees := by
  induction columns generalizing trees items index with
  | nil =>
      cases hold with
      | closed => exact endOfItems_iff [] expected _ index depth record
      | cons first others =>
          refine iff_of_false ?_ nofun
          rintro ⟨_, decoded, _⟩
          cases reading <;> cases decoded
  | cons column columns ih =>
      obtain ⟨apartHere, apartRest⟩ := List.pairwise_cons.mp apart
      have untaken : ∀ other ∈ columns, ∀ part, other.select (column.wrap part) = none :=
        fun other member => (apartHere other member).2.2
      cases hold with
      | closed => exact endOfItems_iff (column :: columns) expected _ index depth record
      | @cons _ tree trees node left rest first others =>
          have listed : Listed depth record ((column :: columns).map Column.toSlot) (tree :: trees) ↔
              column.decode node = .ok (column.get record) ∧
                Listed depth record (columns.map Column.toSlot) trees := by
            rw [column.understands.iff first]
            rfl
          rw [listed, ← ih apartRest others (index + 1), List.map_cons]
          constructor
          · rintro ⟨_, decoded, filled⟩
            obtain ⟨_, entries, readEntry, readRest, rfl⟩ := Items.entries_cons_ok_iff.mp decoded
            obtain ⟨part, read, rfl⟩ := map_ok_iff.mp readEntry
            obtain ⟨filledHere, filledRest⟩ := List.forall_mem_cons.mp filled
            cases Column.filled_self_iff.mp filledHere
            exact ⟨read, entries, readRest, fun other member =>
              (Column.filled_cons_iff (untaken other member _)).mp (filledRest other member)⟩
          · rintro ⟨read, entries, readRest, filled⟩
            refine ⟨_, Items.entries_cons_ok_iff.mpr
              ⟨_, entries, map_ok_iff.mpr ⟨_, read, rfl⟩, readRest, rfl⟩, ?_⟩
            refine List.forall_mem_cons.mpr ⟨Column.filled_self_iff.mpr rfl, fun other member => ?_⟩
            exact (Column.filled_cons_iff (untaken other member _)).mpr (filled other member)

end Lists

/-! ### Records -/

theorem Record.finish_ok_iff {record : Record ε α} {place : Option Place} {entries : List ε}
    {value : α} : record.finish place entries = .ok value ↔ record.make entries = .ok value := by
  unfold Record.finish
  cases record.make entries with
  | error name => simp
  | ok made => simp

theorem Record.decode_object_ok_iff {record : Record ε α} {reading : Reading} {start : Place}
    {depth : Nat} {members : Members} {value : α} :
    record.decode reading (.object start depth members) = .ok value ↔
      ∃ entries stop, members.entries record.fields [] = .ok (entries, stop) ∧
        record.make entries = .ok value := by
  rw [Record.decode]
  cases members.entries record.fields [] with
  | error error => simp
  | ok read =>
      obtain ⟨entries, stop⟩ := read
      simp [Record.finish_ok_iff]

theorem Record.decode_array_ok_iff {record : Record ε α} {reading : Reading} {start : Place}
    {depth : Nat} {items : Items} {value : α} :
    record.decode reading (.array start depth items) = .ok value ↔
      ∃ entries, items.entries reading
          ("struct " ++ record.title ++ " with " ++ countOf record.fields.length "element") 0
          record.fields = .ok entries ∧
        record.make entries = .ok value := by
  rw [Record.decode]
  cases items.entries reading _ 0 record.fields with
  | error error => simp
  | ok entries => simp [Record.finish_ok_iff]

/-- A record that is made from the parts of another one is read as these are. -/
theorem Record.decode_ok_iff_parts {β : Type} {record : Record ε β} {parts : Record ε α}
    (wrap : α → β) (title : record.title = parts.title) (fields : record.fields = parts.fields)
    (made : ∀ entries, record.make entries = (parts.make entries).map wrap) {reading : Reading}
    {node : Node} {value : β} :
    record.decode reading node = .ok value ↔
      ∃ part, parts.decode reading node = .ok part ∧ wrap part = value := by
  cases node with
  | object start depth members =>
      simp only [Record.decode_object_ok_iff, made, map_ok_iff, fields]
      constructor
      · rintro ⟨entries, stop, read, part, madePart, wrapped⟩
        exact ⟨part, ⟨entries, stop, read, madePart⟩, wrapped⟩
      · rintro ⟨part, ⟨entries, stop, read, madePart⟩, wrapped⟩
        exact ⟨entries, stop, read, part, madePart, wrapped⟩
  | array start depth items =>
      simp only [Record.decode_array_ok_iff, made, map_ok_iff, fields, title]
      constructor
      · rintro ⟨entries, read, part, madePart, wrapped⟩
        exact ⟨part, ⟨entries, read, madePart⟩, wrapped⟩
      · rintro ⟨part, ⟨entries, read, madePart⟩, wrapped⟩
        exact ⟨entries, read, part, madePart, wrapped⟩
  | _ => simp [Record.decode]

/-- The reader of a record understands the description that its table gives. -/
theorem Table.understands {record : Record ε α} {columns : List (Column ε α)}
    (table : Table record columns) (reading : Reading) :
    Understands (record.decode reading) (.record (columns.map Column.toSlot)) where
  whole := by
    intro node value decoded
    have sound := sound_recordField columns
    rw [← table.fields] at sound
    cases node with
    | object start depth members =>
        obtain ⟨_, _, read, _⟩ := Record.decode_object_ok_iff.mp decoded
        exact Members.entries_whole sound read
    | array start depth items =>
        obtain ⟨_, read, _⟩ := Record.decode_array_ok_iff.mp decoded
        exact Items.entries_whole sound read
    | _ => cases decoded
  iff := by
    intro depth tree node holds value
    cases holds with
    | object hold =>
        have entries := Members.entries_iff table.apart hold [] value
        rw [Record.decode_object_ok_iff, table.fields]
        simp only [table.made]
        simpa [Column.GivenAfter, Description.record] using entries
    | array hold =>
        rw [Record.decode_array_ok_iff, table.fields]
        simp only [table.made]
        exact Items.entries_iff table.apart hold reading _ 0 value
    | _ => exact iff_of_false nofun nofun

end GuestGlue.Json
