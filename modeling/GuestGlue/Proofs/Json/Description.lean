/-
What a document says.  A description relates a tree, with a number of lists and objects
around it, to the values it stands for.  A reader understands a description if it accepts
exactly the trees that stand for something, and gives what they stand for; then places,
layout and the rest of the text do not matter to it.
-/

import GuestGlue.Json.Decode
import GuestGlue.Proofs.Json.Parsing
import Mathlib.Data.List.Forall2

namespace GuestGlue.Json

/-! ### Nodes that hold a tree -/

mutual

theorem Node.Holds.whole {depth : Nat} {tree : Tree} {node : Node} (holds : node.Holds depth tree) :
    node.whole = true := by
  cases holds with
  | null => rfl
  | bool => rfl
  | number => rfl
  | string => rfl
  | array items => exact items.whole
  | object members => exact members.whole

theorem Items.Hold.whole {depth : Nat} {trees : List Tree} {items : Items}
    (hold : Items.Hold depth trees items) : items.whole = true := by
  cases hold with
  | closed => rfl
  | cons first others => rw [Items.whole, first.whole, others.whole, Bool.and_self]

theorem Members.Hold.whole {depth : Nat} {trees : List (Option String × Tree)} {members : Members}
    (hold : Members.Hold depth trees members) : members.whole = true := by
  cases hold with
  | closed => rfl
  | cons first others => rw [Members.whole, first.whole, others.whole, Bool.and_self]

end

/-- Can be kept for later: numbers are in range, strings have a content, and not too many
lists and objects are around each other. -/
inductive Tree.Readable : Nat → Tree → Prop
  | null {depth : Nat} : Tree.Readable depth .null
  | bool {depth : Nat} {value : Bool} : Tree.Readable depth (.bool value)
  | number {depth : Nat} {literal : NumberLiteral} :
      literal.value?.isSome = true → Tree.Readable depth (.number literal)
  | string {depth : Nat} {content : String} : Tree.Readable depth (.string (some content))
  | array {depth : Nat} {items : List Tree} : depth < depthLimit →
      (∀ item ∈ items, Tree.Readable (depth + 1) item) → Tree.Readable depth (.array items)
  | object {depth : Nat} {members : List (Option String × Tree)} : depth < depthLimit →
      (∀ member ∈ members, member.1.isSome = true) →
        (∀ member ∈ members, Tree.Readable (depth + 1) member.2) →
          Tree.Readable depth (.object members)

mutual

theorem Node.Holds.readable_iff {depth : Nat} {tree : Tree} {node : Node}
    (holds : node.Holds depth tree) : node.readable = true ↔ tree.Readable depth := by
  cases holds with
  | null => exact iff_of_true rfl .null
  | bool => exact iff_of_true rfl .bool
  | number =>
      refine ⟨.number, fun readable => ?_⟩
      cases readable with
      | number inRange => exact inRange
  | @string _ content _ =>
      cases content with
      | none => exact iff_of_false nofun nofun
      | some content => exact iff_of_true rfl .string
  | array items =>
      have inside := items.readable_iff
      simp only [Node.readable, Bool.and_eq_true, decide_eq_true_eq, inside]
      refine ⟨fun both => .array both.1 both.2, fun readable => ?_⟩
      cases readable with
      | array shallow items => exact ⟨shallow, items⟩
  | object members =>
      have inside := members.readable_iff
      simp only [Node.readable, Bool.and_eq_true, decide_eq_true_eq, inside]
      refine ⟨fun all => .object all.1 all.2.1 all.2.2, fun readable => ?_⟩
      cases readable with
      | object shallow keys members => exact ⟨shallow, keys, members⟩

theorem Items.Hold.readable_iff {depth : Nat} {trees : List Tree} {items : Items}
    (hold : Items.Hold depth trees items) :
    items.readable = true ↔ ∀ tree ∈ trees, tree.Readable depth := by
  cases hold with
  | closed => exact iff_of_true rfl nofun
  | cons first others =>
      rw [Items.readable, Bool.and_eq_true, first.readable_iff, others.readable_iff,
        List.forall_mem_cons]

theorem Members.Hold.readable_iff {depth : Nat} {trees : List (Option String × Tree)}
    {members : Members} (hold : Members.Hold depth trees members) :
    members.readable = true ↔
      (∀ member ∈ trees, member.1.isSome = true) ∧ ∀ member ∈ trees, member.2.Readable depth := by
  cases hold with
  | closed => exact iff_of_true rfl ⟨nofun, nofun⟩
  | cons first others =>
      rw [Members.readable, Bool.and_eq_true, Bool.and_eq_true, first.readable_iff,
        others.readable_iff, List.forall_mem_cons, List.forall_mem_cons]
      exact ⟨fun ⟨key, value, keys, values⟩ => ⟨⟨key, keys⟩, value, values⟩,
        fun ⟨⟨key, keys⟩, value, values⟩ => ⟨key, value, keys, values⟩⟩

end

/-! ### Wholeness of what can be kept -/

mutual

theorem Node.whole_of_readable (node : Node) (readable : node.readable = true) :
    node.whole = true := by
  cases node with
  | null stop => rfl
  | bool value stop => rfl
  | number literal stop => rfl
  | string content stop => rfl
  | array start depth items =>
      rw [Node.readable, Bool.and_eq_true] at readable
      exact items.whole_of_readable readable.2
  | object start depth members =>
      rw [Node.readable, Bool.and_eq_true] at readable
      exact members.whole_of_readable readable.2
  | absent => cases readable

theorem Items.whole_of_readable (items : Items) (readable : items.readable = true) :
    items.whole = true := by
  cases items with
  | closed stop => rfl
  | broken => cases readable
  | cons item left rest =>
      rw [Items.readable, Bool.and_eq_true] at readable
      rw [Items.whole, item.whole_of_readable readable.1, rest.whole_of_readable readable.2,
        Bool.and_self]

theorem Members.whole_of_readable (members : Members) (readable : members.readable = true) :
    members.whole = true := by
  cases members with
  | closed stop => rfl
  | broken => cases readable
  | cons key keyStop left value rest =>
      rw [Members.readable, Bool.and_eq_true, Bool.and_eq_true] at readable
      rw [Members.whole, value.whole_of_readable readable.2.1, rest.whole_of_readable readable.2.2,
        Bool.and_self]

end

/-! ### Descriptions -/

abbrev Description (α : Type) := Nat → Tree → α → Prop

variable {α β ε : Type}

theorem map_ok_iff {result : Except ε α} {make : α → β} {value : β} :
    result.map make = .ok value ↔ ∃ part, result = .ok part ∧ make part = value := by
  cases result with
  | error error => exact iff_of_false nofun nofun
  | ok part => simp [Except.map]

structure Understands (decode : Decoder α) (describes : Description α) : Prop where
  whole : ∀ {node value}, decode node = .ok value → node.whole = true
  iff : ∀ {depth tree node}, node.Holds depth tree →
    ∀ value, decode node = .ok value ↔ describes depth tree value

namespace Description

def string : Description String :=
  fun _ tree value => tree = .string (some value)

def bool : Description Bool :=
  fun _ tree value => tree = .bool value

def option (describes : Description α) : Description (Option α)
  | _, .null, value => value = none
  | depth, tree, value => ∃ content, value = some content ∧ describes depth tree content

def list (describes : Description α) : Description (List α)
  | depth, .array items, values => List.Forall₂ (describes (depth + 1)) items values
  | _, _, _ => False

def members (describes : Description α) : Description (List (String × α))
  | depth, .object members, values =>
      List.Forall₂ (fun member value => member.1 = some value.1 ∧
        describes (depth + 1) member.2 value.2) members values
  | _, _, _ => False

def as (describes : Description α) (parts : β → α) : Description β :=
  fun depth tree value => describes depth tree (parts value)

end Description

theorem understands_stringAs (expected : String) :
    Understands (decodeStringAs expected) .string where
  whole := by
    intro node value decoded
    unfold decodeStringAs at decoded
    split at decoded
    · rfl
    · cases decoded
  iff := by
    intro depth tree node holds value
    cases holds with
    | @string _ content _ =>
        cases content with
        | none => exact iff_of_false nofun nofun
        | some content => simp [decodeStringAs, Description.string]
    | _ => exact iff_of_false nofun nofun

theorem understands_string : Understands decodeString .string :=
  understands_stringAs "a string"

theorem understands_bool : Understands decodeBool .bool where
  whole := by
    intro node value decoded
    unfold decodeBool at decoded
    split at decoded
    · rfl
    · cases decoded
  iff := by
    intro depth tree node holds value
    cases holds with
    | bool => simp [decodeBool, Description.bool]
    | _ => exact iff_of_false nofun nofun

namespace Understands

variable {decode : Decoder α} {describes : Description α}

theorem map (understands : Understands decode describes) {make : α → β} {parts : β → α}
    (inverse : ∀ part value, make part = value ↔ part = parts value) :
    Understands (fun node => (decode node).map make) (describes.as parts) where
  whole := by
    intro node value decoded
    obtain ⟨part, read, _⟩ := map_ok_iff.mp decoded
    exact understands.whole read
  iff := by
    intro depth tree node holds value
    simp only [map_ok_iff, inverse, exists_eq_right, Description.as, understands.iff holds]

theorem option (understands : Understands decode describes) :
    Understands (decodeOption decode) (.option describes) where
  whole := by
    have present : ∀ {node value}, (decode node).map some = .ok value → node.whole = true := by
      intro node value decoded
      obtain ⟨content, read, _⟩ := map_ok_iff.mp decoded
      exact understands.whole read
    intro node value decoded
    cases node with
    | null stop => rfl
    | bool value stop => exact present decoded
    | number literal stop => exact present decoded
    | string content stop => exact present decoded
    | array start depth items => exact present decoded
    | object start depth members => exact present decoded
    | absent => exact present decoded
  iff := by
    have present : ∀ {depth tree node}, node.Holds depth tree → ∀ value,
        (decode node).map some = .ok value ↔
          ∃ content, value = some content ∧ describes depth tree content := by
      intro depth tree node holds value
      simp only [map_ok_iff, understands.iff holds]
      exact exists_congr fun content => ⟨fun ⟨describes, same⟩ => ⟨same.symm, describes⟩,
        fun ⟨same, describes⟩ => ⟨describes, same.symm⟩⟩
    intro depth tree node holds value
    cases holds with
    | null => simp [decodeOption, Description.option, eq_comm]
    | bool => exact present .bool value
    | number => exact present .number value
    | string => exact present .string value
    | array items => exact present (.array items) value
    | object members => exact present (.object members) value

theorem items_whole (understands : Understands decode describes) {items : Items} {values : List α}
    (decoded : items.decode decode = .ok values) : items.whole = true := by
  fun_induction Items.decode decode items generalizing values with
  | case1 => rfl
  | case2 => cases decoded
  | case3 => cases decoded
  | case4 => cases decoded
  | case5 item left rest value read others readOthers ih =>
    rw [Items.whole, understands.whole read, ih readOthers, Bool.and_self]

theorem items_iff (understands : Understands decode describes) {depth : Nat} {trees : List Tree}
    {items : Items} (hold : Items.Hold depth trees items) (values : List α) :
    items.decode decode = .ok values ↔ List.Forall₂ (describes depth) trees values := by
  induction trees generalizing items values with
  | nil =>
      cases hold
      simp [Items.decode, eq_comm]
  | cons tree trees ih =>
      cases hold with
      | @cons _ _ _ node left rest first others =>
          have stepped : (Items.cons node left rest).decode decode = .ok values ↔
              ∃ value after, decode node = .ok value ∧ rest.decode decode = .ok after ∧
                value :: after = values := by
            rw [Items.decode]
            cases decode node with
            | error error => simp
            | ok value =>
                cases rest.decode decode with
                | error error => simp
                | ok after => simp
          rw [stepped]
          constructor
          · rintro ⟨value, after, read, readRest, rfl⟩
            exact .cons ((understands.iff first value).mp read) ((ih others after).mp readRest)
          · intro both
            cases both with
            | @cons _ value _ after here elsewhere =>
                exact ⟨value, after, (understands.iff first value).mpr here,
                  (ih others after).mpr elsewhere, rfl⟩

theorem list (understands : Understands decode describes) :
    Understands (decodeList decode) (.list describes) where
  whole := by
    intro node values decoded
    unfold decodeList at decoded
    split at decoded
    · exact understands.items_whole decoded
    · cases decoded
  iff := by
    intro depth tree node holds values
    cases holds with
    | array items => exact understands.items_iff items values
    | _ => exact iff_of_false nofun nofun

theorem members_whole (understands : Understands decode describes) {members : Members}
    {values : List (String × α)} (decoded : members.decode decode = .ok values) :
    members.whole = true := by
  fun_induction Members.decode decode members generalizing values with
  | case1 => rfl
  | case2 => cases decoded
  | case3 => cases decoded
  | case4 => cases decoded
  | case5 => cases decoded
  | case6 key keyStop left node rest value read others readOthers ih =>
    rw [Members.whole, understands.whole read, ih readOthers, Bool.and_self]

theorem members_iff (understands : Understands decode describes) {depth : Nat}
    {trees : List (Option String × Tree)} {members : Members}
    (hold : Members.Hold depth trees members) (values : List (String × α)) :
    members.decode decode = .ok values ↔
      List.Forall₂ (fun member value => member.1 = some value.1 ∧
        describes depth member.2 value.2) trees values := by
  induction trees generalizing members values with
  | nil =>
      cases hold
      simp [Members.decode, eq_comm]
  | cons member trees ih =>
      obtain ⟨key, tree⟩ := member
      cases hold with
      | @cons _ _ _ _ keyStop left node rest first others =>
          cases key with
          | none =>
              refine iff_of_false nofun fun both => ?_
              cases both with
              | cons here _ => cases here.1
          | some key =>
              have stepped : (Members.cons (some key) keyStop left node rest).decode decode =
                    .ok values ↔
                  ∃ value after, decode node = .ok value ∧ rest.decode decode = .ok after ∧
                    (key, value) :: after = values := by
                rw [Members.decode]
                cases decode node with
                | error error => simp
                | ok value =>
                    cases rest.decode decode with
                    | error error => simp
                    | ok after => simp
              rw [stepped]
              constructor
              · rintro ⟨value, after, read, readRest, rfl⟩
                exact .cons ⟨rfl, (understands.iff first value).mp read⟩ ((ih others after).mp readRest)
              · intro both
                cases both with
                | @cons _ wanted _ after here elsewhere =>
                    obtain ⟨name, value⟩ := wanted
                    cases here.1
                    exact ⟨value, after, (understands.iff first value).mpr here.2,
                      (ih others after).mpr elsewhere, rfl⟩

theorem members (understands : Understands decode describes) :
    Understands (decodeMembers decode) (.members describes) where
  whole := by
    intro node values decoded
    unfold decodeMembers at decoded
    split at decoded
    · exact understands.members_whole decoded
    · cases decoded
  iff := by
    intro depth tree node holds values
    cases holds with
    | object members => exact understands.members_iff members values
    | _ => exact iff_of_false nofun nofun

/-- A text is accepted exactly if it holds a tree that stands for something. -/
theorem decodeText_iff (understands : Understands decode describes) {text : String} (value : α) :
    decodeText decode text = .ok value ↔
      ∃ tree : Tree, tree.WrittenAs text ∧ describes 0 tree value := by
  have accepted : decodeText decode text = .ok value ↔
      decode (Document.ofText text).root = .ok value ∧ (Document.ofText text).trailing = false := by
    unfold decodeText Document.decode
    cases decode (Document.ofText text).root with
    | error error => exact iff_of_false nofun nofun
    | ok read =>
        cases (Document.ofText text).trailing with
        | true => exact iff_of_false nofun nofun
        | false => simp [Except.mapError]
  rw [accepted]
  constructor
  · rintro ⟨decoded, noMore⟩
    obtain ⟨tree, written⟩ := Document.exists_tree (understands.whole decoded) noMore
    exact ⟨tree, written, (understands.iff written.read.1 value).mp decoded⟩
  · rintro ⟨tree, written, describes⟩
    exact ⟨(understands.iff written.read.1 value).mpr describes, written.read.2⟩

theorem decodeText_of_written (understands : Understands decode describes) {text : String}
    {tree : Tree} (written : tree.WrittenAs text) (value : α) :
    decodeText decode text = .ok value ↔ describes 0 tree value := by
  rw [understands.decodeText_iff]
  constructor
  · rintro ⟨other, writtenOther, describesOther⟩
    have decoded := (understands.iff writtenOther.read.1 value).mpr describesOther
    exact (understands.iff written.read.1 value).mp decoded
  · exact fun describesTree => ⟨tree, written, describesTree⟩

end Understands

end GuestGlue.Json
