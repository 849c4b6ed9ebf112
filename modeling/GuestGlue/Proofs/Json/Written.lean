/-
Values that are read back from both of their written forms.  A value is a tree, and the
compact form and the laid-out form are layouts of the same tokens.
-/

import GuestGlue.Proofs.Json.Tree

namespace GuestGlue.Json

/-! ### Values as trees -/

mutual

def Value.tree : Value → Tree
  | .null => .null
  | .bool value => .bool value
  | .number value => .number ⟨false, decimal value, none, none⟩
  | .string value => .string (some value)
  | .array items => .array (treesOfItems items)
  | .object members => .object (treesOfMembers members)

def treesOfItems : List Value → List Tree
  | [] => []
  | item :: items => item.tree :: treesOfItems items

def treesOfMembers : List (String × Value) → List (Option String × Tree)
  | [] => []
  | (key, value) :: members => (some key, value.tree) :: treesOfMembers members

end

theorem treesOfItems_eq (items : List Value) : treesOfItems items = items.map Value.tree := by
  induction items with
  | nil => rfl
  | cons item items ih => rw [treesOfItems, ih, List.map_cons]

theorem treesOfMembers_eq (members : List (String × Value)) :
    treesOfMembers members = members.map fun member => (some member.1, member.2.tree) := by
  induction members with
  | nil => rfl
  | cons member members ih => rw [treesOfMembers, ih, List.map_cons]

mutual

inductive Node.Shows : Nat → Value → Node → Prop
  | null {depth : Nat} {stop : Place} : Node.Shows depth .null (.null stop)
  | bool {depth : Nat} {value : Bool} {stop : Place} :
      Node.Shows depth (.bool value) (.bool value stop)
  | number {depth value : Nat} {stop : Place} :
      Node.Shows depth (.number value) (.number ⟨false, decimal value, none, none⟩ stop)
  | string {depth : Nat} {value : String} {stop : Place} :
      Node.Shows depth (.string value) (.string (some value) stop)
  | array {depth : Nat} {values : List Value} {start : Place} {items : Items} :
      Items.Show (depth + 1) values items → Node.Shows depth (.array values) (.array start depth items)
  | object {depth : Nat} {values : List (String × Value)} {start : Place} {members : Members} :
      Members.Show (depth + 1) values members →
        Node.Shows depth (.object values) (.object start depth members)

inductive Items.Show : Nat → List Value → Items → Prop
  | closed {depth : Nat} {stop : Place} : Items.Show depth [] (.closed stop)
  | cons {depth : Nat} {value : Value} {values : List Value} {node : Node} {left : Place}
      {items : Items} : Node.Shows depth value node → Items.Show depth values items →
        Items.Show depth (value :: values) (.cons node left items)

inductive Members.Show : Nat → List (String × Value) → Members → Prop
  | closed {depth : Nat} {stop : Place} : Members.Show depth [] (.closed stop)
  | cons {depth : Nat} {key : String} {value : Value} {values : List (String × Value)}
      {keyStop left : Place} {node : Node} {members : Members} :
      Node.Shows depth value node → Members.Show depth values members →
        Members.Show depth ((key, value) :: values) (.cons (some key) keyStop left node members)

end

mutual

theorem Node.Shows.of_holds {depth : Nat} {node : Node} (value : Value)
    (holds : node.Holds depth value.tree) : node.Shows depth value := by
  cases value with
  | null =>
      cases holds
      exact .null
  | bool value =>
      cases holds
      exact .bool
  | number value =>
      cases holds
      exact .number
  | string value =>
      cases holds
      exact .string
  | array items =>
      cases holds with
      | array items' => exact .array (Items.Show.of_hold items items')
  | object members =>
      cases holds with
      | object members' => exact .object (Members.Show.of_hold members members')

theorem Items.Show.of_hold {depth : Nat} {items : Items} (values : List Value)
    (hold : Items.Hold depth (treesOfItems values) items) : Items.Show depth values items := by
  cases values with
  | nil =>
      cases hold
      exact .closed
  | cons value values =>
      cases hold with
      | cons first others =>
          exact .cons (Node.Shows.of_holds value first) (Items.Show.of_hold values others)

theorem Members.Show.of_hold {depth : Nat} {members : Members} (values : List (String × Value))
    (hold : Members.Hold depth (treesOfMembers values) members) :
    Members.Show depth values members := by
  cases values with
  | nil =>
      cases hold
      exact .closed
  | cons member values =>
      cases hold with
      | cons first others =>
          exact .cons (Node.Shows.of_holds member.2 first) (Members.Show.of_hold values others)

end

/-! ### Written forms -/

theorem isBlank_of_mem_newLine {level : Nat} {character : Char} (member : character ∈ newLine level) :
    isBlank character = true := by
  rcases List.mem_cons.mp member with rfl | space
  · decide
  · rw [List.eq_of_mem_replicate space]
    decide

theorem Laid.newLine {text : List Char} {tokens : List Token} (level : Nat)
    (laid : Laid tokens text) : Laid tokens (Json.newLine level ++ text) :=
  laid.blanks fun _ => isBlank_of_mem_newLine

theorem word_literal (value : Bool) : (Token.bool value).Word (literal value) := by
  cases value <;> exact ⟨rfl, nofun⟩

theorem Laid.last {token : Token} {word : List Char} (isWord : token.Word word) :
    Laid [token] word := by
  rw [← List.append_nil word]
  exact .word isWord .nil

mutual

theorem laid_pretty (level : Nat) (value : Value) :
    Laid value.tree.tokens (value.prettyChars level) := by
  cases value with
  | null => exact .last ⟨rfl, nofun⟩
  | bool value => exact .last (word_literal value)
  | number value => exact .last (word_decimal value)
  | string value => exact .last (word_quoted value)
  | array items =>
      cases items with
      | nil => exact .mark rfl nofun (.mark rfl nofun .nil)
      | cons item items =>
          have first := laid_pretty (level + 1) item
          have others := laid_prettyItems level items
          exact .mark rfl nofun ((first.append others).newLine _)
  | object members =>
      cases members with
      | nil => exact .mark rfl nofun (.mark rfl nofun .nil)
      | cons member members =>
          have first := laid_pretty (level + 1) member.2
          have others := laid_prettyMembers level members
          have valued : Laid _ (':' :: ' ' :: _) := .mark rfl nofun (.blank rfl (first.append others))
          exact .mark rfl nofun (Laid.newLine _ (.word (word_quoted member.1) valued))

theorem laid_prettyItems (level : Nat) (items : List Value) :
    Laid (tokensOfItems (treesOfItems items)) (prettyItems level items) := by
  cases items with
  | nil => exact Laid.newLine level (.mark rfl nofun .nil)
  | cons item items =>
      have first := laid_pretty (level + 1) item
      have others := laid_prettyItems level items
      exact .mark rfl nofun ((first.append others).newLine _)

theorem laid_prettyMembers (level : Nat) (members : List (String × Value)) :
    Laid (tokensOfMembers (treesOfMembers members)) (prettyMembers level members) := by
  cases members with
  | nil => exact Laid.newLine level (.mark rfl nofun .nil)
  | cons member members =>
      have first := laid_pretty (level + 1) member.2
      have others := laid_prettyMembers level members
      have valued : Laid _ (':' :: ' ' :: _) := .mark rfl nofun (.blank rfl (first.append others))
      exact .mark rfl nofun (Laid.newLine _ (.word (word_quoted member.1) valued))

end

mutual

theorem laid_compact (value : Value) : Laid value.tree.tokens value.compactChars := by
  cases value with
  | null => exact .last ⟨rfl, nofun⟩
  | bool value => exact .last (word_literal value)
  | number value => exact .last (word_decimal value)
  | string value => exact .last (word_quoted value)
  | array items =>
      cases items with
      | nil => exact .mark rfl nofun (.mark rfl nofun .nil)
      | cons item items =>
          have first := laid_compact item
          have others := laid_compactItems items
          exact .mark rfl nofun (first.append others)
  | object members =>
      cases members with
      | nil => exact .mark rfl nofun (.mark rfl nofun .nil)
      | cons member members =>
          have first := laid_compact member.2
          have others := laid_compactMembers members
          have valued : Laid _ (':' :: _) := .mark rfl nofun (first.append others)
          exact .mark rfl nofun (.word (word_quoted member.1) valued)

theorem laid_compactItems (items : List Value) :
    Laid (tokensOfItems (treesOfItems items)) (compactItems items) := by
  cases items with
  | nil => exact .mark rfl nofun .nil
  | cons item items =>
      have first := laid_compact item
      have others := laid_compactItems items
      exact .mark rfl nofun (first.append others)

theorem laid_compactMembers (members : List (String × Value)) :
    Laid (tokensOfMembers (treesOfMembers members)) (compactMembers members) := by
  cases members with
  | nil => exact .mark rfl nofun .nil
  | cons member members =>
      have first := laid_compact member.2
      have others := laid_compactMembers members
      have valued : Laid _ (':' :: _) := .mark rfl nofun (first.append others)
      exact .mark rfl nofun (.word (word_quoted member.1) valued)

end

theorem writtenAs_pretty (value : Value) : value.tree.WrittenAs value.pretty := by
  rw [Tree.WrittenAs, Value.pretty, String.toList_ofList]
  exact laid_pretty 0 value

theorem writtenAs_compact (value : Value) : value.tree.WrittenAs value.compact := by
  rw [Tree.WrittenAs, Value.compact, String.toList_ofList]
  exact laid_compact value

theorem Tree.WrittenAs.endLine {tree : Tree} {text : String} (written : tree.WrittenAs text) :
    tree.WrittenAs (text ++ "\n") := by
  have laid := Laid.append written (.blank (by decide : isBlank '\n' = true) .nil)
  rw [List.append_nil] at laid
  rw [Tree.WrittenAs, String.toList_append]
  exact laid

end GuestGlue.Json
