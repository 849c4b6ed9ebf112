/-
Documents without their places.  The tokens of a tree lead from a place where a value may
start to the place behind it, with a node that holds the tree; lists and objects are
collected part by part on the way.
-/

import GuestGlue.Proofs.Json.Layout

namespace GuestGlue.Json

inductive Tree where
  | null
  | bool (value : Bool)
  | number (literal : NumberLiteral)
  | string (content : Option String)
  | array (items : List Tree)
  | object (members : List (Option String × Tree))

/-! ### Tokens -/

mutual

def Tree.tokens : Tree → List Token
  | .null => [.null]
  | .bool value => [.bool value]
  | .number literal => [.number literal]
  | .string content => [.string content]
  | .array [] => [.openArray, .closeArray]
  | .array (item :: items) => .openArray :: (item.tokens ++ tokensOfItems items)
  | .object [] => [.openObject, .closeObject]
  | .object ((key, value) :: members) =>
      .openObject :: .string key :: .colon :: (value.tokens ++ tokensOfMembers members)

def tokensOfItems : List Tree → List Token
  | [] => [.closeArray]
  | item :: items => .comma :: (item.tokens ++ tokensOfItems items)

def tokensOfMembers : List (Option String × Tree) → List Token
  | [] => [.closeObject]
  | (key, value) :: members =>
      .comma :: .string key :: .colon :: (value.tokens ++ tokensOfMembers members)

end

theorem Separable.cons {token : Token} {tokens : List Token}
    (separable : Separable tokens) (other : token.isNumber = false) : Separable (token :: tokens) :=
  List.isChain_cons.mpr ⟨fun _ _ number => absurd number (by simp [other]), separable⟩

mutual

theorem Tree.separable {tokens : List Token} (tree : Tree) (separable : Separable tokens)
    (marks : ∀ token ∈ tokens.head?, token.isMark = true) : Separable (tree.tokens ++ tokens) := by
  cases tree with
  | null => exact separable.cons rfl
  | bool value => exact separable.cons rfl
  | number literal => exact List.isChain_cons.mpr ⟨fun token first _ => marks token first, separable⟩
  | string content => exact separable.cons rfl
  | array items =>
      cases items with
      | nil => exact (separable.cons rfl).cons rfl
      | cons item items =>
          rw [Tree.tokens, List.cons_append, List.append_assoc]
          obtain ⟨later, mark⟩ := separable_items items separable
          exact (item.separable later mark).cons rfl
  | object members =>
      cases members with
      | nil => exact (separable.cons rfl).cons rfl
      | cons member members =>
          obtain ⟨key, value⟩ := member
          rw [Tree.tokens, List.cons_append, List.cons_append, List.cons_append, List.append_assoc]
          obtain ⟨later, mark⟩ := separable_members members separable
          exact (((value.separable later mark).cons rfl).cons rfl).cons rfl

theorem separable_items {tokens : List Token} (items : List Tree) (separable : Separable tokens) :
    Separable (tokensOfItems items ++ tokens) ∧
      ∀ token ∈ (tokensOfItems items ++ tokens).head?, token.isMark = true := by
  cases items with
  | nil =>
      refine ⟨separable.cons rfl, ?_⟩
      rintro _ ⟨⟩
      rfl
  | cons item items =>
      rw [tokensOfItems, List.cons_append, List.append_assoc]
      obtain ⟨later, mark⟩ := separable_items items separable
      refine ⟨(item.separable later mark).cons rfl, ?_⟩
      rintro _ ⟨⟩
      rfl

theorem separable_members {tokens : List Token} (members : List (Option String × Tree))
    (separable : Separable tokens) :
    Separable (tokensOfMembers members ++ tokens) ∧
      ∀ token ∈ (tokensOfMembers members ++ tokens).head?, token.isMark = true := by
  cases members with
  | nil =>
      refine ⟨separable.cons rfl, ?_⟩
      rintro _ ⟨⟩
      rfl
  | cons member members =>
      obtain ⟨key, value⟩ := member
      rw [tokensOfMembers, List.cons_append, List.cons_append, List.cons_append, List.append_assoc]
      obtain ⟨later, mark⟩ := separable_members members separable
      refine ⟨(((value.separable later mark).cons rfl).cons rfl).cons rfl, ?_⟩
      rintro _ ⟨⟩
      rfl

end

/-! ### Nodes that hold a tree -/

mutual

inductive Node.Holds : Nat → Tree → Node → Prop
  | null {depth : Nat} {stop : Place} : Node.Holds depth .null (.null stop)
  | bool {depth : Nat} {value : Bool} {stop : Place} :
      Node.Holds depth (.bool value) (.bool value stop)
  | number {depth : Nat} {literal : NumberLiteral} {stop : Place} :
      Node.Holds depth (.number literal) (.number literal stop)
  | string {depth : Nat} {content : Option String} {stop : Place} :
      Node.Holds depth (.string content) (.string content stop)
  | array {depth : Nat} {trees : List Tree} {start : Place} {items : Items} :
      Items.Hold (depth + 1) trees items → Node.Holds depth (.array trees) (.array start depth items)
  | object {depth : Nat} {trees : List (Option String × Tree)} {start : Place} {members : Members} :
      Members.Hold (depth + 1) trees members →
        Node.Holds depth (.object trees) (.object start depth members)

inductive Items.Hold : Nat → List Tree → Items → Prop
  | closed {depth : Nat} {stop : Place} : Items.Hold depth [] (.closed stop)
  | cons {depth : Nat} {tree : Tree} {trees : List Tree} {node : Node} {left : Place}
      {items : Items} : Node.Holds depth tree node → Items.Hold depth trees items →
        Items.Hold depth (tree :: trees) (.cons node left items)

inductive Members.Hold : Nat → List (Option String × Tree) → Members → Prop
  | closed {depth : Nat} {stop : Place} : Members.Hold depth [] (.closed stop)
  | cons {depth : Nat} {key : Option String} {tree : Tree} {trees : List (Option String × Tree)}
      {keyStop left : Place} {node : Node} {members : Members} :
      Node.Holds depth tree node → Members.Hold depth trees members →
        Members.Hold depth ((key, tree) :: trees) (.cons key keyStop left node members)

end

/-! ### What was read so far -/

def CollectItems (depth : Nat) (values : List Tree) (items : List Item) : Prop :=
  ∀ last later, Items.Hold depth later last →
    Items.Hold depth (values ++ later) (.ofReversed last items)

theorem CollectItems.nil (depth : Nat) : CollectItems depth [] [] :=
  fun _ _ shows => shows

theorem CollectItems.concat {depth : Nat} {values : List Tree} {items : List Item} {value : Tree}
    {node : Node} {left : Place} (collects : CollectItems depth values items)
    (shows : node.Holds depth value) :
    CollectItems depth (values ++ [value]) (⟨node, left⟩ :: items) := by
  intro last later showsLater
  rw [List.append_assoc]
  exact collects _ _ (.cons shows showsLater)

theorem CollectItems.closed {outer : List Frame} {values : List Tree} {items : List Item}
    (collects : CollectItems (outer.length + 1) values items) (start stop : Place) :
    (arrayNode start outer (.closed stop) items).Holds outer.length (.array values) := by
  have whole := collects (.closed stop) [] .closed
  rw [List.append_nil] at whole
  exact .array whole

def CollectMembers (depth : Nat) (values : List (Option String × Tree)) (members : List Member) : Prop :=
  ∀ last later, Members.Hold depth later last →
    Members.Hold depth (values ++ later) (.ofReversed last members)

theorem CollectMembers.nil (depth : Nat) : CollectMembers depth [] [] :=
  fun _ _ shows => shows

theorem CollectMembers.concat {depth : Nat} {values : List (Option String × Tree)} {members : List Member}
    {key : Option String} {value : Tree} {stop left : Place} {node : Node}
    (collects : CollectMembers depth values members) (shows : node.Holds depth value) :
    CollectMembers depth (values ++ [(key, value)]) (⟨⟨key, stop, left⟩, node⟩ :: members) := by
  intro last later showsLater
  rw [List.append_assoc]
  exact collects _ _ (.cons shows showsLater)

theorem CollectMembers.closed {outer : List Frame} {values : List (Option String × Tree)}
    {members : List Member} (collects : CollectMembers (outer.length + 1) values members)
    (start stop : Place) :
    (objectNode start outer (.closed stop) members).Holds outer.length (.object values) := by
  have whole := collects (.closed stop) [] .closed
  rw [List.append_nil] at whole
  exact .object whole

/-! ### Runs -/

namespace Progress

theorem run_firstItem {lexemes : List Lexeme} {tokens : List Token} (frames : List Frame)
    (value : Tree) (spelled : lexemes.map (·.token) = value.tokens ++ tokens) :
    run ⟨frames, .firstItem⟩ lexemes = run ⟨frames, .value⟩ lexemes := by
  have start : ∃ first others, value.tokens = first :: others ∧
      (first = .null ∨ (∃ truth, first = .bool truth) ∨ (∃ literal, first = .number literal) ∨
        (∃ content, first = .string content) ∨ first = .openArray ∨ first = .openObject) := by
    fun_cases Tree.tokens value <;> exact ⟨_, _, rfl, by simp⟩
  obtain ⟨first, others, head, starts⟩ := start
  rw [head, List.cons_append] at spelled
  obtain ⟨⟨_, _, _⟩, rest, rfl, rfl, _⟩ := List.map_eq_cons_iff.mp spelled
  rcases starts with rfl | ⟨_, rfl⟩ | ⟨_, rfl⟩ | ⟨_, rfl⟩ | rfl | rfl <;> rfl

mutual

theorem run_value {lexemes : List Lexeme} {tokens : List Token} (frames : List Frame) (value : Tree)
    (spelled : lexemes.map (·.token) = value.tokens ++ tokens) :
    ∃ node rest, node.Holds frames.length value ∧ rest.map (·.token) = tokens ∧
      run ⟨frames, .value⟩ lexemes = run ⟨frames, .next node⟩ rest := by
  cases value with
  | null =>
      obtain ⟨⟨_, _, _⟩, rest, rfl, rfl, others⟩ := List.map_eq_cons_iff.mp spelled
      exact ⟨_, rest, .null, others, rfl⟩
  | bool value =>
      obtain ⟨⟨_, _, _⟩, rest, rfl, rfl, others⟩ := List.map_eq_cons_iff.mp spelled
      exact ⟨_, rest, .bool, others, rfl⟩
  | number value =>
      obtain ⟨⟨_, _, _⟩, rest, rfl, rfl, others⟩ := List.map_eq_cons_iff.mp spelled
      exact ⟨_, rest, .number, others, rfl⟩
  | string value =>
      obtain ⟨⟨_, _, _⟩, rest, rfl, rfl, others⟩ := List.map_eq_cons_iff.mp spelled
      exact ⟨_, rest, .string, others, rfl⟩
  | array items =>
      cases items with
      | nil =>
          obtain ⟨⟨_, start, _⟩, _, rfl, rfl, behind⟩ := List.map_eq_cons_iff.mp spelled
          obtain ⟨⟨_, _, stop⟩, rest, rfl, rfl, others⟩ := List.map_eq_cons_iff.mp behind
          exact ⟨_, rest, (CollectItems.nil _).closed start stop, others, rfl⟩
      | cons item later =>
          rw [Tree.tokens, List.cons_append, List.append_assoc] at spelled
          obtain ⟨⟨_, start, _⟩, _, rfl, rfl, inside⟩ := List.map_eq_cons_iff.mp spelled
          obtain ⟨node, middle, shows, behind, ran⟩ :=
            run_value (.array start [] :: frames) item inside
          obtain ⟨whole, rest, showsWhole, others, ranOn⟩ :=
            run_items start (CollectItems.nil _) shows later behind
          have first := run_firstItem (.array start [] :: frames) item inside
          exact ⟨whole, rest, showsWhole, others, first.trans (ran.trans ranOn)⟩
  | object members =>
      cases members with
      | nil =>
          obtain ⟨⟨_, start, _⟩, _, rfl, rfl, behind⟩ := List.map_eq_cons_iff.mp spelled
          obtain ⟨⟨_, _, stop⟩, rest, rfl, rfl, others⟩ := List.map_eq_cons_iff.mp behind
          exact ⟨_, rest, (CollectMembers.nil _).closed start stop, others, rfl⟩
      | cons member later =>
          obtain ⟨key, value⟩ := member
          rw [Tree.tokens, List.cons_append, List.cons_append, List.cons_append,
            List.append_assoc] at spelled
          obtain ⟨⟨_, start, _⟩, _, rfl, rfl, keyed⟩ := List.map_eq_cons_iff.mp spelled
          obtain ⟨⟨_, _, keyStop⟩, _, rfl, rfl, separated⟩ := List.map_eq_cons_iff.mp keyed
          obtain ⟨⟨_, _, _⟩, _, rfl, rfl, inside⟩ := List.map_eq_cons_iff.mp separated
          obtain ⟨node, middle, shows, behind, ran⟩ :=
            run_value (.object start [] ⟨key, keyStop, _⟩ :: frames) value inside
          obtain ⟨whole, rest, showsWhole, others, ranOn⟩ :=
            run_members (CollectMembers.nil _) shows later behind
          exact ⟨whole, rest, showsWhole, others, Eq.trans ran ranOn⟩

theorem run_items {lexemes : List Lexeme} {tokens : List Token} {frames : List Frame} (start : Place)
    {items : List Item} {values : List Tree} {value : Tree} {node : Node}
    (collects : CollectItems (frames.length + 1) values items)
    (shows : node.Holds (frames.length + 1) value) (later : List Tree)
    (spelled : lexemes.map (·.token) = tokensOfItems later ++ tokens) :
    ∃ whole rest, whole.Holds frames.length (.array (values ++ value :: later)) ∧
      rest.map (·.token) = tokens ∧
      run ⟨.array start items :: frames, .next node⟩ lexemes = run ⟨frames, .next whole⟩ rest := by
  cases later with
  | nil =>
      obtain ⟨⟨_, _, stop⟩, rest, rfl, rfl, others⟩ := List.map_eq_cons_iff.mp spelled
      exact ⟨_, rest, (collects.concat shows).closed start stop, others, rfl⟩
  | cons next later =>
      rw [tokensOfItems, List.cons_append, List.append_assoc] at spelled
      obtain ⟨⟨_, _, _⟩, _, rfl, rfl, inside⟩ := List.map_eq_cons_iff.mp spelled
      obtain ⟨after, middle, showsNext, behind, ran⟩ :=
        run_value (.array start (⟨node, _⟩ :: items) :: frames) next inside
      obtain ⟨whole, rest, showsWhole, others, ranOn⟩ :=
        run_items start (collects.concat shows) showsNext later behind
      rw [List.append_assoc] at showsWhole
      exact ⟨whole, rest, showsWhole, others, Eq.trans ran ranOn⟩

theorem run_members {lexemes : List Lexeme} {tokens : List Token} {frames : List Frame}
    {start : Place} {members : List Member} {values : List (Option String × Tree)} {key : Option String}
    {keyStop left : Place} {value : Tree} {node : Node}
    (collects : CollectMembers (frames.length + 1) values members)
    (shows : node.Holds (frames.length + 1) value) (later : List (Option String × Tree))
    (spelled : lexemes.map (·.token) = tokensOfMembers later ++ tokens) :
    ∃ whole rest, whole.Holds frames.length (.object (values ++ (key, value) :: later)) ∧
      rest.map (·.token) = tokens ∧
      run ⟨.object start members ⟨key, keyStop, left⟩ :: frames, .next node⟩ lexemes =
        run ⟨frames, .next whole⟩ rest := by
  cases later with
  | nil =>
      obtain ⟨⟨_, _, stop⟩, rest, rfl, rfl, others⟩ := List.map_eq_cons_iff.mp spelled
      exact ⟨_, rest, (collects.concat shows).closed start stop, others, rfl⟩
  | cons next later =>
      obtain ⟨nextKey, nextValue⟩ := next
      rw [tokensOfMembers, List.cons_append, List.cons_append, List.cons_append,
        List.append_assoc] at spelled
      obtain ⟨⟨_, _, _⟩, _, rfl, rfl, keyed⟩ := List.map_eq_cons_iff.mp spelled
      obtain ⟨⟨_, _, nextStop⟩, _, rfl, rfl, separated⟩ := List.map_eq_cons_iff.mp keyed
      obtain ⟨⟨_, _, _⟩, _, rfl, rfl, inside⟩ := List.map_eq_cons_iff.mp separated
      obtain ⟨after, middle, showsNext, behind, ran⟩ :=
        run_value (.object start (⟨⟨key, keyStop, left⟩, node⟩ :: members)
          ⟨nextKey, nextStop, _⟩ :: frames) nextValue inside
      obtain ⟨whole, rest, showsWhole, others, ranOn⟩ :=
        run_members (collects.concat shows) showsNext later behind
      rw [List.append_assoc] at showsWhole
      exact ⟨whole, rest, showsWhole, others, Eq.trans ran ranOn⟩

end

end Progress

/-- The text holds the tree, with blanks anywhere between its tokens. -/
def Tree.WrittenAs (tree : Tree) (text : String) : Prop :=
  Laid tree.tokens text.toList

theorem Tree.WrittenAs.read {tree : Tree} {text : String} (written : tree.WrittenAs text) :
    (Document.ofText text).root.Holds 0 tree ∧ (Document.ofText text).trailing = false := by
  have separable : Separable (tree.tokens ++ []) := tree.separable .nil nofun
  rw [List.append_nil] at separable
  have tokens := Laid.lexemes_tokens written separable
  rw [← List.append_nil tree.tokens] at tokens
  obtain ⟨node, rest, holds, nothing, ran⟩ := Progress.run_value [] tree tokens
  cases List.map_eq_nil_iff.mp nothing
  rw [Document.ofText, Progress.initial, ran]
  exact ⟨holds, rfl⟩

end GuestGlue.Json
