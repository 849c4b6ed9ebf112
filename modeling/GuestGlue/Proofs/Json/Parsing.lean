/-
Texts that were read to their end.  What was read so far spells the tokens before it: those
of the lists and objects that are open, and of the value just behind.  So a text whose
document is whole is the layout of a tree.
-/

import GuestGlue.Json.Decode
import GuestGlue.Proofs.Json.Tree

namespace GuestGlue.Json

/-! ### Tokens of open lists and objects -/

def tokensBeforeItem (items : List Tree) : List Token :=
  items.flatMap fun item => item.tokens ++ [.comma]

def tokensBeforeKey (members : List (Option String × Tree)) : List Token :=
  members.flatMap fun member => .string member.1 :: .colon :: (member.2.tokens ++ [.comma])

theorem tokensBeforeItem_concat (items : List Tree) (item : Tree) :
    tokensBeforeItem (items ++ [item]) = tokensBeforeItem items ++ (item.tokens ++ [.comma]) := by
  simp [tokensBeforeItem]

theorem tokensBeforeKey_concat (members : List (Option String × Tree)) (key : Option String)
    (value : Tree) :
    tokensBeforeKey (members ++ [(key, value)]) =
      tokensBeforeKey members ++ .string key :: .colon :: (value.tokens ++ [.comma]) := by
  simp [tokensBeforeKey]

theorem tokensOfItems_concat (items : List Tree) (last : Tree) :
    tokensOfItems (items ++ [last]) =
      .comma :: (tokensBeforeItem items ++ (last.tokens ++ [.closeArray])) := by
  induction items with
  | nil => rfl
  | cons item items ih =>
      rw [List.cons_append, tokensOfItems, ih]
      simp [tokensBeforeItem]

theorem tokensOfMembers_concat (members : List (Option String × Tree)) (key : Option String)
    (value : Tree) :
    tokensOfMembers (members ++ [(key, value)]) =
      .comma :: (tokensBeforeKey members ++
        .string key :: .colon :: (value.tokens ++ [.closeObject])) := by
  induction members with
  | nil => rfl
  | cons member members ih =>
      obtain ⟨first, firstValue⟩ := member
      rw [List.cons_append, tokensOfMembers, ih]
      simp [tokensBeforeKey]

theorem tokens_array_concat (items : List Tree) (last : Tree) :
    (Tree.array (items ++ [last])).tokens =
      .openArray :: (tokensBeforeItem items ++ (last.tokens ++ [.closeArray])) := by
  cases items with
  | nil => rfl
  | cons item items =>
      rw [List.cons_append, Tree.tokens, tokensOfItems_concat]
      simp [tokensBeforeItem]

theorem tokens_object_concat (members : List (Option String × Tree)) (key : Option String)
    (value : Tree) :
    (Tree.object (members ++ [(key, value)])).tokens =
      .openObject :: (tokensBeforeKey members ++
        .string key :: .colon :: (value.tokens ++ [.closeObject])) := by
  cases members with
  | nil => rfl
  | cons member members =>
      obtain ⟨first, firstValue⟩ := member
      rw [List.cons_append, Tree.tokens, tokensOfMembers_concat]
      simp [tokensBeforeKey]

/-! ### What was read so far -/

inductive Opened : List Token → List Frame → Prop
  | nil : Opened [] []
  | array {before : List Token} {outer : List Frame} {start : Place} {items : List Item}
      {values : List Tree} : Opened before outer →
        CollectItems (outer.length + 1) values items →
          Opened (before ++ Token.openArray :: tokensBeforeItem values) (.array start items :: outer)
  | object {before : List Token} {outer : List Frame} {start : Place} {members : List Member}
      {key : Key} {values : List (Option String × Tree)} : Opened before outer →
        CollectMembers (outer.length + 1) values members →
          Opened (before ++ Token.openObject :: (tokensBeforeKey values ++ [.string key.content, .colon]))
            (.object start members key :: outer)

inductive Reached : List Token → Progress → Prop
  | value {before : List Token} {frames : List Frame} : Opened before frames →
      Reached before ⟨frames, .value⟩
  | firstItem {before : List Token} {outer : List Frame} {start : Place} : Opened before outer →
      Reached (before ++ [Token.openArray]) ⟨.array start [] :: outer, .firstItem⟩
  | firstKey {before : List Token} {frames : List Frame} {start : Place} : Opened before frames →
      Reached (before ++ [Token.openObject]) ⟨frames, .firstKey start⟩
  | key {before : List Token} {frames : List Frame} {start : Place} {members : List Member}
      {values : List (Option String × Tree)} : Opened before frames →
        CollectMembers (frames.length + 1) values members →
          Reached (before ++ Token.openObject :: tokensBeforeKey values) ⟨frames, .key start members⟩
  | colon (key : Key) {before : List Token} {frames : List Frame} {start : Place}
      {members : List Member} {values : List (Option String × Tree)} : Opened before frames →
        CollectMembers (frames.length + 1) values members →
          Reached (before ++ Token.openObject :: (tokensBeforeKey values ++ [.string key.content]))
            ⟨frames, .colon start members key⟩
  | next {before : List Token} {frames : List Frame} {node : Node} {tree : Tree} :
      Opened before frames → node.Holds frames.length tree →
        Reached (before ++ tree.tokens) ⟨frames, .next node⟩

theorem Opened.valueStep {before : List Token} {frames : List Frame} {lexeme : Lexeme}
    {after : Progress} (opened : Opened before frames)
    (stepped : valueStep frames lexeme = some after) : Reached (before ++ [lexeme.token]) after := by
  obtain ⟨token, start, stop⟩ := lexeme
  cases token with
  | null =>
      cases stepped
      exact .next opened .null
  | bool value =>
      cases stepped
      exact .next opened .bool
  | number literal =>
      cases stepped
      exact .next opened .number
  | string content =>
      cases stepped
      exact .next opened .string
  | openArray =>
      cases stepped
      exact .firstItem opened
  | openObject =>
      cases stepped
      exact .firstKey opened
  | closeArray => cases stepped
  | closeObject => cases stepped
  | colon => cases stepped
  | comma => cases stepped
  | fault => cases stepped

theorem Opened.nextStep {before : List Token} {frames : List Frame} {node : Node} {tree : Tree}
    {lexeme : Lexeme} {rest : List Lexeme} {after : Progress} (opened : Opened before frames)
    (holds : node.Holds frames.length tree)
    (stepped : nextStep node frames lexeme rest = some after) :
    Reached (before ++ tree.tokens ++ [lexeme.token]) after := by
  obtain ⟨token, start, stop⟩ := lexeme
  cases opened with
  | nil => cases stepped
  | @array before outer _ items values opened collects =>
      have collected : ∀ left, CollectItems (outer.length + 1) (values ++ [tree]) (⟨node, left⟩ :: items) :=
        fun _ => collects.concat holds
      cases token with
      | comma =>
          cases stepped
          have spelled : before ++ Token.openArray :: tokensBeforeItem (values ++ [tree]) =
              before ++ Token.openArray :: tokensBeforeItem values ++ tree.tokens ++ [Token.comma] := by
            simp [tokensBeforeItem_concat]
          rw [← spelled]
          exact .value (.array opened (collected _))
      | closeArray =>
          cases stepped
          have spelled : before ++ (Tree.array (values ++ [tree])).tokens =
              before ++ Token.openArray :: tokensBeforeItem values ++ tree.tokens ++ [Token.closeArray] := by
            simp [tokens_array_concat]
          rw [← spelled]
          exact .next opened ((collected _).closed _ stop)
      | _ => cases stepped
  | @object before outer _ members key values opened collects =>
      have collected : CollectMembers (outer.length + 1) (values ++ [(key.content, tree)])
          (⟨key, node⟩ :: members) :=
        collects.concat holds
      cases token with
      | comma =>
          cases stepped
          have spelled : before ++ Token.openObject :: tokensBeforeKey (values ++ [(key.content, tree)]) =
              before ++ Token.openObject :: (tokensBeforeKey values ++ [Token.string key.content, Token.colon]) ++
                tree.tokens ++ [Token.comma] := by
            simp [tokensBeforeKey_concat]
          rw [← spelled]
          exact .key opened collected
      | closeObject =>
          cases stepped
          have spelled : before ++ (Tree.object (values ++ [(key.content, tree)])).tokens =
              before ++ Token.openObject :: (tokensBeforeKey values ++ [Token.string key.content, Token.colon]) ++
                tree.tokens ++ [Token.closeObject] := by
            simp [tokens_object_concat]
          rw [← spelled]
          exact .next opened (collected.closed _ stop)
      | _ => cases stepped

theorem Reached.step {tokens : List Token} {progress after : Progress} {lexeme : Lexeme}
    {rest : List Lexeme} (reached : Reached tokens progress)
    (stepped : progress.step lexeme rest = some after) : Reached (tokens ++ [lexeme.token]) after := by
  obtain ⟨token, start, stop⟩ := lexeme
  cases reached with
  | value opened => exact Opened.valueStep opened stepped
  | @firstItem before outer first opened =>
      cases token with
      | closeArray =>
          cases stepped
          have spelled : before ++ (Tree.array []).tokens = before ++ [Token.openArray] ++ [Token.closeArray] := by
            simp [Tree.tokens]
          rw [← spelled]
          exact .next opened ((CollectItems.nil _).closed _ stop)
      | _ =>
          have empty : Opened (before ++ [Token.openArray]) (.array first [] :: outer) :=
            .array opened (CollectItems.nil _)
          exact Opened.valueStep empty stepped
  | @firstKey before _ first opened =>
      cases token with
      | string content =>
          cases stepped
          have spelled : before ++ Token.openObject :: (tokensBeforeKey [] ++ [Token.string content]) =
              before ++ [Token.openObject] ++ [Token.string content] := by
            simp [tokensBeforeKey]
          rw [← spelled]
          exact .colon ⟨content, _, _⟩ opened (CollectMembers.nil _)
      | closeObject =>
          cases stepped
          have spelled : before ++ (Tree.object []).tokens = before ++ [Token.openObject] ++ [Token.closeObject] := by
            simp [Tree.tokens]
          rw [← spelled]
          exact .next opened ((CollectMembers.nil _).closed _ stop)
      | _ => cases stepped
  | @key before _ _ _ values opened collects =>
      cases token with
      | string content =>
          cases stepped
          have spelled : before ++ Token.openObject :: (tokensBeforeKey values ++ [Token.string content]) =
              before ++ Token.openObject :: tokensBeforeKey values ++ [Token.string content] := by
            simp
          rw [← spelled]
          exact .colon ⟨content, _, _⟩ opened collects
      | _ => cases stepped
  | @colon name before _ _ _ values opened collects =>
      cases token with
      | colon =>
          cases stepped
          have spelled : before ++ Token.openObject :: (tokensBeforeKey values ++ [Token.string name.content, Token.colon]) =
              before ++ Token.openObject :: (tokensBeforeKey values ++ [Token.string name.content]) ++ [Token.colon] := by
            simp
          rw [← spelled]
          exact .value (.object opened collects)
      | _ => cases stepped
  | next opened holds => exact Opened.nextStep opened holds stepped

theorem step_fault (progress : Progress) {lexeme : Lexeme} (fault : lexeme.token = .fault)
    (rest : List Lexeme) : progress.step lexeme rest = none := by
  obtain ⟨frames, expected⟩ := progress
  obtain ⟨_, start, stop⟩ := lexeme
  cases fault
  cases expected with
  | next node =>
      cases frames with
      | nil => rfl
      | cons frame outer => cases frame <;> rfl
  | _ => rfl

/-! ### Whole documents -/

theorem Items.whole_ofReversed {last : Items} {items : List Item}
    (whole : (Items.ofReversed last items).whole = true) : last.whole = true := by
  induction items generalizing last with
  | nil => exact whole
  | cons item items ih =>
      have longer := ih whole
      rw [Items.whole, Bool.and_eq_true] at longer
      exact longer.2

theorem Members.whole_ofReversed {last : Members} {members : List Member}
    (whole : (Members.ofReversed last members).whole = true) : last.whole = true := by
  induction members generalizing last with
  | nil => exact whole
  | cons member members ih =>
      have longer := ih whole
      rw [Members.whole, Bool.and_eq_true] at longer
      exact longer.2

theorem not_whole_arrayNode (start : Place) (outer : List Frame) (items : List Item) :
    (arrayNode start outer .broken items).whole = false := by
  by_contra whole
  have broken := Items.whole_ofReversed (Bool.eq_true_of_not_eq_false whole)
  cases broken

theorem not_whole_objectNode (start : Place) (outer : List Frame) (members : List Member) :
    (objectNode start outer .broken members).whole = false := by
  by_contra whole
  have broken := Members.whole_ofReversed (Bool.eq_true_of_not_eq_false whole)
  cases broken

theorem not_whole_abandon {node : Node} (broken : node.whole = false) (left : Place)
    (frames : List Frame) : (abandon node left frames).whole = false := by
  induction frames generalizing node left with
  | nil => exact broken
  | cons frame frames ih =>
      cases frame with
      | array start items => exact ih (not_whole_arrayNode start frames _) []
      | object start members key => exact ih (not_whole_objectNode start frames _) []

theorem not_whole_abandon_cons (node : Node) (left : Place) (frame : Frame) (frames : List Frame) :
    (abandon node left (frame :: frames)).whole = false := by
  cases frame with
  | array start items => exact not_whole_abandon (not_whole_arrayNode start frames _) [] frames
  | object start members key =>
      exact not_whole_abandon (not_whole_objectNode start frames _) [] frames

/-- A document that ends where something is open or missing is not whole. -/
theorem Reached.of_whole {tokens : List Token} {progress : Progress} (reached : Reached tokens progress)
    (whole : (progress.stranded []).whole = true) : ∃ tree : Tree, tree.tokens = tokens := by
  rw [← Bool.not_eq_false] at whole
  cases reached with
  | @next before frames node tree opened holds =>
      cases opened with
      | nil => exact ⟨tree, rfl⟩
      | array => exact absurd (not_whole_abandon_cons _ _ _ _) whole
      | object => exact absurd (not_whole_abandon_cons _ _ _ _) whole
  | value => exact absurd (not_whole_abandon rfl _ _) whole
  | firstItem => exact absurd (not_whole_abandon rfl _ _) whole
  | firstKey => exact absurd (not_whole_abandon (not_whole_objectNode _ _ _) _ _) whole
  | key => exact absurd (not_whole_abandon (not_whole_objectNode _ _ _) _ _) whole
  | colon => exact absurd (not_whole_abandon (not_whole_objectNode _ _ _) _ _) whole

theorem Reached.run {tokens : List Token} {progress : Progress} {lexemes : List Lexeme}
    (reached : Reached tokens progress) (whole : (progress.run lexemes).root.whole = true)
    (noMore : (progress.run lexemes).trailing = false) :
    (∀ lexeme ∈ lexemes, lexeme.token ≠ .fault) ∧
      ∃ tree : Tree, tree.tokens = tokens ++ lexemes.map (·.token) := by
  induction lexemes generalizing tokens progress with
  | nil =>
      obtain ⟨tree, spelled⟩ := reached.of_whole whole
      exact ⟨nofun, tree, by rw [spelled, List.map_nil, List.append_nil]⟩
  | cons lexeme rest ih =>
      rw [Progress.run] at whole noMore
      cases stepped : progress.step lexeme rest with
      | none =>
          rw [stepped] at noMore
          cases noMore
      | some after =>
          rw [stepped] at whole noMore
          have sound : lexeme.token ≠ .fault := by
            intro fault
            rw [step_fault progress fault rest] at stepped
            cases stepped
          obtain ⟨soundRest, tree, spelled⟩ := ih (reached.step stepped) whole noMore
          refine ⟨List.forall_mem_cons.mpr ⟨sound, soundRest⟩, tree, ?_⟩
          rw [spelled, List.append_assoc, List.map_cons, List.singleton_append]

/-- A text that was read whole, with nothing after it, holds a tree. -/
theorem Document.exists_tree {text : String} (whole : (Document.ofText text).root.whole = true)
    (noMore : (Document.ofText text).trailing = false) : ∃ tree : Tree, tree.WrittenAs text := by
  have reached : Reached [] Progress.initial := .value .nil
  obtain ⟨sound, tree, spelled⟩ := reached.run whole noMore
  have laid := laid_lexemes sound
  rw [List.nil_append] at spelled
  rw [← spelled] at laid
  exact ⟨tree, laid⟩

end GuestGlue.Json
