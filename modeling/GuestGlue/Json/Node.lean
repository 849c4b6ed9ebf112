/-
Documents read from a text: a tree of values, each with its place.  Where the
text stops being JSON the tree stops too: every list and object that was open
there ends broken.  A reader that walks the tree from left to right therefore
meets its own objections and the fault of the text in the order of the text.
-/

import GuestGlue.Json.Token

namespace GuestGlue.Json

mutual

inductive Node where
  | null (stop : Place)
  | bool (value : Bool) (stop : Place)
  | number (literal : NumberLiteral) (stop : Place)
  | string (content : Option String) (stop : Place)
  | array (start : Place) (depth : Nat) (items : Items)
  | object (start : Place) (depth : Nat) (members : Members)
  | absent

/-- The items of a list; `left` is where a reader stands that leaves the list
after the item. -/
inductive Items where
  | closed (stop : Place)
  | broken
  | cons (item : Node) (left : Place) (rest : Items)

/-- The members of an object; `left` is where a reader stands that leaves the
object after the key. -/
inductive Members where
  | closed (stop : Place)
  | broken
  | cons (key : Option String) (keyStop left : Place) (value : Node) (rest : Members)

end

structure Document where
  root : Node
  trailing : Bool

/-! ### From tokens to the tree -/

structure Item where
  node : Node
  left : Place

structure Key where
  content : Option String
  stop : Place
  left : Place

structure Member where
  key : Key
  value : Node

def Items.ofReversed (last : Items) (items : List Item) : Items :=
  items.foldl (fun rest item => .cons item.node item.left rest) last

def Members.ofReversed (last : Members) (members : List Member) : Members :=
  members.foldl
    (fun rest member =>
      .cons member.key.content member.key.stop member.key.left member.value rest)
    last

inductive Frame where
  | array (start : Place) (items : List Item)
  | object (start : Place) (members : List Member) (key : Key)

inductive Expectation where
  | value
  | firstItem
  | firstKey (start : Place)
  | key (start : Place) (members : List Member)
  | colon (start : Place) (members : List Member) (key : Key)
  | next (node : Node)

structure Progress where
  frames : List Frame
  expected : Expectation

def Progress.initial : Progress := ⟨[], .value⟩

def arrayNode (start : Place) (outer : List Frame) (last : Items) (items : List Item) : Node :=
  .array start outer.length (.ofReversed last items)

def objectNode (start : Place) (outer : List Frame) (last : Members) (members : List Member) :
    Node :=
  .object start outer.length (.ofReversed last members)

def startOf : List Lexeme → Place
  | [] => []
  | lexeme :: _ => lexeme.start

/-- Where a reader stands that leaves a list before these tokens: past the end
of the list or past a comma, else before the first token. -/
def leavingArray : List Lexeme → Place
  | [] => []
  | lexeme :: rest =>
      match lexeme.token with
      | .closeArray => lexeme.stop
      | .comma => startOf rest
      | _ => lexeme.start

/-- Where a reader stands that leaves an object before these tokens. -/
def leavingObject : List Lexeme → Place
  | [] => []
  | lexeme :: _ =>
      match lexeme.token with
      | .closeObject => lexeme.stop
      | _ => lexeme.start

/-- The tree of a text that stops being JSON after `node`, inside these frames;
`left` is where a reader stands that leaves the innermost of them, if it is a list. -/
def abandon (node : Node) (left : Place) : List Frame → Node
  | [] => node
  | .array start items :: rest =>
      abandon (arrayNode start rest .broken (⟨node, left⟩ :: items)) [] rest
  | .object start members key :: rest =>
      abandon (objectNode start rest .broken (⟨key, node⟩ :: members)) [] rest

/-- The tree of a text that goes on with these tokens, which are no JSON here. -/
def Progress.stranded (progress : Progress) (lexemes : List Lexeme) : Node :=
  let frames := progress.frames
  match progress.expected with
  | .value | .firstItem => abandon .absent [] frames
  | .firstKey start => abandon (objectNode start frames .broken []) [] frames
  | .key start members => abandon (objectNode start frames .broken members) [] frames
  | .colon start members key =>
      abandon (objectNode start frames .broken (⟨key, .absent⟩ :: members)) [] frames
  | .next node => abandon node (leavingArray lexemes) frames

def valueStep (frames : List Frame) (lexeme : Lexeme) : Option Progress :=
  match lexeme.token with
  | .null => some ⟨frames, .next (.null lexeme.stop)⟩
  | .bool value => some ⟨frames, .next (.bool value lexeme.stop)⟩
  | .number literal => some ⟨frames, .next (.number literal lexeme.stop)⟩
  | .string content => some ⟨frames, .next (.string content lexeme.stop)⟩
  | .openArray => some ⟨.array lexeme.start [] :: frames, .firstItem⟩
  | .openObject => some ⟨frames, .firstKey lexeme.start⟩
  | _ => none

def nextStep (node : Node) (frames : List Frame) (lexeme : Lexeme) (rest : List Lexeme) :
    Option Progress :=
  match frames, lexeme.token with
  | .array start items :: outer, .comma =>
      some ⟨.array start (⟨node, leavingArray (lexeme :: rest)⟩ :: items) :: outer, .value⟩
  | .array start items :: outer, .closeArray =>
      some ⟨outer, .next (arrayNode start outer (.closed lexeme.stop)
        (⟨node, leavingArray (lexeme :: rest)⟩ :: items))⟩
  | .object start members key :: outer, .comma =>
      some ⟨outer, .key start (⟨key, node⟩ :: members)⟩
  | .object start members key :: outer, .closeObject =>
      some ⟨outer, .next (objectNode start outer (.closed lexeme.stop) (⟨key, node⟩ :: members))⟩
  | _, _ => none

/-- Takes one token, knowing those that follow; nothing if it cannot stand here. -/
def Progress.step (progress : Progress) (lexeme : Lexeme) (rest : List Lexeme) : Option Progress :=
  let frames := progress.frames
  match progress.expected, lexeme.token with
  | .value, _ => valueStep frames lexeme
  | .firstItem, .closeArray =>
      match frames with
      | .array start items :: outer =>
          some ⟨outer, .next (arrayNode start outer (.closed lexeme.stop) items)⟩
      | _ => none
  | .firstItem, _ => valueStep frames lexeme
  | .firstKey start, .closeObject =>
      some ⟨frames, .next (objectNode start frames (.closed lexeme.stop) [])⟩
  | .firstKey start, .string content =>
      some ⟨frames, .colon start [] ⟨content, lexeme.stop, leavingObject rest⟩⟩
  | .key start members, .string content =>
      some ⟨frames, .colon start members ⟨content, lexeme.stop, leavingObject rest⟩⟩
  | .colon start members key, .colon => some ⟨.object start members key :: frames, .value⟩
  | .next node, _ => nextStep node frames lexeme rest
  | _, _ => none

def Progress.run (progress : Progress) : List Lexeme → Document
  | [] => ⟨progress.stranded [], false⟩
  | lexeme :: rest =>
      match progress.step lexeme rest with
      | some progress => progress.run rest
      | none => ⟨progress.stranded (lexeme :: rest), true⟩

def Document.ofText (text : String) : Document :=
  Progress.initial.run (lexemes text.toList)

end GuestGlue.Json
