/-
Readers of single values.  A reader takes a node of a document and gives a value
or the first objection in the order of the text.  Values that nobody asks for
are only checked to be whole; values that are kept for later are checked to be
readable, with numbers in range and at most 127 lists and objects around each
other.
-/

import GuestGlue.Json.Problem

namespace GuestGlue.Json

abbrev Decoder (α : Type) := Node → Except Error α

/-! ### Values nobody asks for -/

mutual

def Node.whole : Node → Bool
  | .array _ _ items => items.whole
  | .object _ _ members => members.whole
  | .absent => false
  | _ => true

def Items.whole : Items → Bool
  | .closed _ => true
  | .broken => false
  | .cons item _ rest => item.whole && rest.whole

def Members.whole : Members → Bool
  | .closed _ => true
  | .broken => false
  | .cons _ _ _ value rest => value.whole && rest.whole

end

/-! ### Values kept for later -/

def depthLimit : Nat := 127

mutual

def Node.readable : Node → Bool
  | .number literal _ => literal.value?.isSome
  | .string content _ => content.isSome
  | .array _ depth items => depth < depthLimit && items.readable
  | .object _ depth members => depth < depthLimit && members.readable
  | .absent => false
  | _ => true

def Items.readable : Items → Bool
  | .closed _ => true
  | .broken => false
  | .cons item _ rest => item.readable && rest.readable

def Members.readable : Members → Bool
  | .closed _ => true
  | .broken => false
  | .cons key _ _ value rest => key.isSome && (value.readable && rest.readable)

end

/-! ### Objections -/

/-- How an objection to a node names it, and its place; nothing if the text is
at fault there. -/
def Node.found? : Node → Option (Found × Place)
  | .null stop => some (.null, stop)
  | .bool value stop => some (.bool value, stop)
  | .number literal stop => literal.value?.map fun value => (.number value, stop)
  | .string content stop => content.map fun content => (.string content, stop)
  | .array start _ _ => some (.sequence, start)
  | .object start _ _ => some (.map, start)
  | .absent => none

def Node.mistyped (node : Node) (expected : String) : Error :=
  match node.found? with
  | some (found, place) => .unsuitable (.wrongType found expected) (some place)
  | none => .malformed

/-! ### Readers -/

def decodeStringAs (expected : String) : Decoder String
  | .string (some content) _ => .ok content
  | node => .error (node.mistyped expected)

def decodeString : Decoder String :=
  decodeStringAs "a string"

def decodeBool : Decoder Bool
  | .bool value _ => .ok value
  | node => .error (node.mistyped "a boolean")

def decodeNat (limit : Nat) (expected : String) : Decoder Nat
  | .number literal stop =>
      match literal.value? with
      | none => .error .malformed
      | some (.natural value) =>
          if value < limit then .ok value
          else .error (.unsuitable (.wrongValue (.number (.natural value)) expected) (some stop))
      | some (.negative magnitude) =>
          .error (.unsuitable (.wrongValue (.number (.negative magnitude)) expected) (some stop))
      | some (.real value) =>
          .error (.unsuitable (.wrongType (.number (.real value)) expected) (some stop))
  | node => .error (node.mistyped expected)

def decodeOption {α : Type} (decode : Decoder α) : Decoder (Option α)
  | .null _ => .ok none
  | node => (decode node).map some

def Items.decode {α : Type} (decode : Decoder α) : Items → Except Error (List α)
  | .closed _ => .ok []
  | .broken => .error .malformed
  | .cons item left rest =>
      match decode item with
      | .error error => .error (error.placed left)
      | .ok value =>
          match rest.decode decode with
          | .error error => .error error
          | .ok values => .ok (value :: values)

def decodeList {α : Type} (decode : Decoder α) : Decoder (List α)
  | .array _ _ items => items.decode decode
  | node => .error (node.mistyped "a sequence")

def Members.decode {α : Type} (decode : Decoder α) : Members → Except Error (List (String × α))
  | .closed _ => .ok []
  | .broken => .error .malformed
  | .cons none _ _ _ _ => .error .malformed
  | .cons (some key) _ _ value rest =>
      match decode value with
      | .error error => .error error
      | .ok value =>
          match rest.decode decode with
          | .error error => .error error
          | .ok members => .ok ((key, value) :: members)

def decodeMembers {α : Type} (decode : Decoder α) : Decoder (List (String × α))
  | .object _ _ members => members.decode decode
  | node => .error (node.mistyped "a map")

/-- Reads one of several names: a string, or an object whose only member has
the name and the value null. -/
def decodeName (names : List String) : Decoder String
  | .string (some content) stop =>
      if content ∈ names then .ok content
      else .error (.unsuitable (.unknownVariant content names) (some stop))
  | .object _ _ (.cons (some key) stop _ value rest) =>
      if key ∈ names then
        match value with
        | .null _ =>
            match rest with
            | .closed _ => .ok key
            | _ => .error .malformed
        | _ => .error (value.mistyped "unit")
      else .error (.unsuitable (.unknownVariant key names) (some stop))
  | _ => .error .malformed

def decodeEnum {α : Type} (cases : List (String × α)) : Decoder α := fun node =>
  match decodeName (cases.map Prod.fst) node with
  | .error error => .error error
  | .ok name =>
      match cases.lookup name with
      | some value => .ok value
      | none => .error .malformed

def Document.decode {α : Type} (decode : Decoder α) (document : Document) : Except Error α :=
  match decode document.root with
  | .error error => .error error
  | .ok value => if document.trailing then .error .malformed else .ok value

def decodeText {α : Type} (decode : Decoder α) (text : String) : Except Rejection α :=
  ((Document.ofText text).decode decode).mapError (Error.inText text)

end GuestGlue.Json
