/-
Records in a document.  A record is an object with one member a field, in any
order and with members of other names between them, or a list of its fields in
the order of declaration.  What was read is a list of entries, one for each
field that is present; from it the record is made.
-/

import GuestGlue.Json.Decode

namespace GuestGlue.Json

structure RecordField (ε : Type) where
  name : String
  decode : Decoder ε
  optional : Bool

structure Record (ε α : Type) where
  title : String
  fields : List (RecordField ε)
  make : List ε → Except String α

/-- Whether a document is read as it stands or after it was kept for a while,
which tells what a list that is too long is called. -/
inductive Reading where
  | direct
  | kept
  deriving DecidableEq

def countOf (count : Nat) (noun : String) : String :=
  if count = 1 then s!"1 {noun}" else s!"{count} {noun}s"

def Items.length : Items → Nat
  | .cons _ _ rest => rest.length + 1
  | _ => 0

/-- Reads the members of an object; `seen` holds the names read before.  The
place is the one after the object. -/
def Members.entries {ε : Type} (fields : List (RecordField ε)) (seen : List String) :
    Members → Except Error (List ε × Place)
  | .closed stop => .ok ([], stop)
  | .broken => .error .malformed
  | .cons none _ _ _ _ => .error .malformed
  | .cons (some key) _ left value rest =>
      match fields.find? fun field => field.name = key with
      | none => if value.whole then rest.entries fields seen else .error .malformed
      | some field =>
          if key ∈ seen then .error (.unsuitable (.duplicateField key) (some left))
          else
            match field.decode value with
            | .error error => .error error
            | .ok entry =>
                match rest.entries fields (key :: seen) with
                | .error error => .error error
                | .ok (entries, stop) => .ok (entry :: entries, stop)

/-- The entries of a list that ends before `fields`, the first of them with
number `index`. -/
def endOfItems {ε : Type} (expected : String) (stop : Place) (index : Nat) :
    List (RecordField ε) → Except Error (List ε)
  | [] => .ok []
  | field :: rest =>
      if field.optional then endOfItems expected stop (index + 1) rest
      else .error (.unsuitable (.wrongLength index expected) (some stop))

/-- Reads the items of a list as fields, the next of them with number `index`. -/
def Items.entries {ε : Type} (reading : Reading) (expected : String) :
    Nat → List (RecordField ε) → Items → Except Error (List ε)
  | _, _, .broken => .error .malformed
  | index, fields, .closed stop => endOfItems expected stop index fields
  | index, [], .cons _ _ rest =>
      match reading with
      | .direct => .error .malformed
      | .kept =>
          .error (.unsuitable
            (.wrongLength (index + rest.length + 1) (countOf index "element" ++ " in sequence")) none)
  | index, field :: fields, .cons item left rest =>
      match field.decode item with
      | .error error => .error (error.placed left)
      | .ok entry =>
          match rest.entries reading expected (index + 1) fields with
          | .error error => .error error
          | .ok entries => .ok (entry :: entries)

def Record.finish {ε α : Type} (record : Record ε α) (place : Option Place) (entries : List ε) :
    Except Error α :=
  match record.make entries with
  | .error name => .error (.unsuitable (.missingField name) place)
  | .ok value => .ok value

def Record.decode {ε α : Type} (record : Record ε α) (reading : Reading) : Decoder α
  | .object _ _ members =>
      match members.entries record.fields [] with
      | .error error => .error error
      | .ok (entries, stop) => record.finish (some stop) entries
  | .array _ _ items =>
      let expected :=
        "struct " ++ record.title ++ " with " ++ countOf record.fields.length "element"
      match items.entries reading expected 0 record.fields with
      | .error error => .error error
      | .ok entries => record.finish none entries
  | node => .error (node.mistyped ("struct " ++ record.title))

def required {ε β : Type} (name : String) (select : ε → Option β) (entries : List ε) :
    Except String β :=
  match entries.findSome? select with
  | some value => .ok value
  | none => .error name

def defaulted {ε β : Type} (value : β) (select : ε → Option β) (entries : List ε) : β :=
  (entries.findSome? select).getD value

end GuestGlue.Json
