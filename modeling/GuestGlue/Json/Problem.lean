/-
What can be wrong with a document.  Either the text is no JSON, or a value does
not suit the place where it stands; then the objection has a wording and, once
it is known, a place in the text.
-/

import GuestGlue.Json.Node
import GuestGlue.Text.Decimal
import GuestGlue.Text.Quoted

namespace GuestGlue.Json

inductive Found where
  | null
  | bool (value : Bool)
  | number (value : Number)
  | string (value : String)
  | sequence
  | map

inductive Problem where
  | wrongType (found : Found) (expected : String)
  | wrongValue (found : Found) (expected : String)
  | wrongLength (length : Nat) (expected : String)
  | missingField (name : String)
  | duplicateField (name : String)
  | unknownVariant (name : String) (expected : List String)

inductive Error where
  | malformed
  | unsuitable (problem : Problem) (place : Option Place)

def Number.text : Number → String
  | .natural value => s!"integer `{value}`"
  | .negative magnitude => s!"integer `-{magnitude}`"
  | .real value => s!"floating point `{Text.realText value}`"

def Found.text : Found → String
  | .null => "null"
  | .bool value => s!"boolean `{value}`"
  | .number value => value.text
  | .string value => "string " ++ Text.quoted value
  | .sequence => "sequence"
  | .map => "map"

def alternatives : List String → String
  | [] => "there are no variants"
  | [only] => s!"expected `{only}`"
  | [first, second] => s!"expected `{first}` or `{second}`"
  | names => "expected one of " ++ ", ".intercalate (names.map fun name => s!"`{name}`")

def Problem.message : Problem → String
  | .wrongType found expected => s!"invalid type: {found.text}, expected {expected}"
  | .wrongValue found expected => s!"invalid value: {found.text}, expected {expected}"
  | .wrongLength length expected => s!"invalid length {length}, expected {expected}"
  | .missingField name => s!"missing field `{name}`"
  | .duplicateField name => s!"duplicate field `{name}`"
  | .unknownVariant name expected => s!"unknown variant `{name}`, {alternatives expected}"

/-! ### Places -/

structure Position where
  line : Nat
  column : Nat
  deriving DecidableEq, Repr

def Position.start : Position := ⟨1, 0⟩

def Position.after (position : Position) (character : Char) : Position :=
  if character = '\n' then ⟨position.line + 1, 0⟩
  else ⟨position.line, position.column + character.utf8Size⟩

def Position.ofPlace (text : String) (place : Place) : Position :=
  (text.toList.take (text.toList.length - place.length)).foldl Position.after Position.start

inductive Rejection where
  | malformed
  | unsuitable (problem : Problem) (position : Option Position)

def Error.inText (text : String) : Error → Rejection
  | .malformed => .malformed
  | .unsuitable problem place => .unsuitable problem (place.map (Position.ofPlace text))

def Position.suffix (position : Position) : String :=
  s!" at line {position.line} column {position.column}"

def Rejection.message : Rejection → String
  | .malformed => "malformed document"
  | .unsuitable problem position =>
      problem.message ++ (position.map Position.suffix).getD ""

def Error.placed (place : Place) : Error → Error
  | .unsuitable problem none => .unsuitable problem (some place)
  | error => error

def Error.unplaced : Error → Error
  | .unsuitable problem _ => .unsuitable problem none
  | error => error

end GuestGlue.Json
