/-
JSON values the library writes, and their two written forms: compact, without
any blank, and laid out, with an indent of two spaces a level and empty lists
and objects closed at once.  Numbers are naturals; no other number is written.
-/

namespace GuestGlue.Json

inductive Value where
  | null
  | bool (value : Bool)
  | number (value : Nat)
  | string (value : String)
  | array (items : List Value)
  | object (members : List (String × Value))

def hexDigit (value : Nat) : Char :=
  if value < 10 then Char.ofNat (48 + value) else Char.ofNat (87 + value)

/-- Quotes, backslashes and the characters below the blank are escaped, the
common ones by a letter; every other character stands for itself. -/
def escapeChar (character : Char) : List Char :=
  match character with
  | '"' => ['\\', '"']
  | '\\' => ['\\', '\\']
  | '\n' => ['\\', 'n']
  | '\r' => ['\\', 'r']
  | '\t' => ['\\', 't']
  | '\x08' => ['\\', 'b']
  | '\x0c' => ['\\', 'f']
  | _ =>
      if character.toNat < 32 then
        ['\\', 'u', '0', '0', hexDigit (character.toNat / 16), hexDigit (character.toNat % 16)]
      else [character]

def quoted (text : String) : List Char :=
  '"' :: (text.toList.flatMap escapeChar ++ ['"'])

def decimal (value : Nat) : List Char :=
  Nat.toDigits 10 value

def literal (value : Bool) : List Char :=
  if value then ['t', 'r', 'u', 'e'] else ['f', 'a', 'l', 's', 'e']

/-! ### Compact form -/

mutual

def Value.compactChars : Value → List Char
  | .null => ['n', 'u', 'l', 'l']
  | .bool value => literal value
  | .number value => decimal value
  | .string value => quoted value
  | .array [] => ['[', ']']
  | .array (item :: items) => '[' :: (item.compactChars ++ compactItems items)
  | .object [] => ['{', '}']
  | .object ((key, value) :: members) =>
      '{' :: (quoted key ++ ':' :: (value.compactChars ++ compactMembers members))

def compactItems : List Value → List Char
  | [] => [']']
  | item :: items => ',' :: (item.compactChars ++ compactItems items)

def compactMembers : List (String × Value) → List Char
  | [] => ['}']
  | (key, value) :: members =>
      ',' :: (quoted key ++ ':' :: (value.compactChars ++ compactMembers members))

end

def Value.compact (value : Value) : String :=
  String.ofList value.compactChars

/-! ### Laid-out form -/

def newLine (level : Nat) : List Char :=
  '\n' :: List.replicate (2 * level) ' '

mutual

def Value.prettyChars (level : Nat) : Value → List Char
  | .null => ['n', 'u', 'l', 'l']
  | .bool value => literal value
  | .number value => decimal value
  | .string value => quoted value
  | .array [] => ['[', ']']
  | .array (item :: items) =>
      '[' :: (newLine (level + 1) ++
        (item.prettyChars (level + 1) ++ prettyItems level items))
  | .object [] => ['{', '}']
  | .object ((key, value) :: members) =>
      '{' :: (newLine (level + 1) ++ (quoted key ++
        ':' :: ' ' :: (value.prettyChars (level + 1) ++ prettyMembers level members)))

def prettyItems (level : Nat) : List Value → List Char
  | [] => newLine level ++ [']']
  | item :: items =>
      ',' :: (newLine (level + 1) ++
        (item.prettyChars (level + 1) ++ prettyItems level items))

def prettyMembers (level : Nat) : List (String × Value) → List Char
  | [] => newLine level ++ ['}']
  | (key, value) :: members =>
      ',' :: (newLine (level + 1) ++ (quoted key ++
        ':' :: ' ' :: (value.prettyChars (level + 1) ++ prettyMembers level members)))

end

def Value.pretty (value : Value) : String :=
  String.ofList (value.prettyChars 0)

end GuestGlue.Json
