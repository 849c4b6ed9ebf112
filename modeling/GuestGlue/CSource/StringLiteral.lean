/-
String literals of C.  Control characters are written byte by byte with three
octal digits, so no digit that follows can be taken for a part of the escape.
-/

namespace GuestGlue.CSource

/-- The controls below the blank, the delete character and those up to 159. -/
def isControl (character : Char) : Bool :=
  let value := character.toNat
  value < 32 || (127 ≤ value && value < 160)

def octalDigit (value : Nat) : Char :=
  Char.ofNat (48 + value % 8)

def octalEscape (byte : UInt8) : List Char :=
  let value := byte.toNat
  ['\\', octalDigit (value / 64), octalDigit (value / 8), octalDigit value]

def literalChar (character : Char) : List Char :=
  match character with
  | '"' => ['\\', '"']
  | '\\' => ['\\', '\\']
  | '\n' => ['\\', 'n']
  | '\r' => ['\\', 'r']
  | '\t' => ['\\', 't']
  | _ =>
      if isControl character then (String.utf8EncodeChar character).flatMap octalEscape
      else [character]

def literalChars (text : String) : List Char :=
  '"' :: (text.toList.flatMap literalChar ++ ['"'])

def stringLiteral (text : String) : String :=
  String.ofList (literalChars text)

def errorMarker (message : String) : String :=
  "#error " ++ stringLiteral ("pdkgen: " ++ message)

end GuestGlue.CSource
