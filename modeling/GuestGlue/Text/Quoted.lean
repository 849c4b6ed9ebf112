/-
Quoted text in messages.  A character that cannot be shown by itself, because
it has no shape, no width of its own or no meaning, is written by its number in
hexadecimal; quotes, backslashes and the common controls are escaped by a letter.
-/

import GuestGlue.Text.Unshown

namespace GuestGlue.Text

def hexDigits (value : Nat) : List Char :=
  Nat.toDigits 16 value

def isUnshown (character : Char) : Bool :=
  let value := character.toNat
  value < 32 || (127 ≤ value && unshownRanges.any fun range => range.1 ≤ value && value ≤ range.2)

def quotedChar (character : Char) : List Char :=
  match character with
  | '"' => ['\\', '"']
  | '\\' => ['\\', '\\']
  | '\n' => ['\\', 'n']
  | '\r' => ['\\', 'r']
  | '\t' => ['\\', 't']
  | '\x00' => ['\\', '0']
  | _ =>
      if isUnshown character then
        '\\' :: 'u' :: '\x7b' :: (hexDigits character.toNat ++ ['\x7d'])
      else [character]

def quoted (text : String) : String :=
  String.ofList ('"' :: (text.toList.flatMap quotedChar ++ ['"']))

end GuestGlue.Text
