/-
Names that C accepts for a function: ASCII letters, digits and underscores, no
digit in front, and no keyword.
-/

namespace GuestGlue.CSource

def keywords : List String := [
  "auto", "break", "case", "char", "const", "continue", "default", "do", "double", "else",
  "enum", "extern", "float", "for", "goto", "if", "inline", "int", "long", "register",
  "restrict", "return", "short", "signed", "sizeof", "static", "struct", "switch", "typedef",
  "union", "unsigned", "void", "volatile", "while", "_Bool", "_Complex", "_Imaginary"]

def startsIdentifier (character : Char) : Bool :=
  character = '_' || character.isAlpha

def continuesIdentifier (character : Char) : Bool :=
  character = '_' || character.isAlphanum

def isIdentifier (name : String) : Bool :=
  match name.toList with
  | [] => false
  | first :: rest =>
      startsIdentifier first && rest.all continuesIdentifier && !keywords.contains name

end GuestGlue.CSource
