/-
Generated source files, and the file names that stay inside one directory.
-/

namespace GuestGlue

structure GlueFile where
  name : String
  content : String
  deriving DecidableEq, Repr

namespace GlueFile

/-- What stands before the last point of the name, or the whole name. -/
def stem (file : GlueFile) : String :=
  match file.name.toList.reverse.dropWhile (· ≠ '.') with
  | [] => file.name
  | _ :: before => String.ofList before.reverse

def normalizeChars : List Char → List Char
  | '\r' :: '\n' :: rest => '\n' :: normalizeChars rest
  | character :: rest => character :: normalizeChars rest
  | [] => []

def normalizedContent (file : GlueFile) : String :=
  String.ofList (normalizeChars file.content.toList)

end GlueFile

namespace FileName

def isSeparator (character : Char) : Bool :=
  character = '/' || character = '\\'

/-- Whether the name is that of a file directly inside a directory. -/
def isPlain (name : String) : Bool :=
  name ≠ "" && name ≠ "." && name ≠ ".." && !name.toList.any isSeparator

/-- The name without the difference between capital and small ASCII letters. -/
def folded (name : String) : String :=
  name.map Char.toLower

end FileName

end GuestGlue
