/-
What the program asks of a file system, and what can go wrong.
-/

import GuestGlue.Files.Path

namespace GuestGlue

inductive FileError where
  | notFound
  | exists
  | notDirectory
  | isDirectory
  | nameTooLong
  | tooManyLinks
  | zeroInName
  | notText
  | other (text : String)
  deriving DecidableEq, Repr

def FileError.message : FileError → String
  | .notFound => "No such file or directory (os error 2)"
  | .exists => "File exists (os error 17)"
  | .notDirectory => "Not a directory (os error 20)"
  | .isDirectory => "Is a directory (os error 21)"
  | .nameTooLong => "File name too long (os error 36)"
  | .tooManyLinks => "Too many levels of symbolic links (os error 40)"
  | .zeroInName => "file name contained an unexpected NUL byte"
  | .notText => "stream did not contain valid UTF-8"
  | .other text => text

/-- A name that is not the encoding of any text. -/
structure RawName where
  bytes : ByteArray
  notText : String.fromUTF8? bytes = none

inductive EntryName where
  | text (name : String)
  | raw (name : RawName)

-- A directory is read item by item, so that an error can come after some of its entries.
class FileSystem (m : Type → Type) where
  read : Path → m (Except FileError ByteArray)
  write : Path → ByteArray → m (Except FileError Unit)
  remove : Path → m (Except FileError Unit)
  makeDirectory : Path → m (Except FileError Unit)
  entries : Path → m (Except FileError (List (Except FileError EntryName)))
  isFile : Path → m Bool
  isDirectory : Path → m Bool

namespace FileSystem

variable {m : Type → Type} [Monad m] [FileSystem m]

def readText (path : Path) : m (Except FileError String) := do
  match ← read path with
  | .error error => return .error error
  | .ok bytes =>
      match String.fromUTF8? bytes with
      | some text => return .ok text
      | none => return .error .notText

/-- A directory that is there already is as good as a new one. -/
def ensureDirectory (path : Path) : m (Except FileError Unit) := do
  match ← makeDirectory path with
  | .ok () => return .ok ()
  | .error error => if ← isDirectory path then return .ok () else return .error error

/-- Creates a directory and those around it that are missing. -/
def createDirectories (path : Path) : m (Except FileError Unit) := do
  if path.text = "" then return .ok ()
  else
    match ← makeDirectory path with
    | .ok () => return .ok ()
    | .error .notFound =>
        match _found : path.parent? with
        | none => return .error (.other "failed to create whole tree")
        | some parent =>
            match ← createDirectories parent with
            | .error error => return .error error
            | .ok () => ensureDirectory path
    | .error error => if ← isDirectory path then return .ok () else return .error error
termination_by path.text.toList.length
decreasing_by exact Path.length_of_parent? _found

end FileSystem

end GuestGlue
