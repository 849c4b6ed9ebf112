/-
File systems as values.  A disk maps locations to files, directories and links; a
path is resolved component by component from the root or the working directory, so
that the first component that cannot be passed decides the error.  A link on the way
is replaced by the components of its target, a bounded number of times.
-/

import GuestGlue.Files.FileSystem

namespace GuestGlue

/-- The names on the way from the root. -/
abbrev Location := List String

-- A file with several names is kept under a number; each of the names is an entry of its own.
inductive Entry where
  | file (content : ByteArray)
  | shared (number : Nat)
  | directory
  | link (target : Path)

def Entry.isDirectory : Entry → Bool
  | .directory => true
  | _ => false

def Entry.isFile : Entry → Bool
  | .file _ | .shared _ => true
  | _ => false

structure Stray where
  directory : Location
  name : RawName
  entry : Entry

/-- `strays` are the entries whose names are no texts; no path leads to them. -/
structure Disk where
  entries : List (Location × Entry)
  workingDirectory : Location
  contents : List (Nat × ByteArray)
  strays : List Stray

namespace Disk

/-- A disk on which every file has one name, and that name is a text. -/
def plain (entries : List (Location × Entry)) (workingDirectory : Location) : Disk :=
  ⟨entries, workingDirectory, [], []⟩

def initial : Disk := plain [(["work"], .directory)] ["work"]

def entry? (disk : Disk) (location : Location) : Option Entry :=
  if location = [] then some .directory else disk.entries.lookup location

def isDirectoryAt (disk : Disk) (location : Location) : Bool :=
  (disk.entry? location).any Entry.isDirectory

/-- A file can be written where there is one, and where nothing is. -/
def takesFile (disk : Disk) (location : Location) : Bool :=
  (disk.entry? location).all Entry.isFile

/-- What the file at a location holds, if there is one. -/
def content? (disk : Disk) (location : Location) : Option ByteArray :=
  match disk.entry? location with
  | some (.file content) => some content
  | some (.shared number) => some ((disk.contents.lookup number).getD .empty)
  | _ => none

def erase (disk : Disk) (location : Location) : Disk :=
  { disk with entries := disk.entries.filter (·.1 ≠ location) }

def put (disk : Disk) (location : Location) (entry : Entry) : Disk :=
  { disk with entries := (location, entry) :: (disk.erase location).entries }

/-- Gives the file at a location its content; where nothing is, a file comes. -/
def fill (disk : Disk) (location : Location) (content : ByteArray) : Disk :=
  match disk.entry? location with
  | some (.shared number) => { disk with contents := (number, content) :: disk.contents }
  | _ => disk.put location (.file content)

def children (disk : Disk) (location : Location) : List String :=
  disk.entries.filterMap fun (other, _) =>
    if other.dropLast = location then other.getLast? else none

def rawChildren (disk : Disk) (location : Location) : List RawName :=
  (disk.strays.filter (·.directory = location)).map (·.name)

/-! ### Resolution of paths -/

/-- The longest name an entry can have, in bytes. -/
def nameLimit : Nat := 255

/-- Paths of this many bytes are too long. -/
def pathLimit : Nat := 4096

/-- How many links a path can lead through. -/
def linkLimit : Nat := 40

def splitComponents : List Char → List (List Char)
  | [] => [[]]
  | '/' :: rest => [] :: splitComponents rest
  | character :: rest =>
      match splitComponents rest with
      | [] => [[character]]
      | first :: others => (character :: first) :: others

def components (path : Path) : List String :=
  (splitComponents path.text.toList).map String.ofList

def checkPath (path : Path) : Except FileError Unit :=
  if path.text.toList.contains '\x00' then .error .zeroInName
  else if path.text = "" then .error .notFound
  else if pathLimit ≤ path.text.utf8ByteSize then .error .nameTooLong
  else .ok ()

def enter (disk : Disk) (location : Location) : Except FileError Unit :=
  match disk.entry? location with
  | some .directory => .ok ()
  | some _ => .error .notDirectory
  | none => .error .notFound

def startFrom (current : Location) (path : Path) : Location :=
  if path.isAbsolute then [] else current

/-- Follows components up to the first link, which `pass` takes over with what follows
on it.  An empty component and a point stay where they are. -/
def followWith (disk : Disk) (links : Nat)
    (pass : Location → List String → Except FileError (Location × Nat)) (current : Location) :
    List String → Except FileError (Location × Nat)
  | [] => .ok (current, links)
  | component :: rest => do
      disk.enter current
      if component = "" || component = "." then disk.followWith links pass current rest
      else if component = ".." then disk.followWith links pass current.dropLast rest
      else if nameLimit < component.utf8ByteSize then throw .nameTooLong
      else
        match disk.entry? (current ++ [component]) with
        | some (.link target) => pass (startFrom current target) (components target ++ rest)
        | _ => disk.followWith links pass (current ++ [component]) rest

/-- Follows components through at most so many links, to a location where nothing has to
be; gives the number of links that are left. -/
def follow (disk : Disk) : Nat → Location → List String → Except FileError (Location × Nat)
  | 0 => disk.followWith 0 fun _ _ => .error .tooManyLinks
  | links + 1 => disk.followWith (links + 1) (disk.follow links)

def startOf (disk : Disk) (path : Path) : Location :=
  startFrom disk.workingDirectory path

/-- Where a path leads, links at its end included; nothing has to be there. -/
def resolve (disk : Disk) (path : Path) : Except FileError Location := do
  checkPath path
  let (location, _) ← disk.follow linkLimit (disk.startOf path) (components path)
  return location

/-- The location of the entry a path leads to. -/
def locate (disk : Disk) (path : Path) : Except FileError Location := do
  let location ← disk.resolve path
  if (disk.entry? location).isSome then return location
  throw .notFound

/-- A name in a directory, not followed if it is that of a link.  `closed` tells whether a
separator comes after the name, `links` how many links the way has left over. -/
structure Target where
  directory : Location
  name : String
  closed : Bool
  links : Nat

/-- Nothing if the path has no component. -/
def target? (disk : Disk) (path : Path) : Except FileError (Option Target) := do
  checkPath path
  let parts := components path
  match parts.reverse.dropWhile (· = "") with
  | [] => return none
  | name :: before =>
      let (directory, links) ← disk.follow linkLimit (disk.startOf path) before.reverse
      disk.enter directory
      return some ⟨directory, name, parts.getLast? = some "", links⟩

def isDots (name : String) : Bool :=
  name = "." || name = ".."

/-! ### Operations -/

def readFile (disk : Disk) (path : Path) : Except FileError ByteArray := do
  let location ← disk.locate path
  match disk.content? location with
  | some content => return content
  | none => throw .isDirectory

def writeFile (disk : Disk) (path : Path) (content : ByteArray) : Except FileError Disk := do
  match ← disk.target? path with
  | none => throw .isDirectory
  | some target =>
      if target.closed || isDots target.name then throw .isDirectory
      let (location, _) ← disk.follow target.links target.directory [target.name]
      if !disk.takesFile location then throw .isDirectory
      return disk.fill location content

def makeDirectory (disk : Disk) (path : Path) : Except FileError Disk := do
  match ← disk.target? path with
  | none => throw .exists
  | some target =>
      let location := target.directory ++ [target.name]
      if isDots target.name then throw .exists
      if nameLimit < target.name.utf8ByteSize then throw .nameTooLong
      if (disk.entry? location).isSome then throw .exists
      return disk.put location .directory

/-- A link is removed itself, and so is one name of a file that has several. -/
def removeFile (disk : Disk) (path : Path) : Except FileError Disk := do
  match ← disk.target? path with
  | none => throw .isDirectory
  | some target =>
      let location := target.directory ++ [target.name]
      if isDots target.name then throw .isDirectory
      if nameLimit < target.name.utf8ByteSize then throw .nameTooLong
      match disk.entry? location with
      | none => throw .notFound
      | some .directory => throw .isDirectory
      | some _ => if target.closed then throw .notDirectory else return disk.erase location

def listDirectory (disk : Disk) (path : Path) : Except FileError (List EntryName) := do
  let location ← disk.locate path
  if disk.isDirectoryAt location then
    return (disk.children location).map .text ++ (disk.rawChildren location).map .raw
  throw .notDirectory

def hasFile (disk : Disk) (path : Path) : Bool :=
  match disk.locate path with
  | .ok location => (disk.content? location).isSome
  | .error _ => false

def hasDirectory (disk : Disk) (path : Path) : Bool :=
  match disk.locate path with
  | .ok location => disk.isDirectoryAt location
  | .error _ => false

end Disk

/-- Programs that work on a disk. -/
abbrev DiskM := StateM Disk

namespace DiskM

def ask {α : Type} (operation : Disk → α) : DiskM α := fun disk => (operation disk, disk)

def change (operation : Disk → Except FileError Disk) : DiskM (Except FileError Unit) := fun disk =>
  match operation disk with
  | .ok changed => (.ok (), changed)
  | .error error => (.error error, disk)

end DiskM

instance : FileSystem DiskM where
  read path := DiskM.ask (·.readFile path)
  write path content := DiskM.change (·.writeFile path content)
  remove path := DiskM.change (·.removeFile path)
  makeDirectory path := DiskM.change (·.makeDirectory path)
  entries path := DiskM.ask fun disk => (disk.listDirectory path).map (·.map .ok)
  isFile path := DiskM.ask (·.hasFile path)
  isDirectory path := DiskM.ask (·.hasDirectory path)

end GuestGlue
