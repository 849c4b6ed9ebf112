/-
Names of what a component imports and exports.  A plain name is made of words
with hyphens between them; other names say which function of a resource, which
interface of a package, or which binary is meant.
-/

namespace GuestGlue.Wasm.Component

/-! ### Labels -/

def isWord (word : List Char) : Bool :=
  match word with
  | [] => false
  | first :: rest =>
      (first.isLower && rest.all fun c => c.isLower || c.isDigit) ||
        (first.isUpper && rest.all fun c => c.isUpper || c.isDigit)

def splitAt (separator : Char) : List Char → List (List Char)
  | [] => [[]]
  | c :: rest =>
      if c = separator then [] :: splitAt separator rest
      else
        match splitAt separator rest with
        | [] => [[c]]
        | first :: others => (c :: first) :: others

def isLabel (text : List Char) : Bool := (splitAt '-' text).all isWord

def labelKey (label : String) : String := label.map Char.toLower

/-! ### Versions -/

/-- Numbers in versions have no leading zeros and fit into 64 bits. -/
def isVersionNumber (text : List Char) : Bool :=
  !text.isEmpty && text.all Char.isDigit && (text.head? ≠ some '0' || text.length = 1) &&
    text.foldl (fun value c => value * 10 + (c.toNat - 48)) 0 < 0x10000000000000000

def isVersionLetter (c : Char) : Bool := c.isAlphanum || c = '-'

/-- An identifier; if it is a number, it may have to have no leading zeros. -/
def isVersionIdentifier (strict : Bool) (text : List Char) : Bool :=
  !text.isEmpty && text.all isVersionLetter &&
    !(strict && text.all Char.isDigit && text.head? = some '0' && text.length ≠ 1)

def isVersionIdentifiers (strict : Bool) (text : List Char) : Bool :=
  (splitAt '.' text).all (isVersionIdentifier strict)

/-- A text up to a character, and what follows the character if it is there. -/
def divideAt (separator : Char) (text : List Char) : List Char × Option (List Char) :=
  let before := text.takeWhile (· ≠ separator)
  match text.dropWhile (· ≠ separator) with
  | [] => (before, none)
  | _ :: after => (before, some after)

/-- Three numbers, perhaps what they come before, perhaps how they were built. -/
def isVersion (text : List Char) : Bool :=
  let (release, build) := divideAt '+' text
  let (numbers, preview) := divideAt '-' release
  let numbers := splitAt '.' numbers
  numbers.length = 3 && numbers.all isVersionNumber && preview.all (isVersionIdentifiers true) &&
    build.all (isVersionIdentifiers false)

def isVersionRange (text : List Char) : Bool :=
  match text with
  | ['*'] => true
  | '>' :: '=' :: range =>
      match divideAt ' ' range with
      | (lower, none) => isVersion lower
      | (lower, some ('<' :: upper)) => isVersion lower && isVersion upper
      | _ => false
  | '<' :: upper => isVersion upper
  | _ => false

/-! ### Digests -/

def isBase64Letter (c : Char) : Bool := c.isAlphanum || c = '+' || c = '/'

def isBase64 (text : List Char) : Bool :=
  let padding := text.dropWhile isBase64Letter
  (text.head?.any isBase64Letter) && padding.length ≤ 2 && padding.all (· = '=')

def isBlank (c : Char) : Bool :=
  c = ' ' || (9 ≤ c.toNat && c.toNat ≤ 13) || c.toNat = 0x85 || c.toNat = 0xa0 ||
    c.toNat = 0x1680 || (0x2000 ≤ c.toNat && c.toNat ≤ 0x200a) || c.toNat = 0x2028 ||
    c.toNat = 0x2029 || c.toNat = 0x202f || c.toNat = 0x205f || c.toNat = 0x3000

def isDigest (text : List Char) : Bool :=
  let (algorithm, digest) := divideAt '-' text
  ["sha256", "sha384", "sha512"].contains (String.ofList algorithm) &&
    digest.any fun digest => isBase64 (divideAt '?' digest).1

def isIntegrity (text : List Char) : Bool :=
  let digests := (splitAt ' ' (text.map fun c => if isBlank c then ' ' else c)).filter
    fun part => !part.isEmpty
  !digests.isEmpty && digests.all isDigest

/-! ### Packages -/

def after? (start : String) (text : List Char) : Option (List Char) :=
  if start.toList.isPrefixOf text then some (text.drop start.length) else none

def isLabelLetter (c : Char) : Bool := c.isAlphanum || c = '-'

def lowerLabel? (text : List Char) : Option (List Char) :=
  let label := text.takeWhile isLabelLetter
  if isLabel label && !label.any Char.isUpper then some (text.dropWhile isLabelLetter) else none

/-- A package by its space and name, perhaps with one of its interfaces; gives
what follows it. -/
def packagePath? (needsInterface : Bool) (text : List Char) : Option (List Char) := do
  let rest ← lowerLabel? text
  let rest ← after? ":" rest
  let rest ← lowerLabel? rest
  match rest with
  | '/' :: rest =>
      if isLabel (rest.takeWhile isLabelLetter) then some (rest.dropWhile isLabelLetter) else none
  | _ => if needsInterface then none else some rest

def packageName? (needsInterface : Bool) (text : List Char) : Option (List Char) := do
  match ← packagePath? needsInterface text with
  | '@' :: rest =>
      if isVersion (rest.takeWhile (· ≠ '>')) then some (rest.dropWhile (· ≠ '>')) else none
  | rest => some rest

def packageQuery? (text : List Char) : Option (List Char) := do
  match ← packagePath? false text with
  | '@' :: '*' :: rest => some rest
  | '@' :: '\x7b' :: rest =>
      match divideAt '}' rest with
      | (range, some rest) => if isVersionRange range then some rest else none
      | _ => none
  | '@' :: _ => none
  | rest => some rest

def isOptionalDigest (text : List Char) : Bool :=
  text.isEmpty ||
    match after? ",integrity=<" text with
    | some rest =>
        let (integrity, rest) := divideAt '>' rest
        rest = some [] && isIntegrity integrity
    | none => false

/-! ### Names -/

inductive ExternalName where
  | label (label : String)
  | creator (resource : String)
  | method (resource function : String)
  | static (resource function : String)
  | interface (text : String)
  | source (text : String)
  deriving DecidableEq

namespace ExternalName

def isExportable : ExternalName → Bool
  | .source _ => false
  | _ => true

def key : ExternalName → ExternalName
  | .label text => .label (labelKey text)
  | .creator resource => .creator (labelKey resource)
  | .method resource function => .method (labelKey resource) (labelKey function)
  | .static resource function => .method (labelKey resource) (labelKey function)
  | name => name

def label? (text : List Char) : Option String :=
  if isLabel text then some (String.ofList text) else none

def member? (text : List Char) : Option (String × String) :=
  match divideAt '.' text with
  | (resource, some function) => do return (← label? resource, ← label? function)
  | _ => none

def isSource (text : List Char) : Bool :=
  match after? "unlocked-dep=" text, after? "locked-dep=" text, after? "url=" text,
      after? "integrity=" text with
  | some rest, _, _, _ => ((after? "<" rest).bind packageQuery?) = some ['>']
  | _, some rest, _, _ =>
      match (after? "<" rest).bind (packageName? false) with
      | some ('>' :: rest) => isOptionalDigest rest
      | _ => false
  | _, _, some ('<' :: rest), _ =>
      match divideAt '>' rest with
      | (address, some rest) => !address.contains '<' && isOptionalDigest rest
      | _ => false
  | _, _, _, some ('<' :: rest) =>
      let (integrity, rest) := divideAt '>' rest
      rest = some [] && isIntegrity integrity
  | _, _, _, _ => false

def isSourceStart (text : List Char) : Bool :=
  ["unlocked-dep=", "locked-dep=", "url=", "integrity="].any fun start => (after? start text).isSome

def ofString? (name : String) : Option ExternalName :=
  let text := name.toList
  match after? "[constructor]" text, after? "[method]" text, after? "[static]" text with
  | some rest, _, _ => (label? rest).map .creator
  | _, some rest, _ => (member? rest).map fun (resource, function) => .method resource function
  | _, _, some rest => (member? rest).map fun (resource, function) => .static resource function
  | none, none, none =>
      if isSourceStart text then (if isSource text then some (.source name) else none)
      else if text.contains ':' then
        if packageName? true text = some [] then some (.interface name) else none
      else (label? text).map .label

end ExternalName

end GuestGlue.Wasm.Component
