/-
Arguments of the command line.  Options stand before or after each other in any
order, with their value attached or following; short ones can share a dash.
-/

import GuestGlue.Files.Path

namespace GuestGlue.CommandLine

inductive OptionName where
  | module
  | reference
  | config
  | output
  | boilerplate
  | reservedModule
  | wasm
  deriving DecidableEq, Repr

namespace OptionName

def long : OptionName → String
  | .module => "module"
  | .reference => "reference"
  | .config => "config"
  | .output => "output"
  | .boilerplate => "boilerplate"
  | .reservedModule => "reserved-module"
  | .wasm => "wasm"

def short? : OptionName → Option Char
  | .module => some 'm'
  | .reference => some 'r'
  | .config => some 'c'
  | .output => some 'o'
  | .boilerplate => some 'b'
  | .reservedModule => none
  | .wasm => some 'w'

def isRepeatable (option : OptionName) : Bool :=
  option = .reference

def allowsEmpty : OptionName → Bool
  | .reference | .reservedModule => true
  | _ => false

end OptionName

inductive CommandName where
  | generate
  | scan
  | verify
  deriving DecidableEq, Repr

namespace CommandName

def all : List CommandName := [.generate, .scan, .verify]

def keyword : CommandName → String
  | .generate => "generate"
  | .scan => "scan"
  | .verify => "verify"

def ofString? (text : String) : Option CommandName :=
  all.find? (·.keyword = text)

def options : CommandName → List OptionName
  | .generate => [.module, .reference, .config, .output, .boilerplate, .reservedModule]
  | .scan => [.module, .reference, .config]
  | .verify => [.module, .reference, .config, .wasm]

end CommandName

structure ModuleArguments where
  modulePath : Path
  references : List String
  config : Option Path
  deriving DecidableEq, Repr

inductive Command where
  | generate (module : ModuleArguments) (output boilerplate : Path)
      (reservedModule : Option String)
  | scan (module : ModuleArguments)
  | verify (module : ModuleArguments) (wasm : Path)
  deriving DecidableEq, Repr

inductive Topic where
  | program
  | command (name : CommandName)
  | help
  deriving DecidableEq, Repr

inductive Request where
  | run (command : Command)
  | version
  | help (topic : Topic)
  deriving DecidableEq, Repr

/-! ### Options of a command -/

abbrev Given := List (OptionName × String)

/-- Takes an option, unless it cannot be repeated or its value cannot be empty. -/
def Given.add (given : Given) (option : OptionName) (value : String) : Option Given :=
  if !option.isRepeatable && given.any (·.1 = option) then none
  else if value = "" && !option.allowsEmpty then none
  else some ((option, value) :: given)

def Given.find? (given : Given) (option : OptionName) : Option String :=
  given.lookup option

def Given.all (given : Given) (option : OptionName) : List String :=
  ((given.filter (·.1 = option)).map (·.2)).reverse

def CommandName.assemble (name : CommandName) (given : Given) : Option Command := do
  let modulePath ← given.find? .module
  let module : ModuleArguments :=
    ⟨⟨modulePath⟩, given.all .reference, (given.find? .config).map Path.mk⟩
  match name with
  | .generate =>
      let output ← given.find? .output
      let boilerplate ← given.find? .boilerplate
      return .generate module ⟨output⟩ ⟨boilerplate⟩ (given.find? .reservedModule)
  | .scan => return .scan module
  | .verify =>
      let wasm ← given.find? .wasm
      return .verify module ⟨wasm⟩

inductive Cluster where
  | flags
  | help
  | version
  | valued (option : OptionName) (attached : Option String)
  | unknown

/-- Reads the letters after a dash.  A version is only asked for before a command. -/
def readCluster (options : List OptionName) (atTop : Bool) : List Char → Cluster
  | [] => .flags
  | 'v' :: rest => readCluster options atTop rest
  | 'h' :: _ => .help
  | letter :: rest =>
      if atTop && letter = 'V' then .version
      else
        match options.find? (·.short? = some letter) with
        | none => .unknown
        | some option =>
            match rest with
            | [] => .valued option none
            | '=' :: value => .valued option (some (String.ofList value))
            | value => .valued option (some (String.ofList value))

def splitLong (chars : List Char) : String × Option String :=
  let name := String.ofList (chars.takeWhile (· ≠ '='))
  match chars.dropWhile (· ≠ '=') with
  | [] => (name, none)
  | _ :: value => (name, some (String.ofList value))

def isValue (argument : String) : Bool :=
  argument = "-" || argument.toList.head? ≠ some '-'

inductive Argument where
  | flag
  | help
  | valued (option : OptionName) (attached : Option String)
  | lastOption
  | unknown

def readLong (options : List OptionName) (chars : List Char) : Argument :=
  match splitLong chars with
  | ("verbose", none) => .flag
  | ("help", none) => .help
  | (name, value) =>
      match options.find? (·.long = name) with
      | none => .unknown
      | some option => .valued option value

def readArgument (options : List OptionName) (argument : String) : Argument :=
  match argument.toList with
  | ['-', '-'] => .lastOption
  | '-' :: '-' :: chars => readLong options chars
  | ['-'] => .unknown
  | '-' :: chars =>
      match readCluster options false chars with
      | .flags => .flag
      | .help => .help
      | .version | .unknown => .unknown
      | .valued option attached => .valued option attached
  | _ => .unknown

/-- Reads the arguments after a command's name; nothing if they are rejected. -/
def readCommand (name : CommandName) (given : Given) : List String → Option Request
  | [] => (name.assemble given).map Request.run
  | argument :: rest =>
      match readArgument name.options argument with
      | .flag => readCommand name given rest
      | .help => some (.help (.command name))
      | .lastOption => if rest.isEmpty then (name.assemble given).map Request.run else none
      | .unknown => none
      | .valued option (some value) =>
          match given.add option value with
          | none => none
          | some given => readCommand name given rest
      | .valued option none =>
          match rest with
          | [] => none
          | value :: rest =>
              if isValue value then
                match given.add option value with
                | none => none
                | some given => readCommand name given rest
              else none

def Topic.ofString? (name : String) : Option Topic :=
  if name = "help" then some .help else (CommandName.ofString? name).map .command

def readTopic : List String → Option Request
  | [] => some (.help .program)
  | [name] => (Topic.ofString? name).map .help
  | _ => none

def readArguments : List String → Option Request
  | [] => none
  | "--verbose" :: rest => readArguments rest
  | "--version" :: _ => some .version
  | "--help" :: _ => some (.help .program)
  | "help" :: rest => readTopic rest
  | argument :: rest =>
      match argument.toList with
      | '-' :: first :: chars =>
          match readCluster [] true (first :: chars) with
          | .flags => readArguments rest
          | .version => some .version
          | .help => some (.help .program)
          | _ => none
      | _ =>
          match CommandName.ofString? argument with
          | some name => readCommand name [] rest
          | none => none

end GuestGlue.CommandLine
