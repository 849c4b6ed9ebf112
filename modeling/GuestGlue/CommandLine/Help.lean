/-
Help: what a command does, how it is called, and what its options are for.
Summaries stand beside the options, or below them if the options leave too
little of a line.
-/

import GuestGlue.CommandLine.Arguments
import GuestGlue.Text.Lines

namespace GuestGlue.CommandLine

structure HelpEntry where
  label : String
  summary : String

namespace OptionName

def valueName : OptionName → String
  | .module => "MODULE"
  | .reference => "REFERENCES"
  | .config => "CONFIG"
  | .output => "OUTPUT"
  | .boilerplate => "BOILERPLATE"
  | .reservedModule => "RESERVED_MODULE"
  | .wasm => "WASM"

def summary : OptionName → String
  | .module => "Metadata file of the root module"
  | .reference => "Referenced module whose exports are surfaced too (repeatable)"
  | .config => "Configuration file (defaults to pdkgen.json next to the module, if present)"
  | .output => "Output directory (created if missing; stale generated files are removed)"
  | .boilerplate => "File whose text opens the reserved module's glue file"
  | .reservedModule => "Override the reserved host module name"
  | .wasm => "Linked guest module"

def isRequired (option : OptionName) : Bool :=
  match option with
  | .module | .output | .boilerplate | .wasm => true
  | .reference | .config | .reservedModule => false

def usage (option : OptionName) : String :=
  "--" ++ option.long ++ " <" ++ option.valueName ++ ">"

def helpEntry (option : OptionName) : HelpEntry :=
  let short :=
    match option.short? with
    | some letter => String.ofList ['-', letter, ',', ' ']
    | none => "    "
  ⟨short ++ option.usage, option.summary⟩

end OptionName

def verboseEntry : HelpEntry :=
  ⟨"-v, --verbose...", "Enable verbose output (-v info, -vv debug, -vvv trace)"⟩

def helpFlagEntry : HelpEntry := ⟨"-h, --help", "Print help"⟩

def versionEntry : HelpEntry := ⟨"-V, --version", "Print version"⟩

namespace CommandName

def summary : CommandName → String
  | .generate => "Generate glue files into an output directory"
  | .scan => "Print the export and import bindings as JSON"
  | .verify => "Check a linked guest against the bindings"

def usage (name : CommandName) : String :=
  " ".intercalate
    (name.keyword :: "[OPTIONS]" ::
      (name.options.filter OptionName.isRequired).map OptionName.usage)

/-- The options of a command; the one that every command has comes second. -/
def helpEntries (name : CommandName) : List HelpEntry :=
  let own := name.options.map OptionName.helpEntry
  own.take 1 ++ verboseEntry :: own.drop 1 ++ [helpFlagEntry]

end CommandName

def helpSummary : String := "Print this message or the help of the given subcommand(s)"

/-! ### Layout -/

def lineWidth : Nat := 100

def longestLabel (entries : List HelpEntry) : Nat :=
  entries.foldl (fun longest entry => max longest entry.label.length) 0

/-- Whether labels take over two fifths of a line and leave a summary too little. -/
def isCrowded (entries : List HelpEntry) : Bool :=
  let taken := longestLabel entries + 8
  2 * lineWidth < 5 * taken &&
    entries.any fun entry => lineWidth - taken < entry.summary.length

def blanks (count : Nat) : String :=
  String.ofList (List.replicate count ' ')

def entryLines (entries : List HelpEntry) : List String :=
  if isCrowded entries then
    entries.flatMap fun entry => ["  " ++ entry.label, blanks 10 ++ entry.summary]
  else
    let width := longestLabel entries + 2
    entries.map fun entry =>
      "  " ++ entry.label ++ blanks (width - entry.label.length) ++ entry.summary

def helpLines (summary usage : String) (groups : List (String × List HelpEntry)) : List String :=
  summary :: "" :: ("Usage: pdkgen " ++ usage) ::
    groups.flatMap fun group => "" :: (group.1 ++ ":") :: entryLines group.2

/-! ### Texts -/

def Topic.lines : Topic → List String
  | .program =>
      helpLines "Generate C glue for exported and imported managed methods" "[OPTIONS] <COMMAND>"
        [("Commands",
            CommandName.all.map (fun name => ⟨name.keyword, name.summary⟩) ++
              [⟨"help", helpSummary⟩]),
          ("Options", [verboseEntry, helpFlagEntry, versionEntry])]
  | .command name => helpLines name.summary name.usage [("Options", name.helpEntries)]
  | .help =>
      helpLines helpSummary "help [COMMAND]..."
        [("Arguments", [⟨"[COMMAND]...", "Print help for the subcommand(s)"⟩])]

def Topic.text (topic : Topic) : String :=
  Text.unlines topic.lines

end GuestGlue.CommandLine
