import GuestGlue.Main
import GuestGlue.CommandLine.Run
import GuestGlue.Files.Disk
import GuestGlue.Proofs.Glue.Symbols
import GuestGlue.Proofs.Metadata.Scan
import GuestGlue.Proofs.Build.History
import GuestGlue.Proofs.Build.Report
import GuestGlue.Proofs.Text.Pieces
import GuestGlue.Proofs.Glue.Grouping
import GuestGlue.Proofs.Glue.Rulings
import GuestGlue.Proofs.Build.Silence
import GuestGlue.Proofs.Glue.Layout
import GuestGlue.Proofs.CSource.Tokens
import GuestGlue.Proofs.CSource.Functions
import GuestGlue.Proofs.Glue.Forwarder
import GuestGlue.Proofs.Glue.GuestNames
import GuestGlue.Proofs.Json.Layout
import GuestGlue.Proofs.Json.Tree
import GuestGlue.Proofs.Json.ReadBack
import GuestGlue.Proofs.Codec.Module
import GuestGlue.Proofs.Build.Outcome
import GuestGlue.Proofs.Build.Refusal
import GuestGlue.Proofs.Files.Fresh
import GuestGlue.Proofs.Build.HostNames
import GuestGlue.Proofs.Build.Verification
import GuestGlue.Proofs.Glue.Reserved
import GuestGlue.Proofs.CommandLine.Verification
import GuestGlue.Proofs.Files.Ways
import GuestGlue.Proofs.Metadata.Readers
import GuestGlue.Proofs.Build.Confinement
import GuestGlue.Proofs.CSource.Literals
import GuestGlue.Proofs.Glue.Lines
import GuestGlue.Proofs.Glue.Contents
import GuestGlue.Proofs.Glue.Signature
import GuestGlue.Proofs.Glue.Verdicts
import GuestGlue.Proofs.Glue.Regeneration
import GuestGlue.Proofs.Glue.Precedence
import GuestGlue.Proofs.Glue.Separation
import GuestGlue.Proofs.Metadata.DepthFirst
import GuestGlue.Proofs.Build.LibraryExports
import GuestGlue.Proofs.Build.Repetition
import GuestGlue.Proofs.LogAssembly
import GuestGlue.Proofs.Json.Strings
import GuestGlue.Proofs.Json.Numbers
import GuestGlue.Proofs.Json.Written
import GuestGlue.Proofs.Codec.ScanResult
import GuestGlue.Proofs.Json.Description
import GuestGlue.Proofs.Json.Fields
import GuestGlue.Proofs.Codec.Configuration
import GuestGlue.Proofs.NameMap
import GuestGlue.Proofs.Codec.ModuleDescription
import GuestGlue.Proofs.Codec.Rewriting
import GuestGlue.Proofs.Codec.Stability
