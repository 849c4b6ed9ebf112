/-
What makes a build or a verification fail as a whole.
-/

import GuestGlue.Metadata.Source

namespace GuestGlue

inductive BuildError where
  | metadata (error : ReadError)
  | file (path : Path) (error : FileError)
  | config (path : Path) (rejection : Json.Rejection)
  | invalidFileName (name : String)
  | invalidGuest

def BuildError.message : BuildError → String
  | .metadata error => error.message
  | .file path error => s!"I/O error on {path.text}: {error.message}"
  | .config path rejection => s!"invalid configuration in {path.text}: {rejection.message}"
  | .invalidFileName name => s!"generated file name `{name}` is not a plain file name"
  | .invalidGuest => "invalid wasm module: malformed binary"

end GuestGlue
