/-
Configuration of a build: the options of the glue, the modules whose exports are
surfaced too, and the directory that holds their metadata.
-/

import GuestGlue.Options
import GuestGlue.Files.Path

namespace GuestGlue

structure Config where
  options : Options
  references : NameSet
  moduleDirectory : Option Path

namespace Config

def standard : Config := ⟨.standard, .empty, none⟩

def fileName : String := "pdkgen.json"

def moduleDirectoryFor (config : Config) (modulePath : Path) : Path :=
  config.moduleDirectory.getD modulePath.directory

end Config

end GuestGlue
