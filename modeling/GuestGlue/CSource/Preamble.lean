/-
The lines every generated file starts with unless it starts with the caller's
text.
-/

import GuestGlue.Text.Lines

namespace GuestGlue.CSource

def preambleLines : List String := [
  "// Generated by pdkgen. Do not edit.",
  "",
  "#include <string.h>",
  "#include <stdint.h>",
  "#include <stdbool.h>",
  "#include <stdlib.h>",
  "#include <stdio.h>",
  "#include <assert.h>",
  "",
  "#include <mono/metadata/assembly.h>",
  "#include <mono/metadata/exception.h>",
  "",
  "#include \"driver.h\"",
  "",
  "#define IMPORT(a, b) __attribute__((import_module(a), import_name(b)))",
  "",
  "typedef uint64_t ExtismPointer;"]

def preamble : String := Text.unlines preambleLines

end GuestGlue.CSource
