/-
Text made of lines.
-/

namespace GuestGlue.Text

def unlines (lines : List String) : String :=
  String.join (lines.map fun line => line ++ "\n")

end GuestGlue.Text
