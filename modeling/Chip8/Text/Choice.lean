/-!
# Lists of choices

A message about an unknown name shows the names that there are, each in single
quotes, in square brackets.
-/

namespace Chip8.Text

/-- The names that there are. -/
def choices (names : List String) : String :=
  "[" ++ ", ".intercalate (names.map fun name => "'" ++ name ++ "'") ++ "]"

example : choices ["a", "b"] = "['a', 'b']" := by decide +kernel

end Chip8.Text
