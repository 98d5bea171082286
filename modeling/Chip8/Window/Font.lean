set_option autoImplicit false

/-! # The font of the window

The registers are shown in a font whose characters are all equally wide: the first of a list of
preferred ones that is installed, or else the one that the system has for that purpose.
-/

namespace Chip8.Font

/-- The preferred fonts, the best one first. -/
def preferred : List String := ["Consolas", "Menlo", "Monaco", "Courier New"]

/-- The font to use where the given ones are installed and the system's own one is `fixed`. -/
def choose (installed : List String) (fixed : String) : String :=
  (preferred.find? installed.contains).getD fixed

/-- The line of the style sheet that sets a font. -/
def styleLine (family : String) : String :=
  "QWidget \x7b font-family: '" ++ family ++ "', monospace; font-size: 10pt; \x7d"

end Chip8.Font
