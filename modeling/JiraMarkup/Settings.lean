/-
  The settings of a conversion and their defaults.
-/
import JiraMarkup.Text

namespace JiraMarkup

/-- The settings of a conversion. -/
structure Settings where
  /-- Whether every construct that is written is logged. It never changes the output. -/
  verbose : Bool := false
  /-- A code block with more lines than this is collapsed. -/
  collapseThreshold : Nat := 20
  /-- The color theme of code blocks. -/
  theme : Text := "RDark".toList
  /-- The border style of code blocks. -/
  borderStyle : Text := "solid".toList
  /-- Whether code blocks have line numbers. -/
  lineNumbers : Bool := true
  deriving DecidableEq, Repr

namespace Settings

/-- The default settings. -/
def default : Settings := {}

/-- The settings with logging turned on. -/
def logged (s : Settings) : Settings := { s with verbose := true }

/-- The settings with another threshold. -/
def collapseAfter (n : Nat) (s : Settings) : Settings := { s with collapseThreshold := n }

end Settings

end JiraMarkup
