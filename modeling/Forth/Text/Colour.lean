/-
This file paints texts for a terminal. A colour is switched on by an escape
sequence before the text and switched back to the terminal's own colour by
another one after it.
-/

namespace Forth.Text

/-- The colours that programs, reports and prompts are shown in. -/
inductive Colour where
  | yellow
  | green
  | magenta
  | cyan
  | grey
  | brightRed
  | brightWhite
  deriving DecidableEq, Repr

/-- The number that selects a colour for the foreground. -/
def Colour.code : Colour → Nat
  | .green => 32
  | .yellow => 33
  | .magenta => 35
  | .cyan => 36
  | .grey => 90
  | .brightRed => 91
  | .brightWhite => 97

/-- The escape character, which opens every colour sequence. -/
def escape : Char := '\x1b'

/-- The sequence that selects the given colour number. -/
def colourSequence (code : Nat) : String :=
  s!"{escape}[{code}m"

/-- A text in a colour, after which the terminal's own colour is back. -/
def Colour.paint (colour : Colour) (text : String) : String :=
  colourSequence colour.code ++ text ++ colourSequence 39

end Forth.Text
