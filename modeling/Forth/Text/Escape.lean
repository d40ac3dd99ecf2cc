/-
This file takes out of a text what a terminal obeys instead of showing it.
There are two kinds of such escape sequences. A control sequence, such as one
that selects a colour, has an opening bracket after the escape character and
ends with a letter. A command to the system, such as one that sets the title of
the window, has a closing bracket there and ends with a bell.

A sequence that is not finished is not obeyed, and it is shown as it is.
-/

import Forth.Text.Colour
import Forth.Text.Digit

namespace Forth.Text

/-! ### Finding sequences -/

/-- A sequence that was found in a text, with the number of characters before it. -/
structure Found where
  start : Nat
  characters : List Char
  deriving DecidableEq, Repr

/-- The sequences in the rest of a text, from left to right. `lengthAt` says how many characters
make up the sequence at the beginning of a text, and is zero if there is none. `start` counts the
characters that were passed already, and the next `skipped` ones belong to the sequence before. -/
def foundAfter (lengthAt : List Char → Nat) (start skipped : Nat) : List Char → List Found
  | [] => []
  | character :: rest =>
    match skipped with
    | left + 1 => foundAfter lengthAt (start + 1) left rest
    | 0 =>
      match lengthAt (character :: rest) with
      | 0 => foundAfter lengthAt (start + 1) 0 rest
      | left + 1 =>
        ⟨start, character :: rest.take left⟩ :: foundAfter lengthAt (start + 1) left rest

/-- The sequences in a text, none of which overlaps with the one before. -/
def found (lengthAt : List Char → Nat) (text : List Char) : List Found :=
  foundAfter lengthAt 0 0 text

/-- A text without as many characters as a sequence has, at the place where it was found. -/
def Found.cut (sequence : Found) (text : List Char) : List Char :=
  text.take sequence.start ++ text.drop (sequence.start + sequence.characters.length)

/-- A text without its sequences. The last one is cut out first, so that those before it are still
where they were found. -/
def erase (lengthAt : List Char → Nat) (text : List Char) : List Char :=
  (found lengthAt text).foldr Found.cut text

/-! ### Kinds of sequences -/

/-- How many characters make up the control sequence at the beginning of a text: an escape
character, an opening bracket, any number of parameters and a letter. -/
def controlLength (isParameter : Char → Bool) : List Char → Nat
  | first :: second :: rest =>
    if first == escape && second == '[' && (rest.dropWhile isParameter).head?.any Char.isAlpha then
      (rest.takeWhile isParameter).length + 3
    else 0
  | _ => 0

/-- The character that ends a command to the system. -/
def bell : Char := '\x07'

/-- How many characters make up the command to the system at the beginning of a text: an escape
character, a closing bracket, anything, and a bell. -/
def commandLength : List Char → Nat
  | first :: second :: rest =>
    if first == escape && second == ']' && rest.contains bell then
      (rest.takeWhile (· != bell)).length + 3
    else 0
  | _ => 0

/-- The mark that may come before a sequence, to say that no room is taken up from here on. -/
def openingMark : Char := '\x01'

/-- The mark that may come after a sequence, to say that room is taken up again. -/
def closingMark : Char := '\x02'

/-- How many characters make up a sequence, of which the length is given, together with the
closing mark, if it comes next. -/
def closedLength (length : Nat) (text : List Char) : Nat :=
  match length, (text.drop length).head? with
  | 0, _ => 0
  | length, some next => if next == closingMark then length + 1 else length
  | length, none => length

/-- How many characters make up the sequence at the beginning of a text together with its marks,
either of which may be missing. -/
def markedLength (lengthAt : List Char → Nat) : List Char → Nat
  | [] => 0
  | first :: rest =>
    if first == openingMark then
      match closedLength (lengthAt rest) rest with
      | 0 => 0
      | length => length + 1
    else closedLength (lengthAt (first :: rest)) (first :: rest)

/-! ### The title of the window -/

/-- The parameters of a command to the system, which stand between its bracket and its bell. -/
def commandParameters (command : List Char) : List Char :=
  ((command.dropWhile (· != ']')).drop 1).takeWhile (· != bell)

/-- The parameters that stand before the title in a command that sets it. -/
def titleSelectors : List String := ["", "0", "2", "02"]

/-- A command sets the title if its parameters are one of the selectors and a title, with the only
semicolon between them. -/
def isTitleCommand (command : List Char) : Bool :=
  let parameters := commandParameters command
  parameters.count ';' == 1 &&
    titleSelectors.contains (String.ofList (parameters.takeWhile (· != ';')))

/-- The commands to the system in a text. -/
def commands (text : List Char) : List Found :=
  found (markedLength commandLength) text

/-- A text asks for a title if one of its commands sets it. -/
def asksForTitle (text : String) : Bool :=
  (commands text.toList).any fun command => isTitleCommand command.characters

/-! ### Plain texts -/

/-- The parameters of control sequences in the output of programs. -/
def isOutputParameter (character : Char) : Bool :=
  character.isDigit || character == ';' || character == '?'

/-- The output of a program without its control sequences. -/
def plainOutput (text : String) : String :=
  String.ofList (erase (controlLength isOutputParameter) text.toList)

/-- The parameters of control sequences in a conversation, where digits of all scripts count. -/
def isConversationParameter (character : Char) : Bool :=
  (digitValue? character).isSome || character == ';'

/-- A text without its commands to the system. The first one is cut out first, and the others at
the places where they were found, although what is there has moved to the left by then. So it is
only the first one that is sure to vanish. -/
def withoutCommands (text : List Char) : List Char :=
  (commands text).foldl (fun rest command => command.cut rest) text

/-- A text of a conversation without its sequences, first the commands and then the control
sequences of what is left. -/
def plainConversation (text : String) : String :=
  String.ofList (erase (markedLength (controlLength isConversationParameter))
    (withoutCommands text.toList))

end Forth.Text
