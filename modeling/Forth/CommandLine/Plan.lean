/-
This file decides what an invocation of the program does. Settings come from
the arguments, and those that the arguments do not mention from variables of
the environment. If there are files or programs, they are run as a batch, and
otherwise a conversation begins. An invocation that is mistaken is refused.
-/

import Forth.CommandLine.Arguments
import Forth.CommandLine.Path
import Forth.Evaluator
import Forth.Text.Digit

namespace Forth.CommandLine

/-! ### Values of settings -/

/-- The spellings of yes. -/
def yesWords : List String := ["1", "true", "t", "yes", "y", "on"]

/-- The spellings of no. -/
def noWords : List String := ["0", "false", "f", "no", "n", "off"]

/-- The truth value that a text spells. -/
def readTruth? (text : String) : Option Bool :=
  let word := Text.smallLetters (Text.trim text)
  if yesWords.contains word then some true
  else if noWords.contains word then some false
  else none

/-- The limit on the number of frames, which has to be at least one. -/
def readLimit? (text : String) : Option Int :=
  (Text.readWhole? Number.digitLimit text).filter (1 ≤ ·)

/-! ### Sources -/

/-- Where the text of a program comes from. -/
inductive Source where
  | file (name : String)
  | input
  | argument (text : String)
  deriving DecidableEq, Repr

/-- The source that a file argument stands for. A dash stands for the standard input. -/
def Source.ofFile (name : String) : Source :=
  if name == "-" then .input else .file name

/-- The sources that are chosen: files first, and then programs. -/
def Choices.sources (choices : Choices) : List Source :=
  choices.files.map Source.ofFile ++ choices.programs.map Source.argument

/-- Why an invocation is given up before anything is run. -/
inductive Refusal where
  /-- The arguments or the variables are mistaken, or a file does not exist. -/
  | mistaken
  /-- A file can not be looked for under its name. -/
  | unusableName
  deriving DecidableEq, Repr

/-- A result, or else a mistake. -/
def orMistaken {α : Type} (result : Option α) : Except Refusal α :=
  result.elim (.error .mistaken) .ok

/-- The text of a file. -/
def readFile (files : List (String × String)) (name : String) : Except Refusal String :=
  if Path.isUsable name then orMistaken (Path.read? files name) else .error .unusableName

/-- The texts of the sources. The standard input can be read only once, and is empty after that.
Of several refusals the first one counts. -/
def gather (files : List (String × String)) (input : String) :
    List Source → Except Refusal (List String)
  | [] => .ok []
  | .argument text :: rest => (gather files input rest).map (text :: ·)
  | .input :: rest => (gather files "" rest).map (input :: ·)
  | .file name :: rest => do
    let text ← readFile files name
    let texts ← gather files input rest
    return text :: texts

/-! ### Plans -/

/-- What an invocation does. It is a batch if there are programs, and a conversation otherwise.
Each of the two has its own idea of whether the stack is shown when nothing is said about it. -/
structure Plan where
  programs : List String
  limit : Int
  showStack : Option Bool
  coloured : Bool
  verbose : Bool

/-- All that an invocation depends on. `inColour` says whether the output is a place where colours
can be seen. -/
structure Invocation where
  arguments : List String
  environment : List (String × String)
  files : List (String × String)
  input : String
  inColour : Bool

/-- The value of a variable. An empty one counts as unset. -/
def Invocation.value? (invocation : Invocation) (name : String) : Option String :=
  (invocation.environment.lookup name).filter fun value => !value.isEmpty

/-- A setting that is chosen by the arguments, or else given by a variable, or not at all. -/
def setting {α : Type} (read? : String → Option α) (choice : Option α) (given : Option String) :
    Except Refusal (Option α) :=
  match choice, given with
  | some value, _ => .ok (some value)
  | none, some text => (orMistaken (read? text)).map some
  | none, none => .ok none

/-- The plan of an invocation. A refusal because of the arguments comes before one because of the
files, and only then come the variables of settings that are not chosen by the arguments. -/
def Invocation.plan (invocation : Invocation) : Except Refusal Plan := do
  let choices ← orMistaken (readArguments .none invocation.arguments)
  let chosenLimit ← orMistaken (choices.limit.mapM readLimit?)
  let programs ← gather invocation.files invocation.input choices.sources
  let limit ← setting readLimit? chosenLimit (invocation.value? "FORTH_MAX_DEPTH")
  let showStack ← setting readTruth? choices.showStack (invocation.value? "FORTH_SHOW_STACK")
  let coloured ← setting readTruth? choices.colour (invocation.value? "FORTH_COLOR")
  return {
    programs := programs
    limit := limit.getD defaultLimit
    showStack := showStack
    coloured := coloured.getD true
    verbose := choices.verbose }

end Forth.CommandLine
