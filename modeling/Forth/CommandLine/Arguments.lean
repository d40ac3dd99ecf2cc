/-
This file reads the arguments of the command line. Options and files may come
in any order. A long option has its value after an equals sign or in the next
argument. Short options may be joined into one argument, in which the first one
with a value takes what is left as its value, or the next argument if nothing
is left. Whatever follows a double dash is a file.
-/

namespace Forth.CommandLine

/-- What the arguments ask for, as they are typed. Of settings that are given several times the
last one counts, and files and programs add up. -/
structure Choices where
  files : List String
  programs : List String
  limit : Option String
  showStack : Option Bool
  colour : Option Bool
  verbose : Bool

namespace Choices

/-- No arguments at all. -/
def none : Choices :=
  ⟨[], [], .none, .none, .none, false⟩

/-- Adds a file. -/
def addFile (choices : Choices) (file : String) : Choices :=
  { choices with files := choices.files ++ [file] }

/-- Adds a program. -/
def addProgram (program : String) (choices : Choices) : Choices :=
  { choices with programs := choices.programs ++ [program] }

/-- Sets the limit on the number of frames. -/
def setLimit (text : String) (choices : Choices) : Choices :=
  { choices with limit := some text }

/-- Sets whether the final stack is shown. -/
def setShowStack (shown : Bool) (choices : Choices) : Choices :=
  { choices with showStack := some shown }

/-- Sets whether the output is coloured. -/
def setColour (coloured : Bool) (choices : Choices) : Choices :=
  { choices with colour := some coloured }

/-- Asks for the log. -/
def setVerbose (choices : Choices) : Choices :=
  { choices with verbose := true }

end Choices

/-! ### Options -/

/-- What an option does to the choices, with or without a value. -/
inductive Action where
  | flag (apply : Choices → Choices)
  | valued (apply : String → Choices → Choices)

/-- The long options. -/
def longOptions : List (String × Action) :=
  [("--execute", .valued Choices.addProgram),
    ("--max-depth", .valued Choices.setLimit),
    ("--show-stack", .flag (Choices.setShowStack true)),
    ("--hide-stack", .flag (Choices.setShowStack false)),
    ("--color", .flag (Choices.setColour true)),
    ("--no-color", .flag (Choices.setColour false)),
    ("--verbose", .flag Choices.setVerbose)]

/-- The short options. -/
def shortOptions : List (Char × Action) :=
  [('e', .valued Choices.addProgram), ('v', .flag Choices.setVerbose)]

/-- What an argument leads to: new choices, choices that wait for a value in the next argument, or
a mistake. -/
inductive Reading where
  | done (choices : Choices)
  | waiting (apply : String → Choices)
  | mistaken

/-- Reads a long option, which may have a value attached to it. -/
def readLong (choices : Choices) (name : String) (attached : Option String) : Reading :=
  match longOptions.lookup name, attached with
  | some (.flag apply), none => .done (apply choices)
  | some (.valued apply), some value => .done (apply value choices)
  | some (.valued apply), none => .waiting fun value => apply value choices
  | _, _ => .mistaken

/-- Reads short options that are joined into one argument. -/
def readShort (choices : Choices) : List Char → Reading
  | [] => .done choices
  | letter :: rest =>
    match shortOptions.lookup letter with
    | some (.flag apply) => readShort (apply choices) rest
    | some (.valued apply) =>
      if rest.isEmpty then .waiting fun value => apply value choices
      else .done (apply (String.ofList rest) choices)
    | none => .mistaken

/-- The text before the first equals sign, and the text after it, if there is one. -/
def splitAtEquals (argument : List Char) : String × Option String :=
  let name := String.ofList (argument.takeWhile (· != '='))
  match argument.dropWhile (· != '=') with
  | _ :: value => (name, some (String.ofList value))
  | [] => (name, none)

/-- Reads one argument, which is not a double dash. A single dash is a file. -/
def readArgument (choices : Choices) (argument : String) : Reading :=
  match argument.toList with
  | '-' :: '-' :: rest =>
    let (name, attached) := splitAtEquals ('-' :: '-' :: rest)
    readLong choices name attached
  | '-' :: letter :: rest => readShort choices (letter :: rest)
  | _ => .done (choices.addFile argument)

/-- Reads all arguments. There is no result if one of them is mistaken or lacks its value. -/
def readArguments (choices : Choices) : List String → Option Choices
  | [] => some choices
  | argument :: rest =>
    if argument == "--" then some (rest.foldl Choices.addFile choices)
    else
      match readArgument choices argument, rest with
      | .done choices, rest => readArguments choices rest
      | .waiting apply, value :: rest => readArguments (apply value) rest
      | .waiting _, [] => none
      | .mistaken, _ => none

end Forth.CommandLine
