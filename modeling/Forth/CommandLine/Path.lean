/-
This file says which paths lead to the same file. A path is a text in which
slashes separate the names on the way to a file.
-/

namespace Forth.CommandLine

/-- The names on the way to a file. The way begins at the root of all files or in the current
directory. -/
structure Path where
  fromRoot : Bool
  names : List String
  deriving DecidableEq, Repr

namespace Path

/-- The names that lead nowhere. What has such a name is the directory that it is in. -/
def isStep (name : String) : Bool :=
  !(name.isEmpty || name == ".")

/-- The path that a text spells. There is none if it ends with a name that leads nowhere, because
then it is at best the path of a directory. -/
def ofText? (text : String) : Option Path :=
  let names := text.splitOn "/"
  if names.getLast?.any isStep then some ⟨names.head? == some "", names.filter isStep⟩ else none

/-- A text with a null character can not be used as a path at all. -/
def isUsable (text : String) : Bool :=
  !text.toList.contains '\x00'

/-- The path of the file that is on every system and always empty. -/
def null : Path :=
  ⟨true, ["dev", "null"]⟩

/-- The content of the file that a text leads to, if there is one. Files are given by texts that
lead to them, with their contents. -/
def read? (files : List (String × String)) (text : String) : Option String := do
  let path ← ofText? text
  if path = null then return ""
  let file ← files.find? fun file => ofText? file.1 == some path
  return file.2

end Path

end Forth.CommandLine
