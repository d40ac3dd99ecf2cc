/-
This file classifies the letters and digits that spell numbers, names and
operations. Numbers and names are ASCII; operations may be written in small
letters, and Unicode has one small letter beyond ASCII whose capital they use.
-/

namespace Forth.Text

/-- An ASCII decimal digit. -/
def isDigit (character : Char) : Bool :=
  '0' ≤ character && character ≤ '9'

/-- An ASCII letter. -/
def isLetter (character : Char) : Bool :=
  ('a' ≤ character && character ≤ 'z') || ('A' ≤ character && character ≤ 'Z')

/-- A name begins with an ASCII letter or an underscore. -/
def isNameStart (character : Char) : Bool :=
  isLetter character || character == '_'

/-- After its first character a name may hold digits as well. -/
def isNamePart (character : Char) : Bool :=
  isNameStart character || isDigit character

/-- The capital of a letter, for the letters that spell operations: the ASCII letters, and the
long s, whose capital is an ordinary S. Every other character stands for itself, which is enough
because the capital of no other character is a part of a word for an operation. -/
def capital (character : Char) : Char :=
  if character == 'ſ' then 'S' else character.toUpper

/-- A word in capitals. -/
def capitals (word : String) : String :=
  String.ofList (word.toList.map capital)

/-- A word in small letters, for comparison with words that are spelled in ASCII. -/
def smallLetters (word : String) : String :=
  String.ofList (word.toList.map Char.toLower)

end Forth.Text
