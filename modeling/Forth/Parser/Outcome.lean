/-
This file defines what a parser can answer. It reads words from the front of a
list. If it matches, it gives what it made of the words and the words that are
left; if it does not, it gives a failure that names the offending word, or none
when the words ended too early. A parser that is not fully defined has neither
answer, and says so with a fault.
-/

import Forth.Token
import Forth.Diagnostic

namespace Forth

/-- A word of a program, as it stands between blanks. -/
abbrev Word := String

namespace Parser

/-! ### Matches -/

/-- What a parser makes of the words it reads. -/
inductive Match where
  | nothing
  | text (text : String)
  | number (value : Int)
  | token (token : Token)
  | list (members : List Match)

namespace Match

/-- A match that a sequence leaves out: nothing, or an empty list. -/
def isEmpty : Match → Bool
  | .nothing => true
  | .list [] => true
  | _ => false

/-- The token that a match consists of. -/
def token? : Match → Option Token
  | .token found => some found
  | _ => none

/-- The tokens among the members of a match. -/
def tokens : Match → List Token
  | .list members => members.filterMap token?
  | _ => []

mutual

/-- Whether two matches are of one form and hold the same values. -/
def same : Match → Match → Bool
  | .nothing, .nothing => true
  | .text left, .text right => left == right
  | .number left, .number right => left == right
  | .token left, .token right => left.same right
  | .list lefts, .list rights => sameMembers lefts rights
  | _, _ => false

/-- Whether two lists of matches are of one length and have the same members. -/
def sameMembers : List Match → List Match → Bool
  | [], [] => true
  | left :: lefts, right :: rights => left.same right && sameMembers lefts rights
  | _, _ => false

end

end Match

/-! ### Failures -/

/-- Why words do not match. -/
inductive Failure where
  /-- The words ended where something else was expected. -/
  | ended (expected : String)
  /-- A word stands where something else was expected. -/
  | unexpected (expected : String) (found : Word)
  /-- A word that can not begin any statement. -/
  | unrecognized (found : Word)
  /-- A word that can not be the name of a definition. -/
  | invalidName (found : Word)
  /-- A definition is closed before its body has begun. -/
  | emptyBody
  /-- The repeated parser matches without reading a word, so repeating it leads nowhere. -/
  | noProgress (next : Option Word)
  deriving DecidableEq, Repr

namespace Failure

/-- The word that closes a definition. -/
def closingWord : Word := ";"

/-- The offending word. There is none when the words have ended. -/
def word? : Failure → Option Word
  | .ended _ => none
  | .unexpected _ found => some found
  | .unrecognized found => some found
  | .invalidName found => some found
  | .emptyBody => some closingWord
  | .noProgress next => next

/-- The words that explain a failure. -/
def message : Failure → String
  | .ended expected => "Unexpected end of input, expected " ++ expected ++ "."
  | .unexpected expected found => "Expected " ++ expected ++ " but found '" ++ found ++ "'."
  | .unrecognized found => "Unrecognized word '" ++ found ++ "'."
  | .invalidName found => "Invalid word name '" ++ found ++ "'."
  | .emptyBody => "Definition body can not be empty."
  | .noProgress _ => "no progress"

/-- A failure without an offending word can still turn into a match when more words follow. -/
def isIncomplete (failure : Failure) : Bool :=
  failure.word?.isNone

/-- A failure as it is told to the user. -/
def diagnostic (failure : Failure) : Diagnostic :=
  ⟨if failure.isIncomplete then .incomplete else .unreadable, failure.message, failure.word?⟩

end Failure

/-! ### Faults -/

/-- Why a parser has no answer. -/
inductive Fault where
  /-- It refers to a rule that has no definition. -/
  | undefinedRule (label : String)
  /-- It is a stand-in that does not say what it matches. -/
  | undescribed
  /-- Its rules call each other for ever without reading a word. -/
  | endless
  deriving DecidableEq, Repr

/-! ### Outcomes -/

/-- What comes of applying a parser to a list of words. -/
inductive Outcome where
  | success (matched : Match) (remainder : List Word)
  | failure (failure : Failure)
  | fault (fault : Fault)

namespace Outcome

/-- An outcome with another match, if it is a success. -/
def mapMatch (transform : Match → Match) : Outcome → Outcome
  | .success matched remainder => .success (transform matched) remainder
  | outcome => outcome

/-- An outcome with another failure, if it is a failure. -/
def mapFailure (explain : Failure → Failure) : Outcome → Outcome
  | .failure reason => .failure (explain reason)
  | outcome => outcome

/-- Whether the words matched. -/
def isSuccess : Outcome → Bool
  | .success _ _ => true
  | _ => false

/-- Whether two outcomes agree: both matched the same and left the same words, or both failed
alike. -/
def same : Outcome → Outcome → Bool
  | .success left leftRest, .success right rightRest => left.same right && leftRest == rightRest
  | .failure left, .failure right => left == right
  | .fault left, .fault right => left == right
  | _, _ => false

end Outcome

end Parser

end Forth
