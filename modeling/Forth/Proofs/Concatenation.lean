/-
This file says how a text is read that is put together from two texts with a gap
between them. If the first one is a program, the parser finds the end of its last
statement where it would find it in the first text alone, whatever follows. From
there on it reads the second text as it would read it alone, to the end or to the
same failure.

So a program can be cut between any two statements and read piece by piece.
-/

import Forth.Proofs.Layout
import Forth.Proofs.Reading

namespace Forth.Syntax

open Forth.Parser (Failure)

/-! ### Statements in front of words -/

/-- Statements in front of words are read before what is read of the words. -/
theorem Exhausted.append {words : List Word} {repetition : Parser.Repetition} (program : Program)
    (exhausted : Exhausted words repetition) :
    Exhausted (program.words ++ words)
      { repetition with members := program.tokens.map .token ++ repetition.members } := by
  induction program with
  | nil => exact exhausted
  | cons statement rest inductionHypothesis =>
    rw [Program.words_cons, List.append_assoc, Program.tokens, List.map_cons, List.cons_append]
    exact inductionHypothesis.cons statement

/-- What follows statements has no influence on how they are read, and they have none on how it is
read. -/
theorem readStatements_words_append (program : Program) (words : List Word) :
    readStatements (program.words ++ words) =
      { readStatements words with
        members := program.tokens.map .token ++ (readStatements words).members } :=
  (readStatements_exhausted _).unique ((readStatements_exhausted words).append program)

theorem parseWords_words_append (program : Program) (words : List Word) :
    parseWords (program.words ++ words) = (parseWords words).map (program.tokens ++ ·) := by
  unfold parseWords
  rw [readStatements_words_append]
  unfold tokensOfReading
  cases complete : (readStatements words).remainder.isEmpty with
  | false => rfl
  | true =>
    have tokens : (program.tokens.map Parser.Match.token).filterMap Parser.Match.token? =
        program.tokens := tokens_map_token program.tokens
    simp only [if_true, List.filterMap_append, tokens, Except.map]

/-! ### A program and another text -/

/-- After a program and a gap, any text is read as it is read alone. The whole is a program exactly
if the other text is one, with the tokens of both in turn, and it is refused exactly if the other
text is refused, with the same failure. -/
theorem parse_append_gap {first gap : String} {tokens : List Token}
    (parsed : parse first = .ok tokens) (blank : gap.toList.all Text.isBlank = true)
    (nonempty : gap.toList ≠ []) (second : String) :
    (∀ whole, parse (first ++ gap ++ second) = .ok whole ↔
      ∃ rest, parse second = .ok rest ∧ whole = tokens ++ rest) ∧
    (∀ failure, parse (first ++ gap ++ second) = .error failure ↔
      parse second = .error failure) := by
  obtain ⟨program, words, rfl⟩ := parseWords_eq_ok_iff.1 parsed
  have whole : parse (first ++ gap ++ second) = (parse second).map (program.tokens ++ ·) := by
    rw [parse, Text.words_append_gap blank nonempty, ← words, parseWords_words_append]
    rfl
  rw [whole]
  cases parse second with
  | ok rest => simp [Except.map, eq_comm]
  | error failure => simp [Except.map]

/-- A definition and two texts after it: one that is a program, and one that is refused because its
own definition has nothing in its body. -/
theorem parse_append_gap_definition :
    parse ": double 2 * ;" = .ok [.store "double" [.push (.int 2), .operation .multiply []]] ∧
    parse (": double 2 * ;" ++ "\n\t" ++ "-3 double") =
      .ok [.store "double" [.push (.int 2), .operation .multiply []], .push (.int (-3)),
        .search "double"] ∧
    parse (": double 2 * ;" ++ "\n\t" ++ "double : g ;") = .error .emptyBody := by
  let double : Name := ⟨"double", by decide⟩
  let call : Statement := .atom (.reference ⟨double, free_of_operation? (by decide)⟩)
  have first : parse ": double 2 * ;" =
      .ok [.store "double" [.push (.int 2), .operation .multiply []]] :=
    parseWords_words [.definition double (.atom (.number ⟨.absent, [2], by decide, by decide⟩))
      [.atom (.operation ⟨"*", .multiply, by decide⟩)]]
  have program : parse "-3 double" = .ok [.push (.int (-3)), .search "double"] :=
    parseWords_words [.atom (.number ⟨.minus, [3], by decide, by decide⟩), call]
  have refused : parse "double : g ;" = .error .emptyBody := by
    have reason : Refused [closingWord] (.unrecognized closingWord) :=
      .unrecognized closingWord [] atomToken?_closingWord (by decide)
    exact parseWords_append_of_refused [call] (.unclosed ⟨"g", by decide⟩ [] _ _ reason nofun)
      (List.cons_ne_nil _ _)
  have blank : "\n\t".toList.all Text.isBlank = true := by decide
  have nonempty : "\n\t".toList ≠ [] := by decide
  obtain ⟨reads, -⟩ := parse_append_gap first blank nonempty "-3 double"
  obtain ⟨-, refuses⟩ := parse_append_gap first blank nonempty "double : g ;"
  exact ⟨first, (reads _).2 ⟨_, program, rfl⟩, (refuses _).2 refused⟩

end Forth.Syntax
