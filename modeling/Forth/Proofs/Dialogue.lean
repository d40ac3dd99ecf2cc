/-
This file follows a conversation part by part. What is said after some inputs
depends only on the state that they lead to, and in front of a new program this
state holds nothing of the programs before.

A program may be divided into lines wherever its words end. While the lines that
were read ask for more, nothing is printed, and the next line is added to them
whatever it says: a line with a colon is never a command, and after it only an
interruption keeps a line from being a part of the program. In the end the
program does what it does on a single line.
-/

import Forth.Conversation
import Forth.Proofs.Completion
import Forth.Proofs.Layout
import Forth.Proofs.Safety
import Mathlib.Data.List.Induction

namespace Forth

open Syntax (openingWord)

/-! ### Texts that ask for more -/

/-- Whether the parser asks to continue a text. -/
def AsksForMore (text : String) : Prop :=
  ∃ failure, parse text = .error failure ∧ failure.isIncomplete = true

theorem parse_congr {left right : String} (same : Text.words left = Text.words right) :
    parse left = parse right := by
  rw [parse, parse, same]

/-- The parser asks only to continue definitions. -/
theorem AsksForMore.openingWord_mem {text : String} (asks : AsksForMore text) :
    openingWord ∈ Text.words text := by
  obtain ⟨failure, refused, incomplete⟩ := asks
  obtain ⟨before, opened, split⟩ := Syntax.exists_open_of_incomplete refused incomplete
  obtain ⟨rest, opening⟩ := opened.exists_words
  rw [split, opening]
  exact List.mem_append_right _ List.mem_cons_self

namespace Conversation

variable {settings : Settings}

/-! ### Submitting a program -/

theorem submit_of_asksForMore (settings : Settings) {text : String} (asks : AsksForMore text) :
    ∃ record, submit settings text = ⟨[.logged record], .waiting (.continuing text)⟩ := by
  obtain ⟨failure, refused, incomplete⟩ := asks
  refine ⟨recordOfReading text, ?_⟩
  simp only [submit, runWithLog_of_parse_eq_error refused, incomplete, if_true]
  rfl

/-- Of a text that is complete, nothing but its words matters. -/
theorem submit_congr {left right : String} (same : Text.words left = Text.words right)
    (complete : ¬ AsksForMore right) : submit settings left = submit settings right := by
  have record : recordOfReading left = recordOfReading right := by
    rw [recordOfReading, recordOfReading, same]
  have alike : parse left = parse right := parse_congr same
  cases outcome : parse right with
  | error failure =>
    have final : ¬ failure.isIncomplete = true := fun incomplete =>
      complete ⟨failure, outcome, incomplete⟩
    simp only [submit, runWithLog_of_parse_eq_error outcome,
      runWithLog_of_parse_eq_error (alike.trans outcome), record, if_neg final]
  | ok tokens =>
    simp only [submit, runWithLog_of_parse_eq_ok outcome,
      runWithLog_of_parse_eq_ok (alike.trans outcome), record]
    -- The report keeps the text of the program, which is not shown.
    rfl

/-- A line with a character that stands in no command is neither a command nor blank. -/
theorem no_command_of_mem {line : String} {character : Char} (member : character ∈ line.toList)
    (notBlank : Text.isBlank character = false) (small : character.toLower = character)
    (foreign : ∀ command ∈ exitWords ++ helpWords, character ∉ command.toList) :
    let word := Text.smallLetters (Text.trim line)
    ¬ exitWords.contains word = true ∧ ¬ helpWords.contains word = true ∧
      ¬ word.isEmpty = true := by
  intro word
  have within : character ∈ word.toList := by
    show character ∈ (Text.smallLetters (Text.trim line)).toList
    rw [Text.smallLetters, String.toList_ofList]
    exact List.mem_map.2 ⟨character, Text.mem_toList_trim member notBlank, small⟩
  refine ⟨fun exit => ?_, fun help => ?_, fun empty => ?_⟩
  · exact foreign word (List.mem_append_left _ (List.contains_iff_mem.1 exit)) within
  · exact foreign word (List.mem_append_right _ (List.contains_iff_mem.1 help)) within
  · rw [String.isEmpty_iff.1 empty] at within
    cases within

/-- A line that opens a definition begins a program, because no command has a colon. -/
theorem react_ready_of_openingWord_mem {line : String} (member : openingWord ∈ Text.words line) :
    react settings .ready (.line line) = submit settings line := by
  have colon : ':' ∈ line.toList := Text.mem_toList_of_mem_words member (List.mem_singleton.2 rfl)
  obtain ⟨noExit, noHelp, notBlank⟩ :=
    no_command_of_mem colon (by decide) (by decide) (by decide)
  simp only [react, if_neg noExit, if_neg noHelp, if_neg notBlank]

/-! ### Part by part -/

/-- What is observed while inputs are read, and what follows on the last of them. Reading stops when
the conversation does. -/
def respond (settings : Settings) (state : State) : List Input → Reaction
  | [] => ⟨[], .waiting state⟩
  | input :: rest =>
    let reaction := react settings state input
    let events := .asked state.prompt :: reaction.events
    match reaction.next with
    | .waiting next =>
      let others := respond settings next rest
      ⟨events ++ others.events, others.next⟩
    | next => ⟨events, next⟩

/-- The conversation from a reaction on. -/
def follow (settings : Settings) (reaction : Reaction) (rest : List Input) : Transcript :=
  match reaction.next with
  | .waiting state => (converseFrom settings state rest).after reaction.events
  | .leaving => ⟨reaction.events ++ [farewell], none, rest⟩
  | .broken breakdown => ⟨reaction.events, some breakdown, rest⟩

theorem Transcript.after_after (first second : List Event) (transcript : Transcript) :
    (transcript.after second).after first = transcript.after (first ++ second) := by
  simp only [after, List.append_assoc]

theorem converseFrom_cons (state : State) (input : Input) (rest : List Input) :
    converseFrom settings state (input :: rest) =
      (follow settings (react settings state input) rest).after [.asked state.prompt] := by
  rw [converseFrom, follow]
  cases (react settings state input).next with
  | waiting next =>
    simp only
    rw [Transcript.after_after]
    rfl
  | leaving | broken breakdown => rfl

/-- Inputs that lead to a state do so one after another. -/
theorem exists_of_respond_cons {state next : State} {input : Input} {rest : List Input}
    {events : List Event} (led : respond settings state (input :: rest) = ⟨events, .waiting next⟩) :
    ∃ middle later, (react settings state input).next = .waiting middle ∧
      respond settings middle rest = ⟨later, .waiting next⟩ ∧
      events = .asked state.prompt :: (react settings state input).events ++ later := by
  rw [respond] at led
  cases reaction : (react settings state input).next with
  | waiting middle =>
    rw [reaction] at led
    obtain ⟨rfl, waiting⟩ := Reaction.mk.inj led
    exact ⟨middle, _, rfl, by rw [← waiting], rfl⟩
  | leaving | broken breakdown =>
    rw [reaction] at led
    cases led

/-- After inputs the conversation goes on from the state that they lead to. -/
theorem converseFrom_append {state next : State} {first : List Input} {events : List Event}
    (led : respond settings state first = ⟨events, .waiting next⟩) (second : List Input) :
    converseFrom settings state (first ++ second) =
      (converseFrom settings next second).after events := by
  induction first generalizing state events with
  | nil =>
    cases led
    rfl
  | cons input rest inductionHypothesis =>
    obtain ⟨middle, later, reaction, ledLater, rfl⟩ := exists_of_respond_cons led
    rw [List.cons_append, converseFrom_cons, follow, reaction]
    simp only
    rw [inductionHypothesis ledLater, Transcript.after_after, Transcript.after_after]
    rfl

theorem respond_append {state next : State} {first : List Input} {events : List Event}
    (led : respond settings state first = ⟨events, .waiting next⟩) (second : List Input) :
    respond settings state (first ++ second) =
      ⟨events ++ (respond settings next second).events,
        (respond settings next second).next⟩ := by
  induction first generalizing state events with
  | nil =>
    cases led
    rfl
  | cons input rest inductionHypothesis =>
    obtain ⟨middle, later, reaction, ledLater, rfl⟩ := exists_of_respond_cons led
    rw [List.cons_append, respond, reaction]
    simp only
    rw [inductionHypothesis ledLater, List.append_assoc]

theorem respond_singleton (state : State) (input : Input) :
    respond settings state [input] =
      ⟨.asked state.prompt :: (react settings state input).events,
        (react settings state input).next⟩ := by
  simp only [respond]
  cases (react settings state input).next with
  | waiting next => simp only [List.append_nil]
  | leaving | broken breakdown => rfl

/-! ### Programs of several lines -/

/-- Whether an event prints nothing. Prompts and records for the log are not printed. -/
def isSilent : Event → Bool
  | .asked _ | .logged _ => true
  | .printed _ | .complained _ => false

/-- Whether nothing is printed. -/
def Quiet (events : List Event) : Prop :=
  ∀ event ∈ events, isSilent event = true

theorem Quiet.append {first second : List Event} (quiet : Quiet first) (quietToo : Quiet second) :
    Quiet (first ++ second) :=
  List.forall_mem_append.2 ⟨quiet, quietToo⟩

theorem quiet_asked (records : List LogRecord) (prompt : Prompt) :
    Quiet (.asked prompt :: records.map .logged) := by
  refine List.forall_mem_cons.2 ⟨rfl, fun event member => ?_⟩
  obtain ⟨record, -, rfl⟩ := List.mem_map.1 member
  rfl

/-- Lines as one text. -/
def lineBroken (lines : List String) : String :=
  "\n".intercalate lines

/-- Lines as one line. -/
def joined (lines : List String) : String :=
  " ".intercalate lines

theorem words_lineBroken (lines : List String) :
    Text.words (lineBroken lines) = Text.words (joined lines) := by
  rw [lineBroken, joined, Text.words_intercalate (by decide) (by decide),
    Text.words_intercalate (by decide) (by decide)]

theorem lineBroken_concat {lines : List String} (nonempty : lines ≠ []) (last : String) :
    lineBroken (lines ++ [last]) = lineBroken lines ++ "\n" ++ last := by
  rw [lineBroken, String.intercalate_append_of_ne_nil nonempty (List.cons_ne_nil _ _),
    String.intercalate_singleton]
  rfl

/-- Whether the parser asks for more after each line. -/
def AsksThroughout (lines : List String) : Prop :=
  ∀ front, front <+: lines → front ≠ [] → AsksForMore (lineBroken front)

theorem AsksThroughout.of_isPrefix {front lines : List String} (asks : AsksThroughout lines)
    (begins : front <+: lines) : AsksThroughout front :=
  fun _ earlier => asks _ (earlier.trans begins)

theorem asksThroughout_nil : AsksThroughout [] :=
  fun _ begins nonempty => absurd (List.prefix_nil.1 begins) nonempty

theorem AsksThroughout.concat {lines : List String} {last : String} (asks : AsksThroughout lines)
    (asksLast : AsksForMore (lineBroken (lines ++ [last]))) : AsksThroughout (lines ++ [last]) := by
  intro front begins nonempty
  obtain rfl | earlier := List.prefix_concat_iff.1 begins
  · exact asksLast
  · exact asks front earlier nonempty

/-- While the parser asks for more, the lines are kept and nothing is printed. -/
theorem exists_respond_of_asksThroughout (settings : Settings) {lines : List String}
    (nonempty : lines ≠ []) (asks : AsksThroughout lines) :
    ∃ events, Quiet events ∧ respond settings .ready (lines.map .line) =
      ⟨events, .waiting (.continuing (lineBroken lines))⟩ := by
  induction lines using List.reverseRecOn with
  | nil => exact absurd rfl nonempty
  | append_singleton earlier last inductionHypothesis =>
    have asksLast : AsksForMore (lineBroken (earlier ++ [last])) :=
      asks _ (List.prefix_refl _) nonempty
    obtain ⟨record, submitted⟩ := submit_of_asksForMore settings asksLast
    by_cases first : earlier = []
    · subst first
      have line : lineBroken ([] ++ [last]) = last := String.intercalate_singleton
      rw [line] at asksLast submitted
      refine ⟨[.asked .program, .logged record], quiet_asked [record] _, ?_⟩
      rw [line, List.nil_append, List.map_singleton, respond_singleton,
        react_ready_of_openingWord_mem asksLast.openingWord_mem, submitted]
      rfl
    · obtain ⟨events, quiet, led⟩ :=
        inductionHypothesis first (asks.of_isPrefix (List.prefix_append _ _))
      rw [lineBroken_concat first] at submitted
      refine ⟨events ++ [.asked .continuation, .logged record],
        quiet.append (quiet_asked [record] _), ?_⟩
      rw [List.map_append, respond_append led, List.map_singleton, respond_singleton, react,
        submitted, lineBroken_concat first]
      rfl

/-- A program that is complete with its last line is submitted with it, and not earlier. -/
theorem exists_respond_concat (settings : Settings) {earlier : List String} (last : String)
    (nonempty : earlier ≠ []) (asks : AsksThroughout earlier) :
    ∃ events, Quiet events ∧ respond settings .ready ((earlier ++ [last]).map .line) =
      ⟨events ++ (submit settings (lineBroken (earlier ++ [last]))).events,
        (submit settings (lineBroken (earlier ++ [last]))).next⟩ := by
  obtain ⟨events, quiet, led⟩ := exists_respond_of_asksThroughout settings nonempty asks
  refine ⟨events ++ [.asked .continuation], quiet.append (quiet_asked [] _), ?_⟩
  rw [List.map_append, respond_append led, List.map_singleton, respond_singleton, react,
    lineBroken_concat nonempty, List.append_assoc]
  rfl

/-- A program does on several lines what it does on one. -/
theorem exists_converseFrom_joined (settings : Settings) {earlier : List String} (last : String)
    (asks : AsksThroughout earlier) (complete : ¬ AsksForMore (lineBroken (earlier ++ [last])))
    (rest : List Input) :
    ∃ (events : List Event) (answer : Transcript), Quiet events ∧
      converseFrom settings .ready ((earlier ++ [last]).map .line ++ rest) =
        answer.after events ∧
      converseFrom settings .ready (.line (joined (earlier ++ [last])) :: rest) =
        answer.after [.asked .program] := by
  by_cases single : earlier = []
  · subst single
    have line : joined ([] ++ [last]) = last := String.intercalate_singleton
    rw [line]
    exact ⟨_, _, quiet_asked [] _, converseFrom_cons _ _ _, converseFrom_cons _ _ _⟩
  · have words := words_lineBroken (earlier ++ [last])
    obtain ⟨events, quiet, led⟩ := exists_respond_of_asksThroughout settings single asks
    have opening : openingWord ∈ Text.words (joined (earlier ++ [last])) := by
      rw [← words, lineBroken_concat single, Text.words_append_line]
      exact List.mem_append_left _ (asks _ (List.prefix_refl _) single).openingWord_mem
    have alike : submit settings (lineBroken (earlier ++ [last])) =
        submit settings (joined (earlier ++ [last])) := by
      refine submit_congr words fun asksJoined => complete ?_
      rw [AsksForMore, parse_congr words]
      exact asksJoined
    refine ⟨events ++ [.asked .continuation],
      follow settings (submit settings (joined (earlier ++ [last]))) rest,
      quiet.append (quiet_asked [] _), ?_, ?_⟩
    · rw [List.map_append, List.append_assoc, converseFrom_append led, List.map_singleton,
        List.singleton_append, converseFrom_cons, react, ← lineBroken_concat single, alike,
        Transcript.after_after]
      rfl
    · rw [converseFrom_cons, react_ready_of_openingWord_mem opening]
      rfl

/-- A program depends neither on what came before it nor on where its lines end. In the first part,
inputs have led back to the prompt for a program, and what follows is as in a conversation that
begins there. In the second part, the parser asks for more after each line but the last. Then each
of them is kept as a part of the program, in silence, the last line submits all of them together,
and the rest of the conversation is as if they had been given on a single line. -/
theorem converse_independent (settings : Settings) :
    (∀ (first second : List Input) (shown : List Event),
      respond settings .ready first = ⟨shown, .waiting .ready⟩ →
      ∃ later : Transcript, converse settings second = later.after welcome ∧
        converse settings (first ++ second) = later.after (welcome ++ shown)) ∧
    ∀ (earlier : List String) (last : String), AsksThroughout earlier →
      ¬ AsksForMore (lineBroken (earlier ++ [last])) →
      (∀ front, front <+: earlier → front ≠ [] → ∃ events, Quiet events ∧
        respond settings .ready (front.map .line) =
          ⟨events, .waiting (.continuing (lineBroken front))⟩) ∧
      (earlier ≠ [] → ∃ events, Quiet events ∧
        respond settings .ready ((earlier ++ [last]).map .line) =
          ⟨events ++ (submit settings (lineBroken (earlier ++ [last]))).events,
            (submit settings (lineBroken (earlier ++ [last]))).next⟩) ∧
      ∀ (before rest : List Input) (shown : List Event),
        respond settings .ready before = ⟨shown, .waiting .ready⟩ →
        ∃ (events : List Event) (answer : Transcript), Quiet events ∧
          converse settings (before ++ ((earlier ++ [last]).map .line ++ rest)) =
            answer.after (welcome ++ shown ++ events) ∧
          converse settings (before ++ (.line (joined (earlier ++ [last])) :: rest)) =
            answer.after (welcome ++ shown ++ [.asked .program]) := by
  refine ⟨fun first second shown led => ?_, fun earlier last asks complete => ⟨?_, ?_, ?_⟩⟩
  · refine ⟨converseFrom settings .ready second, rfl, ?_⟩
    rw [converse, converseFrom_append led, Transcript.after_after]
  · intro front begins nonempty
    exact exists_respond_of_asksThroughout settings nonempty (asks.of_isPrefix begins)
  · intro nonempty
    exact exists_respond_concat settings last nonempty asks
  · intro before rest shown led
    obtain ⟨events, answer, quiet, broken, single⟩ :=
      exists_converseFrom_joined settings last asks complete rest
    refine ⟨events, answer, quiet, ?_, ?_⟩
    · rw [converse, converseFrom_append led, broken, Transcript.after_after,
        Transcript.after_after]
    · rw [converse, converseFrom_append led, single, Transcript.after_after,
        Transcript.after_after]

/-- A definition whose second line would end the conversation if it stood by itself. -/
theorem converse_independent_exit_word :
    AsksThroughout [": f", "bye"] ∧ ∃ events, Quiet events ∧
      respond ⟨defaultLimit, true⟩ .ready [.line ": f", .line "bye"] =
        ⟨events, .waiting (.continuing ": f\nbye")⟩ := by
  let name : Syntax.Name := ⟨"f", by decide⟩
  let body : Syntax.Statement := .atom (.reference ⟨⟨"bye", by decide⟩, by rintro ⟨⟩ <;> decide⟩)
  have opens : Text.words (lineBroken [": f"]) =
      Syntax.Program.words [] ++ (Syntax.OpenDefinition.inBody name []).words := rfl
  have goesOn : Text.words (lineBroken [": f", "bye"]) =
      Syntax.Program.words [] ++ (Syntax.OpenDefinition.inBody name [body]).words := rfl
  have closes : Text.words (lineBroken [": f", "bye", ";"]) =
      Syntax.Program.words [.definition name body []] := rfl
  have asks : AsksThroughout [": f", "bye"] :=
    (asksThroughout_nil.concat ⟨_, Syntax.parse_of_open opens, rfl⟩).concat
      ⟨_, Syntax.parse_of_open goesOn, rfl⟩
  have complete : ¬ AsksForMore (lineBroken [": f", "bye", ";"]) := by
    rintro ⟨failure, refused, -⟩
    rw [parse, closes, Syntax.parseWords_words] at refused
    cases refused
  obtain ⟨-, independent⟩ := converse_independent ⟨defaultLimit, true⟩
  obtain ⟨kept, -⟩ := independent [": f", "bye"] ";" asks complete
  exact ⟨asks, kept _ (List.prefix_refl _) (List.cons_ne_nil _ _)⟩

end Conversation

end Forth
