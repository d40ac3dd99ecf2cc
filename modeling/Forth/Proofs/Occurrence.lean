/-
This file says where tokens stand. A token occurs among tokens if it is one of
them or stands within the body of a definition, at whatever depth definitions are
nested in one another. What is written in a program and in the dictionary that it
begins with are the tokens that occur there.

Nothing else is ever run. A definition that is stored was written, and with it
everything in its body.
-/

import Forth.Proofs.Invariant

namespace Forth

/-! ### Tokens within tokens -/

/-- Whether a token is found among tokens, be it in the body of a definition. -/
inductive Token.OccursIn (token : Token) : List Token → Prop where
  | here (tokens : List Token) (member : token ∈ tokens) : OccursIn token tokens
  | within (tokens : List Token) (name : String) (body : List Token)
      (defined : .store name body ∈ tokens) (inner : OccursIn token body) : OccursIn token tokens

namespace Token.OccursIn

variable {token first : Token} {tokens rest body : List Token} {name : String}

/-- What stands in the body of a definition occurs wherever the definition does. -/
theorem of_mem_body (defined : (Token.store name body).OccursIn tokens) (member : token ∈ body) :
    token.OccursIn tokens := by
  induction defined with
  | here tokens defined => exact .within tokens name body defined (.here body member)
  | within tokens outer outerBody defined inner inductionHypothesis =>
    exact .within tokens outer outerBody defined inductionHypothesis

theorem cons (first : Token) (occurs : token.OccursIn rest) : token.OccursIn (first :: rest) := by
  cases occurs with
  | here _ member => exact .here _ (List.mem_cons_of_mem _ member)
  | within _ name body defined inner =>
    exact .within _ name body (List.mem_cons_of_mem _ defined) inner

theorem cons_store (rest : List Token) (occurs : token.OccursIn body) :
    token.OccursIn (.store name body :: rest) :=
  .within _ name body List.mem_cons_self occurs

/-- What passes from definitions to their bodies holds of all that occurs if it holds of the tokens. -/
theorem of_hereditary {holds : Token → Prop} (hereditary : Hereditary holds)
    (all : ∀ token ∈ tokens, holds token) (occurs : token.OccursIn tokens) : holds token := by
  induction occurs with
  | here tokens member => exact all token member
  | within tokens name body defined inner inductionHypothesis =>
    exact inductionHypothesis (hereditary name body (all _ defined))

end Token.OccursIn

theorem Token.not_occursIn_nil (token : Token) : ¬ token.OccursIn [] := by
  intro occurs
  cases occurs with
  | here _ member => cases member
  | within _ _ _ defined _ => cases defined

theorem Token.occursIn_cons_iff {token first : Token} {rest : List Token} :
    token.OccursIn (first :: rest) ↔
      token = first ∨ (∃ name body, first = .store name body ∧ token.OccursIn body) ∨
        token.OccursIn rest := by
  constructor
  · intro occurs
    cases occurs with
    | here _ member =>
      exact (List.mem_cons.1 member).imp_right fun later => .inr (.here rest later)
    | within _ name body defined inner =>
      obtain rfl | later := List.mem_cons.1 defined
      · exact .inr (.inl ⟨name, body, rfl, inner⟩)
      · exact .inr (.inr (.within rest name body later inner))
  · rintro (rfl | ⟨name, body, rfl, inner⟩ | later)
    · exact .here _ List.mem_cons_self
    · exact inner.cons_store rest
    · exact later.cons first

/-! ### What is written -/

/-- Whether a token is written in a program or in the bodies of a dictionary. -/
def Token.WrittenIn (tokens : List Token) (dictionary : Dictionary) (token : Token) : Prop :=
  token.OccursIn tokens ∨ ∃ definition ∈ dictionary.definitions, token.OccursIn definition.body

theorem hereditary_writtenIn (tokens : List Token) (dictionary : Dictionary) :
    Hereditary (Token.WrittenIn tokens dictionary) := by
  rintro name body (occurs | ⟨definition, present, occurs⟩) token member
  · exact .inl (occurs.of_mem_body member)
  · exact .inr ⟨definition, present, occurs.of_mem_body member⟩

/-- At the beginning there is nothing to run and nothing to call but what is written. -/
theorem Machine.everywhere_writtenIn (tokens : List Token) (workspace : Workspace) :
    Everywhere (Token.WrittenIn tokens workspace.dictionary) (start tokens workspace) where
  frames := List.forall_mem_singleton.2 fun _ member => .inl (.here tokens member)
  definitions definition present _ member :=
    .inr ⟨definition, present, .here definition.body member⟩

end Forth
