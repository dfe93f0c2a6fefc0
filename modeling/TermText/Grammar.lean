/-
# The grammar

Which lists of tokens spell a term, as rules and without a reader:

    term      :=  ATOM  |  ATOM LPAR arguments RPAR
    arguments :=  (nothing)  |  term  |  term SEP arguments

The last rule admits a separator after the last argument. A list may spell a
term and be the front of a longer list that spells another one; which of them
a reader takes is not the grammar's matter.
-/

import TermText.Term
import TermText.Token

namespace TermText

/-- What a list of tokens can spell. -/
inductive Phrase
  | term (term : Term)
  | arguments (terms : List Term)

/-- The lists of tokens that spell a phrase. One relation covers both kinds of
phrases, so that an induction on a spelling goes through both at once. -/
inductive Spells : List Token → Phrase → Prop
  | atom {name : Token} : name.kind = .atom → Spells [name] (.term (.atom name.text))
  | compound {operator left right : Token} {inner : List Token} {arguments : List Term} :
      operator.kind = .atom → left.kind = .opening → right.kind = .closing →
      Spells inner (.arguments arguments) →
      Spells (operator :: left :: inner ++ [right])
        (.term (.compound operator.text arguments))
  | none : Spells [] (.arguments [])
  | one {tokens : List Token} {term : Term} :
      Spells tokens (.term term) → Spells tokens (.arguments [term])
  | more {tokens rest : List Token} {separator : Token} {term : Term} {terms : List Term} :
      Spells tokens (.term term) → separator.kind = .separator →
      Spells rest (.arguments terms) →
      Spells (tokens ++ separator :: rest) (.arguments (term :: terms))

/-- No term is spelled by no tokens. -/
theorem Spells.ne_nil {tokens : List Token} {term : Term} (h : Spells tokens (.term term)) :
    tokens ≠ [] := by
  cases h <;> simp

end TermText
