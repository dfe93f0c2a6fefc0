/-
# Balanced brackets

What the brackets of a list of tokens come to. A list is balanced when its brackets
close one another, so that no front of it closes more than it opens. What is spelled is
balanced at every depth, so within a compound a bracket is open all the time and within
arguments none is closed that was not opened there. The tokens that a term was read from
also tell its size: a name for each node and an opening bracket for each compound.
-/

import TermText.Proofs.Recognition

namespace TermText

namespace Token

variable {token : Token} {tokens first second front rest : List Token}

@[simp] theorem countOf_nil (kind : Kind) : countOf kind [] = 0 := rfl

@[simp] theorem countOf_append (kind : Kind) (first second : List Token) :
    countOf kind (first ++ second) = countOf kind first + countOf kind second :=
  List.countP_append

theorem countOf_cons (kind : Kind) (token : Token) (rest : List Token) :
    countOf kind (token :: rest) = countOf kind rest + if token.kind = kind then 1 else 0 := by
  simp [countOf, List.countP_cons]

@[simp] theorem balance_nil : balance [] = 0 := rfl

@[simp] theorem balance_append (first second : List Token) :
    balance (first ++ second) = balance first + balance second := by
  simp only [balance, countOf_append]
  omega

theorem balance_cons_of_opening (opening : token.kind = .opening) (rest : List Token) :
    balance (token :: rest) = 1 + balance rest := by
  simp [balance, countOf_cons, opening]
  omega

theorem balance_cons_of_closing (closing : token.kind = .closing) (rest : List Token) :
    balance (token :: rest) = balance rest - 1 := by
  simp [balance, countOf_cons, closing]
  omega

/-- Names and separators do not count. -/
theorem balance_cons_of_ne (noOpening : token.kind ≠ .opening) (noClosing : token.kind ≠ .closing)
    (rest : List Token) : balance (token :: rest) = balance rest := by
  simp [balance, countOf_cons, noOpening, noClosing]

/-- Tokens whose brackets close one another: none is open behind them, and no front of them
closes more than it opens. -/
structure Balanced (tokens : List Token) : Prop where
  even : balance tokens = 0
  nonneg : ∀ front, front <+: tokens → 0 ≤ balance front

namespace Balanced

theorem nil : Balanced [] := by
  refine ⟨rfl, fun front isFront => ?_⟩
  rw [List.prefix_nil.1 isFront, balance_nil]

theorem append (early : Balanced first) (late : Balanced second) : Balanced (first ++ second) := by
  refine ⟨by rw [balance_append, early.even, late.even, add_zero], fun front isFront => ?_⟩
  rcases List.prefix_or_prefix_of_prefix isFront (List.prefix_append first second) with
    within | ⟨rest, rfl⟩
  · exact early.nonneg front within
  · rw [balance_append, early.even, zero_add]
    exact late.nonneg rest ((List.prefix_append_right_inj first).1 isFront)

/-- A token that is no bracket may be put in front. -/
theorem cons (noOpening : token.kind ≠ .opening) (noClosing : token.kind ≠ .closing)
    (balanced : Balanced rest) : Balanced (token :: rest) := by
  refine ⟨by rw [balance_cons_of_ne noOpening noClosing, balanced.even], fun front isFront => ?_⟩
  rcases List.prefix_cons_iff.1 isFront with rfl | ⟨later, rfl, within⟩
  · exact le_rfl
  · rw [balance_cons_of_ne noOpening noClosing]
    exact balanced.nonneg later within

/-- Between brackets, a bracket is open in every front that does not reach the last one. -/
theorem balance_pos_of_enclosed {left right : Token} (opening : left.kind = .opening)
    (balanced : Balanced rest) (isFront : front <+: rest ++ [right])
    (short : front.length ≤ rest.length) : 0 < balance (left :: front) := by
  have within : front <+: rest :=
    List.prefix_of_prefix_length_le isFront (List.prefix_append rest [right]) short
  have nonneg := balanced.nonneg front within
  rw [balance_cons_of_opening opening]
  omega

/-- Balanced tokens may be put between brackets. -/
theorem enclosed {left right : Token} (opening : left.kind = .opening)
    (closing : right.kind = .closing) (balanced : Balanced rest) :
    Balanced (left :: (rest ++ [right])) := by
  have even : balance (left :: (rest ++ [right])) = 0 := by
    rw [balance_cons_of_opening opening, balance_append, balanced.even,
      balance_cons_of_closing closing, balance_nil]
    rfl
  refine ⟨even, fun front isFront => ?_⟩
  rcases List.prefix_cons_iff.1 isFront with rfl | ⟨later, rfl, within⟩
  · exact le_rfl
  · rcases List.prefix_concat_iff.1 within with rfl | shorter
    · exact even.ge
    · exact (balanced.balance_pos_of_enclosed opening within shorter.length_le).le

/-- Where a closing bracket comes next, one that it closes is open. -/
theorem balance_pos_of_closing {right : Token} (closing : right.kind = .closing)
    (balanced : Balanced tokens) (isFront : front ++ [right] <+: tokens) : 0 < balance front := by
  have nonneg := balanced.nonneg _ isFront
  rw [balance_append, balance_cons_of_closing closing, balance_nil] at nonneg
  omega

end Balanced

end Token

/-! ## What is spelled -/

/-- The nodes of a phrase, each before its arguments and those in order. -/
def Phrase.preorder : Phrase → List Term.Node
  | .term root => root.preorder
  | .arguments terms => Term.preorderList terms

/-- Whether a node is an operator, whatever the number of its arguments. -/
def Term.Node.isCompound : Term.Node → Bool
  | .atom _ => false
  | .compound _ _ => true

namespace Spells

variable {tokens : List Token} {phrase : Phrase} {term : Term}

/-- The brackets of a spelling close one another. -/
theorem balanced (spelled : Spells tokens phrase) : Token.Balanced tokens := by
  induction spelled with
  | atom name => exact .cons (by simp [name]) (by simp [name]) .nil
  | compound name opening closing _ ih =>
      exact .cons (by simp [name]) (by simp [name]) (ih.enclosed opening closing)
  | none => exact .nil
  | one _ ih => exact ih
  | more _ separator _ ihFirst ihRest =>
      exact ihFirst.append (ihRest.cons (by simp [separator]) (by simp [separator]))

/-- Within a compound, behind its first bracket and in front of its last, a bracket is open. -/
theorem balance_pos (spelled : Spells tokens (.term term)) (isCompound : term.IsCompound)
    {front : List Token} (isFront : front <+: tokens) (long : 2 ≤ front.length)
    (short : front.length < tokens.length) : 0 < Token.balance front := by
  cases spelled with
  | atom => exact isCompound.elim
  | @compound operator left right inner arguments name opening closing spelled =>
      match front, long with
      | first :: second :: rest, _ =>
          simp only [List.cons_append, List.cons_prefix_cons] at isFront
          obtain ⟨rfl, rfl, within⟩ := isFront
          rw [Token.balance_cons_of_ne (by simp [name]) (by simp [name])]
          exact spelled.balanced.balance_pos_of_enclosed opening within (by simpa using short)

/-- A spelling has a name for every node, and an opening bracket for every compound. -/
theorem count_preorder (spelled : Spells tokens phrase) :
    phrase.preorder.length = Token.countOf .atom tokens ∧
      phrase.preorder.countP Term.Node.isCompound = Token.countOf .opening tokens := by
  induction spelled with
  | atom name =>
      simp [Phrase.preorder, Term.preorder, Term.Node.isCompound, Token.countOf_cons, name]
  | compound name opening closing _ ih =>
      simp only [Phrase.preorder] at ih
      simp [Phrase.preorder, Term.preorder, Term.Node.isCompound, List.countP_cons,
        Token.countOf_cons, name, opening, closing, ih]
  | none => exact ⟨rfl, rfl⟩
  | one _ ih =>
      simp only [Phrase.preorder] at ih
      simp [Phrase.preorder, Term.preorderList, ih]
  | more _ separator _ ihFirst ihRest =>
      simp only [Phrase.preorder] at ihFirst ihRest
      simp [Phrase.preorder, Term.preorderList, Token.countOf_cons, separator, ihFirst, ihRest]

end Spells

namespace Parser

variable {limit : Number} {level : Int} {cursor : Cursor}

/-- An operator and its bracket open one bracket. -/
theorem AtOperator.balance_eq (operator : AtOperator cursor) :
    Token.balance [cursor.current, cursor.advance.current] = 1 := by
  rw [Token.balance_cons_of_ne (by simp [operator.1]) (by simp [operator.1]),
    Token.balance_cons_of_opening operator.opening, Token.balance_nil, add_zero]

/-- An argument and the separator after it leave no bracket open. -/
theorem Recognises.balance_eq_zero {term : Term} {next : Cursor}
    (recognised : Recognises limit level cursor term next)
    (separator : next.current.kind = .separator) :
    Token.balance (cursor.upTo next ++ [next.current]) = 0 := by
  rw [Token.balance_append, recognised.spelled.balanced.even,
    Token.balance_cons_of_ne (by simp [separator]) (by simp [separator]), Token.balance_nil,
    add_zero]

end Parser

end TermText
