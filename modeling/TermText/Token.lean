/-
# Tokens

The words of a notation: names, separators, brackets and the stop that follows
the last of them. A token carries the text that it was read from, and two
tokens are equal when both kind and text are.
-/

import TermText.Text.Quoted

namespace TermText

/-- The kinds of tokens. -/
inductive Kind
  | atom | separator | opening | closing | stop
  deriving DecidableEq, Repr

/-- The name of a kind in messages. -/
def Kind.name : Kind → String
  | .atom => "ATOM"
  | .separator => "SEP"
  | .opening => "LPAR"
  | .closing => "RPAR"
  | .stop => "END"

/-- A word of a notation and the text that it was read from. -/
structure Token where
  kind : Kind
  text : Text
  deriving DecidableEq, Repr

namespace Token

/-- The token after the last one, read from nothing. -/
def stop : Token := ⟨.stop, []⟩

/-- Whether a token is a name. -/
def isAtom (token : Token) : Bool := token.kind == .atom

/-- The form in which messages show a token: only a name shows its text. -/
def literal (token : Token) : String :=
  match token.kind with
  | .atom => "Token(ATOM, " ++ token.text.quoted ++ ")"
  | kind => "Token(" ++ kind.name ++ ")"

/-- The form in which messages show a list of tokens. -/
def listLiteral (tokens : List Token) : String :=
  "[" ++ ", ".intercalate (tokens.map literal) ++ "]"

/-- The texts of the tokens, one after the other. -/
def texts (tokens : List Token) : Text := tokens.flatMap text

/-- How many of the tokens are of a kind. -/
def countOf (kind : Kind) (tokens : List Token) : Nat := tokens.countP (·.kind == kind)

/-- The opening brackets among the tokens less the closing ones: how many more of them are
open behind the tokens than in front of them. -/
def balance (tokens : List Token) : Int := countOf .opening tokens - countOf .closing tokens

@[simp] theorem texts_nil : texts [] = [] := rfl

@[simp] theorem texts_cons (token : Token) (rest : List Token) :
    texts (token :: rest) = token.text ++ texts rest := rfl

@[simp] theorem texts_append (first second : List Token) :
    texts (first ++ second) = texts first ++ texts second := by
  simp [texts]

end Token

end TermText
