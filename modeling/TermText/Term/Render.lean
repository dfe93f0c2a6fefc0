/-
# The notation of a term

An atom is written as its name. A compound is written as its operator and,
between brackets, its arguments with a separator between each two. Names are
written as they are, so only a term whose names avoid the reserved characters
can be read back.
-/

import TermText.Dialect
import TermText.Term

namespace TermText.Term

mutual
/-- The notation of a term in a dialect. -/
def render (dialect : Dialect) : Term → Text
  | .atom name => name
  | .compound operator arguments =>
      operator ++ dialect.opening :: renderArguments dialect arguments ++ [dialect.closing]

/-- The notation of a list of arguments. -/
def renderArguments (dialect : Dialect) : List Term → Text
  | [] => []
  | term :: rest => term.render dialect ++ renderFurther dialect rest

/-- The notation of the arguments after the first, each with a separator before it. -/
def renderFurther (dialect : Dialect) : List Term → Text
  | [] => []
  | term :: rest => dialect.separator :: term.render dialect ++ renderFurther dialect rest
end

end TermText.Term
