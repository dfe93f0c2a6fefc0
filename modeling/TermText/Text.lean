/-
# Texts

A text is the sequence of its code points. Length, "one character" and every
cut are counted in code points, and two texts are equal only when their code
points are: nothing is normalised. Names, notations and outlines are texts;
messages, which no rule takes apart again, are strings.
-/

namespace TermText

/-- A text as its code points in order. -/
abbrev Text := List Char

end TermText
