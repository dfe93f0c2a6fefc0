/-
# Quoted texts

The form in which messages show a text: between quotes, on one line, with
every code point that could not be read back from the page escaped. The quote
is the apostrophe unless the text has apostrophes and no double quotes, which
keeps most texts free of escapes.
-/

import TermText.Text
import TermText.Text.Printable

namespace TermText.Text

def apostrophe : Char := '\x27'

def doubleQuote : Char := '\x22'

/-- The quote that encloses a text. -/
def enclosing (text : Text) : Char :=
  if text.contains apostrophe && !text.contains doubleQuote then doubleQuote else apostrophe

/-- Lower-case hexadecimal digits, zeros in front up to `width`. -/
def hexadecimal (width value : Nat) : Text :=
  let digits := Nat.toDigits 16 value
  List.replicate (width - digits.length) '0' ++ digits

/-- A numeric escape is as wide as the code point needs: two, four or eight digits. -/
def numericEscape (c : Char) : Text :=
  if c.toNat < 0x100 then ['\\', 'x'] ++ hexadecimal 2 c.toNat
  else if c.toNat < 0x10000 then ['\\', 'u'] ++ hexadecimal 4 c.toNat
  else ['\\', 'U'] ++ hexadecimal 8 c.toNat

/-- One code point inside quotes. The quote in use and the backslash take a backslash. -/
def escape (quote c : Char) : Text :=
  if c = quote ∨ c = '\\' then ['\\', c]
  else if c = '\n' then ['\\', 'n']
  else if c = '\r' then ['\\', 'r']
  else if c = '\t' then ['\\', 't']
  else if printable c then [c]
  else numericEscape c

/-- A text between quotes. -/
def quoted (text : Text) : String :=
  let quote := enclosing text
  String.ofList (quote :: (text.flatMap (escape quote) ++ [quote]))

end TermText.Text
