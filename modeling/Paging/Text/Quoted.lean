import Paging.Text.Numeral
import Paging.Text.Unicode.Blind
import Paging.Text.Unicode.Extending
import Paging.Text.Utf8

/-!
# Quoted characters and texts

A quoted form stands between quotes and shows each character so that a reader can tell it apart:
the backslash and the surrounding quote after a backslash, NUL, tab, line feed and carriage
return by their letters, whatever has no picture of its own or is drawn on its neighbour by its
code point, and every other character as itself.  Bytes that should be a text are shown alike, and
those that are no character each by its value.
-/

namespace Paging.Text

/-- The code point of `c` in hexadecimal, between braces after a backslash and the letter u. -/
def byCodePoint (c : Char) : List Char :=
  ['\\', 'u', '\x7b'] ++ (digits 16 c.toNat).map lowerDigit ++ ['\x7d']

/-- How `c` is shown between two characters `quote`. -/
def escape (quote c : Char) : List Char :=
  if c = '\x00' then ['\\', '0']
  else if c = '\t' then ['\\', 't']
  else if c = '\n' then ['\\', 'n']
  else if c = '\r' then ['\\', 'r']
  else if c = '\\' ∨ c = quote then ['\\', c]
  else if isBlind c || isExtending c then byCodePoint c
  else [c]

/-- A character between single quotes. -/
def quotedChar (c : Char) : String := String.ofList (['\''] ++ escape '\'' c ++ ['\''])

/-- A text between double quotes. -/
def quotedText (s : String) : String :=
  String.ofList (['"'] ++ s.toList.flatMap (escape '"') ++ ['"'])

/-- The value of a byte in two hexadecimal digits, after a backslash and the letter x. -/
def byValue (b : UInt8) : List Char :=
  ['\\', 'x', upperDigit (b.toNat / 16), upperDigit (b.toNat % 16)]

def Utf8.Piece.shown : Utf8.Piece → List Char
  | .char c => escape '"' c
  | .stray bytes => bytes.flatMap byValue

/-- Bytes between double quotes. -/
def quotedBytes (bytes : List UInt8) : String :=
  String.ofList (['"'] ++ (Utf8.pieces bytes).flatMap Utf8.Piece.shown ++ ['"'])

end Paging.Text
