import PascalTypes.Text.Shown

/-!
# Quoted text

`quoted s` puts `s` between double quotes so that it reads on one line and each of its characters
can be told.  Five characters have a short escape, every other character that is not shown as
itself is written as its code point in hexadecimal.
-/

set_option autoImplicit false

namespace PascalTypes.Text

/-- The code point of `c` in braces, in lower-case hexadecimal without leading zeros. -/
def codeEscape (c : Char) : List Char :=
  ['\\', 'u', '{'] ++ Nat.toDigits 16 c.toNat ++ ['}']

/-- How one character is written between quotes. -/
def quotedChar (c : Char) : List Char :=
  if c = '\x00' then ['\\', '0']
  else if c = '\t' then ['\\', 't']
  else if c = '\r' then ['\\', 'r']
  else if c = '\n' then ['\\', 'n']
  else if c = '\\' || c = '"' then ['\\', c]
  else if isShown c then [c]
  else codeEscape c

/-- A text between double quotes, with escapes. -/
def quoted (s : String) : String :=
  String.ofList ('"' :: s.toList.flatMap quotedChar ++ ['"'])

end PascalTypes.Text
