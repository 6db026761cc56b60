/-!
# Quoted text

Texts are quoted the way data interchange notation and scripts both read them: between double
quotes, with the quote and the backslash escaped, the five usual control characters written with
a letter, and every other character below the space written as `\u` and four lowercase
hexadecimal digits.  Everything else stands for itself.
-/

namespace ModuleBundler.Text

/-- The hexadecimal digit of a number below sixteen. -/
def hexDigit (n : Nat) : Char :=
  if n < 10 then Char.ofNat (48 + n) else Char.ofNat (87 + n)

/-- How one character is written between the quotes. -/
def quotedChar (c : Char) : List Char :=
  if c = '"' then ['\\', '"']
  else if c = '\\' then ['\\', '\\']
  else if c = '\x08' then ['\\', 'b']
  else if c = '\x0c' then ['\\', 'f']
  else if c = '\n' then ['\\', 'n']
  else if c = '\r' then ['\\', 'r']
  else if c = '\t' then ['\\', 't']
  else if c.toNat < 0x20 then
    ['\\', 'u', '0', '0', hexDigit (c.toNat / 16), hexDigit (c.toNat % 16)]
  else [c]

/-- The characters of a quoted text, quotes included. -/
def quotedChars (cs : List Char) : List Char :=
  '"' :: (cs.flatMap quotedChar ++ ['"'])

/-- **A text as a literal.** -/
def quoted (s : String) : String :=
  String.ofList (quotedChars s.toList)

end ModuleBundler.Text
