import ModuleBundler.Text.UnprintableRanges
import ModuleBundler.Text.Quoted

/-!
# Exhibited text

A text that is shown to a reader inside a message stands between double quotes with every
character visible: the quote, the backslash, NUL and the three usual blanks are escaped with a
backslash, and any other character without a printed form of its own is written as its code point
in braces.
-/

namespace ModuleBundler.Text

/-- Lowercase hexadecimal digits, without leading zeros. -/
def hexDigits (n : Nat) : List Char :=
  Nat.toDigits 16 n

/-- Characters that are shown as they are. -/
def isPrintable (c : Char) : Bool :=
  let n := c.toNat
  decide (0x20 ≤ n) && n != 0x7F && (decide (n < 0x80) || !unprintableRanges.has n)

/-- How one character is shown. -/
def exhibitedChar (c : Char) : List Char :=
  if c = '\x00' then ['\\', '0']
  else if c = '\t' then ['\\', 't']
  else if c = '\r' then ['\\', 'r']
  else if c = '\n' then ['\\', 'n']
  else if c = '"' then ['\\', '"']
  else if c = '\\' then ['\\', '\\']
  else if isPrintable c then [c]
  else ['\\', 'u', '{'] ++ hexDigits c.toNat ++ ['}']

/-- A text in quotes, with escapes for what cannot be shown. -/
def exhibited (s : String) : String :=
  String.ofList ('"' :: (s.toList.flatMap exhibitedChar ++ ['"']))

end ModuleBundler.Text
