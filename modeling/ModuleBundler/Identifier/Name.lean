import ModuleBundler.Identifier.StartRanges
import ModuleBundler.Identifier.ContinueRanges
import ModuleBundler.Text.Quoted

/-!
# Identifier names

**Validity.**  A name is valid if its first character may begin an identifier and every later
one may continue it.  Besides the Unicode properties, `$` and `_` may stand anywhere.

**Repair.**  `legitimize` turns any text, such as the stem of a file name, into a valid name: a
character that cannot stand where it is becomes `_`, except that a first character which could at
least continue a name is kept behind an added `_`.

**Access.**  `access` writes the read of a property: with a dot if the property's name is valid
and with a quoted key in brackets otherwise.
-/

namespace ModuleBundler.Identifier

/-- Letters without accents. -/
def isLetter (c : Char) : Bool :=
  let n := c.toNat
  (decide (65 ≤ n) && decide (n ≤ 90)) || (decide (97 ≤ n) && decide (n ≤ 122))

/-- Characters that a name may begin with. -/
def isStart (c : Char) : Bool :=
  isLetter c || c == '$' || c == '_' || startRanges.has c.toNat

/-- Whether the character may stand inside an identifier: every character that may begin one,
    and the digits, marks and joiners. -/
def isPart (c : Char) : Bool :=
  isStart c || (decide (48 ≤ c.toNat) && decide (c.toNat ≤ 57)) || continueRanges.has c.toNat

/-- Validity of a list of characters as an identifier name. -/
def validChars : List Char → Bool
  | [] => false
  | c :: rest => isStart c && rest.all isPart

/-- Whether a text is a name. -/
def isName (s : String) : Bool :=
  validChars s.toList

/-- A character that a name may have, in place of any character. -/
def repairPart (c : Char) : Char :=
  if isPart c then c else '_'

/-- The characters of a repaired name. -/
def legitimizeChars : List Char → List Char
  | [] => ['_']
  | c :: rest =>
      let tail := rest.map repairPart
      if isStart c then c :: tail
      else if isPart c then '_' :: c :: tail
      else '_' :: tail

/-- The text turned into a valid name; a valid name stays as it is. -/
def legitimize (s : String) : String :=
  String.ofList (legitimizeChars s.toList)

/-- The expression that reads a property: by its name if it is one, else by a literal. -/
def access (object name : String) : String :=
  if isName name then object ++ "." ++ name
  else object ++ "[" ++ Text.quoted name ++ "]"

end ModuleBundler.Identifier
