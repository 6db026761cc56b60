import ModuleBundler.Identifier.Name
import ModuleBundler.Script.Token
import ModuleBundler.Text.Quoted

/-!
# From characters to tokens

`Lexer.next` reads one token from the front of a list of characters.

**Between tokens** there are blanks, line breaks and comments (`skip`).

**Words** may hold escapes, which must stand for characters that are allowed where they are.

**Numbers** are read only to find where they end; what follows directly must not look like part
of a name.

**Texts** give the value that their escapes stand for.  Half of a surrogate pair has no character
of its own and stays as its escape, with small digits and no zeros in front.

**Templates and patterns** cannot be told from other tokens without knowing what comes before
them, so they have readers of their own: `templatePiece` goes on behind a substitution, and
`pattern` reads a regular expression.

Everything that depends on how many escapes follow takes a bound that is larger than the number of
characters in the script.
-/

namespace ModuleBundler.Script.Lexer

/-- Blanks that are no line breaks. -/
def isBlank (c : Char) : Bool :=
  let n := c.toNat
  n == 0x20 || n == 0x09 || n == 0x0B || n == 0x0C || n == 0x85 || n == 0xA0 || n == 0x1680
    || (decide (0x2000 ≤ n) && decide (n ≤ 0x200B)) || n == 0x202F || n == 0x205F || n == 0x3000
    || n == 0xFEFF

/-- Characters that end a line. -/
def isLineBreak (c : Char) : Bool :=
  let n := c.toNat
  n == 0x0A || n == 0x0D || n == 0x2028 || n == 0x2029

/-- Decimal digits. -/
def isDigit (c : Char) : Bool :=
  decide (48 ≤ c.toNat) && decide (c.toNat ≤ 57)

/-- The value of a hexadecimal digit. -/
def hexValue? (c : Char) : Option Nat :=
  let n := c.toNat
  if 48 ≤ n ∧ n ≤ 57 then some (n - 48)
  else if 65 ≤ n ∧ n ≤ 70 then some (n - 55)
  else if 97 ≤ n ∧ n ≤ 102 then some (n - 87)
  else none

/-! ## Between tokens -/

/-- What is being skipped. -/
inductive Filler where
  | blank
  | lineComment
  | blockComment

/-- Where a token begins: the characters from there on, their position, and whether a line break
    came before. -/
structure Gap where
  rest : List Char
  position : Nat
  newLine : Bool
  unclosed : Bool

/-- **Skip** blanks, line breaks and comments. -/
def skip : Filler → Bool → Nat → List Char → Gap
  | .blank, newLine, n, '/' :: '/' :: rest => skip .lineComment newLine (n + 2) rest
  | .blank, newLine, n, '/' :: '*' :: rest => skip .blockComment newLine (n + 2) rest
  | .blank, newLine, n, c :: rest =>
      if isBlank c then skip .blank newLine (n + 1) rest
      else if isLineBreak c then skip .blank true (n + 1) rest
      else ⟨c :: rest, n, newLine, false⟩
  | .lineComment, newLine, n, c :: rest =>
      if isLineBreak c then skip .blank true (n + 1) rest
      else skip .lineComment newLine (n + 1) rest
  | .blockComment, newLine, n, '*' :: '/' :: rest => skip .blank newLine (n + 2) rest
  | .blockComment, newLine, n, c :: rest =>
      skip .blockComment (newLine || isLineBreak c) (n + 1) rest
  | .blockComment, newLine, n, [] => ⟨[], n, newLine, true⟩
  | .blank, newLine, n, [] => ⟨[], n, newLine, false⟩
  | .lineComment, newLine, n, [] => ⟨[], n, newLine, false⟩

/-! ## Words -/

/-- A piece of a script that was read: what it is, what follows it, and where that begins. -/
structure Piece (α : Type) where
  value : α
  rest : List Char
  position : Nat

/-- The number that hexadecimal digits write. -/
def hexNumber? (digits : List Char) : Option Nat :=
  digits.foldlM (fun value c => (hexValue? c).map (value * 16 + ·)) 0

/-- Read the four digits of an escape.  The value is none if there are fewer, and then those that
    are there are read all the same. -/
def unitDigits (n : Nat) (rest : List Char) : Piece (Option Nat) :=
  let digits := (rest.take 4).takeWhile fun c => (hexValue? c).isSome
  let value := if digits.length = 4 then hexNumber? digits else none
  ⟨value, rest.drop digits.length, n + digits.length⟩

/-- Read the digits of an escape in braces, behind the first brace.  The value is none if there
    are no such digits or they are too large. -/
def pointDigits (n : Nat) (rest : List Char) : Piece (Option Nat) :=
  let digits := rest.takeWhile fun c => (hexValue? c).isSome
  match rest.drop digits.length with
  | '}' :: more =>
      let value := (hexNumber? digits).bind fun v =>
        if digits = [] ∨ 0x10FFFF < v then none else some v
      ⟨value, more, n + digits.length + 1⟩
  | after => ⟨none, after, n + digits.length⟩

/-- Read the digits of an escape, behind its letter: four of them, or any number in braces. -/
def escapeDigits (n : Nat) : List Char → Piece (Option Nat)
  | '{' :: rest => pointDigits (n + 1) rest
  | rest => unitDigits n rest

/-- Whether a code point is half of a surrogate pair. -/
def isSurrogate (point : Nat) : Bool :=
  decide (0xD800 ≤ point) && decide (point ≤ 0xDFFF)

/-- Read the characters of a word.  `first` says that none have been read, `escaped` that one of
    them was an escape; the value is none if an escape stands for nothing that may be there. -/
def wordChars : Nat → Bool → Bool → Nat → List Char → Piece (Option (List Char × Bool))
  | 0, _, escaped, n, rest => ⟨some ([], escaped), rest, n⟩
  | fuel + 1, first, escaped, n, rest =>
      let plain :=
        if first && !(rest.take 1).all Identifier.isStart then []
        else rest.takeWhile Identifier.isPart
      let n := n + plain.length
      match rest.drop plain.length with
      | '\\' :: 'u' :: more =>
          let point := escapeDigits (n + 2) more
          let c := Char.ofNat (point.value.getD 0)
          let allowed := if first && plain.isEmpty then Identifier.isStart c
            else Identifier.isPart c
          if point.value.isSome && !isSurrogate (point.value.getD 0) && allowed then
            let tail := wordChars fuel false true point.position point.rest
            ⟨tail.value.map fun (cs, e) => (plain ++ c :: cs, e), tail.rest, tail.position⟩
          else ⟨none, point.rest, point.position⟩
      | '\\' :: more => ⟨none, more, n + 1⟩
      | after => ⟨some (plain, escaped), after, n⟩

/-- Read a word. -/
def word (bound n : Nat) (rest : List Char) : Piece Lexeme :=
  let chars := wordChars bound true false n rest
  match chars.value with
  | some (name, escaped) => ⟨.word (String.ofList name) escaped, chars.rest, chars.position⟩
  | none => ⟨.broken .badEscape, chars.rest, chars.position⟩

/-- Read a name behind a number sign. -/
def privateName (bound n : Nat) (rest : List Char) : Piece Lexeme :=
  let chars := wordChars bound true false n rest
  match chars.value with
  | some (c :: name, _) =>
      ⟨.privateName (String.ofList (c :: name)), chars.rest, chars.position⟩
  | some ([], _) => ⟨.broken .strayCharacter, chars.rest, chars.position⟩
  | none => ⟨.broken .badEscape, chars.rest, chars.position⟩

/-! ## Numbers -/

/-- The characters behind digits of a class, where a separator may stand between two digits; none
    if a separator stands anywhere else.  `ready` says that a digit came last. -/
def digits? (isIn : Char → Bool) : Bool → Nat → List Char → Option (List Char × Nat)
  | ready, n, [] => if ready then some ([], n) else none
  | ready, n, c :: rest =>
      if isIn c then digits? isIn true (n + 1) rest
      else if c = '_' ∧ ready then digits? isIn false (n + 1) rest
      else if ready then some (c :: rest, n)
      else none

/-- What remains of a number behind digits that may be missing. -/
def optionalDigits? (n : Nat) (rest : List Char) : Option (List Char × Nat) :=
  match rest with
  | c :: _ => if isDigit c then digits? isDigit true n rest else some (rest, n)
  | [] => some ([], n)

/-- What remains of a number behind an exponent, with its letter already read. -/
def exponent? (n : Nat) : List Char → Option (List Char × Nat)
  | '+' :: rest => digits? isDigit false (n + 1) rest
  | '-' :: rest => digits? isDigit false (n + 1) rest
  | rest => digits? isDigit false n rest

/-- What remains of a number behind an exponent that may be missing. -/
def optionalExponent? (n : Nat) : List Char → Option (List Char × Nat)
  | 'e' :: rest => exponent? (n + 1) rest
  | 'E' :: rest => exponent? (n + 1) rest
  | rest => some (rest, n)

/-- What remains behind the digits of a fraction that may be missing, and an exponent. -/
def fraction? (n : Nat) (rest : List Char) : Option (List Char × Nat) := do
  let (rest, n) ← optionalDigits? n rest
  optionalExponent? n rest

/-- What remains behind a mark for a large whole number, if there is one. -/
def largeMark (n : Nat) : List Char → List Char × Nat
  | 'n' :: rest => (rest, n + 1)
  | rest => (rest, n)

/-- A number ends where nothing follows that could be part of it. -/
def numberEnd? : List Char × Nat → Option (List Char × Nat)
  | (c :: rest, n) =>
      if isDigit c || Identifier.isStart c then none else some (c :: rest, n)
  | ([], n) => some ([], n)

/-- What remains behind a number with a base of its own, from its first digit on. -/
def based? (isIn : Char → Bool) (n : Nat) (rest : List Char) : Option (List Char × Nat) := do
  let (rest, n) ← digits? isIn false n rest
  numberEnd? (largeMark n rest)

/-- What remains behind a number that begins with zero and another digit.  Only with an eight or a
    nine among its digits can it have a fraction or an exponent, and the letter of the exponent is
    a small one. -/
def oldStyle? (n : Nat) (rest : List Char) : Option (List Char × Nat) :=
  let digits := rest.takeWhile isDigit
  let n := n + digits.length
  let isDecimal := digits.any fun c => c == '8' || c == '9'
  match rest.drop digits.length with
  | '.' :: more =>
      if isDecimal then (fraction? (n + 1) more).bind numberEnd?
      else numberEnd? ('.' :: more, n)
  | 'e' :: more => if isDecimal then exponent? (n + 1) more else none
  | after => numberEnd? (after, n)

/-- Binary digits. -/
def isBinaryDigit (c : Char) : Bool := c == '0' || c == '1'

/-- Octal digits. -/
def isOctalDigit (c : Char) : Bool := decide (48 ≤ c.toNat) && decide (c.toNat ≤ 55)

/-- Hexadecimal digits. -/
def isHexDigit (c : Char) : Bool := (hexValue? c).isSome

/-- What remains behind a number that begins with a digit. -/
def afterNumber? (n : Nat) : List Char → Option (List Char × Nat)
  | '0' :: rest =>
      match rest with
      | 'b' :: more => based? isBinaryDigit (n + 2) more
      | 'B' :: more => based? isBinaryDigit (n + 2) more
      | 'o' :: more => based? isOctalDigit (n + 2) more
      | 'O' :: more => based? isOctalDigit (n + 2) more
      | 'x' :: more => based? isHexDigit (n + 2) more
      | 'X' :: more => based? isHexDigit (n + 2) more
      | 'e' :: more => exponent? (n + 2) more
      | 'E' :: more => exponent? (n + 2) more
      | '.' :: more => (fraction? (n + 2) more).bind numberEnd?
      | 'n' :: more => numberEnd? (more, n + 2)
      | c :: more =>
          if isDigit c then oldStyle? (n + 1) (c :: more) else numberEnd? (c :: more, n + 1)
      | [] => some ([], n + 1)
  | rest => do
      let (rest, n) ← digits? isDigit false n rest
      match rest with
      | '.' :: more => (fraction? (n + 1) more).bind numberEnd?
      | 'n' :: more => numberEnd? (more, n + 1)
      | after => (optionalExponent? n after).bind numberEnd?

/-- What remains behind a number that begins with a point, from its first digit on. -/
def afterPoint? (n : Nat) (rest : List Char) : Option (List Char × Nat) := do
  let (rest, n) ← digits? isDigit false n rest
  (optionalExponent? n rest).bind numberEnd?

/-- A number up to where its digits were read, or a broken token. -/
def numberPiece (n : Nat) (rest : List Char) : Option (List Char × Nat) → Piece Lexeme
  | some (rest, n) => ⟨.number, rest, n⟩
  | none => ⟨.broken .badNumber, rest.drop 1, n + 1⟩

/-! ## Texts and templates -/

/-- The value of an octal digit. -/
def octalValue (c : Char) : Nat := c.toNat - 48

/-- The octal digits that come next, up to a count. -/
def octalDigits (count : Nat) (rest : List Char) : List Char :=
  (rest.take count).takeWhile isOctalDigit

/-- An escape that stands for no character of its own, as it stays in a text. -/
def keptEscape (unit : Nat) : List Char :=
  ['\\', 'u'] ++ Nat.toDigits 16 unit

/-- The character of a code point, or its escape if it is half of a pair. -/
def pointText (point : Nat) : List Char :=
  if isSurrogate point then keptEscape point else [Char.ofNat point]

/-- Two code units as they stand in a text: one character if they are the halves of a pair. -/
def pairText (high low : Nat) : List Char :=
  if 0xDC00 ≤ low ∧ low ≤ 0xDFFF then
    [Char.ofNat (0x10000 + (high - 0xD800) * 0x400 + (low - 0xDC00))]
  else keptEscape high ++ keptEscape low

/-- Read a code point escape in a text, behind its letter.  The first half of a pair is read along
    with the escape of four digits behind it, if the two letters of an escape are there; a half in
    braces is always alone. -/
def pointEscape (n : Nat) : List Char → Piece (Option (List Char))
  | '{' :: rest =>
      let point := pointDigits (n + 1) rest
      ⟨point.value.map pointText, point.rest, point.position⟩
  | rest =>
      let first := unitDigits n rest
      match first.value, first.rest with
      | some high, '\\' :: 'u' :: more =>
          if 0xD800 ≤ high ∧ high ≤ 0xDBFF then
            let second := unitDigits (first.position + 2) more
            ⟨second.value.map (pairText high), second.rest, second.position⟩
          else ⟨some (pointText high), first.rest, first.position⟩
      | value, after => ⟨value.map pointText, after, first.position⟩

/-- Read an escape, behind its backslash.  Octal escapes mean nothing in a template.  The value is
    none if the escape means nothing. -/
def escape (inTemplate : Bool) (n : Nat) : List Char → Piece (Option (List Char))
  | [] => ⟨none, [], n⟩
  | '\r' :: '\n' :: rest => ⟨some [], rest, n + 2⟩
  | 'b' :: rest => ⟨some ['\x08'], rest, n + 1⟩
  | 'f' :: rest => ⟨some ['\x0c'], rest, n + 1⟩
  | 'n' :: rest => ⟨some ['\n'], rest, n + 1⟩
  | 'r' :: rest => ⟨some ['\r'], rest, n + 1⟩
  | 't' :: rest => ⟨some ['\t'], rest, n + 1⟩
  | 'v' :: rest => ⟨some ['\x0b'], rest, n + 1⟩
  | 'x' :: rest =>
      match hexNumber? (rest.take 2) with
      | some v =>
          if (rest.take 2).length = 2 then ⟨some [Char.ofNat v], rest.drop 2, n + 3⟩
          else ⟨none, rest, n + 1⟩
      | none => ⟨none, rest, n + 1⟩
  | 'u' :: rest => pointEscape (n + 1) rest
  | c :: rest =>
      if isLineBreak c then ⟨some [], rest, n + 1⟩
      else if isOctalDigit c then
        let long := octalDigits (if c.toNat ≤ 51 then 2 else 1) rest
        if c = '0' ∧ !(rest.take 1).any isDigit then ⟨some ['\x00'], rest, n + 1⟩
        else if inTemplate then ⟨none, rest, n + 1⟩
        else
          let value := (c :: long).foldl (fun v d => v * 8 + octalValue d) 0
          ⟨some [Char.ofNat value], rest.drop long.length, n + 1 + long.length⟩
      else if isDigit c && inTemplate then ⟨none, rest, n + 1⟩
      else ⟨some [c], rest, n + 1⟩

/-- Read what is left of a text; the value is none if it has an escape that means nothing. -/
def textChars (quote : Char) : Nat → Nat → List Char → Piece (Except Cause (List Char))
  | 0, n, rest => ⟨.error .unclosedText, rest, n⟩
  | fuel + 1, n, rest =>
      let plain := rest.takeWhile fun c =>
        c != quote && c != '\\' && c != '\n' && c != '\r'
      let n := n + plain.length
      match rest.drop plain.length with
      | '\\' :: more =>
          let e := escape false (n + 1) more
          let tail := textChars quote fuel e.position e.rest
          match e.value with
          | none => ⟨.error .badEscape, tail.rest, tail.position⟩
          | some cs => ⟨tail.value.map fun t => plain ++ cs ++ t, tail.rest, tail.position⟩
      | c :: more =>
          if c = quote then ⟨.ok plain, more, n + 1⟩ else ⟨.error .unclosedText, more, n + 1⟩
      | [] => ⟨.error .unclosedText, [], n⟩

/-- Read a text, behind its first quote. -/
def text (quote : Char) (bound n : Nat) (rest : List Char) : Piece Lexeme :=
  let chars := textChars quote bound n rest
  match chars.value with
  | .ok value => ⟨.text (String.ofList value), chars.rest, chars.position⟩
  | .error cause => ⟨.broken cause, chars.rest, chars.position⟩

/-- The mark of a template. -/
def backtick : Char := '\x60'

/-- **Read a piece of a template**, behind the mark or brace that it begins with. -/
def templatePiece : Nat → Bool → Nat → List Char → Piece Lexeme
  | 0, _, n, rest => ⟨.broken .unclosedTemplate, rest, n⟩
  | fuel + 1, sound, n, rest =>
      let plain := rest.takeWhile fun c => c != backtick && c != '\\' && c != '$'
      let n := n + plain.length
      match rest.drop plain.length with
      | '$' :: '{' :: more => ⟨.template false sound, more, n + 2⟩
      | '$' :: more => templatePiece fuel sound (n + 1) more
      | '\\' :: more =>
          let e := escape true (n + 1) more
          templatePiece fuel (sound && e.value.isSome) e.position e.rest
      | _ :: more => ⟨.template true sound, more, n + 1⟩
      | [] => ⟨.broken .unclosedTemplate, [], n⟩

/-! ## Patterns -/

/-- The characters behind the body of a pattern, which ends at the first slash that is neither
    escaped nor inside brackets. -/
def afterPatternBody : Bool → Nat → List Char → Option (List Char × Nat)
  | _, _, [] => none
  | inClass, n, '\\' :: c :: rest =>
      if isLineBreak c then none else afterPatternBody inClass (n + 2) rest
  | inClass, n, c :: rest =>
      if isLineBreak c then none
      else if c = '/' ∧ !inClass then some (rest, n + 1)
      else if c = '[' then afterPatternBody true (n + 1) rest
      else if c = ']' then afterPatternBody false (n + 1) rest
      else afterPatternBody inClass (n + 1) rest

/-- The flags of a regular expression. -/
def patternFlags : List Char := ['d', 'g', 'i', 'm', 's', 'u', 'v', 'y']

/-- Characters that are read as flags, whether they are or not. -/
def isFlagChar (c : Char) : Bool :=
  Identifier.isLetter c || isDigit c || c == '$' || c == '_'

/-- Whether all flags are known and none is repeated. -/
def flagsAllowed : List Char → Bool
  | [] => true
  | c :: rest => patternFlags.contains c && !rest.contains c && flagsAllowed rest

/-- **Read a pattern**, behind its first slash; none stands for a pattern that is right. -/
def pattern (n : Nat) (rest : List Char) : Piece (Option Cause) :=
  match afterPatternBody false n rest with
  | none => ⟨some .unclosedPattern, [], n⟩
  | some (after, n) =>
      let flags := after.takeWhile isFlagChar
      ⟨if flagsAllowed flags then none else some .badPatternFlag, after.drop flags.length,
        n + flags.length⟩

/-! ## Punctuators and tokens -/

/-- Punctuators, the longer ones of a kind first. -/
def marks : List (List Char) :=
  ["\x7b", "\x7d", "(", ")", "[", "]", ";", ",", "~", ":", "@",
   "...", ".",
   "===", "==", "=>", "=",
   "!==", "!=", "!",
   "++", "+=", "+",
   "--", "-=", "-",
   "**=", "**", "*=", "*",
   "/=", "/",
   "%=", "%",
   "<<=", "<<", "<=", "<",
   ">>>=", ">>>", ">>=", ">>", ">=", ">",
   "&&=", "&&", "&=", "&",
   "||=", "||", "|=", "|",
   "^=", "^",
   "??=", "??", "?.", "?"].map String.toList

/-- The first punctuator that a list of characters begins with. -/
def markAt? (rest : List Char) : List (List Char) → Option (List Char)
  | [] => none
  | m :: more => if m.isPrefixOf rest then some m else markAt? rest more

/-- Read a punctuator.  A question mark in front of a point and a digit stands alone. -/
def markPiece (n : Nat) (rest : List Char) : Piece Lexeme :=
  match rest with
  | '?' :: '.' :: d :: more =>
      if isDigit d then ⟨.mark "?", '.' :: d :: more, n + 1⟩
      else ⟨.mark "?.", d :: more, n + 2⟩
  | _ =>
      match markAt? rest marks with
      | some m => ⟨.mark (String.ofList m), rest.drop m.length, n + m.length⟩
      | none => ⟨.broken .strayCharacter, rest.drop 1, n + 1⟩

/-- Read a token that begins with the first character. -/
def lexeme (bound n : Nat) (rest : List Char) : Piece Lexeme :=
  match rest with
  | [] => ⟨.finish, [], n⟩
  | '.' :: c :: more =>
      if isDigit c then numberPiece n rest (afterPoint? (n + 1) (c :: more))
      else markPiece n rest
  | '#' :: more => privateName bound (n + 1) more
  | c :: more =>
      if Identifier.isStart c || c == '\\' then word bound n rest
      else if isDigit c then numberPiece n rest (afterNumber? n rest)
      else if c == '"' || c == '\x27' then text c bound (n + 1) more
      else if c == backtick then templatePiece bound true (n + 1) more
      else markPiece n rest

/-- A token along with the characters from its first one on, and those behind it. -/
structure Reading where
  token : Token
  here : List Char
  rest : List Char

/-- **Read the next token**, from a position on. -/
def next (bound n : Nat) (rest : List Char) : Reading :=
  let gap := skip .blank false n rest
  if gap.unclosed then
    ⟨⟨.broken .unclosedComment, ⟨gap.position, gap.position⟩, gap.newLine⟩, [], []⟩
  else
    let piece := lexeme bound gap.position gap.rest
    ⟨⟨piece.value, ⟨gap.position, piece.position⟩, gap.newLine⟩, gap.rest, piece.rest⟩

/-- The length of the line at the very beginning of a script that tells a system how to run it,
    if there is one. -/
def hashbangLength? : List Char → Option Nat
  | '#' :: '!' :: rest => some (2 + (rest.takeWhile fun c => !isLineBreak c).length)
  | _ => none

end ModuleBundler.Script.Lexer
