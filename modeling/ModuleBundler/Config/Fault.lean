import ModuleBundler.Text.Exhibited
import ModuleBundler.Text.Shortest

/-!
# What can be wrong with a configuration text

A fault says what is wrong and, as soon as it is known, where: the number of the line, and how
many bytes of the line come before the spot.  Faults of form are placed where they are found.
Faults of meaning, such as a field that no one knows, are found without a place and get the one
that the reader has reached when it leaves the object or the list around them.
-/

namespace ModuleBundler.Config

/-- The value that was found where another kind of value was wanted. -/
inductive Found where
  | null
  | boolean (b : Bool)
  | integer (n : Int)
  | decimal (x : Float)
  | text (s : String)
  | sequence
  | map

/-- **What is wrong** with a configuration text. -/
inductive Problem where
  | endInList
  | endInObject
  | endInString
  | endInValue
  | noColon
  | noListSeparator
  | noObjectSeparator
  | noWord
  | noValue
  | badEscape
  | badNumber
  | numberTooLarge
  | controlCharacter
  | keyWithoutQuotes
  | loneSurrogate
  | trailingComma
  | trailingText
  | surrogateCutShort
  /-- A value of the wrong kind. -/
  | wrongKind (found : Found) (wanted : String)
  /-- A list with too few items for the record it stands for. -/
  | wrongLength (length : Nat) (wanted : String) (fields : Nat)
  /-- A field that the record does not have. -/
  | unknownField (name : String) (known : List String)
  /-- A field that occurs a second time. -/
  | repeatedField (name : String)

/-- A place in a text. -/
structure Place where
  line : Nat
  column : Nat
deriving DecidableEq, Repr

/-- **A fault**: a problem and, if known, its place. -/
structure Fault where
  problem : Problem
  place : Option Place

/-- How the text of a fault writes a decimal number. -/
def decimalStyle : Text.DecimalStyle := ⟨16, -4, true⟩

/-- The text of a decimal. -/
def writeFloat (x : Float) : String :=
  let bits := x.toBits.toNat
  let sign := if Text.twoTo 63 ≤ bits then "-" else ""
  let magnitude := bits % Text.twoTo 63
  if magnitude = 0 then sign ++ "0.0"
  else sign ++ ((Text.Binary.ofBits magnitude).shortest).write decimalStyle

/-- How a found value is described. -/
def Found.description : Found → String
  | .null => "null"
  | .boolean b => "boolean `" ++ (if b then "true" else "false") ++ "`"
  | .integer n => "integer `" ++ toString n ++ "`"
  | .decimal x => "floating point `" ++ writeFloat x ++ "`"
  | .text s => "string " ++ Text.exhibited s
  | .sequence => "sequence"
  | .map => "map"

/-- A list of alternatives. -/
def alternatives (names : List String) : String :=
  let marked := names.map fun name => "`" ++ name ++ "`"
  match marked with
  | [a] => a
  | [a, b] => a ++ " or " ++ b
  | _ => "one of " ++ ", ".intercalate marked

/-- The wording of a problem. -/
def Problem.message : Problem → String
  | .endInList => "EOF while parsing a list"
  | .endInObject => "EOF while parsing an object"
  | .endInString => "EOF while parsing a string"
  | .endInValue => "EOF while parsing a value"
  | .noColon => "expected `:`"
  | .noListSeparator => "expected `,` or `]`"
  | .noObjectSeparator => "expected `,` or `\x7d`"
  | .noWord => "expected ident"
  | .noValue => "expected value"
  | .badEscape => "invalid escape"
  | .badNumber => "invalid number"
  | .numberTooLarge => "number out of range"
  | .controlCharacter => "control character (\\u0000-\\u001F) found while parsing a string"
  | .keyWithoutQuotes => "key must be a string"
  | .loneSurrogate => "lone leading surrogate in hex escape"
  | .trailingComma => "trailing comma"
  | .trailingText => "trailing characters"
  | .surrogateCutShort => "unexpected end of hex escape"
  | .wrongKind found wanted => "invalid type: " ++ found.description ++ ", expected " ++ wanted
  | .wrongLength length wanted fields =>
      "invalid length " ++ toString length ++ ", expected " ++ wanted ++ " with "
        ++ toString fields ++ " elements"
  | .unknownField name known =>
      "unknown field `" ++ name ++ "`, expected " ++ alternatives known
  | .repeatedField name => "duplicate field `" ++ name ++ "`"

/-- The wording of a fault. -/
def Fault.message (f : Fault) : String :=
  match f.place with
  | none => f.problem.message
  | some place =>
      f.problem.message ++ " at line " ++ toString place.line ++ " column "
        ++ toString place.column

end ModuleBundler.Config
