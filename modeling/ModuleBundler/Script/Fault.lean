/-!
# What can be wrong with a script

A script that is no module in the sense of the grammar is refused as a whole, at the first spot
where reading it cannot go on.
-/

namespace ModuleBundler.Script

/-- **Why a script was refused.** -/
inductive Cause where
  | unclosedComment
  | unclosedText
  | unclosedTemplate
  | unclosedPattern
  | badPatternFlag
  | badEscape
  | badNumber
  | strayCharacter
  | unexpected
  | missingSemicolon
  | escapedKeyword
  | reservedName
  | badTarget
  | restNotLast
  | missingValue
  | misplacedDeclaration
  | misplacedReturn
  | misplacedLineBreak
  | badMember
  | badOptionalChain
  | emptyParentheses
  | missingHandler
  | badExportName
  | repeatedExport
  | repeatedAttribute
  | halfShorthand
  | tooDeep
  /-- Reading the script broke down, with a text of its own. -/
  | breakdown (text : String)
deriving DecidableEq, Repr

/-- The wording of a cause. -/
def Cause.message : Cause → String
  | .unclosedComment => "Unclosed comment"
  | .unclosedText => "Unclosed string"
  | .unclosedTemplate => "Unclosed template"
  | .unclosedPattern => "Unclosed regular expression"
  | .badPatternFlag => "Invalid regular expression flag"
  | .badEscape => "Invalid escape sequence"
  | .badNumber => "Invalid number"
  | .strayCharacter => "Invalid character"
  | .unexpected => "Unexpected token"
  | .missingSemicolon => "Expected a semicolon or a line break here"
  | .escapedKeyword => "Keywords cannot contain escape characters"
  | .reservedName => "This name is reserved here"
  | .badTarget => "Cannot assign to this expression"
  | .restNotLast => "A rest element must be last and has no trailing comma"
  | .missingValue => "Missing initializer in declaration"
  | .misplacedDeclaration => "A declaration cannot be the body of a statement"
  | .misplacedReturn => "A return statement can only be used within a function"
  | .misplacedLineBreak => "A line break is not allowed here"
  | .badMember => "Invalid class member"
  | .badOptionalChain => "Invalid optional chain"
  | .emptyParentheses => "Empty parenthesized expression"
  | .missingHandler => "Expected `catch` or `finally`"
  | .badExportName => "Invalid export name"
  | .repeatedExport => "Duplicated export"
  | .repeatedAttribute => "Duplicated attribute"
  | .halfShorthand => "Invalid assignment in object literal"
  | .tooDeep => "Too deeply nested"
  | .breakdown text => text

/-- **A fault** in a script: its cause, and how many characters come before the spot. -/
structure Fault where
  cause : Cause
  position : Nat
deriving DecidableEq, Repr

/-- The wording of a fault, with its place. -/
def Fault.message (f : Fault) : String :=
  f.cause.message ++ " at character " ++ toString f.position

end ModuleBundler.Script
