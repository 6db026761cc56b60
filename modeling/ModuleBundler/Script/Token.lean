import ModuleBundler.Script.Fault

/-!
# Tokens

A token is a piece of a script together with the stretch of characters it covers.  Keywords are
words like all others: whether a word is a keyword depends on where it stands, and on whether
it was written with escapes.
-/

namespace ModuleBundler.Script

/-- **A stretch of a script**, from its first character to the one behind its last. -/
structure Span where
  start : Nat
  stop : Nat
deriving DecidableEq, Repr, Inhabited

/-- **What a token is.** -/
inductive Lexeme where
  /-- A name or keyword with its escapes undone. -/
  | word (name : String) (escaped : Bool)
  /-- A name behind a number sign. -/
  | privateName (name : String)
  | number
  /-- A quoted text with its escapes undone. -/
  | text (value : String)
  /-- A piece of a template.  `closed` says that the template ends with it, `sound` that its
      escapes mean something. -/
  | template (closed sound : Bool)
  /-- A punctuator. -/
  | mark (text : String)
  /-- The end of the script. -/
  | finish
  /-- Characters that are no token. -/
  | broken (cause : Cause)
deriving DecidableEq, Repr, Inhabited

/-- **A token** with its place; `newLine` says that a line break comes before it. -/
structure Token where
  lexeme : Lexeme
  span : Span
  newLine : Bool
deriving DecidableEq, Repr, Inhabited

/-- Words that are never names of variables. -/
def reservedWords : List String :=
  ["break", "case", "catch", "class", "const", "continue", "debugger", "default", "delete", "do",
   "else", "enum", "export", "extends", "false", "finally", "for", "function", "if", "import",
   "in", "instanceof", "new", "null", "return", "super", "switch", "this", "throw", "true", "try",
   "typeof", "var", "void", "while", "with"]

/-- Words that cannot be exported by their own name, besides the reserved ones. -/
def restrictedWords : List String :=
  ["await", "implements", "interface", "package", "private", "protected", "public", "static",
   "yield"]

/-- Words that mean something of their own in some places, and are names in others. -/
def contextualWords : List String :=
  ["abstract", "accessor", "any", "as", "assert", "asserts", "async", "await", "bigint", "boolean",
   "constructor", "declare", "defer", "from", "get", "global", "implements", "infer", "interface",
   "intrinsic", "is", "keyof", "let", "meta", "module", "namespace", "never", "number", "object",
   "of", "out", "override", "package", "private", "protected", "public", "readonly", "require",
   "satisfies", "set", "source", "static", "string", "symbol", "target", "type", "undefined",
   "unique", "unknown", "using", "yield"]

namespace Lexeme

/-- The name that a word spells. -/
def name? : Lexeme → Option String
  | .word name _ => some name
  | _ => none

/-- Whether the token is a given word, escaped or not. -/
def isWord (l : Lexeme) (name : String) : Bool :=
  l.name? == some name

/-- Whether the token is a given punctuator. -/
def isMark (l : Lexeme) (text : String) : Bool :=
  match l with
  | .mark t => t == text
  | _ => false

/-- Whether the token is a word that may name a variable. -/
def isVariable (l : Lexeme) : Bool :=
  match l with
  | .word name _ => !reservedWords.contains name
  | _ => false

/-- Whether the token is a word that may name a variable whatever `await` and `yield` mean. -/
def isFreeName (l : Lexeme) : Bool :=
  l.isVariable && !l.isWord "await" && !l.isWord "yield"

/-- Whether the token is a word that is a name wherever it stands. -/
def isPlainName (l : Lexeme) : Bool :=
  match l with
  | .word name _ => !reservedWords.contains name && !contextualWords.contains name
  | _ => false

/-- Whether the token may be a literal: a text, a number or a word that stands for a value. -/
def isLiteral : Lexeme → Bool
  | .text _ => true
  | .number => true
  | .word name _ => ["null", "true", "false"].contains name
  | _ => false

/-- Whether the token may begin a key: a word, a text, a number, a private name or a bracket. -/
def startsKey : Lexeme → Bool
  | .word _ _ => true
  | .text _ => true
  | .number => true
  | .privateName _ => true
  | .mark t => t == "["
  | _ => false

end Lexeme

end ModuleBundler.Script
