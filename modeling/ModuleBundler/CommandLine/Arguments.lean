import ModuleBundler.Options.Basic
import ModuleBundler.OrderedMap

/-!
# Arguments

The command line takes five fields and one switch, each at most once and in any order, and nothing
else.

**Words.**  A field is given as `--word value` or `--word=value`, the switch as `--silent`.

**Letters.**  A field with a letter is also given as `-x value`, `-xvalue` or `-x=value`.  Letters
of switches may stand in front of it in the same argument.

**Values.**  A value in an argument of its own does not begin with a dash, unless it is a single
one.  The two fields that are paths do not take an empty value.

Whatever does not follow these rules is refused as a whole (`none`).
-/

namespace ModuleBundler.CommandLine

/-- A field of the command line. -/
inductive Field where
  | config
  | entry
  | cwd
  | directory
  | fileName
deriving DecidableEq, Repr

/-- The field with a letter. -/
def Field.ofLetter? : Char → Option Field
  | 'c' => some .config
  | 'e' => some .entry
  | 'd' => some .directory
  | 'o' => some .fileName
  | _ => none

/-- The field with a word. -/
def Field.ofWord? (word : String) : Option Field :=
  if word = "config" then some .config
  else if word = "entry" then some .entry
  else if word = "cwd" then some .cwd
  else if word = "dir" then some .directory
  else if word = "filename" then some .fileName
  else none

/-- Whether a field takes an empty value. -/
def Field.mayBeEmpty : Field → Bool
  | .config => false
  | .cwd => false
  | _ => true

/-- **The arguments of a run**: the values of the fields, and the switch. -/
structure Arguments where
  values : OrderedMap Field String
  silent : Bool

namespace Arguments

/-- No arguments. -/
def none : Arguments := ⟨.empty, false⟩

/-- What a field is given, if it is given. -/
def get? (a : Arguments) (field : Field) : Option String :=
  a.values.get? field

/-- Give a field its value, which it must not have yet. -/
def give? (a : Arguments) (field : Field) (value : String) : Option Arguments :=
  if a.values.contains field then .none
  else if value.toList = [] ∧ field.mayBeEmpty = false then .none
  else some { a with values := a.values.insert field value }

/-- Ask for silence, which may be done once. -/
def silence? (a : Arguments) : Option Arguments :=
  if a.silent then .none else some { a with silent := true }

/-- Read the letters of an argument.  The answer also tells which field waits for the next
    argument as its value. -/
def letters? (a : Arguments) : List Char → Option (Arguments × Option Field)
  | [] => some (a, .none)
  | 's' :: rest => do
      let silent ← a.silence?
      silent.letters? rest
  | c :: rest => do
      let field ← Field.ofLetter? c
      match rest with
      | [] => some (a, some field)
      | '=' :: value => (a.give? field (String.ofList value)).map (·, .none)
      | value => (a.give? field (String.ofList value)).map (·, .none)

/-- Read an argument that is a word, given without its dashes. -/
def word? (a : Arguments) (text : List Char) : Option (Arguments × Option Field) :=
  let word := String.ofList (text.takeWhile (· ≠ '='))
  let value := (text.dropWhile (· ≠ '=')).drop 1
  let hasValue := decide ('=' ∈ text)
  if word = "silent" then
    if hasValue then .none else a.silence?.map (·, .none)
  else do
    let field ← Field.ofWord? word
    if hasValue then (a.give? field (String.ofList value)).map (·, .none)
    else some (a, some field)

/-- Read arguments in order; `waiting` is the field whose value comes next. -/
def readAll? (a : Arguments) (waiting : Option Field) : List String → Option Arguments
  | [] => if waiting.isSome then .none else some a
  | argument :: rest =>
      match argument.toList with
      | ['-', '-'] => if waiting.isSome ∨ rest ≠ [] then .none else some a
      | '-' :: '-' :: text =>
          if waiting.isSome then .none
          else match a.word? text with
            | .none => .none
            | some (next, waiting') => next.readAll? waiting' rest
      | '-' :: c :: text =>
          if waiting.isSome then .none
          else match a.letters? (c :: text) with
            | .none => .none
            | some (next, waiting') => next.readAll? waiting' rest
      | value =>
          match waiting with
          | .none => .none
          | some field =>
              match a.give? field (String.ofList value) with
              | .none => .none
              | some next => next.readAll? .none rest

/-- **Read the arguments of a run.** -/
def read? (arguments : List String) : Option Arguments :=
  none.readAll? .none arguments

/-- The layer of options that the arguments amount to. -/
def layer (a : Arguments) : OptionLayer :=
  let directory := a.get? .directory
  let fileName := a.get? .fileName
  ⟨a.get? .entry, (a.get? .cwd).map .mk,
    if directory.isSome ∨ fileName.isSome then some ⟨directory, fileName⟩ else .none⟩

/-- The configuration file, if one is named. -/
def config? (a : Arguments) : Option Path :=
  (a.get? .config).map .mk

end Arguments

end ModuleBundler.CommandLine
