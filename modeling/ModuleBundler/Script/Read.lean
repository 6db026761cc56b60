import ModuleBundler.Script.Parser.Statement

/-!
# Reading a script

`Program.read` is the whole way from the characters of a script to its items.

**As a whole**, a script exports no name twice, counting its items only and not what stands inside
their statements, and no field of an object is left that only a target could have.

**Depth.**  The rules are tied together by `Parser.grammar`, which counts how deep one part of a
script is nested in another.  A rule that reads a part of its own sort hands on one level less.  The
limit grows with the script, by several levels for each character, and a script that goes beyond it
is refused with the cause `tooDeep`.
-/

namespace ModuleBundler.Script

namespace Parser

/-- The rule for a goal. -/
def rule (g : Grammar) : Goal → Parser Node
  | .expression => expression g
  | .assigned => assigned g
  | .binary level => binary g level
  | .unary => unary g
  | .callee => callee g
  | .member => memberExpression g
  | .pattern => pattern g
  | .statement alone => statement g alone

/-- **The rules tied together**, down to a depth, with a bound for repetitions. -/
def grammar (bound : Nat) : Nat → Grammar
  | 0 => ⟨fun _ => fail .tooDeep, bound⟩
  | depth + 1 => ⟨fun goal => rule (grammar bound depth) goal, bound⟩

/-- All items of a script. -/
def items (g : Grammar) : Parser (List Item) :=
  repeated (do
    if (← lexeme) == .finish then return none
    else return some (← item g false)) g.bound

end Parser

/-- A parser's progress at the beginning of some characters. -/
def Parser.begin (bound n : Nat) (rest : List Char) : Progress :=
  let first := Lexer.next bound n rest
  ⟨first.token, first.here, first.rest, n, [], [], bound⟩

/-- How deep the rules may be nested in a script of a given length: eight levels for each
    character. -/
def depthFor (length : Nat) : Nat := 8 * (length + 2)

/-- **Read a script.** -/
def Program.read (source : List Char) : Except Fault Program :=
  let bound := source.length + 2
  let g := Parser.grammar bound (depthFor source.length)
  let skipped := (Lexer.hashbangLength? source).getD 0
  match (Parser.items g) Surrounding.top (Parser.begin bound skipped (source.drop skipped)) with
  | .error fault _ => .error fault
  | .ok items _ =>
      if anyHalfShorthand (items.map Item.toNode) then .error ⟨.halfShorthand, source.length⟩
      else if !decide (items.flatMap Item.exportedNames).Nodup then
        .error ⟨.repeatedExport, source.length⟩
      else
        .ok ⟨(Lexer.hashbangLength? source).map fun n => ⟨0, n⟩, items⟩

end ModuleBundler.Script
