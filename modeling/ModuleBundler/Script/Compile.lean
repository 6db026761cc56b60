import ModuleBundler.Compiler
import ModuleBundler.Script.Edit
import ModuleBundler.Script.Prelude
import ModuleBundler.Script.Read

/-!
# The compiler of scripts

`Script.compile` turns a script with imports and exports into the body of a module.

**What changes.**  Imports and exports of names disappear, and so does the word `export` in front
of a declaration.  A default export that declares no name becomes an assignment.  Every use of an
imported name becomes a read of its module.

**What stays.**  Every other character, in its place.

**Breakdowns.**  A default export of a class without a name whose decorators stand in front of the
word `export` cannot become an assignment, and compiling it breaks down.
-/

namespace ModuleBundler.Script

/-- The edit for a use of a name that is read by an expression. -/
def Use.edit (u : Use) (value : String) : Edit :=
  match u.manner with
  | .plain => .replace u.span value
  | .called => .replace u.span ("(0, " ++ value ++ ")")
  | .keyed => .replace u.span (u.name ++ ": " ++ value)

/-- The edits for the uses of imported names. -/
def Linkage.useEdits (l : Linkage) (r : Resolution) : List Edit :=
  r.settled.filterMap fun entry => (l.access? r entry.2).map entry.1.edit

/-- What is put behind the value of a default export that ends in front of a position. -/
def closingEdit (value : Span) (stop : Nat) : Edit :=
  if value.stop < stop then .replace ⟨value.stop, stop⟩ ";" else .insert value.stop ";"

/-- **The edits for an item**, apart from the names that it uses. -/
def Item.edits : Item → List Edit
  | .importing s _ _ => [.remove s]
  | .reexport s _ _ => [.remove s]
  | .reexportAll s _ _ => [.remove s]
  | .exportNames s _ => [.remove s]
  | .exportDeclaration s d => [.remove ⟨s.start, d.span.start⟩]
  | .exportDefault s v =>
      if v.declaredNames.isEmpty then
        [.replace ⟨s.start, v.span.start⟩ "exports.default = ", closingEdit v.span s.stop]
      else [.remove ⟨s.start, v.span.start⟩]
  | .statement _ => []

/-- **The edits for a script**, from left to right. -/
def Linkage.edits (l : Linkage) (r : Resolution) (p : Program) : List Edit :=
  ((p.hashbang.map Edit.remove).toList ++ p.items.flatMap Item.edits ++ l.useEdits r).mergeSort
    fun a b => decide (a.span.start ≤ b.span.start)

/-- **The body of a module** for a script that was read. -/
def Program.lower (source : List Char) (p : Program) : CompiledModule :=
  let r := Resolution.ofItems p.items
  let l := Linkage.ofItems r p.items
  ⟨l.prelude ++ String.ofList (splice 0 source (l.edits r p)), l.sources⟩

/-- Whether a default export is to become an assignment but its value begins in front of it, at a
    decorator.  There is no stretch that the assignment could take the place of. -/
def Item.beginsInside : Item → Bool
  | .exportDefault s v => v.declaredNames.isEmpty && decide (v.span.start < s.start)
  | _ => false

/-- The error for a script that cannot be read. -/
def Fault.error (id : ModuleId) (f : Fault) : BuildError :=
  match f.cause with
  | .breakdown text => .breakdown text
  | _ => .compile id f.message

/-- **The compiler of scripts.** -/
def compile : Compiler := fun id source =>
  match Program.read source.toList with
  | .error fault => .error [fault.error id]
  | .ok p =>
      if p.items.any Item.beginsInside then .error [.breakdown "assertion failed: start < end"]
      else .ok (p.lower source.toList)

end ModuleBundler.Script
