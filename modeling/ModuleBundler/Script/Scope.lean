import ModuleBundler.Script.Token

/-!
# Scopes

A variable is a number that it gets where its name is first declared.  A scope says which variables
its names stand for, and a script is gone through with the scopes around the current place in hand,
the innermost one first.

**Declaring.**  A name that its scope knows keeps its variable, and any other name gets a new one.

**Hoisting.**  A hoisted variable belongs to the nearest scope that keeps such variables.  If a
scope on the way has the name, that scope loses it and its variable moves along.  Every scope on the
way remembers what passed through it, so that a declaration of the name that comes later there means
the same variable.

**Settling.**  A use waits in the scope where it stands.  When the scope is settled, the uses of its
names get their variables, and the other uses wait in the scope around it.

**Manners of use.**  What replaces a name depends on how it is used: a function that is called must
not be called as a member of something, and a field that is written as a name only must keep its
key.
-/

namespace ModuleBundler.Script

/-! ## Uses -/

/-- **How a name is used.** -/
inductive Manner where
  /-- As a value or a target. -/
  | plain
  /-- As what is called. -/
  | called
  /-- As a field that is written as a name only. -/
  | keyed
deriving DecidableEq, Repr

/-- **A use** of a name, with its place. -/
structure Use where
  name : String
  span : Span
  manner : Manner
deriving DecidableEq, Repr

/-! ## One scope -/

/-- **A variable**, by its number. -/
abbrev Variable := Nat

/-- **A scope.** -/
structure Scope where
  /-- Whether hoisted variables stay here. -/
  keepsHoisted : Bool
  /-- What names stand for here, the latest first. -/
  names : List (String × Variable)
  /-- What hoisted names stand for that passed through here, the latest first. -/
  passed : List (String × Variable)
  /-- The uses that wait to be settled. -/
  uses : List Use
deriving DecidableEq, Repr

namespace Scope

/-- A scope in which nothing is declared yet. -/
def blank (keepsHoisted : Bool) : Scope := ⟨keepsHoisted, [], [], []⟩

/-- The variable of a name that was declared in the scope or passed through it. -/
def known? (s : Scope) (name : String) : Option Variable :=
  (s.names.lookup name).or (s.passed.lookup name)

/-- Let a name stand for a variable. -/
def give (name : String) (v : Variable) (s : Scope) : Scope :=
  { s with names := (name, v) :: s.names }

/-- Let a name stand for nothing. -/
def drop (name : String) (s : Scope) : Scope :=
  { s with names := s.names.filter fun entry => entry.1 != name }

/-- Note that a hoisted variable has passed through. -/
def pass (name : String) (v : Variable) (s : Scope) : Scope :=
  { s with passed := (name, v) :: s.passed }

/-- Let uses wait for the end of the scope. -/
def await (uses : List Use) (s : Scope) : Scope :=
  { s with uses := uses ++ s.uses }

/-- The uses that wait for a name of the scope, with their variables. -/
def settledUses (s : Scope) : List (Use × Variable) :=
  s.uses.filterMap fun u => (s.names.lookup u.name).map fun v => (u, v)

/-- The uses that wait for a name of some other scope. -/
def foreignUses (s : Scope) : List Use :=
  s.uses.filter fun u => (s.names.lookup u.name).isNone

end Scope

/-! ## Scopes inside one another -/

/-- The variable that a hoisted name already has, in the scopes up to the one that keeps it. -/
def hoisted? (name : String) : List Scope → Option Variable
  | [] => none
  | s :: around =>
      (s.known? name).or (if s.keepsHoisted then none else hoisted? name around)

/-- Carry a hoisted variable outwards to the scope that keeps it.  `moved` says that some scope on
    the way has lost its name already. -/
def carry (name : String) (v : Variable) (moved : Bool) : List Scope → List Scope
  | [] => []
  | s :: around =>
      if s.keepsHoisted then s.give name v :: around
      else
        let found := (s.known? name).isSome
        let left := if found && !moved then s.drop name else s
        left.pass name v :: carry name v (moved || found) around

/-- Let uses wait in the innermost scope; outside of all scopes they are lost. -/
def awaitInnermost (uses : List Use) : List Scope → List Scope
  | [] => []
  | s :: around => s.await uses :: around

/-- **How far names are resolved.** -/
structure Resolution where
  /-- The variable that a new name would get. -/
  next : Variable
  /-- The scopes around the current place, the innermost one first. -/
  scopes : List Scope
  /-- The uses whose variables are known. -/
  settled : List (Use × Variable)
  /-- The variables of the names that the script imports, in order. -/
  imports : List Variable
deriving DecidableEq, Repr

namespace Resolution

/-- The beginning of a script. -/
def start : Resolution := ⟨0, [.blank true], [], []⟩

/-- What a name stands for in the innermost scope. -/
def named? (r : Resolution) (name : String) : Option Variable :=
  r.scopes.head?.bind fun s => s.names.lookup name

/-- **Declare** a name in the innermost scope. -/
def declare (r : Resolution) (name : String) : Resolution :=
  match r.scopes with
  | [] => r
  | s :: around =>
      if (s.known? name).isSome then r
      else { r with next := r.next + 1, scopes := s.give name r.next :: around }

/-- Declare names one after the other. -/
def declareAll (r : Resolution) (names : List String) : Resolution := names.foldl declare r

/-- **Declare** a name that is hoisted. -/
def hoist (r : Resolution) (name : String) : Resolution :=
  let v := (hoisted? name r.scopes).getD r.next
  { r with next := r.next + 1, scopes := carry name v false r.scopes }

/-- Hoist names one after the other. -/
def hoistAll (r : Resolution) (names : List String) : Resolution := names.foldl hoist r

/-- Declare a name that is imported. -/
def importName (r : Resolution) (name : String) : Resolution :=
  let r := r.declare name
  let known := r.scopes.head?.bind fun s => s.known? name
  { r with imports := r.imports ++ known.toList }

/-- A use, which waits in the innermost scope. -/
def use (r : Resolution) (u : Use) : Resolution :=
  { r with scopes := awaitInnermost [u] r.scopes }

/-- **Settle** the innermost scope. -/
def settle (r : Resolution) : Resolution :=
  match r.scopes with
  | [] => r
  | s :: around =>
      { r with
        scopes := { s with uses := [] } :: awaitInnermost s.foreignUses around
        settled := s.settledUses ++ r.settled }

/-- Open a scope. -/
def enter (r : Resolution) (keepsHoisted : Bool) : Resolution :=
  { r with scopes := .blank keepsHoisted :: r.scopes }

/-- Close the innermost scope, after its uses are settled. -/
def leave (r : Resolution) : Resolution :=
  let r := r.settle
  { r with scopes := r.scopes.drop 1 }

end Resolution

end ModuleBundler.Script
