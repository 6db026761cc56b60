import ModuleBundler.Text.Lines

/-!
# Paths as texts

A path is a text whose segments are separated by `/`; it is absolute if it begins with one.
Nothing is looked up in a file store here, and apart from `Path.normal` (in its own module)
nothing is changed: a path keeps the spelling it was given.

**Components.**  `Path.components` reads a path as steps: an empty segment or a `.` is no step,
except that a leading `.` of a relative path counts.

**Composition.**  `Path.join` puts one path behind another; an absolute second path replaces the
first.  Joining the empty path leaves a trailing separator behind.

**Decomposition.**  `Path.parent?` cuts the last component off, together with the separators and
`.` segments around it, and leaves the spelling of the rest alone.  `Path.stem?` is the last
component without its extension.
-/

namespace ModuleBundler

/-- **A path**, in the spelling it was given. -/
structure Path where
  text : String
deriving DecidableEq, Repr

namespace Path

instance : Inhabited Path := ⟨⟨""⟩⟩

/-- One step of a path. -/
inductive Component where
  | root
  | here
  | up
  | name (text : String)
deriving DecidableEq, Repr

/-- The characters between separators, empty segments included. -/
def rawSegments (p : Path) : List (List Char) :=
  Text.cutAt '/' p.text.toList

/-- Whether the path begins at the root. -/
def isAbsolute (p : Path) : Bool :=
  p.text.toList.head? == some '/'

/-- The step a segment stands for, if any. -/
def stepOf (segment : List Char) : Option Component :=
  if segment = [] then none
  else if segment = ['.'] then none
  else if segment = ['.', '.'] then some .up
  else some (.name (String.ofList segment))

/-- The steps of the path. -/
def components (p : Path) : List Component :=
  if p.isAbsolute then .root :: p.rawSegments.filterMap stepOf
  else match p.rawSegments with
    | ['.'] :: rest => .here :: rest.filterMap stepOf
    | segments => segments.filterMap stepOf

/-- The second path read from the first: an absolute second path stands alone, any other is put
    behind a separator. -/
def join (p q : Path) : Path :=
  if q.isAbsolute then q
  else if p.text.toList = [] then q
  else if p.text.toList.getLast? = some '/' then ⟨p.text ++ q.text⟩
  else ⟨p.text ++ "/" ++ q.text⟩

/-- Segments from the last to the first, without the trailing ones that are no step.  The first
    segment of the path, which tells whether it is absolute, stays. -/
def dropFiller : List (List Char) → List (List Char)
  | [] => []
  | [segment] => [segment]
  | segment :: next :: rest =>
      if segment = [] ∨ segment = ['.'] then dropFiller (next :: rest)
      else segment :: next :: rest

/-- The text of a path given by its segments from the last to the first. -/
def spell (segments : List (List Char)) : Path :=
  match segments with
  | [[]] => ⟨"/"⟩
  | _ => ⟨String.ofList (['/'].intercalate segments.reverse)⟩

/-- The path without its last component; neither the root nor the empty path has a parent. -/
def parent? (p : Path) : Option Path :=
  match dropFiller p.rawSegments.reverse with
  | [] => none
  | [[]] => none
  | [_] => some ⟨""⟩
  | _ :: rest => some (spell (dropFiller rest))

/-- The parent, the parent's parent and so on, nearest first, at most `limit` of them. -/
def ancestorsUpTo : Nat → Path → List Path
  | 0, _ => []
  | limit + 1, p =>
      match p.parent? with
      | none => []
      | some q => q :: ancestorsUpTo limit q

/-- Every proper ancestor, nearest first: a parent is shorter than its path. -/
def ancestors (p : Path) : List Path :=
  ancestorsUpTo (p.text.length + 1) p

/-- The last component, if it is a name. -/
def fileName? (p : Path) : Option String :=
  match p.components.getLast? with
  | some (.name text) => some text
  | _ => none

/-- A file name without its extension, which begins at the last dot; a name whose only dot comes
    first has none. -/
def stemOf (name : List Char) : List Char :=
  match (name.reverse.dropWhile (· ≠ '.')).drop 1 with
  | [] => name
  | stem => stem.reverse

/-- The file name without its ending. -/
def stem? (p : Path) : Option String :=
  p.fileName?.map fun name => String.ofList (stemOf name.toList)

/-- The stem, or the whole text of a path that has none. -/
def stemOrText (p : Path) : String :=
  p.stem?.getD p.text

/-- **What a file is called.**  Usually its stem; a file named `index` or `mod` is called after
    its directory, if that has a name. -/
def callName (p : Path) : String :=
  let name := p.stemOrText
  if name = "index" ∨ name = "mod" then (p.parent?.bind stem?).getD name else name

end Path

end ModuleBundler
