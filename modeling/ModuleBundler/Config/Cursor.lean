import ModuleBundler.Config.Fault

/-!
# Reading bytes one after the other

A configuration text is read through a cursor, which holds the bytes still to come and the place
that was reached.  A `Reader` is a step that moves the cursor and succeeds or fails; a failed step
leaves the cursor where it failed, because what encloses it may still want to look further.
-/

namespace ModuleBundler.Config

/-- **A cursor** in a text. -/
structure Cursor where
  rest : List UInt8
  place : Place

namespace Cursor

/-- The beginning of a text. -/
def start (text : String) : Cursor :=
  ⟨text.toUTF8.toList, ⟨1, 0⟩⟩

/-- The place behind a byte. -/
def behind (place : Place) (b : UInt8) : Place :=
  if b = 10 then ⟨place.line + 1, 0⟩ else ⟨place.line, place.column + 1⟩

/-- The cursor behind the next `count` bytes, or at the end if there are fewer. -/
def skip (c : Cursor) (count : Nat) : Cursor :=
  ⟨c.rest.drop count, (c.rest.take count).foldl behind c.place⟩

/-- The place behind the next byte, or the end of the text. -/
def ahead (c : Cursor) : Place :=
  (c.skip 1).place

end Cursor

/-- **A step of reading.** -/
abbrev Reader := EStateM Fault Cursor

namespace Reader

/-- The next byte, which is not taken. -/
def peek? : Reader (Option UInt8) := fun c => .ok c.rest.head? c

/-- Pass over a number of bytes. -/
def skip (count : Nat) : Reader Unit := fun c => .ok () (c.skip count)

/-- Take the next byte. -/
def next? : Reader (Option UInt8) := fun c => .ok c.rest.head? (c.skip 1)

/-- Consume and return bytes as long as they belong to a class. -/
def takeWhile (p : UInt8 → Bool) : Reader (List UInt8) := fun c =>
  let taken := c.rest.takeWhile p
  .ok taken (c.skip taken.length)

/-- Fail at the last byte that was taken. -/
def failHere {α : Type} (problem : Problem) : Reader α := fun c =>
  .error ⟨problem, some c.place⟩ c

/-- Fail at the next byte. -/
def failAhead {α : Type} (problem : Problem) : Reader α := fun c =>
  .error ⟨problem, some c.ahead⟩ c

/-- Fail without a place; whoever knows one may add it. -/
def failSomewhere {α : Type} (problem : Problem) : Reader α := fun c =>
  .error ⟨problem, none⟩ c

/-- Give a failure without a place the one that was reached. -/
def placed {α : Type} (read : Reader α) : Reader α := fun c =>
  match read c with
  | .ok a c' => .ok a c'
  | .error fault c' => .error ⟨fault.problem, fault.place.or (some c'.place)⟩ c'

/-- Read something and then its closing mark.  The mark is looked for even if the reading failed,
    and of two failures the first counts. -/
def closedBy {α : Type} (read : Reader α) (close : Reader Unit) : Reader α := fun c =>
  match read c with
  | .ok a c' =>
      match close c' with
      | .ok _ c'' => .ok a c''
      | .error fault c'' => .error fault c''
  | .error fault c' =>
      match close c' with
      | .ok _ c'' => .error fault c''
      | .error _ c'' => .error fault c''

/-- Blanks between tokens. -/
def isBlank (b : UInt8) : Bool :=
  b == 32 || b == 10 || b == 9 || b == 13

/-- The next byte that is no blank; the blanks in front of it are taken. -/
def peekPastBlanks? : Reader (Option UInt8) := do
  let _ ← takeWhile isBlank
  peek?

/-- Consume the remaining letters of a word. -/
def word : List UInt8 → Reader Unit
  | [] => pure ()
  | letter :: rest => do
      match ← next? with
      | none => failHere .endInValue
      | some b => if b = letter then word rest else failHere .noWord

end Reader

/-- The byte of a character. -/
def code (c : Char) : UInt8 := c.toNat.toUInt8

end ModuleBundler.Config
