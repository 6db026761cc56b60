import ModuleBundler.Config.Number
import ModuleBundler.Config.Quoted

/-!
# Records with optional fields

A record is written as an object with any of its fields in any order, or as a list of all of its
fields in order.  A field that is left out, or is null, is not set.  An object with a field that
the record does not have, or with one field twice, is refused.

`Shape` describes a record: its name, and for each field a reader that says how the field's value
changes the record.
-/

namespace ModuleBundler.Config

/-- **The shape of a record** of type `α`: its name in messages, the record without any field set,
    and for each field the reader of its value. -/
structure Shape (α : Type) where
  name : String
  blank : α
  fields : List (String × Reader (α → α))

namespace Reader

/-- Fail because of the value that comes next, which is read to its end if it is a simple one. -/
def failKind {α : Type} (wanted : String) : Reader α := placed do
  let wrong (found : Found) : Reader α := failSomewhere (.wrongKind found wanted)
  match ← peek? with
  | none => failAhead .noValue
  | some b =>
      if b = code 'n' then do skip 1; word ("ull".toUTF8.toList); wrong .null
      else if b = code 't' then do skip 1; word ("rue".toUTF8.toList); wrong (.boolean true)
      else if b = code 'f' then do skip 1; word ("alse".toUTF8.toList); wrong (.boolean false)
      else if b = code '-' then do skip 1; wrong (← Number.read false).found
      else if Number.isDigit b then do wrong (← Number.read true).found
      else if b = code '"' then do skip 1; wrong (.text (← Quoted.read))
      else if b = code '[' then wrong .sequence
      else if b = 123 then wrong .map
      else failAhead .noValue

/-- Read a quoted text; any other value is refused. -/
def text (wanted : String) : Reader String := do
  match ← peekPastBlanks? with
  | none => failAhead .endInValue
  | some b =>
      if b = code '"' then do skip 1; Quoted.read
      else failKind wanted

/-- Read a value or null. -/
def optional {α : Type} (read : Reader α) : Reader (Option α) := do
  if (← peekPastBlanks?) = some (code 'n') then do
    skip 1
    word ("ull".toUTF8.toList)
    pure none
  else do pure (some (← read))

/-- Whether a list has a further item, with the cursor in front of it. -/
def hasItem (first : Bool) : Reader Bool := do
  match ← peekPastBlanks? with
  | none => failAhead .endInList
  | some b =>
      if b = code ']' then pure false
      else if first then pure true
      else if b = code ',' then do
        skip 1
        match ← peekPastBlanks? with
        | none => failAhead .endInValue
        | some b => if b = code ']' then failAhead .trailingComma else pure true
      else failAhead .noListSeparator

/-- The end of a list. -/
def endOfList : Reader Unit := do
  match ← peekPastBlanks? with
  | none => failAhead .endInList
  | some b =>
      if b = code ']' then skip 1
      else if b = code ',' then do
        skip 1
        if (← peekPastBlanks?) = some (code ']') then failAhead .trailingComma
        else failAhead .trailingText
      else failAhead .trailingText

/-- The name of the next field of an object, if there is one. -/
def fieldName? (first : Bool) : Reader (Option String) := do
  let quotedName : Option UInt8 → Reader (Option String)
    | none => failAhead .endInValue
    | some b =>
        if b = code '"' then do skip 1; pure (some (← Quoted.read))
        else if b = 125 then failAhead .trailingComma
        else failAhead .keyWithoutQuotes
  match ← peekPastBlanks? with
  | none => failAhead .endInObject
  | some b =>
      if b = 125 then pure none
      else if first then quotedName (some b)
      else if b = code ',' then do skip 1; quotedName (← peekPastBlanks?)
      else failAhead .noObjectSeparator

/-- The colon behind the name of a field. -/
def colon : Reader Unit := do
  match ← peekPastBlanks? with
  | none => failAhead .endInObject
  | some b => if b = code ':' then skip 1 else failAhead .noColon

/-- The end of an object. -/
def endOfObject : Reader Unit := do
  match ← peekPastBlanks? with
  | none => failAhead .endInObject
  | some b =>
      if b = 125 then skip 1
      else if b = code ',' then failAhead .trailingComma
      else failAhead .trailingText

end Reader

namespace Shape

variable {α : Type}

/-- What a fault calls a record of the shape. -/
def title (shape : Shape α) : String := "struct " ++ shape.name

/-- Read the items of a list into the fields, in order. -/
def readItems (shape : Shape α) : Nat → List (String × Reader (α → α)) → α → Reader α
  | _, [], record => pure record
  | done, (_, read) :: rest, record => do
      if ← Reader.hasItem (done == 0) then do
        let change ← read
        readItems shape (done + 1) rest (change record)
      else Reader.failSomewhere (.wrongLength done shape.title shape.fields.length)

/-- Read at most `fuel` fields of an object; `seen` holds the names that occurred. -/
def readFields (shape : Shape α) : Nat → List String → α → Reader α
  | 0, _, record => pure record
  | fuel + 1, seen, record => do
      match ← Reader.fieldName? (seen == []) with
      | none => pure record
      | some name =>
          match (shape.fields.find? (·.1 == name)).map Prod.snd with
          | none =>
              Reader.failSomewhere (.unknownField name (shape.fields.map Prod.fst))
          | some read => do
              if name ∈ seen then Reader.failSomewhere (.repeatedField name)
              Reader.colon
              let change ← read
              readFields shape fuel (name :: seen) (change record)

/-- **Read a record.** -/
def read (shape : Shape α) : Reader α := do
  match ← Reader.peekPastBlanks? with
  | none => Reader.failAhead .endInValue
  | some b =>
      if b = code '[' then Reader.placed do
        Reader.skip 1
        Reader.closedBy (shape.readItems 0 shape.fields shape.blank) Reader.endOfList
      else if b = 123 then Reader.placed do
        Reader.skip 1
        let c ← get
        Reader.closedBy (shape.readFields (c.rest.length + 1) [] shape.blank)
          Reader.endOfObject
      else Reader.failKind shape.title

end Shape

end ModuleBundler.Config
