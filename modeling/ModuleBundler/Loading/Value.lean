import ModuleBundler.OrderedMap
import ModuleBundler.Text.Quoted

/-!
# Exported values

What a module exports is an ordered map from names to plain values.  Values have a compact text,
in which the fields of a record stand in the order in which they were first set.
-/

namespace ModuleBundler.Loading

/-- **A plain value.** -/
inductive Value where
  | null
  | bool (b : Bool)
  | int (n : Int)
  | text (s : String)
  | list (items : List Value)
  | record (fields : List (String × Value))

instance : Inhabited Value := ⟨.null⟩

/-- **What a module exports.** -/
abbrev Exports := OrderedMap String Value

/-- Texts with commas between them. -/
def commaSeparated (parts : List String) : String :=
  ",".intercalate parts

mutual

/-- The compact text of a value. -/
def Value.write : Value → String
  | .null => "null"
  | .bool true => "true"
  | .bool false => "false"
  | .int n => toString n
  | .text s => Text.quoted s
  | .list items => "[" ++ commaSeparated (writeItems items) ++ "]"
  | .record fields => "\x7b" ++ commaSeparated (writeFields fields) ++ "\x7d"

/-- The texts of the items of a list. -/
def writeItems : List Value → List String
  | [] => []
  | v :: rest => v.write :: writeItems rest

/-- The texts of the fields of a record. -/
def writeFields : List (String × Value) → List String
  | [] => []
  | (name, v) :: rest => (Text.quoted name ++ ":" ++ v.write) :: writeFields rest

end

/-- The text of exports. -/
def writeExports (exports : Exports) : String :=
  (Value.record exports.toList).write

end ModuleBundler.Loading
