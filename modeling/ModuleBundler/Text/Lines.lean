/-!
# Lines

Joining texts with line breaks, cutting a text into its lines, and looking for one text in
another.
-/

namespace ModuleBundler.Text

/-- The texts with one line break between each pair of neighbours. -/
def joinLines (parts : List String) : String :=
  "\n".intercalate parts

/-- Cut a list of characters at every occurrence of `mark`, which belongs to no piece.  There is
    always at least one piece. -/
def cutAt (mark : Char) : List Char → List (List Char)
  | [] => [[]]
  | c :: rest =>
      if c = mark then [] :: cutAt mark rest
      else match cutAt mark rest with
        | [] => [[c]]
        | piece :: pieces => (c :: piece) :: pieces

/-- The lines of a text. -/
def lines (s : String) : List String :=
  (cutAt '\n' s.toList).map String.ofList

/-- What follows `start` in a list of characters that begins with it. -/
def after? : List Char → List Char → Option (List Char)
  | [], rest => some rest
  | _ :: _, [] => none
  | s :: start, c :: rest => if s = c then after? start rest else none

/-- Whether one list of characters occurs within another. -/
def occursIn (part whole : List Char) : Bool :=
  (after? part whole).isSome ||
    match whole with
    | [] => false
    | _ :: rest => occursIn part rest

/-- Cutting never yields an empty list of pieces. -/
theorem cutAt_ne_nil (mark : Char) (cs : List Char) : cutAt mark cs ≠ [] := by
  cases cs with
  | nil => simp [cutAt]
  | cons c rest =>
      simp only [cutAt]
      split
      · simp
      · split <;> simp

end ModuleBundler.Text
