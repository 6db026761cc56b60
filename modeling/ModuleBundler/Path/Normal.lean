import ModuleBundler.Path.Basic

/-!
# Normal form and relative position

**Normal form.**  `Path.normal` carries out the steps of a path on paper: `.` stays, `..` takes
the last name back.  At the root there is nothing to take back and `..` is dropped; at the front
of a relative path it is kept.  The walk is a fold over the components, so a path can be cut
anywhere and its parts be carried out one after the other.

**Relative position.**  `Path.relativeTo` says how to get from one place to another: one `..` for
every name of the base that the target does not share, then the rest of the target.  A relative
path on either side is read from the root.
-/

namespace ModuleBundler

namespace Path

/-- Carry out one step, on the names walked so far, the latest first. -/
def walk (absolute : Bool) (walked : List Component) : Component → List Component
  | .root => walked
  | .here => walked
  | .up =>
      match walked with
      | .name _ :: rest => rest
      | _ => if absolute then walked else .up :: walked
  | .name text => .name text :: walked

/-- Carry out all steps of a path, the latest first in the result. -/
def walked (p : Path) : List Component :=
  p.components.foldl (walk p.isAbsolute) []

/-- The text of one step. -/
def Component.text : Component → String
  | .root => ""
  | .here => "."
  | .up => ".."
  | .name text => text

/-- Steps with separators between them. -/
def stepsText (steps : List Component) : String :=
  "/".intercalate (steps.map Component.text)

/-- **The normal form.**  Absolute paths stay absolute; a relative path without any step left is
    `.`. -/
def normal (p : Path) : Path :=
  let steps := p.walked.reverse
  if p.isAbsolute then ⟨"/" ++ stepsText steps⟩
  else if steps = [] then ⟨"."⟩
  else ⟨stepsText steps⟩

/-- The path, read from the root if it is relative. -/
def fromRoot (p : Path) : Path :=
  if p.isAbsolute then p else ⟨"/" ++ p.text⟩

/-- Where the path leads: the names on the way from the root. -/
def place (p : Path) : List Component :=
  p.fromRoot.walked.reverse

/-- From the place `base` to the place `target`: out of what they do not share, then in. -/
def route : List Component → List Component → List Component
  | b :: base, t :: target =>
      if b = t then route base target
      else (b :: base).map (fun _ => .up) ++ t :: target
  | base, target => base.map (fun _ => .up) ++ target

/-- **The relative position** of `target` as seen from `base`; empty if they are one place. -/
def relativeTo (target base : Path) : Path :=
  ⟨stepsText (route base.place target.place)⟩

end Path

end ModuleBundler
