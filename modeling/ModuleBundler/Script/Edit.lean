import ModuleBundler.Script.Token

/-!
# Edits

A script is changed by edits to stretches of its characters, and everything between them stays as
it is.

**Effect.**  `splice` applies edits from left to right.  An edit takes effect if it replaces at
least one character and begins behind the edit before it; any other is passed over.
-/

namespace ModuleBundler.Script

/-- **An edit.** -/
inductive Edit where
  /-- Other characters in place of a stretch. -/
  | replace (span : Span) (text : String)
  /-- Characters in front of a position. -/
  | insert (position : Nat) (text : String)
deriving DecidableEq, Repr

namespace Edit

/-- The stretch that the edit takes the place of. -/
def span : Edit → Span
  | .replace s _ => s
  | .insert n _ => ⟨n, n⟩

/-- What it puts there. -/
def text : Edit → String
  | .replace _ t => t
  | .insert _ t => t

/-- Whether the edit can take effect behind a position. -/
def fits (position : Nat) : Edit → Bool
  | .replace s _ => decide (position ≤ s.start) && decide (s.start < s.stop)
  | .insert n _ => decide (position ≤ n)

/-- Take a stretch away. -/
def remove (s : Span) : Edit := .replace s ""

end Edit

/-- **The effect of edits** on the characters from a position on. -/
def splice (position : Nat) (source : List Char) : List Edit → List Char
  | [] => source
  | e :: rest =>
      if e.fits position then
        source.take (e.span.start - position) ++ e.text.toList
          ++ splice e.span.stop (source.drop (e.span.stop - position)) rest
      else splice position source rest

end ModuleBundler.Script
