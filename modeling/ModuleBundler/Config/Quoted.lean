import ModuleBundler.Config.Cursor

/-!
# Quoted texts in a configuration text

A quoted text ends at the next bare quote and holds no control characters.  Escapes stand for one
character each; an escape of the first half of a surrogate pair must be followed by an escape of
the second half.
-/

namespace ModuleBundler.Config

namespace Quoted

/-- The value of a hexadecimal digit. -/
def hexValue? (b : UInt8) : Option Nat :=
  if 48 ≤ b ∧ b ≤ 57 then some (b.toNat - 48)
  else if 65 ≤ b ∧ b ≤ 70 then some (b.toNat - 55)
  else if 97 ≤ b ∧ b ≤ 102 then some (b.toNat - 87)
  else none

/-- The number that hexadecimal digits write. -/
def hexNumber? (digits : List UInt8) : Option Nat :=
  digits.foldlM (fun value b => (hexValue? b).map (value * 16 + ·)) 0

/-- Read four hexadecimal digits. -/
def readUnit : Reader Nat := do
  let c ← get
  let digits := c.rest.take 4
  Reader.skip 4
  if digits.length < 4 then Reader.failHere .endInString
  else match hexNumber? digits with
    | some n => pure n
    | none => Reader.failHere .badEscape

/-- Consume a byte that must come next inside a surrogate pair. -/
def expect (b : UInt8) : Reader Unit := do
  match ← Reader.peek? with
  | none => Reader.failHere .endInString
  | some found => do
      Reader.skip 1
      if found = b then pure () else Reader.failHere .surrogateCutShort

/-- Read the digits of a code point escape, and the second half of a pair after a first. -/
def readPoint : Reader Char := do
  let first ← readUnit
  if 0xDC00 ≤ first ∧ first ≤ 0xDFFF then Reader.failHere .loneSurrogate
  else if first < 0xD800 ∨ 0xDBFF < first then pure (Char.ofNat first)
  else do
    expect (code '\\')
    expect (code 'u')
    let second ← readUnit
    if second < 0xDC00 ∨ 0xDFFF < second then Reader.failHere .loneSurrogate
    else pure (Char.ofNat (0x10000 + (first - 0xD800) * 0x400 + (second - 0xDC00)))

/-- Read an escape, with the cursor behind the backslash. -/
def readEscape : Reader Char := do
  match ← Reader.next? with
  | none => Reader.failHere .endInString
  | some b =>
      if b = code '"' ∨ b = code '\\' ∨ b = code '/' then pure (Char.ofNat b.toNat)
      else if b = code 'b' then pure '\x08'
      else if b = code 'f' then pure '\x0c'
      else if b = code 'n' then pure '\n'
      else if b = code 'r' then pure '\r'
      else if b = code 't' then pure '\t'
      else if b = code 'u' then readPoint
      else Reader.failHere .badEscape

/-- Read what is left of a quoted text, in at most `fuel` stretches. -/
def readStretches : Nat → Reader (List UInt8)
  | 0 => pure []
  | fuel + 1 => do
      let plain ← Reader.takeWhile fun b =>
        b != code '"' && b != code '\\' && decide (32 ≤ b)
      match ← Reader.next? with
      | none => Reader.failHere .endInString
      | some b =>
          if b = code '"' then pure plain
          else if b = code '\\' then do
            let c ← readEscape
            let more ← readStretches fuel
            pure (plain ++ String.utf8EncodeChar c ++ more)
          else Reader.failHere .controlCharacter

/-- **Read a quoted text**, with the cursor behind its first quote. -/
def read : Reader String := do
  let c ← get
  let bytes ← readStretches (c.rest.length + 1)
  pure ((String.fromUTF8? ⟨bytes.toArray⟩).getD "")

end Quoted

end ModuleBundler.Config
