import ModuleBundler.Config.Cursor

/-!
# Numbers in a configuration text

No field of a configuration is a number, but a number that stands where a text is wanted is read to
its end and shown in the message.  Whole numbers that fit into sixty-four bits stay whole; all
others become binary floating point numbers.

**Significand.**  The first digits are gathered in a whole number below `2 ^ 64`.  The digits that
would overflow it are left out: before the point each of them counts in the exponent, behind the
point they count for nothing.

**Scaling.**  The significand is multiplied with or divided by a power of ten, in floating point.
-/

namespace ModuleBundler.Config

/-- **A number** of a configuration text. -/
inductive Number where
  | whole (n : Int)
  | decimal (x : Float)

/-- What a fault calls a number. -/
def Number.found : Number → Found
  | .whole n => .integer n
  | .decimal x => .decimal x

namespace Number

/-- Digits. -/
def isDigit (b : UInt8) : Bool :=
  decide (48 ≤ b) && decide (b ≤ 57)

/-- The value of a digit. -/
def digit (b : UInt8) : Nat := b.toNat - 48

/-- Gather digits while the result stays within a bound; the result and the digits left over. -/
def gather (bound : Nat) : Nat → List UInt8 → Nat × List UInt8
  | value, [] => (value, [])
  | value, b :: rest =>
      let next := value * 10 + digit b
      if bound < next then (value, b :: rest) else gather bound next rest

/-- The largest significand that digits are gathered to. -/
def widest : Nat := Text.twoTo 64 - 1

/-- Scale by a power of ten, far powers in several divisions; none if the result is too
    large. -/
def scale : Nat → Float → Int → Option Float
  | 0, x, _ => some x
  | fuel + 1, x, exponent =>
      if exponent.natAbs < 309 then
        let power := Float.ofScientific 1 false exponent.natAbs
        if 0 ≤ exponent then
          let y := x * power
          if y.isInf then none else some y
        else some (x / power)
      else if x == 0.0 then some x
      else if 0 ≤ exponent then none
      else scale fuel (x / 1e308) (exponent + 308)

/-- The number with a sign, a significand and an exponent. -/
def ofParts (positive : Bool) (significand : Nat) (exponent : Int) : Reader Number := do
  match scale 4 (Float.ofNat significand) exponent with
  | none => Reader.failHere .numberTooLarge
  | some x => pure (.decimal (if positive then x else -x))

/-- The largest exponent that digits are gathered to. -/
def widestExponent : Nat := Text.twoTo 31 - 1

/-- Read an exponent, with the cursor at its letter. -/
def readExponent (positive : Bool) (significand : Nat) (exponent : Int) : Reader Number := do
  Reader.skip 1
  let sign ← Reader.peek?
  if sign = some (code '+') ∨ sign = some (code '-') then Reader.skip 1
  let upward := sign ≠ some (code '-')
  match ← Reader.next? with
  | none => Reader.failHere .endInValue
  | some b =>
      if !isDigit b then Reader.failHere .badNumber
      else
        let c ← get
        let digits := c.rest.takeWhile isDigit
        let (value, left) := gather widestExponent (digit b) digits
        if left = [] then
          Reader.skip digits.length
          ofParts positive significand (if upward then exponent + value else exponent - value)
        else if significand ≠ 0 ∧ upward then
          Reader.skip (digits.length - left.length + 1)
          Reader.failHere .numberTooLarge
        else
          Reader.skip digits.length
          pure (.decimal (if positive then 0.0 else -0.0))

/-- What may follow the digits of a number: an exponent or nothing. -/
def readTail (positive : Bool) (significand : Nat) (exponent : Int) : Reader Number := do
  let b ← Reader.peek?
  if b = some (code 'e') ∨ b = some (code 'E') then readExponent positive significand exponent
  else ofParts positive significand exponent

/-- Read the digits behind a point, with the cursor at the point. -/
def readFraction (positive : Bool) (significand : Nat) (exponent : Int) : Reader Number := do
  Reader.skip 1
  let digits ← Reader.takeWhile isDigit
  if digits = [] then
    match ← Reader.peek? with
    | some _ => Reader.failAhead .badNumber
    | none => Reader.failAhead .endInValue
  else
    let (value, left) := gather widest significand digits
    readTail positive value (exponent - (digits.length - left.length : Nat))

/-- A whole number, unless it has a sign and is zero or too large. -/
def ofSignificand (positive : Bool) (significand : Nat) : Number :=
  if positive then .whole significand
  else if significand = 0 ∨ Text.twoTo 63 < significand then .decimal (-(Float.ofNat significand))
  else .whole (-(significand : Int))

/-- What follows the digits before the point. -/
def readRest (positive : Bool) (significand : Nat) (leftOut : Nat) : Reader Number := do
  let b ← Reader.peek?
  if b = some (code '.') then readFraction positive significand leftOut
  else if b = some (code 'e') ∨ b = some (code 'E') then
    readExponent positive significand leftOut
  else if leftOut = 0 then pure (ofSignificand positive significand)
  else ofParts positive significand leftOut

/-- **Read a number**, with the cursor behind its sign. -/
def read (positive : Bool) : Reader Number := do
  match ← Reader.next? with
  | none => Reader.failHere .endInValue
  | some b =>
      if b = code '0' then
        match ← Reader.peek? with
        | some d => if isDigit d then Reader.failAhead .badNumber else readRest positive 0 0
        | none => readRest positive 0 0
      else if isDigit b then
        let digits ← Reader.takeWhile isDigit
        let (value, left) := gather widest (digit b) digits
        readRest positive value left.length
      else Reader.failHere .badNumber

end Number

end ModuleBundler.Config
