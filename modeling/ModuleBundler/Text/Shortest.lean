/-!
# Shortest decimal of a binary number

A finite binary floating point number `m * 2 ^ q` stands for all reals that are rounded to it.
Its shortest decimal is the one with the fewest digits among these reals, and among several of
that length the one nearest to the number itself.

The search is carried out in whole numbers.  For one digit, two digits and so on, the number lies
between two neighbours on the grid of decimals with that many digits; the first grid of which a
neighbour lies in the interval gives the answer.
-/

namespace ModuleBundler.Text

/-- A positive decimal `digits * 10 ^ exponent`. -/
structure Decimal where
  digits : Nat
  exponent : Int
deriving DecidableEq, Repr

/-- Powers of two. -/
def twoTo (n : Nat) : Nat := Nat.pow 2 n

/-- Powers of ten. -/
def tenTo (n : Nat) : Nat := Nat.pow 10 n

/-- A positive binary number `mantissa * 2 ^ exponent`; `atPowerOfTwo` says that the number below
    it is only half as far away as the one above it. -/
structure Binary where
  mantissa : Nat
  exponent : Int
  atPowerOfTwo : Bool
deriving DecidableEq, Repr

/-- Read the sixty-four bits of a positive finite number. -/
def Binary.ofBits (bits : Nat) : Binary :=
  let fraction := bits % twoTo 52
  let scale : Nat := bits / twoTo 52 % twoTo 11
  if scale = 0 then ⟨fraction, -1074, false⟩
  else ⟨fraction + twoTo 52, (scale : Int) - 1075, fraction == 0 && decide (1 < scale)⟩

namespace Binary

/-- Numerators over one denominator of the number itself and of the ends of its interval. -/
def scaled (b : Binary) : Nat × Nat × Nat × Nat :=
  let up := twoTo b.exponent.toNat
  let down := twoTo (-b.exponent).toNat
  let low := if b.atPowerOfTwo then 4 * b.mantissa - 1 else 4 * b.mantissa - 2
  (4 * b.mantissa * up, low * up, (4 * b.mantissa + 2) * up, 4 * down)

/-- Whether `digits * 10 ^ exponent` lies in the interval; the ends belong to it if the mantissa
    is even. -/
def covers (b : Binary) (d : Decimal) : Bool :=
  let (_, low, high, denominator) := b.scaled
  let tens := tenTo d.exponent.toNat
  let tenths := tenTo (-d.exponent).toNat
  let left := d.digits * tens * denominator
  if b.mantissa % 2 = 0 then
    decide (low * tenths ≤ left) && decide (left ≤ high * tenths)
  else decide (low * tenths < left) && decide (left < high * tenths)

/-- The largest decimal with the given exponent that is not above the number. -/
def floorAt (b : Binary) (exponent : Int) : Nat :=
  let (value, _, _, denominator) := b.scaled
  (value * tenTo (-exponent).toNat) / (denominator * tenTo exponent.toNat)

/-- Whether the number is at least halfway from `digits` to `digits + 1` on a grid; exactly
    halfway counts if `digits` is odd. -/
def roundsUp (b : Binary) (exponent : Int) (digits : Nat) : Bool :=
  let (value, _, _, denominator) := b.scaled
  let left := 2 * value * tenTo (-exponent).toNat
  let right := (2 * digits + 1) * denominator * tenTo exponent.toNat
  decide (right < left) || (left == right && digits % 2 == 1)

/-- The decimal exponent of the number's first digit, searched downwards from `start`. -/
def leadingExponent (b : Binary) : Nat → Int → Int
  | 0, start => start
  | fuel + 1, start => if 0 < b.floorAt start then start else leadingExponent b fuel (start - 1)

/-- The hit on the grid with the given exponent, if there is one. -/
def hitAt (b : Binary) (exponent : Int) : Option Decimal :=
  let below : Decimal := ⟨b.floorAt exponent, exponent⟩
  let above : Decimal := ⟨b.floorAt exponent + 1, exponent⟩
  let belowIn := decide (0 < below.digits) && b.covers below
  let aboveIn := b.covers above
  if belowIn && aboveIn then
    if b.roundsUp exponent below.digits then some above else some below
  else if belowIn then some below
  else if aboveIn then some above
  else none

/-- The first hit with at most `count` more digits, from the grid with exponent `exponent` on. -/
def firstHit (b : Binary) : Nat → Int → Decimal
  | 0, exponent => ⟨b.floorAt exponent, exponent⟩
  | count + 1, exponent => (b.hitAt exponent).getD (firstHit b count (exponent - 1))

/-- Decimal without trailing zeros; a number below `10 ^ 17` has at most seventeen of them. -/
def dropZeros : Nat → Decimal → Decimal
  | 0, d => d
  | fuel + 1, d =>
      if d.digits ≠ 0 ∧ d.digits % 10 = 0 then dropZeros fuel ⟨d.digits / 10, d.exponent + 1⟩
      else d

/-- **The shortest decimal** of a positive number. -/
def shortest (b : Binary) : Decimal :=
  dropZeros 20 (b.firstHit 17 (b.leadingExponent 640 310))

end Binary

/-- **How decimals are written**: positionally, with at least one digit on either side of the
    point, while the point stands within or near the digits, and with an exponent otherwise. -/
structure DecimalStyle where
  /-- The largest place of the point, counted from the first digit, for positional notation. -/
  widest : Int
  /-- The smallest place of the point for positional notation. -/
  narrowest : Int
  /-- Whether an exponent that is not negative is written with a sign. -/
  signed : Bool

/-- Write a positive decimal. -/
def Decimal.write (style : DecimalStyle) (d : Decimal) : String :=
  let digits := Nat.toDigits 10 d.digits
  let point : Int := digits.length + d.exponent
  let zeros (n : Int) := List.replicate n.toNat '0'
  if 0 ≤ d.exponent ∧ point ≤ style.widest then
    String.ofList (digits ++ zeros d.exponent ++ ['.', '0'])
  else if 0 < point ∧ point ≤ style.widest then
    String.ofList (digits.take point.toNat ++ ['.'] ++ digits.drop point.toNat)
  else if style.narrowest ≤ point ∧ point ≤ 0 then
    String.ofList (['0', '.'] ++ zeros (-point) ++ digits)
  else
    let sign := if style.signed && decide (1 ≤ point) then "+" else ""
    let scale := sign ++ toString (point - 1)
    match digits with
    | [] => ""
    | [digit] => String.ofList [digit, 'e'] ++ scale
    | digit :: rest => String.ofList ([digit, '.'] ++ rest ++ ['e']) ++ scale

end ModuleBundler.Text
