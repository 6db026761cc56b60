/-!
# Amounts with two decimals

Sizes are reported in units of 1024 bytes and times in thousandths of a second, both with two
decimals.  The exact quotient is rounded to the nearest hundredth, and a quotient halfway between
two hundredths goes to the even one.
-/

namespace ModuleBundler.Text

/-- The quotient to the nearest whole number, halves to the even neighbour. -/
def roundedQuotient (numerator denominator : Nat) : Nat :=
  let whole := numerator / denominator
  let rest := 2 * (numerator % denominator)
  if rest < denominator then whole
  else if rest = denominator ∧ whole % 2 = 0 then whole
  else whole + 1

/-- A number of hundredths with a point. -/
def hundredths (n : Nat) : String :=
  toString (n / 100) ++ "." ++ toString (n / 10 % 10) ++ toString (n % 10)

/-- A number of bytes in units of 1024, rounded to hundredths. -/
def kilobytes (bytes : Nat) : String :=
  hundredths (roundedQuotient (bytes * 100) 1024)

/-- A number of nanoseconds in thousandths of a second. -/
def milliseconds (nanoseconds : Nat) : String :=
  hundredths (roundedQuotient (nanoseconds * 100) 1000000)

end ModuleBundler.Text
