import SqlMigration.Number.Shortest

/-!
# Number notation

How a binary64 number is written with the fewest digits that read back: the layout decisions
of a notation are one record (`Notation`), and `Notation.render` applies them. A number whose
decimal point falls within a range of positions is written positionally, otherwise with an
exponent; `Fixed` writes a number with a set count of places instead, rounding the exact value
half to even.
-/

namespace SqlMigration.Number

/-- The layout decisions of a notation. The *point position* of `digits · 10^exp` with `n`
digits is `n + exp`: the count of digits before the decimal point. -/
structure Notation where
  /-- Positional notation is used for point positions above this. -/
  positionalAbove : Int
  /-- … and up to this. -/
  positionalUpTo : Int
  /-- Whether a whole number is written with a `.0`. -/
  pointZero : Bool
  /-- The exponent mark. -/
  expMark : String
  /-- Whether a non-negative exponent is written with `+`. -/
  expPlus : Bool
  /-- The least number of exponent digits. -/
  expWidth : Nat
  /-- The texts of infinity and not-a-number. -/
  infinityText : String
  nanText : String

/-- `n` copies of a character. -/
def fill (n : Nat) (c : Char) : String := String.ofList (List.replicate n c)

/-- The digits and point position of a positive magnitude in a notation. -/
def Notation.renderDecimal (nt : Notation) (d : Decimal) : String :=
  let s := digitsOf d.digits
  let n := s.length
  let pos : Int := n + d.exp
  if nt.positionalAbove < pos ∧ pos ≤ nt.positionalUpTo then
    if pos ≤ 0 then "0." ++ fill (-pos).toNat '0' ++ String.ofList s
    else if pos ≥ n then
      String.ofList s ++ fill (pos.toNat - n) '0' ++ (if nt.pointZero then ".0" else "")
    else String.ofList (s.take pos.toNat) ++ "." ++ String.ofList (s.drop pos.toNat)
  else
    let x := pos - 1
    let ex := toString x.natAbs
    String.ofList (s.take 1) ++ (if n > 1 then "." ++ String.ofList (s.drop 1) else "") ++
      nt.expMark ++ (if x < 0 then "-" else if nt.expPlus then "+" else "") ++
      fill (nt.expWidth - ex.length) '0' ++ ex

/-- A number in a notation, with the fewest digits that read back. -/
def Notation.render (nt : Notation) : Binary64 → String
  | .nan => nt.nanText
  | .infinity neg => (if neg then "-" else "") ++ nt.infinityText
  | .finite neg m e =>
    (if neg then "-" else "") ++
      if m = 0 then (if nt.pointZero then "0.0" else "0")
      else nt.renderDecimal (shortest m e).trim

/-- A finite number with `places` digits after the point, its exact value rounded half to
even; infinities and not-a-number are written as the notation says. -/
def Notation.fixed (nt : Notation) (places : Nat) : Binary64 → String
  | .nan => nt.nanText
  | .infinity neg => (if neg then "-" else "") ++ nt.infinityText
  | .finite neg m e =>
    let (a, b) := powTwo e
    let q := roundHalfEven (m * a * Nat.pow 10 places) b
    let s := toString q
    let s := fill (places + 1 - s.length) '0' ++ s
    let whole := s.take (s.length - places)
    let frac := s.drop (s.length - places)
    (if neg then "-" else "") ++ whole ++ (if places = 0 then "" else "." ++ frac)

end SqlMigration.Number
