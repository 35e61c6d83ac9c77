/-!
# Binary64 values

The double-precision numbers: a sign, and either a finite magnitude `m · 2^e` with a
significand below 2^53 and an exponent no smaller than -1074, an infinity, or not-a-number.
`ofRational` rounds an exact positive quotient to the nearest such magnitude, a tie going to
the even significand, and to infinity from 2^1024 on (where rounding would reach it).
`ofDecimal` reads `d · 10^k` that way, which is how decimal texts become numbers.
-/

namespace SqlMigration.Number

/-- A double-precision number. A finite one is `(-1)^neg · m · 2^e`. -/
inductive Binary64 where
  | finite (neg : Bool) (m : Nat) (e : Int)
  | infinity (neg : Bool)
  | nan
  deriving DecidableEq, Repr, Inhabited

/-- The number of significand bits. -/
def precision : Nat := 53

/-- The least exponent of the last significand bit. -/
def minExponent : Int := -1074

/-- The exponent of the last significand bit from which magnitudes overflow. -/
def maxExponent : Int := 971

/-- `n / d` rounded to the nearest natural number, a tie going to the even one. -/
def roundHalfEven (n d : Nat) : Nat :=
  let q := n / d
  let r := n % d
  if 2 * r < d then q else if 2 * r > d then q + 1 else if q % 2 = 0 then q else q + 1

/-- `2^k` for an integer `k`, as a numerator and a denominator. -/
def powTwo (k : Int) : Nat × Nat := if k ≥ 0 then (Nat.pow 2 k.toNat, 1) else (1, Nat.pow 2 (-k).toNat)

/-- The exponent `k` with `2^k ≤ p / q < 2^(k+1)`, for `p, q > 0`. -/
def floorLog2 (p q : Nat) : Int :=
  let k : Int := (Nat.log2 p : Int) - Nat.log2 q
  -- the estimate is `k` or `k - 1`
  let (a, b) := powTwo k
  if p * b ≥ q * a then k else k - 1

/-- A binary floating-point format: the bits of its significands, the least exponent of a
last significand bit, and the exponent of the last bit from which magnitudes overflow. The
values of any such format have the shape of `Binary64`'s. -/
structure FloatFormat where
  bits : Nat
  minExp : Int
  maxExp : Int
  deriving DecidableEq, Repr

/-- The double-precision format. -/
def double : FloatFormat := ⟨precision, minExponent, maxExponent⟩

/-- The 80-bit extended format: 64 significand bits, the leading one among them. -/
def extended : FloatFormat := ⟨64, -16445, 16320⟩

/-- Rounds the positive quotient `p / q` to the nearest magnitude of a format. -/
def roundRational (f : FloatFormat) (neg : Bool) (p q : Nat) : Binary64 :=
  if p = 0 ∨ q = 0 then .finite neg 0 f.minExp
  else
    let e := max (floorLog2 p q - (f.bits - 1 : Nat)) f.minExp
    let (a, b) := powTwo e
    -- the significand is `p / (q · 2^e)`, rounded
    let m := roundHalfEven (p * b) (q * a)
    let (m, e) := if m = Nat.pow 2 f.bits then (m / 2, e + 1) else (m, e)
    if e > f.maxExp then .infinity neg else .finite neg m e

/-- Rounds the positive quotient `p / q` to the nearest binary64 magnitude. -/
def ofRational (neg : Bool) (p q : Nat) : Binary64 := roundRational double neg p q

/-- Rounds `d · 10^k` to the nearest binary64 number. -/
def ofDecimal (neg : Bool) (d : Nat) (k : Int) : Binary64 :=
  if k ≥ 0 then ofRational neg (d * Nat.pow 10 k.toNat) 1 else ofRational neg d (Nat.pow 10 (-k).toNat)

def Binary64.isFinite : Binary64 → Bool
  | .finite .. => true
  | _ => false

/-- The value of a finite number as a signed numerator over a power of two. -/
def Binary64.toRational : Binary64 → Int × Nat
  | .finite neg m e =>
    let (a, b) := powTwo e
    ((if neg then -1 else 1) * (m * a : Nat), b)
  | _ => (0, 1)

/-- The number rounded toward zero to an integer, for a finite number. -/
def Binary64.truncate? : Binary64 → Option Int
  | .finite neg m e =>
    let (a, b) := powTwo e
    let t : Int := (m * a / b : Nat)
    some (if neg then -t else t)
  | _ => none

end SqlMigration.Number
