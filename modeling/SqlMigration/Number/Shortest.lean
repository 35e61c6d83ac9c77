import SqlMigration.Number.Binary64

/-!
# Fewest digits

The shortest decimal that reads back to a binary64 magnitude. A magnitude `m · 2^e` is what
every real of its *rounding interval* reads as: the reals nearer to it than to its neighbours,
the ends included exactly when `m` is even (a tie goes to the even significand). When `m` is the
least significand of its binade, the neighbour below is closer, so the interval is narrower
below.

`shortest` tries 1, 2, … 17 significant digits. On the grid of `n` digits, if any point lies in
the interval then so does one of the two points next to the magnitude, so only those two are
tested; the first `n` with a hit wins, and of two hits the nearer one (the lower on a tie).
-/

namespace SqlMigration.Number

/-- A decimal `digits · 10^exp` with `digits > 0`, as chosen for printing. -/
structure Decimal where
  digits : Nat
  exp : Int
  deriving DecidableEq, Repr

/-- The rounding interval of `m · 2^e`, as numerators over a common denominator `den`:
`lo / den` and `hi / den`, with the value `mid / den`, and whether the ends belong to it. -/
structure Interval where
  lo : Nat
  mid : Nat
  hi : Nat
  den : Nat
  closed : Bool
  deriving Repr

/-- The rounding interval of a positive magnitude. -/
def roundingInterval (m : Nat) (e : Int) : Interval :=
  -- scale everything by 4 so that the quarter steps below a binade's least value are whole
  let (a, b) := powTwo e
  let narrow := m = Nat.pow 2 (precision - 1) ∧ e > minExponent
  let mid := 4 * m * a
  let hi := (4 * m + 2) * a
  let lo := if narrow then (4 * m - 1) * a else (4 * m - 2) * a
  ⟨lo, mid, hi, 4 * b, m % 2 = 0⟩

/-- Whether `x / den` lies in the interval. -/
def Interval.contains (iv : Interval) (x : Nat) : Bool :=
  if iv.closed then iv.lo ≤ x ∧ x ≤ iv.hi else iv.lo < x ∧ x < iv.hi

/-- The exponent `k` with `10^k ≤ p / q < 10^(k+1)`, for `p, q > 0`, searched from an
estimate within a bounded number of steps. -/
def floorLog10 (p q : Nat) : Int :=
  -- log10 2 is a little above 0.30103; the estimate is within two of the answer
  let est : Int := ((floorLog2 p q) * 30103) / 100000
  let fits (k : Int) : Bool :=
    let (a, b) := if k ≥ 0 then (Nat.pow 10 k.toNat, 1) else (1, Nat.pow 10 (-k).toNat)
    p * b ≥ q * a
  let cands := [est + 3, est + 2, est + 1, est, est - 1, est - 2, est - 3]
  (cands.find? fits).getD (est - 3)

/-- The grid point of `n` digits tested next to the magnitude, as `(digits, exp)`, if one of
the two neighbours lies in the interval. -/
def gridHit (iv : Interval) (k : Int) : Option Nat :=
  -- the grid has step 10^k; the neighbours are floor and ceiling of mid / 10^k
  let (sa, sb) := if k ≥ 0 then (Nat.pow 10 k.toNat, 1) else (1, Nat.pow 10 (-k).toNat)
  -- a grid point g stands for g · sa / sb, i.e. the numerator g · sa · den / sb over den
  let scaledMid := iv.mid * sb
  let step := sa * iv.den
  let below := scaledMid / step
  let above := if scaledMid % step = 0 then below else below + 1
  let num (g : Nat) : Nat := g * sa * iv.den
  -- compare on the common denominator den · sb
  let inside (g : Nat) : Bool :=
    if iv.closed then iv.lo * sb ≤ num g ∧ num g ≤ iv.hi * sb
    else iv.lo * sb < num g ∧ num g < iv.hi * sb
  match inside below, inside above with
  | true, true =>
    if scaledMid - below * step ≤ above * step - scaledMid then some below else some above
  | true, false => some below
  | false, true => some above
  | false, false => none

/-- The shortest decimal that reads back to the positive magnitude `m · 2^e`. -/
def shortest (m : Nat) (e : Int) : Decimal :=
  let iv := roundingInterval m e
  let top := floorLog10 iv.mid iv.den
  let tries : List Nat := (List.range 17).map (· + 1)
  let pick := tries.findSome? fun (n : Nat) =>
    let k : Int := top - (n : Int) + 1
    (gridHit iv k).map fun g => (⟨g, k⟩ : Decimal)
  -- seventeen digits always hit; the fallback is never reached
  pick.getD ⟨m, 0⟩

/-- The decimal digits of a natural number, most significant first. -/
def digitsOf (n : Nat) : List Char := (Nat.toDigits 10 n)

/-- A decimal without trailing zero digits, its exponent raised to match. -/
def Decimal.trim (d : Decimal) : Decimal :=
  let ds := digitsOf d.digits
  let zeros := (ds.reverse.takeWhile (· = '0')).length
  if d.digits = 0 then d else ⟨d.digits / Nat.pow 10 zeros, d.exp + zeros⟩

end SqlMigration.Number
