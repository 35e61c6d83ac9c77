import SqlMigration.Datum

/-!
# Comparing data

Equality and order of loosely typed values, and sorting by an order that may fail.

Numbers of every kind compare by their exact values, truth values counting as 0 and 1, and a NaN
is neither equal to, less than nor greater than anything. Texts compare by their code points and
lists element by element: the first two elements that are not equal decide, and when there are
none the shorter list is the lesser. Records are equal when they have the same names with equal
values, nothing is equal to a value of another kind, and nothing but a number, a text or a list
has an order: asking whether such a value is less than another, or comparing values of two kinds
with no common order, is an error that names both kinds.

Lists and records cannot be kept in a set; every other value can.
-/

namespace SqlMigration

open Number

/-- Why an operation on a loosely typed value failed. -/
inductive DatumError where
  /-- A value of this kind has no such attribute (a text operation on a non-text). -/
  | noAttribute (kind member : String)
  /-- Values of these two kinds have no order between them. -/
  | unordered (left right : String)
  deriving DecidableEq, Repr

def DatumError.message : DatumError → String
  | .noAttribute k a => Text.quoted k ++ " object has no attribute " ++ Text.quoted a
  | .unordered l r =>
    "'<' not supported between instances of " ++ Text.quoted l ++ " and " ++ Text.quoted r

namespace Datum

/-- A number as comparisons see it: a fraction with a positive denominator, an infinity, or
not a number. -/
inductive Magnitude where
  | fraction (num : Int) (den : Nat)
  | infinite (neg : Bool)
  | nan
  deriving DecidableEq, Repr

/-- The magnitude of a value that is a number; truth values are 0 and 1. -/
def magnitude? : Datum → Option Magnitude
  | .bool b => some (.fraction (if b then 1 else 0) 1)
  | .int n => some (.fraction n 1)
  | .real (.infinity neg) => some (.infinite neg)
  | .real .nan => some .nan
  | .real x => let (p, q) := x.toRational; some (.fraction p q)
  | _ => none

/-- How two magnitudes compare; none when one of them is not a number. -/
def Magnitude.compare? : Magnitude → Magnitude → Option Ordering
  | .nan, _ | _, .nan => none
  | .infinite a, .infinite b => some (compare (!a) (!b))
  | .infinite a, _ => some (if a then .lt else .gt)
  | _, .infinite b => some (if b then .gt else .lt)
  | .fraction p q, .fraction r s => some (compare (p * s) (r * q))

mutual
/-- Whether two values are equal. -/
def same : Datum → Datum → Bool
  | .null, .null => true
  | .text a, .text b => a == b
  | .list xs, .list ys => sameItems xs ys
  | .record fs, .record gs => fs.length == gs.length && sameFields fs gs
  | a, b => match a.magnitude?, b.magnitude? with
    | some x, some y => x.compare? y == some .eq
    | _, _ => false

/-- Whether two lists have equal elements at every place. -/
def sameItems : List Datum → List Datum → Bool
  | [], [] => true
  | x :: xs, y :: ys => same x y && sameItems xs ys
  | _, _ => false

/-- Whether every field of the first record has an equal value under its name in the second. -/
def sameFields : List (String × Datum) → List (String × Datum) → Bool
  | [], _ => true
  | (k, v) :: fs, gs =>
    (match gs.lookup k with
      | some w => same v w
      | none => false) && sameFields fs gs
end

mutual
/-- Whether one value is less than another. -/
def lessThan : Datum → Datum → Except DatumError Bool
  | .text a, .text b => .ok (decide (a < b))
  | .list xs, .list ys => lessItems xs ys
  | a, b => match a.magnitude?, b.magnitude? with
    | some x, some y => .ok (x.compare? y == some .lt)
    | _, _ => .error (.unordered a.kindName b.kindName)

/-- Whether one list is less than another: at the first place where the elements are not
equal, the first list's element is less; with no such place, the first list is shorter. -/
def lessItems : List Datum → List Datum → Except DatumError Bool
  | [], [] => .ok false
  | [], _ :: _ => .ok true
  | _ :: _, [] => .ok false
  | x :: xs, y :: ys => if same x y then lessItems xs ys else lessThan x y
end

/-- Whether a value can be kept in a set: lists and records cannot. -/
def hashable : Datum → Bool
  | .list _ | .record _ => false
  | _ => true

end Datum

end SqlMigration
