import SqlMigration.Number.Notation
import SqlMigration.Number.Literal

/-!
# Data

A loosely typed value, as a database row or a set of connection settings holds it: nothing, a
truth value, an integer, a binary64 number, a text, a list, or a record of named values. The
tool reads such values into its own types by a few conversions: `Datum.text` (the text of a
value as messages show it), `Datum.repr` (its literal form), `Datum.truthy` (nothing, false,
zero and empty values are false), and `Datum.toInt` (an integer from an integer, a truth value,
a finite number rounded toward zero, or an integer literal).
-/

namespace SqlMigration

open Number

/-- A loosely typed value. -/
inductive Datum where
  | null
  | bool (b : Bool)
  | int (n : Int)
  | real (x : Binary64)
  | text (s : String)
  | list (xs : List Datum)
  | record (fields : List (String × Datum))
  deriving Repr, Inhabited

namespace Datum

/-- Numbers in a value's text take the fewest digits that read back, positionally for point
positions from -3 to 16 and with a signed exponent of at least two digits otherwise; a whole
number keeps a `.0`. -/
def numberLayout : Notation :=
  { positionalAbove := -4, positionalUpTo := 16, pointZero := true, expMark := "e",
    expPlus := true, expWidth := 2, infinityText := "inf", nanText := "nan" }

mutual
/-- The literal form of a value. -/
def repr : Datum → String
  | .null => "None"
  | .bool b => if b then "True" else "False"
  | .int n => toString n
  | .real x => numberLayout.render x
  | .text s => Text.quoted s
  | .list xs => "[" ++ reprItems xs ++ "]"
  | .record fs => "\x7b" ++ reprFields fs ++ "\x7d"

/-- The literal forms of list items, separated by commas. -/
def reprItems : List Datum → String
  | [] => ""
  | [x] => repr x
  | x :: xs => repr x ++ ", " ++ reprItems xs

/-- The literal forms of record fields, separated by commas. -/
def reprFields : List (String × Datum) → String
  | [] => ""
  | [(k, v)] => Text.quoted k ++ ": " ++ repr v
  | (k, v) :: fs => Text.quoted k ++ ": " ++ repr v ++ ", " ++ reprFields fs
end

/-- The text of a value as messages show it: a text as itself, anything else literally. -/
def asText : Datum → String
  | .text s => s
  | d => d.repr

/-- Whether a value counts as true: nothing, false, zero and empty values do not. -/
def truthy : Datum → Bool
  | .null => false
  | .bool b => b
  | .int n => n ≠ 0
  | .real (.finite _ m _) => m ≠ 0
  | .real _ => true
  | .text s => !s.isEmpty
  | .list xs => !xs.isEmpty
  | .record fs => !fs.isEmpty

/-- The name of a value's kind, as type errors name it. -/
def kindName : Datum → String
  | .null => "NoneType"
  | .bool _ => "bool"
  | .int _ => "int"
  | .real _ => "float"
  | .text _ => "str"
  | .list _ => "list"
  | .record _ => "dict"

end Datum

/-- Why a value has no integer. -/
inductive IntError where
  /-- A value of a kind that has none. -/
  | wrongKind (kind : String)
  /-- A text that is no integer literal. -/
  | badText (e : IntTextError)
  /-- An infinite number. -/
  | infinite
  /-- Not a number. -/
  | notANumber
  deriving DecidableEq, Repr

def IntError.message : IntError → String
  | .wrongKind k =>
    "int() argument must be a string, a bytes-like object or a real number, not " ++
      Text.quoted k
  | .badText e => e.message
  | .infinite => "cannot convert float infinity to integer"
  | .notANumber => "cannot convert float NaN to integer"

def Datum.toInt : Datum → Except IntError Int
  | .int n => .ok n
  | .bool b => .ok (if b then 1 else 0)
  | .real x =>
    match x with
    | .infinity _ => .error .infinite
    | .nan => .error .notANumber
    | x => .ok (x.truncate?.getD 0)
  | .text s => (readInt s).mapError .badText
  | d => .error (.wrongKind d.kindName)

end SqlMigration
