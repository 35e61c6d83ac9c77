import SqlMigration.Number.Binary64
import SqlMigration.Text.Blank
import SqlMigration.Text.Digit
import SqlMigration.Text.Quoted

/-!
# Number literals

Reading integers and decimal numbers from text, as command-line options and catalog values are
read. Blank characters around the literal are ignored, and a decimal digit of any script counts
as that digit.

An integer literal is an optional sign and decimal digits, where single underscores may stand
between digits. More than 4300 digits are refused as too long to convert.

A decimal literal is an optional sign and either `inf`, `infinity` or `nan` in any case, or
digits with an optional fraction and exponent, at least one digit before the exponent, again
with single underscores allowed between digits. It becomes the nearest binary64 number.
-/

namespace SqlMigration.Number

/-- The character a literal's character reads as: ASCII as itself, other blanks as a space,
decimal digits of any script as the ASCII digit, and anything else as nothing readable. -/
def normalChar (c : Char) : Option Char :=
  if c.toNat < 0x80 then some c
  else if Text.isBlank c then some ' '
  else match Text.decimalValue? c with
    | some v => some (Char.ofNat (0x30 + v))
    | none => none

/-- The characters of a literal as they are read: each as `normalChar` reads it, up to the
first that is not readable, which reads as `?` and ends the literal. -/
def readableChars : List Char → List Char
  | [] => []
  | c :: cs => match normalChar c with
    | some d => d :: readableChars cs
    | none => ['?']

/-- Whether a character is white space at the ends of a literal: the ASCII space, tab, line
feed, vertical tab, form feed and carriage return. -/
def isEndSpace (c : Char) : Bool :=
  c = ' ' ∨ c = '\t' ∨ c = '\n' ∨ c = '\x0b' ∨ c = '\x0c' ∨ c = '\r'

/-- The readable form of a literal, without white space at its ends. -/
def normalForm (s : String) : List Char :=
  ((readableChars s.toList).dropWhile isEndSpace).reverse.dropWhile isEndSpace |>.reverse

def isAsciiDigit (c : Char) : Bool := '0' ≤ c && c ≤ '9'

/-- The digits of a run in which single underscores stand between digits, or none if an
underscore stands elsewhere. -/
def digitRun : List Char → Option (List Char)
  | [] => some []
  | [c] => if isAsciiDigit c then some [c] else none
  | c :: '_' :: d :: rest =>
    if isAsciiDigit c ∧ isAsciiDigit d then (digitRun (d :: rest)).map (c :: ·) else none
  | c :: rest => if isAsciiDigit c then (digitRun rest).map (c :: ·) else none

/-- The value of ASCII digits. -/
def digitsValue (ds : List Char) : Nat := ds.foldl (fun a c => a * 10 + (c.toNat - 48)) 0

/-- Why a text is no integer literal. -/
inductive IntTextError where
  /-- Not a literal; the text as its quoted literal shows it, cut to 200 characters. -/
  | invalid (shown : String)
  /-- A literal of too many digits, and their count. -/
  | tooLong (digits : Nat)
  deriving DecidableEq, Repr

/-- The most digits an integer literal may have. -/
def maxIntDigits : Nat := 4300

def IntTextError.message : IntTextError → String
  | .invalid shown => "invalid literal for int() with base 10: " ++ shown
  | .tooLong n => "Exceeds the limit (" ++ toString maxIntDigits ++
      " digits) for integer string conversion: value has " ++ toString n ++
      " digits; use sys.set_int_max_str_digits() to increase the limit"

/-- A sign and the rest of a literal. -/
def splitSign : List Char → Bool × List Char
  | '-' :: rest => (true, rest)
  | '+' :: rest => (false, rest)
  | cs => (false, cs)

/-- Whether underscores in a run of digits and underscores stand singly between digits. -/
def singleUnderscores : List Char → Bool
  | [] => true
  | ['_'] => false
  | '_' :: '_' :: _ => false
  | _ :: rest => singleUnderscores rest

/-- Reads an integer literal. The run of digits and underscores after the sign is checked
first: it must start with a digit and hold underscores only singly between digits, and then
it may have at most 4300 digits; only after that must nothing follow it. -/
def readInt (s : String) : Except IntTextError Int :=
  let invalid : Except IntTextError Int :=
    .error (.invalid (String.ofList ((Text.quoted s).toList.take 200)))
  let (neg, body) := splitSign (normalForm s)
  let run := body.takeWhile fun c => isAsciiDigit c || c = '_'
  let ds := run.filter isAsciiDigit
  match run with
  | [] => invalid
  | c :: _ =>
    if ¬ isAsciiDigit c ∨ ¬ singleUnderscores run then invalid
    else if ds.length > maxIntDigits then .error (.tooLong ds.length)
    else if body.length ≠ run.length then invalid
    else .ok (if neg then -(digitsValue ds : Int) else digitsValue ds)

/-- Whether the text, without case, is one of the names of infinity. -/
def isInfinityName (cs : List Char) : Bool :=
  let l := String.ofList (cs.map Char.toLower)
  l = "inf" ∨ l = "infinity"

/-- Reads the unsigned decimal form `digits [. digits] [e [sign] digits]`. -/
def readDecimal (cs : List Char) : Option (Nat × Int) := do
  let mant := cs.takeWhile fun c => c ≠ 'e' ∧ c ≠ 'E'
  let expPart := cs.drop mant.length
  let whole := mant.takeWhile (· ≠ '.')
  let afterWhole := mant.drop whole.length
  let frac := afterWhole.drop 1
  let wd ← digitRun whole
  let fd ← digitRun frac
  if wd.isEmpty ∧ fd.isEmpty then none
  let ex ← match expPart with
    | [] => some (0 : Int)
    | _ :: rest =>
      let (neg, ds) := splitSign rest
      let d ← digitRun ds
      if d.isEmpty then none else some (if neg then -(digitsValue d : Int) else digitsValue d)
  return (digitsValue (wd ++ fd), ex - fd.length)

/-- Reads a decimal literal to the nearest binary64 number. -/
def readFloat (s : String) : Option Binary64 := do
  let cs := normalForm s
  let (neg, body) := splitSign cs
  if isInfinityName body then return .infinity neg
  if String.ofList (body.map Char.toLower) = "nan" then return .nan
  let (d, k) ← readDecimal body
  return ofDecimal neg d k

end SqlMigration.Number
