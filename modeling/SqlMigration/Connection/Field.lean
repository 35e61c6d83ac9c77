import SqlMigration.Datum

/-!
# Settings fields

How a connection setting is read from a loosely typed value, and what is wrong when it cannot
be. A text field takes only a text. An integer field takes an integer, a truth value, a finite
number without fraction, or a text that, without surrounding white space, is an integer literal
of ASCII digits (optionally ending in a point and zeros, with underscores only between digits,
and with leading zeros dropped before a minus sign but not before a plus sign). A truth field
takes a truth value, the integers 0 and 1 (and numbers equal to them), or one of the words
`0 off f false n no` and `1 on t true y yes` in any ASCII case.

Each fault has the name its report gives it (`Fault.code`).
-/

namespace SqlMigration.Connection

open Number

/-- What is wrong with one field. -/
inductive Fault where
  | missing
  | stringType
  | stringTooShort
  | intType
  | intParsing
  | intParsingSize
  | intFromFloat
  | finiteNumber
  | greaterThanEqual
  | lessThanEqual
  | boolType
  | boolParsing
  deriving DecidableEq, Repr

/-- The name of a fault in a report. -/
def Fault.code : Fault → String
  | .missing => "missing"
  | .stringType => "string_type"
  | .stringTooShort => "string_too_short"
  | .intType => "int_type"
  | .intParsing => "int_parsing"
  | .intParsingSize => "int_parsing_size"
  | .intFromFloat => "int_from_float"
  | .finiteNumber => "finite_number"
  | .greaterThanEqual => "greater_than_equal"
  | .lessThanEqual => "less_than_equal"
  | .boolType => "bool_type"
  | .boolParsing => "bool_parsing"

def readText : Datum → Except Fault String
  | .text s => .ok s
  | _ => .error .stringType

/-- Reads an integer literal of ASCII digits with an optional sign. -/
def readAsciiInt (cs : List Char) : Option Int :=
  let (neg, body) : Bool × List Char := match cs with
    | '-' :: r => (true, r)
    | '+' :: r => (false, r)
    | r => (false, r)
  if ¬ body.isEmpty ∧ body.all isAsciiDigit then
    let v := digitsValue body
    some (if neg then -(v : Int) else v)
  else none

/-- The longest text an integer field reads, in bytes. -/
def maxIntTextBytes : Nat := 4300

/-- The least and greatest integers of 64 bits. -/
def int64Min : Int := -((Nat.pow 2 63 : Nat) : Int)
def int64Max : Int := ((Nat.pow 2 63 : Nat) : Int) - 1

/-- A literal without its leading zeros. When it starts with a zero, the run of zeros and
underscores there is dropped if a digit or a minus sign follows it, and shrinks to its last
character if nothing does; before anything else it stays, so a plus sign after a zero is not
read. -/
def dropLeadingZeros : List Char → List Char
  | '0' :: rest =>
    let run := rest.takeWhile fun c => c = '0' ∨ c = '_'
    match rest.drop run.length with
    | [] => [run.getLastD '0']
    | c :: more => if isAsciiDigit c ∨ c = '-' then c :: more else '0' :: rest
  | cs => cs

/-- A literal without the underscores that stand between two digits; none when an underscore
stands elsewhere. -/
def dropInnerUnderscores : List Char → Option (List Char)
  | [] => some []
  | c :: '_' :: d :: rest =>
    if isAsciiDigit c ∧ isAsciiDigit d then (dropInnerUnderscores (d :: rest)).map (c :: ·)
    else none
  | '_' :: _ => none
  | c :: rest => (dropInnerUnderscores rest).map (c :: ·)

/-- The literal with a final point and one or more zeros removed, when it ends so. -/
def dropZeroFraction (cs : List Char) : Option (List Char) :=
  let whole := cs.takeWhile (· ≠ '.')
  match cs.drop whole.length with
  | '.' :: zeros => if ¬ zeros.isEmpty ∧ zeros.all (· = '0') then some whole else none
  | _ => none

/-- Reads an integer field from a text. The text without surrounding white space is read as a
literal with its leading zeros dropped and its underscores between digits ignored: a short one
(under 19 bytes) as a 64-bit integer and a longer one as an integer of any size. Failing that,
a final point and zeros are dropped and the literal read again. -/
def intOfText (s : String) : Except Fault Int :=
  let t := Text.stripWhiteSpace s
  let len := t.utf8ByteSize
  let attempt (cs : List Char) : Option Int :=
    (dropInnerUnderscores (dropLeadingZeros cs)).bind fun ds =>
      if len < 19 then (readAsciiInt ds).filter fun v => int64Min ≤ v ∧ v ≤ int64Max
      else readAsciiInt ds
  if len > maxIntTextBytes then .error .intParsingSize
  else match attempt t.toList with
    | some v => .ok v
    | none => match (dropZeroFraction t.toList).bind attempt with
      | some v => .ok v
      | none => .error .intParsing

/-- Reads an integer field from a number. -/
def intOfReal : Binary64 → Except Fault Int
  | .finite neg m e =>
    let (a, b) := powTwo e
    if (m * a) % b ≠ 0 then .error .intFromFloat
    else
      let v : Int := (m * a / b : Nat)
      let v := if neg then -v else v
      if int64Min < v ∧ v < int64Max then .ok v else .error .intParsingSize
  | _ => .error .finiteNumber

def readInt : Datum → Except Fault Int
  | .int n => .ok n
  | .bool b => .ok (if b then 1 else 0)
  | .real x => intOfReal x
  | .text s => intOfText s
  | _ => .error .intType

/-- The truth a word names, if it names one. -/
def truthOfWord (s : String) : Option Bool :=
  let l := s.toList.map Char.toLower
  if s = "0" ∨ l = "f".toList ∨ l = "n".toList ∨ l = "no".toList ∨ l = "off".toList ∨
      l = "false".toList then some false
  else if s = "1" ∨ l = "t".toList ∨ l = "y".toList ∨ l = "on".toList ∨ l = "yes".toList ∨
      l = "true".toList then some true
  else none

/-- The truth of 0 or 1. -/
def truthOfInt (n : Int) : Except Fault Bool :=
  if n = 0 then .ok false else if n = 1 then .ok true else .error .boolParsing

def readBool : Datum → Except Fault Bool
  | .bool b => .ok b
  | .text s => match truthOfWord s with
    | some b => .ok b
    | none => .error .boolParsing
  | .int n => if int64Min ≤ n ∧ n ≤ int64Max then truthOfInt n else .error .boolType
  | .real x => match intOfReal x with
    | .ok n => truthOfInt n
    | .error _ => .error .boolType
  | _ => .error .boolType

/-- A field's fault, at the field's name. -/
structure FieldError where
  loc : String
  fault : Fault
  deriving DecidableEq, Repr

/-- The faults of one model's fields, in field order. -/
structure ValidationError where
  model : String
  errors : List FieldError
  deriving DecidableEq, Repr

/-- The first line of a validation report: how many fields failed, for which model. -/
def ValidationError.headline (e : ValidationError) : String :=
  toString e.errors.length ++ (if e.errors.length = 1 then " validation error" else
    " validation errors") ++ " for " ++ e.model

/-- The settings given for a model, by field name. -/
abbrev Settings := List (String × Datum)

/-- Reads one field: absent fields take their default, or are missing without one. -/
def field {α} (given : Settings) (name : String) (default : Option α) (read : Datum → Except Fault α)
    (check : α → Option Fault := fun _ => none) : Except FieldError α :=
  match given.lookup name with
  | none => match default with
    | some d => .ok d
    | none => .error ⟨name, .missing⟩
  | some v => match read v with
    | .error f => .error ⟨name, f⟩
    | .ok a => match check a with
      | some f => .error ⟨name, f⟩
      | none => .ok a

/-- A text of at least one character. -/
def nonEmpty (s : String) : Option Fault := if s.isEmpty then some .stringTooShort else none

/-- An integer within bounds. -/
def within (lo : Int) (hi : Option Int) (n : Int) : Option Fault :=
  if n < lo then some .greaterThanEqual
  else match hi with
    | some h => if n > h then some .lessThanEqual else none
    | none => none

/-- The fault of a field read, if it failed. -/
def faultOf {α} : Except FieldError α → List FieldError
  | .error e => [e]
  | .ok _ => []

end SqlMigration.Connection
