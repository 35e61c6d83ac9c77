/-!
# Dates and times

Seconds since the epoch, taken as universal time (the zone every run here is in), split into a
calendar date and a time of day, and written by a `strftime` format of the C library in its
plain locale: weekday and month names in English, `%c` as `%a %b %e %H:%M:%S %Y`, `%x` as
`%m/%d/%y` and `%X` as `%H:%M:%S`.
-/

namespace SqlMigration.Shell

/-- A moment split into its parts: the calendar date, the time of day, the weekday (0 for
Sunday) and the day of the year (0 for the first of January). -/
structure Moment where
  year : Int
  month : Nat
  day : Nat
  hour : Nat
  minute : Nat
  second : Nat
  weekday : Nat
  yearDay : Nat
  deriving DecidableEq, Repr

def leapYear (y : Int) : Bool := (y % 4 == 0 && y % 100 != 0) || y % 400 == 0

def civilOfDays (z : Int) : Int × Nat × Nat :=
  let z := z + 719468
  let era := (if z ≥ 0 then z else z - 146096) / 146097
  let doe := (z - era * 146097).toNat
  let yoe := (doe - doe / 1460 + doe / 36524 - doe / 146096) / 365
  let doy := doe - (365 * yoe + yoe / 4 - yoe / 100)
  let mp := (5 * doy + 2) / 153
  let d := doy - (153 * mp + 2) / 5 + 1
  let m := if mp < 10 then mp + 3 else mp - 9
  let y : Int := (yoe : Int) + era * 400 + (if m ≤ 2 then 1 else 0)
  (y, m, d)

def daysBeforeMonth (leap : Bool) (m : Nat) : Nat :=
  let table := [0, 31, 59, 90, 120, 151, 181, 212, 243, 273, 304, 334]
  table.getD (m - 1) 0 + (if leap ∧ m > 2 then 1 else 0)

def momentOf (secs : Int) : Moment :=
  let days := if secs ≥ 0 then secs / 86400 else -((-secs + 86399) / 86400)
  let rest := (secs - days * 86400).toNat
  let (y, m, d) := civilOfDays days
  { year := y, month := m, day := d, hour := rest / 3600, minute := rest / 60 % 60,
    second := rest % 60, weekday := ((days + 4) % 7).toNat,
    yearDay := daysBeforeMonth (leapYear y) m + d - 1 }

def weekdayNames : List String :=
  ["Sunday", "Monday", "Tuesday", "Wednesday", "Thursday", "Friday", "Saturday"]

def monthNames : List String :=
  ["January", "February", "March", "April", "May", "June", "July", "August", "September",
   "October", "November", "December"]

/-- The ISO 8601 week-based year and week of a moment: weeks start on Monday, and week 1 is the
one holding the year's first Thursday. -/
def Moment.isoWeek (t : Moment) : Int × Nat :=
  let wd := (t.weekday + 6) % 7
  let thursday : Int := (t.yearDay : Int) - wd + 3
  let daysIn (y : Int) : Int := if leapYear y then 366 else 365
  if thursday < 0 then
    let prev := t.year - 1
    (prev, ((thursday + daysIn prev).toNat / 7) + 1)
  else if thursday ≥ daysIn t.year then (t.year + 1, 1)
  else (t.year, thursday.toNat / 7 + 1)

/-- A number written in decimal with at least `width` digits, padded by `pad` (none for no
padding), a sign before a negative one. -/
def clockNumber (v : Int) (width : Nat) (pad : Option Char) : String :=
  let ds := toString v.natAbs
  let sign := if v < 0 then "-" else ""
  match pad with
  | none => sign ++ ds
  | some c =>
    let fill := String.ofList (List.replicate (width - ds.length - sign.length) c)
    if c = '0' then sign ++ fill ++ ds else fill ++ sign ++ ds

/-- The text of one directive's letter for a moment and its seconds since the epoch, before its
flags: a number with its natural width and padding, or a text. -/
inductive ClockField where
  | number (v : Int) (width : Nat) (pad : Char)
  | text (s : String)

def clockField (t : Moment) (secs : Int) (c : Char) : Option ClockField :=
  let two (v : Nat) : ClockField := .number v 2 '0'
  let hour12 := if t.hour % 12 = 0 then 12 else t.hour % 12
  let dayName := weekdayNames.getD t.weekday ""
  let monthName := monthNames.getD (t.month - 1) ""
  let numbers := fun (v : Nat) (w : Nat) => clockNumber v w (some '0')
  let date := numbers t.month 2 ++ "/" ++ numbers t.day 2 ++ "/" ++ numbers (t.year % 100).toNat 2
  let clock := numbers t.hour 2 ++ ":" ++ numbers t.minute 2 ++ ":" ++ numbers t.second 2
  match c with
  | 'a' => some (.text (String.ofList (dayName.toList.take 3)))
  | 'A' => some (.text dayName)
  | 'b' | 'h' => some (.text (String.ofList (monthName.toList.take 3)))
  | 'B' => some (.text monthName)
  | 'c' =>
    some (.text (String.ofList (dayName.toList.take 3) ++ " " ++ String.ofList (monthName.toList.take 3) ++
      " " ++ clockNumber t.day 2 (some ' ') ++ " " ++ clock ++ " " ++ toString t.year))
  | 'C' => some (.number (if t.year ≥ 0 then t.year / 100 else -((-t.year + 99) / 100)) 2 '0')
  | 'd' => some (two t.day)
  | 'D' | 'x' => some (.text date)
  | 'e' => some (.number t.day 2 ' ')
  | 'F' => some (.text (clockNumber t.year 4 (some '0') ++ "-" ++ numbers t.month 2 ++ "-" ++ numbers t.day 2))
  | 'g' => some (two (t.isoWeek.1 % 100).toNat)
  | 'G' => some (.number t.isoWeek.1 4 '0')
  | 'H' => some (two t.hour)
  | 'I' => some (two hour12)
  | 'j' => some (.number (t.yearDay + 1) 3 '0')
  | 'k' => some (.number t.hour 2 ' ')
  | 'l' => some (.number hour12 2 ' ')
  | 'm' => some (two t.month)
  | 'M' => some (two t.minute)
  | 'n' => some (.text "\n")
  | 'p' => some (.text (if t.hour < 12 then "AM" else "PM"))
  | 'P' => some (.text (if t.hour < 12 then "am" else "pm"))
  | 'r' => some (.text (numbers hour12 2 ++ ":" ++ numbers t.minute 2 ++ ":" ++ numbers t.second 2 ++
      " " ++ (if t.hour < 12 then "AM" else "PM")))
  | 'R' => some (.text (numbers t.hour 2 ++ ":" ++ numbers t.minute 2))
  | 's' => some (.number secs 1 '0')
  | 'S' => some (two t.second)
  | 't' => some (.text "\t")
  | 'T' | 'X' => some (.text clock)
  | 'u' => some (.number (if t.weekday = 0 then 7 else t.weekday) 1 '0')
  | 'U' => some (two ((t.yearDay + 7 - t.weekday) / 7))
  | 'V' => some (two t.isoWeek.2)
  | 'w' => some (.number t.weekday 1 '0')
  | 'W' => some (two ((t.yearDay + 7 - (t.weekday + 6) % 7) / 7))
  | 'y' => some (two (t.year % 100).toNat)
  | 'Y' => some (.number t.year 1 '0')
  | 'z' => some (.text "+0000")
  | 'Z' => some (.text "UTC")
  | '%' => some (.text "%")
  | _ => none

def strftime (secs : Int) (format : String) : String :=
  String.join (go (format.length + 1) format.toList)
where
  /-- The pieces of the text of a format. -/
  go : Nat → List Char → List String
    | 0, _ => []
    | _ + 1, [] => []
    | n + 1, c :: rest =>
      if c ≠ '%' then String.singleton c :: go n rest
      else
        let flags := rest.takeWhile fun f => "-_0^#".toList.contains f
        let afterFlags := rest.drop flags.length
        let widthDigits := afterFlags.takeWhile Char.isDigit
        let afterWidth := afterFlags.drop widthDigits.length
        let afterMods := afterWidth.dropWhile fun m => m = 'E' ∨ m = 'O'
        match afterMods with
        | [] => "%" :: go n rest
        | letter :: more =>
          let whole := String.ofList (c :: rest.take (rest.length - more.length))
          match clockField (momentOf secs) secs letter with
          | none => whole :: go n more
          | some field =>
            let width := if widthDigits.isEmpty then none
              else some (String.ofList widthDigits).toNat!
            let upper := flags.contains '^'
            let body := match field with
              | .number v w p =>
                let pad : Option Char :=
                  if flags.contains '-' then none else if flags.contains '_' then some ' '
                  else if flags.contains '0' then some '0' else some p
                clockNumber v (width.getD w) pad
              | .text s =>
                let s := if upper then s.toUpper else s
                match width with
                | some w =>
                  let fill := if flags.contains '0' then '0' else ' '
                  String.ofList (List.replicate (w - s.length) fill) ++ s
                | none => s
            body :: go n more

end SqlMigration.Shell
