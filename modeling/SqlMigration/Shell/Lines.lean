import SqlMigration.Shell.Utility
import SqlMigration.Shell.Regex
import SqlMigration.Shell.PrintfProgram

/-!
# Programs over lines: tac, nl, paste, fold
-/

-- powers and sums of numbers are read with the core instances, whatever else is imported
attribute [local instance (high)] instPowNat Zero.ofOfNat0

namespace SqlMigration.Shell

/-! ## tac -/

def reversedRecords (bs : Bytes) : Bytes :=
  let (ls, closed) := byteLines bs
  let records := ls.zipIdx.map fun (l, i) => if i + 1 = ls.length ∧ ¬ closed then l else l ++ [10]
  records.reverse.flatten

/-- `tac`: each file with its lines in reverse order. -/
def tacUtility (args : List String) : Sh Unit :=
  withOpts "tac" {} args fun p => do
    let mut failed := false
    for name in inputNames p do
      match ← readOperand name with
      | .error e =>
        gnuSay "tac" ("failed to open " ++ gnuQuote name ++ " for reading: " ++ readError e)
        failed := true
      | .ok bs => emit 1 (reversedRecords bs)
    setStatus (if failed then 1 else 0)

/-! ## nl -/

/-- Which lines of a section `nl` numbers: all (`a`), the non-empty ones (`t`), none (`n`), or
those an expression in basic syntax finds something in (`pBRE`). -/
inductive NumberingStyle where
  | all
  | nonEmpty
  | none
  | matching (rx : Regex)

/-- How `nl` numbers. -/
structure NumberStyle where
  header : NumberingStyle := .none
  body : NumberingStyle := .nonEmpty
  footer : NumberingStyle := .none
  /-- `ln`, `rn` or `rz`. -/
  format : String := "rn"
  width : Nat := 6
  separator : String := "\t"
  start : Int := 1
  step : Int := 1
  /-- Whether each section starts again from the first number (no `-p`). -/
  renumber : Bool := true
  /-- With `-b a`, how many empty lines in a row make one numbered line (`-l`). -/
  joinBlank : Nat := 1
  /-- The two bytes that mark the sections: three times a header starts, twice a body, once a
  footer, each alone on its line. -/
  delimiter : Bytes := [92, 58]

def numberText (st : NumberStyle) (k : Int) : String :=
  let digits := toString k.natAbs
  let sign := if k < 0 then "-" else ""
  let body := sign ++ digits
  let pad := st.width - body.length
  if st.format = "ln" then body ++ String.ofList (List.replicate pad ' ')
  else if st.format = "rz" then sign ++ String.ofList (List.replicate pad '0') ++ digits
  else String.ofList (List.replicate pad ' ') ++ body

/-- Where `nl` stands as it goes over the lines of all its files: the style of the section, the
next number, the empty lines in a row left unnumbered, and whether the numbers have run past
the 64-bit range. -/
structure NumberState where
  style : NumberingStyle
  next : Int
  blanks : Nat := 0
  overflow : Bool := false

def sectionOf (delim : Bytes) (l : Bytes) : Option Nat :=
  if l.length < 2 ∨ delim.isEmpty ∨ l.take 2 ≠ delim.take 2 then none
  else if l == delim ++ delim ++ delim then some 0
  else if l == delim ++ delim then some 1
  else if l == delim then some 2
  else none

/-- Numbers lines: the output, the state after them, and whether a number past the 64-bit range
was due, which ends `nl`. -/
def numberLines (st : NumberStyle) : List Bytes → NumberState → Bytes × NumberState × Bool
  | [], s => ([], s, false)
  | l :: ls, s =>
    match sectionOf st.delimiter l with
    | some k =>
      let style := match k with
        | 0 => st.header
        | 1 => st.body
        | _ => st.footer
      let s := if st.renumber then { s with style, next := st.start, overflow := false }
        else { s with style }
      let (out, s, stop) := numberLines st ls s
      (10 :: out, s, stop)
    | none =>
      let (numbered, blanks) : Bool × Nat :=
        match s.style with
        | .all =>
          if st.joinBlank > 1 then
            if ¬ l.isEmpty then (true, 0)
            else if s.blanks + 1 == st.joinBlank then (true, 0)
            else (false, s.blanks + 1)
          else (true, s.blanks)
        | .nonEmpty => (¬ l.isEmpty, s.blanks)
        | .none => (false, s.blanks)
        | .matching rx => ((rx.search (Text.Unicode.decode l).toArray 0).isSome, s.blanks)
      let s := { s with blanks }
      if numbered then
        if s.overflow then ([], s, true)
        else
          let shown := s.next
          let next := s.next + st.step
          let (out, s, stop) :=
            numberLines st ls { s with next, overflow := next ≥ 2 ^ (63 : Nat) ∨ next < -(2 ^ (63 : Nat)) }
          (Text.Utf8.encode (numberText st shown ++ st.separator) ++ l ++ [10] ++ out, s, stop)
      else
        let (out, s, stop) := numberLines st ls s
        (Text.Utf8.encode (String.ofList (List.replicate
          (st.width + st.separator.utf8ByteSize) ' ')) ++ l ++ [10] ++ out, s, stop)

def numberingStyle? (v : String) : Except (Option String) NumberingStyle :=
  match v.toList with
  | 'a' :: _ => .ok .all
  | 't' :: _ => .ok .nonEmpty
  | 'n' :: _ => .ok .none
  | 'p' :: rest =>
    match parseRegex rest { emptyRanges := true } with
    | .ok rx => .ok (.matching rx)
    | .error e => .error (some e)
  | _ => .error none

/-- `nl`: numbers the lines of its input. -/
def nlUtility (args : List String) : Sh Unit :=
  let spec : OptSpec :=
    { flags := ['p'], valued := "hbfvilswnd".toList,
      longs := [("header-numbering", 'h'), ("body-numbering", 'b'), ("footer-numbering", 'f'),
        ("starting-line-number", 'v'), ("line-increment", 'i'), ("no-renumber", 'p'),
        ("join-blank-lines", 'l'), ("number-separator", 's'), ("number-width", 'w'),
        ("number-format", 'n'), ("section-delimiter", 'd')] }
  withOpts "nl" spec args fun p => do
    let mut st : NumberStyle := {}
    let mut ok := true
    for (c, v) in p.opts do
      if c = 'h' ∨ c = 'b' ∨ c = 'f' then
        match numberingStyle? v with
        | .ok style =>
          st := if c = 'h' then { st with header := style }
            else if c = 'b' then { st with body := style } else { st with footer := style }
        | .error (some e) =>
          gnuSay "nl" e
          setStatus 1
          return
        | .error none =>
          let what := if c = 'h' then "header" else if c = 'b' then "body" else "footer"
          gnuSay "nl" ("invalid " ++ what ++ " numbering style: " ++ localeQuote v)
          ok := false
      else if c = 'n' then
        if v = "ln" ∨ v = "rn" ∨ v = "rz" then st := { st with format := v }
        else
          gnuSay "nl" ("invalid line numbering format: " ++ localeQuote v)
          ok := false
      else if c = 'p' then st := { st with renumber := false }
      else if c = 's' then st := { st with separator := v }
      else if c = 'd' then
        let bs := Text.Utf8.encode v
        st := { st with delimiter :=
          if bs.length = 1 then bs ++ st.delimiter.drop 1
          else if bs.length = 2 then bs else bs }
      else
        let (what, lo, hi) : String × Int × Int :=
          if c = 'v' then ("invalid starting line number", -(2 ^ (63 : Nat)), 2 ^ (63 : Nat) - 1)
          else if c = 'i' then ("invalid line number increment", -(2 ^ (63 : Nat)), 2 ^ (63 : Nat) - 1)
          else if c = 'l' then ("invalid line number of blank lines", 1, 2 ^ (63 : Nat) - 1)
          else ("invalid line number field width", 1, 2147483647)
        match readScaled v "" true lo hi with
        | .ok k =>
          st := if c = 'v' then { st with start := k }
            else if c = 'i' then { st with step := k }
            else if c = 'l' then { st with joinBlank := k.toNat } else { st with width := k.toNat }
        | .error e =>
          gnuSay "nl" (what ++ ": " ++ localeQuote v ++ e.suffix)
          setStatus 1
          return
    if ¬ ok then
      say 2 "Try 'nl --help' for more information.\n"
      setStatus 1
      return
    let mut failed := false
    let mut state : NumberState := { style := st.body, next := st.start }
    for name in inputNames p do
      match ← readOperand name with
      | .error e =>
        gnuSay "nl" (shellQuoted name ++ ": " ++ readError e)
        failed := true
      | .ok bs =>
        let (ls, _) := byteLines bs
        let (out, s, stop) := numberLines st ls state
        state := s
        emit 1 out
        if stop then
          gnuSay "nl" "line number overflow"
          setStatus 1
          return
    setStatus (if failed then 1 else 0)

/-! ## paste -/

/-- The delimiters of `paste -d`: each character in turn, with `\n`, `\t`, `\\` and `\0` (no
delimiter) as escapes. -/
def pasteDelimiters (s : String) : List Bytes :=
  go (s.length + 1) s.toList
where
  go : Nat → List Char → List Bytes
    | 0, _ => []
    | _ + 1, [] => []
    | k + 1, '\\' :: c :: rest =>
      let d : Bytes := match c with
        | 'n' => [10] | 't' => [9] | '\\' => [92] | '0' => [] | c => Text.Utf8.encodeChar c
      d :: go k rest
    | k + 1, c :: rest => Text.Utf8.encodeChar c :: go k rest

def joinWith (delims : List Bytes) (parts : List Bytes) : Bytes :=
  let n := max delims.length 1
  (parts.zipIdx.map fun (part, i) =>
    if i = 0 then part else delims.getD ((i - 1) % n) [] ++ part).flatten

def pasteParallel (delims : List Bytes) (files : List (List Bytes)) : Bytes :=
  let rows := files.foldl (fun m f => max m f.length) 0
  ((List.range rows).map fun i => joinWith delims (files.map fun f => f.getD i []) ++ [10]).flatten

/-- `paste`: joins lines side by side, or each file's lines with `-s`. -/
def pasteUtility (args : List String) : Sh Unit :=
  let spec : OptSpec :=
    { flags := ['s', 'z'], valued := ['d'], longs := [("serial", 's'), ("delimiters", 'd')] }
  withOpts "paste" spec args fun p => do
    let delims := match p.value? 'd' with
      | some d => pasteDelimiters d
      | none => [[9]]
    let names := inputNames p
    let dashes := (names.filter (· = "-")).length
    let mut stdinLines : List Bytes := []
    if dashes > 0 then
      match ← readOperand "-" with
      | .ok bs => stdinLines := (byteLines bs).1
      | .error _ => pure ()
    let mut files : List (List Bytes) := []
    let mut failed := false
    let mut seen := 0
    for name in names do
      if name = "-" then
        if p.has 's' then files := files ++ [if seen = 0 then stdinLines else []]
        else files := files ++ [(stdinLines.zipIdx.filter fun (_, i) => i % dashes = seen).map (·.1)]
        seen := seen + 1
      else
        match ← readOperand name with
        | .ok bs => files := files ++ [(byteLines bs).1]
        | .error e =>
          gnuSay "paste" (name ++ ": " ++ readError e)
          failed := true
    if failed then
      setStatus 1
      return
    if p.has 's' then
      for f in files do emit 1 (joinWith delims f ++ [10])
    else emit 1 (pasteParallel delims files)
    setStatus 0

/-! ## fold -/

def foldColumn (bytes : Bool) (col : Nat) (b : UInt8) : Nat :=
  if bytes then col + 1
  else if b = 8 then col - 1
  else if b = 13 then 0
  else if b = 9 then col + 8 - col % 8
  else col + 1

def columnOf (bytes : Bool) (bs : Bytes) : Nat := bs.foldl (foldColumn bytes) 0

/-- One line (without its line feed) broken into pieces no wider than `width`, each but the
last followed by a line feed. -/
def foldLine (width : Nat) (bytes spaces : Bool) (line : Bytes) : Bytes :=
  go (2 * line.length + 2) line [] 0 []
where
  /-- `cur` is the piece being built, reversed, reaching column `col`; `out` what is written. -/
  go : Nat → Bytes → Bytes → Nat → Bytes → Bytes
    | 0, _, cur, _, out => out ++ cur.reverse
    | _ + 1, [], cur, _, out => out ++ cur.reverse
    | k + 1, b :: rest, cur, col, out =>
      let col' := foldColumn bytes col b
      if col' ≤ width then go k rest (b :: cur) col' out
      else
        let piece := cur.reverse
        let blankAt := if spaces then
            (piece.zipIdx.filter fun (c, _) => c = 32 ∨ c = 9).getLast?.map (·.2)
          else none
        match blankAt with
        | some i =>
          let keep := piece.take (i + 1)
          let carry := piece.drop (i + 1)
          go k (b :: rest) carry.reverse (columnOf bytes carry) (out ++ keep ++ [10])
        | none =>
          if piece.isEmpty then go k rest [b] col' out
          else go k (b :: rest) [] 0 (out ++ piece ++ [10])

/-- `fold`: breaks long lines. -/
def foldUtility (args : List String) : Sh Unit :=
  let spec : OptSpec :=
    { flags := ['b', 's'], valued := ['w'], optional := "0123456789".toList,
      longs := [("bytes", 'b'), ("spaces", 's'), ("width", 'w')] }
  withOpts "fold" spec args fun p => do
    let given := (p.opts.filter fun (c, _) => c = 'w' ∨ c.isDigit).getLast?.map fun (c, v) =>
      if c = 'w' then v else String.singleton c ++ v
    let width ← match given with
      | some v =>
        match countOf? v with
        | some k =>
          if k = 0 ∨ k ≥ Nat.pow 2 64 - 9 then
            let why := if k ≥ Nat.pow 2 64 then "Value too large for defined data type"
              else "Numerical result out of range"
            gnuSay "fold" ("invalid number of columns: " ++ localeQuote v ++ ": " ++ why)
            setStatus 1
            return
          pure k
        | none =>
          gnuSay "fold" ("invalid number of columns: " ++ localeQuote v)
          setStatus 1
          return
      | none => pure 80
    let mut failed := false
    for name in inputNames p do
      match ← readOperand name with
      | .error e =>
        gnuSay "fold" (name ++ ": " ++ readError e)
        failed := true
      | .ok bs =>
        let (ls, closed) := byteLines bs
        let pieces := ls.map (foldLine width (p.has 'b') (p.has 's'))
        emit 1 (joinLines pieces ¬ closed)
    setStatus (if failed then 1 else 0)

end SqlMigration.Shell
