import SqlMigration.Shell.Utility

/-!
# cut

`cut` writes parts of each line of its files: the bytes at some positions (`-b`, and `-c`,
which counts bytes too), or the fields at some positions (`-f`) when the line is split at a
delimiter byte (`-d`, a tab by default).
-/

namespace SqlMigration.Shell

/-- A range of positions, from 1: its first position and its last, none meaning the end of
the line. -/
abbrev Span := Nat × Option Nat

def Span.holds (rs : List Span) (i : Nat) : Bool :=
  rs.any fun (lo, hi) => decide (lo ≤ i) && (hi.map fun x => decide (i ≤ x)).getD true

def Span.starts (rs : List Span) (i : Nat) : Bool := rs.any (·.1 == i)

/-- What reading a list is doing: the number being read (with whether it has digits), whether
a dash was seen, and the first number of the range. -/
structure ListReader where
  value : Nat := 0
  lhs : Bool := false
  rhs : Bool := false
  dash : Bool := false
  initial : Nat := 1
  spans : List Span := []

/-- Reads a list of positions; `positions` picks the wording of messages for bytes rather
than fields. -/
def readSpans (positions : Bool) (s : String) : Except String (List Span) :=
  let numbered := if positions then "byte/character positions are numbered from 1"
    else "fields are numbered from 1"
  let rec go : Nat → List Char → ListReader → Except String (List Span)
    | 0, _, _ => .error numbered
    | n + 1, cs, r =>
      match cs with
      | '-' :: rest =>
        if r.dash then
          .error (if positions then "invalid byte or character range" else "invalid field range")
        else if r.lhs ∧ r.value = 0 then .error numbered
        else go n rest { r with dash := true, initial := if r.lhs then r.value else 1, value := 0 }
      | c :: rest =>
        if c = ',' ∨ c = ' ' ∨ c = '\t' then
          match close r with
          | .error e => .error e
          | .ok r => go n rest { r with lhs := false, rhs := false }
        else if c.isDigit then
          let ds := (c :: rest).takeWhile Char.isDigit
          let v := ds.foldl (fun a d => 10 * a + (d.toNat - 48)) r.value
          if v ≥ 2 ^ 64 - 1 then
            .error ((if positions then "byte/character offset " else "field number ") ++
              localeQuote (String.ofList ds) ++ " is too large")
          else
            let r := if r.dash then { r with rhs := true } else { r with lhs := true }
            go n ((c :: rest).drop ds.length) { r with value := v }
        else
          .error ((if positions then "invalid byte/character position " else "invalid field value ") ++
            localeQuote (String.ofList (c :: rest)))
      | [] =>
        match close r with
        | .error e => .error e
        | .ok r =>
          if r.spans.isEmpty then
            .error (if positions then "missing list of byte/character positions" else "missing list of fields")
          else .ok (mergeSpans r.spans)
  go (s.length + 1) s.toList {}
where
  /-- Ends one element of the list at a comma, a blank or the end. -/
  close (r : ListReader) : Except String ListReader :=
    if r.dash then
      if ¬ r.lhs ∧ ¬ r.rhs then .error "invalid range with no endpoint: -"
      else if ¬ r.rhs then .ok { r with spans := r.spans ++ [(r.initial, none)], dash := false, value := 0 }
      else if r.value < r.initial then .error "invalid decreasing range"
      else .ok { r with spans := r.spans ++ [(r.initial, some r.value)], dash := false, value := 0 }
    else if r.value = 0 then
      .error (if positions then "byte/character positions are numbered from 1" else "fields are numbered from 1")
    else .ok { r with spans := r.spans ++ [(r.value, some r.value)], value := 0 }
  /-- Sorts spans by their first position and merges those that overlap. -/
  mergeSpans (rs : List Span) : List Span :=
    let sorted := rs.mergeSort fun a b => a.1 ≤ b.1
    sorted.foldl (fun acc (lo, hi) =>
      match acc.getLast? with
      | some (plo, phi) =>
        let overlaps := match phi with
          | some h => decide (lo ≤ h)
          | none => true
        if overlaps then
          let hi' := match phi, hi with
            | some a, some b => some (max a b)
            | _, _ => none
          acc.dropLast ++ [(plo, hi')]
        else acc ++ [(lo, hi)]
      | none => [(lo, hi)]) []

def complementSpans (rs : List Span) : List Span :=
  let (acc, next) := rs.foldl (fun (acc : List Span × Option Nat) (lo, hi) =>
    let (out, next) := acc
    match next with
    | some n =>
      let out := if n < lo then out ++ [(n, some (lo - 1))] else out
      (out, hi.map (· + 1))
    | none => (out, none)) ([], some 1)
  match next with
  | some n => acc ++ [(n, none)]
  | none => acc

/-- The bytes of a line that byte mode keeps, with the output delimiter (when one was given)
before each kept byte that starts a span, unless it is the first kept. -/
def cutBytes (rs : List Span) (outDelim : Option Bytes) (line : Bytes) : Bytes :=
  (line.zipIdx.foldl (fun (acc : Bytes × Bool) (b, i) =>
    let (out, printed) := acc
    if Span.holds rs (i + 1) then
      let sep := match outDelim with
        | some d => if printed ∧ Span.starts rs (i + 1) then d else []
        | none => []
      (out ++ sep ++ [b], true)
    else acc) ([], false)).1

def fieldsAt (d : UInt8) (line : Bytes) : List Bytes :=
  let (fields, cur) := line.foldl (fun (acc : List Bytes × Bytes) b =>
    if b = d then (acc.1 ++ [acc.2], []) else (acc.1, acc.2 ++ [b])) ([], [])
  fields ++ [cur]

def cutSpec : OptSpec :=
  { flags := "nsz".toList, valued := "bcdf".toList ++ [longOnly 0],
    longs := [("bytes", 'b'), ("characters", 'c'), ("fields", 'f'), ("delimiter", 'd'),
      ("only-delimited", 's'), ("output-delimiter", longOnly 0), ("complement", longOnly 1),
      ("zero-terminated", 'z')] }

/-- `cut`: writes the selected bytes or fields of each line. -/
def cutUtility (args : List String) : Sh Unit :=
  withOpts "cut" cutSpec args fun p => do
    let lists := p.opts.filter fun (c, _) => c = 'b' ∨ c = 'c' ∨ c = 'f'
    match lists with
    | [] => usageError "cut" "you must specify a list of bytes, characters, or fields"
    | _ :: _ :: _ => usageError "cut" "only one list may be specified"
    | [(mode, list)] =>
      let fields := mode = 'f'
      let delim := p.value? 'd'
      let delimBytes := (delim.map Text.Utf8.encode).getD [9]
      if delimBytes.length > 1 then usageError "cut" "the delimiter must be a single character"
      else if delim.isSome ∧ ¬ fields then
        usageError "cut" "an input delimiter may be specified only when operating on fields"
      else if p.has 's' ∧ ¬ fields then
        usageError "cut" "suppressing non-delimited lines makes sense\n\tonly when operating on fields"
      else
      match readSpans (¬ fields) list with
      | .error e => usageError "cut" e
      | .ok spans =>
        let spans := if p.has (longOnly 1) then complementSpans spans else spans
        let d : UInt8 := delimBytes.headD 0
        let outDelim : Option Bytes := (p.value? (longOnly 0)).map fun s =>
          if s.isEmpty then [0] else Text.Utf8.encode s
        let ending : UInt8 := if p.has 'z' then 0 else 10
        let mut failed := false
        for name in inputNames p do
          match ← readOperand name with
          | .error e =>
            gnuSay "cut" (name ++ ": " ++ readError e)
            failed := true
          | .ok bs =>
            let lines := splitAtByte ending bs
            let out := lines.flatMap fun line =>
              if fields then
                if ¬ line.contains d then
                  if p.has 's' then [] else line ++ [ending]
                else
                  let kept := (fieldsAt d line).zipIdx.filter fun (_, i) => Span.holds spans (i + 1)
                  (outDelim.getD [d]).intercalate (kept.map (·.1)) ++ [ending]
              else cutBytes spans outDelim line ++ [ending]
            emit 1 out
        setStatus (if failed then 1 else 0)

end SqlMigration.Shell
