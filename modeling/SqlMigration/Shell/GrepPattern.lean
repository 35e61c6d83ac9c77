import SqlMigration.Shell.Regex
import SqlMigration.Shell.PerlRegex

/-!
# grep patterns

The patterns `grep` selects lines with, and where they match in a line.
-/

namespace SqlMigration.Shell

/-- The kind of patterns: basic or extended regular expressions, fixed strings, or Perl-style
expressions. -/
inductive GrepSyntax where
  | basic
  | extended
  | fixed
  | perl
  deriving DecidableEq

/-- Compiled patterns. -/
inductive GrepPatterns where
  | posix (rxs : List Regex)
  | fixed (strs : List (List Char))
  | perl (rx : PerlRegex)

/-- How patterns match: ignoring case, whole words only, whole lines only. -/
structure GrepTests where
  fold : Bool := false
  word : Bool := false
  line : Bool := false

/-- Compiles patterns of a syntax: the patterns and their warnings, or the message of the
first error. -/
def compilePatterns (syn : GrepSyntax) (fold : Bool) (pats : List (List Char)) :
    Except String (GrepPatterns × List String) :=
  match syn with
  | .fixed => .ok (.fixed pats, [])
  | .perl =>
    match pats with
    | [] => .ok (.fixed [], [])
    | [p] =>
      match parsePerl p fold with
      | .ok rx => .ok (.perl rx, [])
      | .error e => .error e
    | _ => .error "the -P option only supports a single pattern"
  | _ =>
    let rxSyn : RxSyntax := { extended := syn == .extended, checkColons := true, lenient := true }
    match pats.mapM fun p => parseRegex p rxSyn with
    | .ok rxs => .ok (.posix rxs, rxs.flatMap (·.warnings))
    | .error e => .error e

def grepWordChar (c : Char) : Bool := !Text.Unicode.isRaw c && isWordChar c

def GrepTests.passes (t : GrepTests) (s : Array Char) (i e : Nat) : Bool :=
  (!t.line || (i == 0 && e == s.size)) &&
    (!t.word || (!(i > 0 && (s[i - 1]?.map grepWordChar).getD false) &&
      !((s[e]?.map grepWordChar).getD false)))

def fixedAt (fold : Bool) (s : Array Char) (i : Nat) (str : List Char) : Bool :=
  let here := (s.extract i (i + str.length)).toList
  here.length == str.length && (here.zip str).all fun (a, b) => sameChar fold a b

def GrepPatterns.endsAt (ps : GrepPatterns) (fold : Bool) (s : Array Char) (i : Nat) : List Nat :=
  match ps with
  | .posix rxs => rxs.flatMap fun rx => rx.endsAt s i { fold := fold }
  | .fixed strs => strs.filterMap fun str => if fixedAt fold s i str then some (i + str.length) else none
  | .perl _ => []

/-- The leftmost match of the patterns in a line from a place on, under the tests: where it
starts and ends. -/
def GrepPatterns.firstMatch (ps : GrepPatterns) (t : GrepTests) (s : Array Char) (start : Nat) :
    Option (Nat × Nat) :=
  match ps with
  | .perl rx =>
    rx.search s start |>.map fun (a, b, _) => (a, b)
  | _ => go (s.size + 1 - start) start
where
  go : Nat → Nat → Option (Nat × Nat)
    | 0, _ => none
    | k + 1, i =>
      if t.line && i > 0 then none
      else
        let ok := (ps.endsAt t.fold s i).filter fun e => t.passes s i e
        match ok.max? with
        | some e => some (i, e)
        | none => go k (i + 1)

def perlWithTests (t : GrepTests) (p : List Char) : List Char :=
  let p := if t.word then "(?<!\\w)(?:".toList ++ p ++ ")(?!\\w)".toList else p
  if t.line then "^(?:".toList ++ p ++ ")$".toList else p

/-- The parts of a line that `-o` writes: the successive leftmost matches, where each is
searched for after the last; an empty match is passed over. -/
def GrepPatterns.parts (ps : GrepPatterns) (t : GrepTests) (s : Array Char) : List (Nat × List Char) :=
  go (s.size + 1) 0
where
  go : Nat → Nat → List (Nat × List Char)
    | 0, _ => []
    | k + 1, cur =>
      if cur ≥ s.size then []
      else match ps.firstMatch t s cur with
        | some (i, e) =>
          if i ≥ s.size then []
          else if e > i then (i, (s.extract i e).toList) :: go k e
          else go k (i + 1)
        | none => []

def GrepPatterns.matches (ps : GrepPatterns) (t : GrepTests) (s : Array Char) : Bool :=
  (ps.firstMatch t s 0).isSome

end SqlMigration.Shell
