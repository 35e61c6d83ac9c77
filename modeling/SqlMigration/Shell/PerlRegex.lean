import SqlMigration.Text.Unicode

/-!
# Perl-style regular expressions

The expressions of `grep -P`: Perl syntax, matched by backtracking, so that the first way
found wins (alternatives in order, greedy repetitions longest first and lazy ones shortest
first), not the longest.
-/

namespace SqlMigration.Shell

/-- An item of a character class. -/
inductive PerlItem where
  | char (c : Char)
  | range (lo hi : Char)
  | digit (negate : Bool)
  | word (negate : Bool)
  | space (negate : Bool)
  | hspace (negate : Bool)
  | vspace (negate : Bool)
  | posix (name : String) (negate : Bool)
  | prop (name : String) (negate : Bool)
  deriving Repr, Inhabited

/-- A node of an expression. -/
inductive PerlNode where
  | char (c : Char) (fold : Bool)
  /-- `.`: any character, and a line feed too with `dotall`. -/
  | any (dotall : Bool)
  | set (negate : Bool) (items : List PerlItem) (fold : Bool)
  /-- A group, numbered when it captures, and its alternatives. -/
  | group (index : Option Nat) (alts : List (List PerlNode))
  /-- A group that, once matched, is not tried again another way. -/
  | atomic (alts : List (List PerlNode))
  /-- A look-ahead or, with `behind`, look-behind; `negate` for the negative ones. -/
  | look (behind negate : Bool) (alts : List (List PerlNode))
  | backref (k : Nat) (fold : Bool)
  /-- `^`: the start, or with `multiline` the start of a line. -/
  | lineStart (multiline : Bool)
  /-- `$`: the end, or with `multiline` the end of a line. -/
  | lineEnd (multiline : Bool)
  | textStart
  | textEnd
  /-- `\Z`: the end, or just before a final line feed. -/
  | textEndNewline
  | boundary (negate : Bool)
  /-- `\K`: the match reported starts here. -/
  | keep
  /-- The node repeated `lo` to `hi` times, the most first when `greedy`. -/
  | rep (node : PerlNode) (lo : Nat) (hi : Option Nat) (greedy : Bool)
  /-- A conditional group: its first branch when the group numbered `k` has matched (never for
  none), and else its second. -/
  | ifGroup (k : Option Nat) (yes no : List PerlNode)
  /-- A conditional group on an assertion, read as `look` reads it. -/
  | ifLook (behind negate : Bool) (test : List (List PerlNode)) (yes no : List PerlNode)
  deriving Repr, Inhabited

/-- An expression read: its alternatives and the number of its groups. -/
structure PerlRegex where
  alts : List (List PerlNode)
  groups : Nat
  deriving Repr

/-! ## Characters -/

def perlWordChar (c : Char) : Bool := c.isAlphanum || c = '_'

def perlSpace (c : Char) : Bool :=
  c = ' ' || c = '\t' || c = '\n' || c = '\x0b' || c = '\x0c' || c = '\r'

def perlHSpace (c : Char) : Bool :=
  c = ' ' || c = '\t' || c.toNat = 0xa0 || c.toNat = 0x1680 || c.toNat = 0x180e ||
    (0x2000 ≤ c.toNat && c.toNat ≤ 0x200a) || c.toNat = 0x202f || c.toNat = 0x205f || c.toNat = 0x3000

def perlVSpace (c : Char) : Bool :=
  (0x0a ≤ c.toNat && c.toNat ≤ 0x0d) || c.toNat = 0x85 || c.toNat = 0x2028 || c.toNat = 0x2029

def perlPosix (name : String) (c : Char) : Bool :=
  c.toNat < 128 && match name with
    | "alpha" => c.isAlpha
    | "digit" => c.isDigit
    | "alnum" => c.isAlphanum
    | "upper" => c.isUpper
    | "lower" => c.isLower
    | "space" => perlSpace c
    | "blank" => c = ' ' || c = '\t'
    | "punct" => (33 ≤ c.toNat && c.toNat ≤ 126) && !c.isAlphanum
    | "print" => 32 ≤ c.toNat && c.toNat ≤ 126
    | "graph" => 33 ≤ c.toNat && c.toNat ≤ 126
    | "cntrl" => c.toNat < 32 || c.toNat = 127
    | "xdigit" => c.isDigit || ('a' ≤ c && c ≤ 'f') || ('A' ≤ c && c ≤ 'F')
    | "word" => perlWordChar c
    | "ascii" => true
    | _ => false

def perlProp (name : String) (c : Char) : Bool :=
  match name with
  | "L" | "L&" | "Letter" => Text.Unicode.isAlpha c && !Text.Unicode.isDigit c
  | "Lu" => Text.Unicode.isUpper c
  | "Ll" => Text.Unicode.isLower c
  | "N" | "Nd" => Text.Unicode.isDigit c
  | "P" => Text.Unicode.isPunct c && c.toNat ≥ 128 || (c.toNat < 128 && Text.Unicode.isPunct c &&
      !"$+<=>^\x60|~".toList.contains c)
  | "S" => c.toNat < 128 && "$+<=>^\x60|~".toList.contains c
  | "Z" | "Zs" => Text.Unicode.isSpace c && c ≠ '\t' && c ≠ '\n' && c ≠ '\r' && c ≠ '\x0b' && c ≠ '\x0c'
  | "Any" => true
  | _ => false

def PerlItem.accepts : PerlItem → Char → Bool
  | .char d, c => c == d
  | .range lo hi, c => lo ≤ c && c ≤ hi
  | .digit n, c => c.isDigit != n
  | .word n, c => perlWordChar c != n
  | .space n, c => perlSpace c != n
  | .hspace n, c => perlHSpace c != n
  | .vspace n, c => perlVSpace c != n
  | .posix name n, c => perlPosix name c != n
  | .prop name n, c => perlProp name c != n

def perlSetAccepts (items : List PerlItem) (fold : Bool) (c : Char) : Bool :=
  items.any (·.accepts c) ||
    (fold && (items.any (·.accepts (Text.Unicode.toLower c)) || items.any (·.accepts (Text.Unicode.toUpper c))))

def perlSame (fold : Bool) (a b : Char) : Bool := a == b || (fold && Text.Unicode.sameIgnoringCase a b)

/-! ## Reading -/

/-- The flags in force while reading: ignore case, multiline, `.` matches a line feed, and
white space is ignored. -/
structure PerlFlags where
  caseless : Bool := false
  multiline : Bool := false
  dotall : Bool := false
  extended : Bool := false

/-- What is checked once the whole expression is read, in the order found: a group that a
condition names by its number or its name, or a problem reported only if none of those before
it is one. -/
inductive PerlCheck where
  | group (k : Int)
  | name (n : String)
  | problem (message : String)

/-- What reading an expression has left: the characters, the groups opened, the names of
named groups, the flags, the highest group referred to, the names referred to, the names of
the whole expression when they are known from an earlier reading, and the checks left for the
end. -/
structure PerlReader where
  rest : List Char
  opened : Nat := 0
  names : List (String × Nat) := []
  flags : PerlFlags := {}
  highestRef : Nat := 0
  namedRefs : List String := []
  known : List (String × Nat) := []
  checks : List PerlCheck := []

abbrev PerlP := ExceptT String (StateM PerlReader)

def perlPeek : PerlP (Option Char) := return (← get).rest.head?

def perlTake : PerlP (Option Char) := do
  let s ← get
  match s.rest with
  | c :: more =>
    set { s with rest := more }
    return some c
  | [] => return none

def perlTakeWhile (p : Char → Bool) : PerlP (List Char) := do
  let s ← get
  let cs := s.rest.takeWhile p
  set { s with rest := s.rest.drop cs.length }
  return cs

def hexValue (cs : List Char) : Nat := cs.foldl (fun v c => 16 * v + Text.hexDigit c) 0

def isHexDigit (c : Char) : Bool := c.isDigit || ('a' ≤ c && c ≤ 'f') || ('A' ≤ c && c ≤ 'F')

/-- What an escape stands for: a character, or a class item. -/
inductive PerlEscape where
  | char (c : Char)
  | item (i : PerlItem)

def perlPropName : PerlP String := do
  match ← perlTake with
  | some '{' =>
    let name ← perlTakeWhile (· ≠ '}')
    match ← perlTake with
    | some _ => return String.ofList name
    | none => throw "malformed \\P or \\p sequence"
  | some c => return String.singleton c
  | none => throw "malformed \\P or \\p sequence"

/-- Reads an escape that stands for a character or a class (inside or outside a class), after
its backslash and letter; none for the escapes that are neither. -/
def perlCharEscape (c : Char) : PerlP (Option PerlEscape) := do
  match c with
  | 'd' => return some (.item (.digit false))
  | 'D' => return some (.item (.digit true))
  | 'w' => return some (.item (.word false))
  | 'W' => return some (.item (.word true))
  | 's' => return some (.item (.space false))
  | 'S' => return some (.item (.space true))
  | 'h' => return some (.item (.hspace false))
  | 'H' => return some (.item (.hspace true))
  | 'v' => return some (.item (.vspace false))
  | 'V' => return some (.item (.vspace true))
  | 'p' => return some (.item (.prop (← perlPropName) false))
  | 'P' => return some (.item (.prop (← perlPropName) true))
  | 'n' => return some (.char '\n')
  | 't' => return some (.char '\t')
  | 'r' => return some (.char '\r')
  | 'f' => return some (.char '\x0c')
  | 'e' => return some (.char '\x1b')
  | 'a' => return some (.char '\x07')
  | 'x' =>
    if (← perlPeek) = some '{' then
      let _ ← perlTake
      let ds ← perlTakeWhile isHexDigit
      match ← perlTake with
      | some '}' =>
        let v := hexValue ds
        if v > 0x10ffff ∨ (0xd800 ≤ v ∧ v < 0xe000) then
          throw "character code point value in \\x{} or \\o{} is too large"
        return some (.char (Char.ofNat v))
      | _ => throw "missing terminating \x7d in \\x\x7b\x7d"
    else
      let ds := ((← get).rest.takeWhile isHexDigit).take 2
      modify fun s => { s with rest := s.rest.drop ds.length }
      return some (.char (Char.ofNat (hexValue ds)))
  | 'c' =>
    match ← perlTake with
    | some x =>
      if x.toNat < 32 ∨ x.toNat > 126 then throw "\\c must be followed by a printable ASCII character"
      return some (.char (Char.ofNat (x.toUpper.toNat ^^^ 0x40)))
    | none => throw "\\c at end of pattern"
  | '0' =>
    let ds := ((← get).rest.takeWhile fun d => '0' ≤ d ∧ d ≤ '7').take 2
    modify fun s => { s with rest := s.rest.drop ds.length }
    return some (.char (Char.ofNat (ds.foldl (fun v d => 8 * v + (d.toNat - 48)) 0)))
  | 'o' =>
    if (← perlPeek) = some '{' then
      let _ ← perlTake
      let ds ← perlTakeWhile fun d => '0' ≤ d ∧ d ≤ '7'
      match ← perlTake with
      | some '}' => return some (.char (Char.ofNat (ds.foldl (fun v d => 8 * v + (d.toNat - 48)) 0)))
      | _ => throw "missing terminating \x7d in \\o\x7b\x7d"
    else throw "missing opening brace after \\o"
  | _ => return none

def perlClassEscape : PerlP PerlEscape := do
  match ← perlTake with
  | none => throw "\\ at end of pattern"
  | some e =>
    if e = 'b' then return .char '\x08'
    match ← perlCharEscape e with
    | some x => return x
    | none =>
      if e.isAlphanum then throw "unrecognized character follows \\"
      return .char e

def perlClassNames : List String :=
  ["alpha", "digit", "alnum", "upper", "lower", "space", "blank", "punct", "print", "graph", "cntrl",
   "xdigit", "word", "ascii"]

def perlClassElement (c : Char) : PerlP PerlEscape := do
  if c = '\\' then perlClassEscape
  else if c = '[' then
    let s ← get
    match s.rest with
    | ':' :: more =>
      let (neg, body) := match more with
        | '^' :: b => (true, b)
        | b => (false, b)
      let name := body.takeWhile (· ≠ ':')
      match body.drop name.length with
      | ':' :: ']' :: after =>
        let nm := String.ofList name
        if perlClassNames.contains nm then
          set { s with rest := after }
          return .item (.posix nm neg)
        else throw "unknown POSIX class name"
      | _ => return .char c
    | _ => return .char c
  else return .char c

def perlClassItems : Nat → List PerlItem → PerlP (List PerlItem)
  | 0, _ => throw "missing terminating ] for character class"
  | k + 1, acc => do
    match ← perlTake with
    | none => throw "missing terminating ] for character class"
    | some ']' => return acc
    | some c =>
      match ← perlClassElement c with
      | .item i =>
        match (← get).rest with
        | '-' :: d :: _ =>
          if d = ']' then perlClassItems k (acc ++ [i])
          else throw "invalid range in character class"
        | _ => perlClassItems k (acc ++ [i])
      | .char lo =>
        match (← get).rest with
        | '-' :: d :: _ =>
          if d = ']' then perlClassItems k (acc ++ [.char lo])
          else
            let _ ← perlTake
            let _ ← perlTake
            if d = '[' ∧ (← perlPeek) = some ':' then throw "invalid range in character class"
            match ← perlClassElement d with
            | .char hi =>
              if hi < lo then throw "range out of order in character class"
              perlClassItems k (acc ++ [.range lo hi])
            | .item _ => throw "invalid range in character class"
        | _ => perlClassItems k (acc ++ [.char lo])

def perlClass (fold : Bool) : PerlP PerlNode := do
  let negate := (← perlPeek) = some '^'
  if negate then let _ ← perlTake
  let lead ← if (← perlPeek) = some ']' then do
      let _ ← perlTake
      pure [PerlItem.char ']']
    else pure []
  let all ← perlClassItems ((← get).rest.length + 1) lead
  return .set negate all fold

def quotedText : Nat → List Char → List Char × List Char
  | 0, cs => ([], cs)
  | _ + 1, [] => ([], [])
  | _ + 1, '\\' :: 'E' :: more => ([], more)
  | k + 1, c :: more => let (l, r) := quotedText k more; (c :: l, r)

def perlNodeLength : PerlNode → Option Nat
  | .char _ _ | .any _ | .set _ _ _ => some 1
  | .group _ alts | .atomic alts => altsLength alts
  | .look _ _ _ | .lineStart _ | .lineEnd _ | .textStart | .textEnd | .textEndNewline
    | .boundary _ | .keep => some 0
  | .backref _ _ => none
  | .rep node lo hi _ => do
    let l ← perlNodeLength node
    if hi = some lo then some (l * lo) else if l = 0 then some 0 else none
  | .ifGroup _ yes no | .ifLook _ _ _ yes no => do
    let a ← seqLength yes
    let b ← seqLength no
    if a = b then some a else none
where
  seqLength : List PerlNode → Option Nat
    | [] => some 0
    | n :: more => do
      let a ← perlNodeLength n
      let b ← seqLength more
      return a + b
  altsLength : List (List PerlNode) → Option Nat
    | [] => some 0
    | [a] => seqLength a
    | a :: more => do
      let x ← seqLength a
      let y ← altsLength more
      if x = y then some x else none

def perlFixedLength (ns : List PerlNode) : Option Nat := perlNodeLength.seqLength ns

def perlNumber : PerlP (Option Nat) := do
  let ds ← perlTakeWhile Char.isDigit
  return if ds.isEmpty then none else some (String.ofList ds).toNat!

def perlInterval : PerlP (Option (Nat × Option Nat)) := do
  let s ← get
  let lo := s.rest.takeWhile Char.isDigit
  if lo.isEmpty then return none
  let after := s.rest.drop lo.length
  let lov := (String.ofList lo).toNat!
  match after with
  | '}' :: more =>
    if lov > 65535 then throw "number too big in {} quantifier"
    set { s with rest := more }
    return some (lov, some lov)
  | ',' :: more =>
    let hi := more.takeWhile Char.isDigit
    match more.drop hi.length with
    | '}' :: rest =>
      let hiv := if hi.isEmpty then none else some (String.ofList hi).toNat!
      if lov > 65535 ∨ (hiv.getD 0) > 65535 then throw "number too big in {} quantifier"
      match hiv with
      | some h => if h < lov then throw "numbers out of order in {} quantifier"
      | none => pure ()
      set { s with rest := rest }
      return some (lov, hiv)
    | _ => return none
  | _ => return none

def PerlNode.repeatable : PerlNode → Bool
  | .lineStart _ | .lineEnd _ | .textStart | .textEnd | .textEndNewline | .boundary _ | .keep => false
  | _ => true

def perlSkipSpace : Nat → PerlP Unit
  | 0 => pure ()
  | n + 1 => do
    if ¬ (← get).flags.extended then return
    match ← perlPeek with
    | some c =>
      if c = ' ' ∨ c = '\t' ∨ c = '\n' ∨ c = '\r' ∨ c = '\x0b' ∨ c = '\x0c' then
        let _ ← perlTake
        perlSkipSpace n
      else if c = '#' then
        let _ ← perlTakeWhile (· ≠ '\n')
        perlSkipSpace n
    | none => pure ()

def perlFlagLetters (f : PerlFlags) : Nat → Bool → PerlP (PerlFlags × Char)
  | 0, _ => throw "missing closing parenthesis"
  | n + 1, on => do
    match ← perlTake with
    | some 'i' => perlFlagLetters { f with caseless := on } n on
    | some 'm' => perlFlagLetters { f with multiline := on } n on
    | some 's' => perlFlagLetters { f with dotall := on } n on
    | some 'x' => perlFlagLetters { f with extended := on } n on
    | some 'n' | some 'U' | some 'J' => perlFlagLetters f n on
    | some '-' => perlFlagLetters f n false
    | some ')' => return (f, ')')
    | some ':' => return (f, ':')
    | none => throw "missing closing parenthesis"
    | some _ => throw "unrecognized character after (? or (?-"

/-- What a conditional group tests: whether a group has matched (none for one that never has,
such as a test for a recursion, or a definition, which `define` marks), or an assertion. -/
inductive PerlCondition where
  | group (k : Option Nat) (define : Bool)
  | look (behind negate : Bool) (alts : List (List PerlNode))

/-- The group a condition names: its number, as far as the names read so far or in an earlier
reading know it, and a check that some group has that name. -/
def perlConditionName (name : String) : PerlP (Option Nat) := do
  let s ← get
  set { s with checks := s.checks ++ [PerlCheck.name name] }
  return (s.names.lookup name).orElse fun _ => s.known.lookup name

/-- Reads the condition of a conditional group after its `(?(`, up to the `)` that ends it, from
the characters `rest` left there; `body` reads the alternatives of an assertion and its `)`. -/
def perlConditionTest (body : PerlP (List (List PerlNode))) (rest : List Char) :
    PerlP PerlCondition := do
  let close : PerlP Unit := do
    if (← perlTake) ≠ some ')' then throw "missing closing parenthesis for condition"
  let badName {α : Type} : PerlP α := throw "syntax error in subpattern name (missing terminator?)"
  let group (k : Int) : PerlP PerlCondition := do
    modify fun s => { s with checks := s.checks ++ [.group k] }
    return .group (if k > 0 then some k.toNat else none) false
  match rest with
  | [] => throw "missing closing parenthesis"
  | '?' :: r =>
    let (behind, negate, r) ← match r with
      | '=' :: r => pure (false, false, r)
      | '!' :: r => pure (false, true, r)
      | '<' :: '=' :: r => pure (true, false, r)
      | '<' :: '!' :: r => pure (true, true, r)
      | _ => throw "assertion expected after (?( or (?(?C)"
    modify fun s => { s with rest := r }
    let alts ← body
    if behind ∧ alts.any fun a => (perlFixedLength a).isNone then
      throw "lookbehind assertion is not fixed length"
    return .look behind negate alts
  | '<' :: r | '\'' :: r =>
    let ender := if rest.head? = some '<' then '>' else '\''
    let name := r.takeWhile perlWordChar
    match name with
    | [] => throw "subpattern name expected"
    | c :: _ => if c.isDigit then throw "subpattern name must start with a non-digit"
    match r.drop name.length with
    | c :: after =>
      if c ≠ ender then badName
      modify fun s => { s with rest := after }
    | [] => badName
    close
    return .group (← perlConditionName (String.ofList name)) false
  | 'R' :: '&' :: r =>
    let name := r.takeWhile perlWordChar
    if name.isEmpty then throw "subpattern name expected"
    modify fun s => { s with rest := r.drop name.length }
    close
    let _ ← perlConditionName (String.ofList name)
    return .group none false
  | c :: r =>
    if c.isDigit ∨ c = '+' ∨ c = '-' then
      let signed := c = '+' ∨ c = '-'
      let digitsFrom := if signed then r else rest
      let ds := digitsFrom.takeWhile Char.isDigit
      if ds.isEmpty then throw "subpattern name expected"
      let v := (String.ofList ds).toNat!
      if signed ∧ v = 0 then throw "a relative value of zero is not allowed"
      modify fun s => { s with rest := digitsFrom.drop ds.length }
      close
      let opened := (← get).opened
      group (if c = '+' then (opened + v : Int) else if c = '-' then (opened + 1 : Int) - v else v)
    else
      let name := rest.takeWhile perlWordChar
      if name.isEmpty then throw "subpattern name expected"
      match rest.drop name.length with
      | ')' :: after =>
        modify fun s => { s with rest := after }
        let nm := String.ofList name
        if nm = "DEFINE" then return .group none true
        if nm = "R" then return .group none false
        match name with
        | 'R' :: ds =>
          if ds.all Char.isDigit then
            let _ ← group (String.ofList ds).toNat!
            return .group none false
        | _ => pure ()
        return .group (← perlConditionName nm) false
      | _ => badName

mutual

def perlAlts : Nat → Nat → PerlP (List (List PerlNode))
  | 0, _ => throw "regular expression is too large"
  | n + 1, depth => do
    let seq ← perlSeq n depth []
    match ← perlPeek with
    | some '|' =>
      let _ ← perlTake
      return seq :: (← perlAlts n depth)
    | _ => return [seq]

def perlSeq : Nat → Nat → List PerlNode → PerlP (List PerlNode)
  | 0, _, _ => throw "regular expression is too large"
  | n + 1, depth, acc => do
    perlSkipSpace 1000
    let s ← get
    let f := s.flags
    match s.rest with
    | [] => return acc.reverse
    | '|' :: _ => return acc.reverse
    | ')' :: _ =>
      if depth > 0 then return acc.reverse else throw "unmatched closing parenthesis"
    | c :: _ =>
      if c = '*' ∨ c = '+' ∨ c = '?' then
        let _ ← perlTake
        let (lo, hi) : Nat × Option Nat := match c with
          | '*' => (0, none)
          | '+' => (1, none)
          | _ => (0, some 1)
        perlSeq n depth (← perlRepeat acc lo hi)
      else if c = '{' then
        let _ ← perlTake
        match ← perlInterval with
        | some (lo, hi) => perlSeq n depth (← perlRepeat acc lo hi)
        | none => perlSeq n depth (.char '{' f.caseless :: acc)
      else
        let node ← perlAtom n depth
        match node with
        | some nd => perlSeq n depth (nd ++ acc)
        | none => perlSeq n depth acc

def perlRepeat (acc : List PerlNode) (lo : Nat) (hi : Option Nat) : PerlP (List PerlNode) := do
  match acc with
  | last :: more =>
    if ¬ last.repeatable then throw "quantifier does not follow a repeatable item"
    match last with
    | .rep _ _ _ _ => throw "quantifier does not follow a repeatable item"
    | .atomic [[.rep _ _ _ _]] => throw "quantifier does not follow a repeatable item"
    | _ => pure ()
    match ← perlPeek with
    | some '?' =>
      let _ ← perlTake
      return .rep last lo hi false :: more
    | some '+' =>
      let _ ← perlTake
      return .atomic [[.rep last lo hi true]] :: more
    | _ => return .rep last lo hi true :: more
  | [] => throw "quantifier does not follow a repeatable item"

def perlAtom : Nat → Nat → PerlP (Option (List PerlNode))
  | 0, _ => throw "regular expression is too large"
  | n + 1, depth => do
    let f := (← get).flags
    match ← perlTake with
    | none => return none
    | some '.' => return some [.any f.dotall]
    | some '^' => return some [.lineStart f.multiline]
    | some '$' => return some [.lineEnd f.multiline]
    | some '[' => return some [← perlClass f.caseless]
    | some '(' => perlGroup n depth
    | some '\\' =>
      match ← perlTake with
      | none => throw "\\ at end of pattern"
      | some e =>
        match e with
        | 'b' => return some [.boundary false]
        | 'B' => return some [.boundary true]
        | 'A' => return some [.textStart]
        | 'z' => return some [.textEnd]
        | 'Z' => return some [.textEndNewline]
        | 'G' => return some [.textStart]
        | 'K' => return some [.keep]
        | 'N' => return some [.set true [.char '\n'] false]
        | 'R' => return some [.set false [.vspace false] false]
        | 'Q' =>
          let s ← get
          let (text, after) := quotedText (s.rest.length + 1) s.rest
          set { s with rest := after }
          return some (text.reverse.map fun c => .char c f.caseless)
        | 'E' => return some []
        | 'g' =>
          let braced := (← perlPeek) = some '{'
          if braced then let _ ← perlTake
          let neg := (← perlPeek) = some '-'
          if neg then let _ ← perlTake
          match ← perlNumber with
          | some k =>
            if braced then
              match ← perlTake with
              | some '}' => pure ()
              | _ => throw "\\g is not followed by a braced, angle-bracketed, or quoted name/number or by a plain number"
            let opened := (← get).opened
            let k := if neg then opened + 1 - k else k
            modify fun s => { s with highestRef := max s.highestRef k }
            return some [.backref k f.caseless]
          | none =>
            if braced then
              let name ← perlTakeWhile (· ≠ '}')
              let _ ← perlTake
              return some [← perlNamedRef (String.ofList name)]
            throw "\\g is not followed by a braced, angle-bracketed, or quoted name/number or by a plain number"
        | 'k' =>
          let close ← match ← perlTake with
            | some '<' => pure '>'
            | some '{' => pure '}'
            | some '\'' => pure '\''
            | _ => throw "\\k is not followed by a braced, angle-bracketed, or quoted name"
          let name ← perlTakeWhile (· ≠ close)
          let _ ← perlTake
          return some [← perlNamedRef (String.ofList name)]
        | _ =>
          if '1' ≤ e ∧ e ≤ '9' then
            let more ← perlTakeWhile Char.isDigit
            let k := (String.ofList (e :: more)).toNat!
            modify fun s => { s with highestRef := max s.highestRef k }
            return some [.backref k f.caseless]
          match ← perlCharEscape e with
          | some (.char c) => return some [.char c f.caseless]
          | some (.item i) => return some [.set false [i] false]
          | none =>
            if e.isAlphanum then throw "unrecognized character follows \\"
            return some [.char e f.caseless]
    | some c => return some [.char c f.caseless]

def perlNamedRef (name : String) : PerlP PerlNode := do
  let s ← get
  match s.names.lookup name with
  | some k => return .backref k s.flags.caseless
  | none =>
    set { s with namedRefs := s.namedRefs ++ [name] }
    return .backref ((s.known.lookup name).getD 0) s.flags.caseless

def perlGroup : Nat → Nat → PerlP (Option (List PerlNode))
  | 0, _ => throw "regular expression is too large"
  | n + 1, depth => do
    let saved := (← get).flags
    let body : PerlP (List (List PerlNode)) := do
      let alts ← perlAlts n (depth + 1)
      match ← perlTake with
      | some ')' =>
        modify fun s => { s with flags := saved }
        return alts
      | _ => throw "missing closing parenthesis"
    let s ← get
    match s.rest with
    | '?' :: more =>
      set { s with rest := more }
      match more with
      | ':' :: rest =>
        set { s with rest := rest }
        return some [.group none (← body)]
      | '|' :: rest =>
        set { s with rest := rest }
        return some [.group none (← body)]
      | '>' :: rest =>
        set { s with rest := rest }
        return some [.atomic (← body)]
      | '=' :: rest =>
        set { s with rest := rest }
        return some [.look false false (← body)]
      | '!' :: rest =>
        set { s with rest := rest }
        return some [.look false true (← body)]
      | '#' :: rest =>
        let comment := rest.takeWhile (· ≠ ')')
        match rest.drop comment.length with
        | ')' :: after =>
          set { s with rest := after }
          return none
        | _ => throw "missing ) at end of (?# comment"
      | '<' :: '=' :: rest =>
        set { s with rest := rest }
        let alts ← body
        if alts.any fun a => (perlFixedLength a).isNone then
          throw "lookbehind assertion is not fixed length"
        return some [.look true false alts]
      | '<' :: '!' :: rest =>
        set { s with rest := rest }
        let alts ← body
        if alts.any fun a => (perlFixedLength a).isNone then
          throw "lookbehind assertion is not fixed length"
        return some [.look true true alts]
      | '(' :: rest =>
        set { s with rest := rest }
        let cond ← perlConditionTest body rest
        let alts ← body
        let define := match cond with
          | .group _ d => d
          | .look _ _ _ => false
        let problem :=
          if define && alts.length > 1 then some "DEFINE subpattern contains more than one branch"
          else if alts.length > 2 then some "conditional subpattern contains more than two branches"
          else none
        if let some m := problem then
          modify fun s => { s with checks := s.checks ++ [.problem m] }
        let yes := alts.headD []
        let no := (alts.drop 1).headD []
        match cond with
        | .group k _ => return some [.ifGroup k yes no]
        | .look behind negate test => return some [.ifLook behind negate test yes no]
      | '<' :: rest | 'P' :: '<' :: rest | '\'' :: rest =>
        let close := if more.head? = some '\'' then '\'' else '>'
        let name := rest.takeWhile (· ≠ close)
        match rest.drop name.length with
        | _ :: after =>
          let k := s.opened + 1
          set { s with rest := after, opened := k, names := s.names ++ [(String.ofList name, k)] }
          return some [.group (some k) (← body)]
        | [] => throw "syntax error in subpattern name (missing terminator?)"
      | _ =>
        let (fl, ended) ← perlFlagLetters saved (more.length + 1) true
        if ended = ')' then
          modify fun s => { s with flags := fl }
          return none
        else
          modify fun s => { s with flags := fl }
          return some [.group none (← body)]
    | _ =>
      let k := s.opened + 1
      set { s with opened := k }
      return some [.group (some k) (← body)]

end

def parsePerl (pat : List Char) (caseless : Bool := false) : Except String PerlRegex :=
  let read (known : List (String × Nat)) :=
    (ExceptT.run (perlAlts (4 * pat.length + 16) 0)).run
      { rest := pat, flags := { caseless := caseless }, known := known }
  let known := (read []).2.names
  match read known with
  | (.ok alts, r) =>
    let missing := "reference to non-existent subpattern"
    let failed := r.checks.findSome? fun
      | .group k => if k ≤ 0 ∨ k > r.opened then some missing else none
      | .name n => if (r.names.lookup n).isNone then some missing else none
      | .problem m => some m
    if r.rest.head? = some ')' then .error "unmatched closing parenthesis"
    else if r.highestRef > r.opened then .error missing
    else if r.namedRefs.any fun nm => (r.names.lookup nm).isNone then .error missing
    else match failed with
      | some m => .error m
      | none => .ok ⟨alts, r.opened⟩
  | (.error e, _) => .error e

/-! ## Matching -/

/-- How far a match has got: the place, the groups captured (the latest first), and where `\K`
moved the start. -/
structure PerlState where
  pos : Nat
  caps : List (Nat × Nat × Nat) := []
  keep : Option Nat := none

/-- What is left to match: a sequence of nodes, the end of a group (with where it started), or
a repetition after some rounds (with where the last round started). -/
inductive PerlFrame where
  | seq (ns : List PerlNode)
  | close (k : Nat) (start : Nat)
  | loop (node : PerlNode) (lo : Nat) (hi : Option Nat) (greedy : Bool) (count : Nat) (entry : Nat)

def perlWordAt (s : Array Char) (i : Nat) : Bool := (s[i]?.map perlWordChar).getD false

/-- Matches what is left from a state, the first way found; none when there is none or the
fuel runs out. -/
def perlRun (s : Array Char) : Nat → List PerlFrame → PerlState → Option PerlState
  | 0, _, _ => none
  | _ + 1, [], st => some st
  | n + 1, .seq [] :: rest, st => perlRun s n rest st
  | n + 1, .close k start :: rest, st => perlRun s n rest { st with caps := (k, start, st.pos) :: st.caps }
  | n + 1, .loop node lo hi greedy count entry :: rest, st =>
    let canMore := (match hi with
      | some h => decide (count < h)
      | none => true) && !(count > 0 && st.pos == entry && count ≥ lo)
    let again : Unit → Option PerlState := fun _ =>
      if canMore then perlRun s n (.seq [node] :: .loop node lo hi greedy (count + 1) st.pos :: rest) st
      else none
    let stop : Unit → Option PerlState := fun _ => if count ≥ lo then perlRun s n rest st else none
    if greedy then
      match again () with
      | some r => some r
      | none => stop ()
    else
      match stop () with
      | some r => some r
      | none => again ()
  | n + 1, .seq (node :: ns) :: rest, st =>
    let k := PerlFrame.seq ns :: rest
    let step (ok : Char → Bool) : Option PerlState :=
      match s[st.pos]? with
      | some c => if !Text.Unicode.isRaw c && ok c then perlRun s n k { st with pos := st.pos + 1 } else none
      | none => none
    match node with
    | .char c fold => step (perlSame fold c)
    | .any dotall => step fun c => dotall || c != '\n'
    | .set negate items fold => step fun c => perlSetAccepts items fold c != negate
    | .group index alts =>
      let closing := match index with
        | some i => [PerlFrame.close i st.pos]
        | none => []
      alts.findSome? fun alt => perlRun s n (.seq alt :: closing ++ k) st
    | .atomic alts =>
      match alts.findSome? fun alt => perlRun s n [.seq alt] st with
      | some r => perlRun s n k { st with pos := r.pos, caps := r.caps, keep := r.keep }
      | none => none
    | .look behind negate alts =>
      let found := alts.findSome? fun alt =>
        if behind then
          match perlFixedLength alt with
          | some len =>
            if len ≤ st.pos then
              (perlRun s n [.seq alt] { st with pos := st.pos - len }).bind fun r =>
                if r.pos == st.pos then some r else none
            else none
          | none => none
        else perlRun s n [.seq alt] st
      match found, negate with
      | some r, false => perlRun s n k { st with caps := r.caps }
      | none, true => perlRun s n k st
      | _, _ => none
    | .backref i fold =>
      match st.caps.lookup i with
      | some (a, b) =>
        let sub := (s.extract a b).toList
        let here := (s.extract st.pos (st.pos + sub.length)).toList
        if here.length == sub.length && (here.zip sub).all (fun (x, y) => perlSame fold x y) then
          perlRun s n k { st with pos := st.pos + sub.length }
        else none
      | none => none
    | .lineStart ml =>
      if st.pos == 0 || (ml && s[st.pos - 1]? == some '\n') then perlRun s n k st else none
    | .lineEnd ml =>
      if st.pos == s.size || (ml && s[st.pos]? == some '\n') then perlRun s n k st else none
    | .textStart => if st.pos == 0 then perlRun s n k st else none
    | .textEnd => if st.pos == s.size then perlRun s n k st else none
    | .textEndNewline =>
      if st.pos == s.size || (st.pos + 1 == s.size && s[st.pos]? == some '\n') then perlRun s n k st
      else none
    | .boundary negate =>
      let edge := (st.pos > 0 && perlWordAt s (st.pos - 1)) != perlWordAt s st.pos
      if edge != negate then perlRun s n k st else none
    | .keep => perlRun s n k { st with keep := some st.pos }
    | .rep node lo hi greedy => perlRun s n (.loop node lo hi greedy 0 st.pos :: k) st
    | .ifGroup i yes no =>
      let set := match i with
        | some i => st.caps.any (·.1 == i)
        | none => false
      perlRun s n (.seq (if set then yes else no) :: k) st
    | .ifLook behind negate test yes no =>
      let found := test.findSome? fun alt =>
        if behind then
          match perlFixedLength alt with
          | some len =>
            if len ≤ st.pos then
              (perlRun s n [.seq alt] { st with pos := st.pos - len }).bind fun r =>
                if r.pos == st.pos then some r else none
            else none
          | none => none
        else perlRun s n [.seq alt] st
      match found, negate with
      | some r, false => perlRun s n (.seq yes :: k) { st with caps := r.caps }
      | none, true => perlRun s n (.seq yes :: k) st
      | _, _ => perlRun s n (.seq no :: k) st

/-- The first match of an expression in a text from a place on: where the reported match
starts and ends, with the groups. -/
def PerlRegex.search (rx : PerlRegex) (s : Array Char) (start : Nat) :
    Option (Nat × Nat × List (Nat × Nat × Nat)) :=
  go (s.size + 1 - start) start
where
  go : Nat → Nat → Option (Nat × Nat × List (Nat × Nat × Nat))
    | 0, _ => none
    | k + 1, i =>
      let fuel := 64 * (s.size + 2) * (s.size + 2) + 4096
      match perlRun s fuel [.seq [.group (some 0) rx.alts]] { pos := i } with
      | some st => some (st.keep.getD i, st.pos, st.caps)
      | none => go k (i + 1)

end SqlMigration.Shell
