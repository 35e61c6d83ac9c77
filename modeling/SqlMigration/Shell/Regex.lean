import SqlMigration.Shell.Pattern
import SqlMigration.Text.Unicode

/-!
# Basic regular expressions

The regular expressions of `expr`, `grep` and `sed`: basic syntax, over the characters of the
UTF-8 locale, so that a multibyte character is one character and the classes, word characters
and case folding are those of Unicode.
-/

namespace SqlMigration.Shell

/-- A node of a regular expression. -/
inductive Rx where
  | char (c : Char)
  | any
  | set (invert : Bool) (members : List SetMember)
  /-- A numbered group and its alternatives. -/
  | group (k : Nat) (alts : List (List Rx))
  | backref (k : Nat)
  /-- `^`: the start of the text, or with the multiline mode of a line in it. -/
  | atStart
  /-- `$`: the end of the text, or with the multiline mode of a line in it. -/
  | atEnd
  /-- `\``: the start of the text, whatever the mode. -/
  | bufStart
  /-- `\'`: the end of the text, whatever the mode. -/
  | bufEnd
  /-- The node repeated at least `lo` and at most `hi` times. -/
  | rep (r : Rx) (lo : Nat) (hi : Option Nat)
  /-- A word character (letter, digit or underscore), or with `invert` any other. -/
  | word (invert : Bool)
  /-- A space character, or with `invert` any other. -/
  | space (invert : Bool)
  /-- The edge of a word, or with `invert` a place that is not one. -/
  | boundary (invert : Bool)
  | wordStart
  | wordEnd
  deriving Repr, Inhabited

/-- What reading an expression has left: the characters, and the groups opened and closed. -/
structure RxReader where
  rest : List Char
  opened : Nat := 0
  closed : List Nat := []
  /-- Whether the GNU operators `\+ \? \|` and the escapes `\w \s \b \< \>` are read; without
  them these are the plain characters. -/
  gnuOps : Bool := true
  /-- Whether the expression was written in extended syntax. -/
  extended : Bool := false
  /-- Whether, in extended syntax, a repetition with nothing before it is an error; otherwise
  it is warned about and repeats nothing. -/
  refuseBare : Bool := false
  /-- Whether a bracket written like a class without its brackets, `[:alpha:]`, is an error. -/
  checkColons : Bool := false
  /-- Whether a `)` that closes no group is a plain character. -/
  closeOrdinary : Bool := false
  /-- Whether a range whose end comes before its start is allowed, holding nothing. -/
  emptyRanges : Bool := false
  /-- The warnings found so far. -/
  warnings : List String := []

abbrev RxM := ExceptT String (StateM RxReader)

def unmatchedBracket : String := "Unmatched [, [^, [:, [., or [="

def badInterval : String := "Invalid content of \\\x7b\\\x7d"

def unmatchedBrace : String := "Unmatched \\\x7b"

def dupMax : Nat := 32767

def classNames : List String :=
  ["alpha", "digit", "alnum", "upper", "lower", "space", "blank", "punct", "print", "graph",
   "cntrl", "xdigit"]

/-- Reads a `[:name:]`, `[=c=]` or `[.c.]` element after its `[` and kind character: its body
and the characters after it. -/
def bracketElement (kind : Char) (cs : List Char) : Except String (List Char × List Char) :=
  let body := (cs.zip (cs.drop 1)).takeWhile fun (a, b) => ¬ (a = kind ∧ b = ']')
  if body.length + 1 < cs.length then .ok (body.map (·.1), cs.drop (body.length + 2))
  else .error unmatchedBracket

/-- Reads the members of a bracket set up to its `]`; the first character is always a member. -/
def readBracket (emptyOk : Bool) :
    Nat → Bool → List SetMember → List Char → Except String (List SetMember × List Char)
  | 0, _, _, _ => .error unmatchedBracket
  | _ + 1, _, _, [] => .error unmatchedBracket
  | n + 1, first, acc, c :: rest =>
    if c = ']' ∧ ¬ first then .ok (acc.reverse, rest)
    else
      let elem : Except String (Option Char × Option String × List Char) :=
        match c, rest with
        | '[', ':' :: more => do
          let (name, after) ← bracketElement ':' more
          let name := String.ofList name
          if classNames.contains name then pure (none, some name, after)
          else throw "Invalid character class name"
        | '[', '=' :: more => do
          let (body, after) ← bracketElement '=' more
          match body with
          | [d] => pure (some d, none, after)
          | _ => throw "Invalid collation character"
        | '[', '.' :: more => do
          let (body, after) ← bracketElement '.' more
          match body with
          | [d] => pure (some d, none, after)
          | _ => throw "Invalid collation character"
        | _, _ => pure (some c, none, rest)
      match elem with
      | .error e => .error e
      | .ok (_, some name, after) => readBracket emptyOk n false (.cls name :: acc) after
      | .ok (lo, none, after) =>
        let lo := lo.getD c
        match after with
        | '-' :: d :: more =>
          if d = ']' then readBracket emptyOk n false (.char lo :: acc) after
          else
            let hi : Except String (Char × List Char) := match d, more with
              | '[', '.' :: more' => do
                let (body, after') ← bracketElement '.' more'
                match body with
                | [e] => pure (e, after')
                | _ => throw "Invalid collation character"
              | '[', '=' :: _ => throw "Invalid range end"
              | '[', ':' :: _ => throw "Invalid range end"
              | _, _ => pure (d, more)
            match hi with
            | .error e => .error e
            | .ok (hi, more) =>
              if hi < lo ∧ ¬ emptyOk then .error "Invalid range end"
              else readBracket emptyOk n false (.range lo hi :: acc) more
        | _ => readBracket emptyOk n false (.char lo :: acc) after

/-- A bound of an interval as it is read: absent (no digits), a number, or malformed (a
character other than a digit in it, or the end of the expression before it ends). -/
inductive Bound where
  | absent
  | num (n : Nat)
  | malformed
  deriving DecidableEq

/-- Reads a bound of an interval up to the `,` or the end of the interval that follows it: the
bound, that character (none at the end of the expression), and the characters after it. -/
def readBound (basic : Bool) : Nat → List Char → Bound → Bound × Option Char × List Char
  | 0, cs, _ => (.malformed, none, cs)
  | _ + 1, [], _ => (.malformed, none, [])
  | k + 1, c :: rest, b =>
    match basic, c, rest with
    | true, '\\', '}' :: more => (b, some '}', more)
    | false, '}', _ => (b, some '}', rest)
    | _, ',', _ => (b, some ',', rest)
    | _, '\\', ',' :: more => (b, some ',', more)
    | _, '\\', _ :: more => readBound basic k more .malformed
    | _, _, _ =>
      let b := match b with
        | .malformed => .malformed
        | .absent => if c.isDigit then .num (c.toNat - 48) else .malformed
        | .num n => if c.isDigit then .num (min (dupMax + 1) (10 * n + (c.toNat - 48))) else .malformed
      readBound basic k rest b

/-- What an interval's opening brace starts: the bounds and the characters after the interval,
a brace that stays a plain character, or an error. -/
inductive BraceRead where
  | interval (lo : Nat) (hi : Option Nat) (rest : List Char)
  | plain
  | fault (msg : String)

/-- Reads an interval after its opening brace. -/
def readBraces (basic ordinary : Bool) (cs : List Char) : BraceRead :=
  let fuel := cs.length + 1
  let (first, stop1, rest1) := readBound basic fuel cs .absent
  let first : Option Bound := match first, stop1 with
    | .absent, some ',' => some (.num 0)
    | .absent, _ => none
    | b, _ => some b
  match first with
  | none => .fault badInterval
  | some first =>
    let (stop, second, rest) : Option Char × Bound × List Char := match first, stop1 with
      | .malformed, _ => (stop1, .malformed, rest1)
      | _, some '}' => (stop1, first, rest1)
      | _, some ',' => let (b, st, r) := readBound basic fuel rest1 .absent; (st, b, r)
      | _, _ => (stop1, .malformed, rest1)
    match first, second with
    | .num lo, .absent =>
      if stop ≠ some '}' then .fault badInterval
      else if lo > dupMax then .fault "Regular expression too big"
      else .interval lo none rest
    | .num lo, .num hi =>
      if hi < lo ∨ stop ≠ some '}' then .fault badInterval
      else if hi > dupMax then .fault "Regular expression too big"
      else .interval lo (some hi) rest
    | _, _ =>
      if ordinary then .plain
      else .fault (if stop.isNone then unmatchedBrace else badInterval)

def readInterval (cs : List Char) : Except String (Nat × Option Nat × List Char) :=
  match readBraces true false cs with
  | .interval lo hi rest => .ok (lo, hi, rest)
  | .plain => .error badInterval
  | .fault msg => .error msg

/-- Whether the characters after a `$` make it an anchor: the end of the expression, of a group
or of an alternative. -/
def endsHere (cs : List Char) : Bool :=
  match cs with
  | [] => true
  | '\\' :: ')' :: _ => true
  | '\\' :: '|' :: _ => true
  | _ => false

/-- The length of a bracket set's body after its `[` (and `^`), up to and with its `]`; none
when it is not closed. -/
def bracketLength : Nat → Bool → List Char → Option Nat
  | 0, _, _ => none
  | _ + 1, _, [] => none
  | n + 1, first, c :: rest =>
    if c = ']' ∧ ¬ first then some 1
    else match c, rest with
      | '[', k :: more =>
        if k = ':' ∨ k = '.' ∨ k = '=' then
          let body := (more.zip (more.drop 1)).takeWhile fun (a, b) => ¬ (a = k ∧ b = ']')
          if body.length + 1 < more.length then
            (bracketLength n false (more.drop (body.length + 2))).map (· + body.length + 4)
          else none
        else (bracketLength n false rest).map (· + 1)
      | _, _ => (bracketLength n false rest).map (· + 1)

def colonSyntax : String := "character class syntax is [[:space:]], not [:space:]"

/-- Whether the body of a bracket (after its `[` and `^`, before its `]`) looks like a class
without its brackets: it starts and ends with `:`, has another character, and no range. -/
def looksLikeClass (body : List Char) : Bool :=
  match body with
  | ':' :: _ =>
    body.length ≥ 2 && body.getLast? == some ':' && body.any (· ≠ ':') &&
      !(body.drop 1).dropLast.contains '-'
  | _ => false

/-- A repetition with nothing before it in extended syntax: an error when refused; otherwise a
warning, and it repeats an anchor `^` before it or else nothing, when no group closes right
after it. -/
def bareRepeat (acc : List Rx) (lo : Nat) (hi : Option Nat) (what : String) : RxM (List Rx) := do
  let s ← get
  if s.refuseBare then throw "Invalid preceding regular expression"
  set { s with warnings := s.warnings ++ [what ++ " at start of expression"] }
  match acc with
  | .atStart :: more => return .rep .atStart lo hi :: more
  | _ =>
    match s.rest with
    | '\\' :: ')' :: _ => throw "Unmatched ( or \\("
    | _ => return acc

def repeatLast (acc : List Rx) (first : Bool) (lo : Nat) (hi : Option Nat) (text : Char) :
    List Rx :=
  match first, acc with
  | false, r :: more => .rep r lo hi :: more
  | _, _ => .char text :: acc

mutual

def readAlts : Nat → Nat → RxM (List (List Rx))
  | 0, _ => throw "Regular expression too big"
  | n + 1, depth => do
    let seq ← readSeq n depth [] true
    let s ← get
    match s.rest with
    | '\\' :: '|' :: more =>
      if s.gnuOps || s.extended then
        set { s with rest := more }
        return seq :: (← readAlts n depth)
      else return [seq]
    | _ => return [seq]

/-- Reads the nodes of one alternative; `first` while no node has been read (an anchor `^`
does not count). -/
def readSeq : Nat → Nat → List Rx → Bool → RxM (List Rx)
  | 0, _, _, _ => throw "Regular expression too big"
  | n + 1, depth, acc, first => do
    let s ← get
    let advance (rest : List Char) : RxM Unit := set { s with rest := rest }
    match s.rest with
    | [] => return acc.reverse
    | '\\' :: '|' :: more =>
      if s.gnuOps || s.extended then return acc.reverse
      else
        advance more
        readSeq n depth (.char '|' :: acc) false
    | '\\' :: ')' :: more =>
      if depth > 0 then return acc.reverse
      else if s.closeOrdinary then
        advance more
        readSeq n depth (.char ')' :: acc) false
      else throw "Unmatched ) or \\)"
    | '^' :: more =>
      advance more
      if first then readSeq n depth (.atStart :: acc) true
      else if s.extended then readSeq n depth (.atStart :: acc) false
      else readSeq n depth (.char '^' :: acc) false
    | '$' :: more =>
      advance more
      if s.extended || endsHere more then readSeq n depth (.atEnd :: acc) false
      else readSeq n depth (.char '$' :: acc) false
    | '*' :: more =>
      advance more
      if first && s.extended then readSeq n depth (← bareRepeat acc 0 none "*") true
      else readSeq n depth (repeatLast acc first 0 none '*') false
    | '.' :: more =>
      advance more
      readSeq n depth (.any :: acc) false
    | '[' :: more =>
      let (invert, body) := match more with
        | '^' :: b => (true, b)
        | b => (false, b)
      if body.isEmpty then throw "Invalid regular expression"
      let closedAt := bracketLength (body.length + 1) true body
      if s.checkColons && (closedAt.map fun k => looksLikeClass (body.take (k - 1))).getD false then
        throw colonSyntax
      match readBracket s.emptyRanges (body.length + 1) true [] body with
      | .error e => throw e
      | .ok (ms, after) =>
        advance after
        readSeq n depth (.set invert ms :: acc) false
    | '\\' :: more =>
      match more with
      | [] => throw "Trailing backslash"
      | '(' :: after =>
        let k := s.opened + 1
        set { s with rest := after, opened := k }
        let alts ← readAlts n (depth + 1)
        let s' ← get
        match s'.rest with
        | '\\' :: ')' :: after' =>
          set { s' with rest := after', closed := k :: s'.closed }
          readSeq n depth (.group k alts :: acc) false
        | _ => throw "Unmatched ( or \\("
      | '{' :: after =>
        if first && s.extended then
          match readInterval after with
          | .error e => throw e
          | .ok (lo, hi, after') =>
            advance after'
            readSeq n depth (← bareRepeat acc lo hi "{...}") true
        else if first then
          advance after
          readSeq n depth (.char '{' :: acc) false
        else
          match readInterval after with
          | .error e => throw e
          | .ok (lo, hi, after') =>
            advance after'
            readSeq n depth (repeatLast acc first lo hi '{') false
      | '+' :: after =>
        advance after
        if first && s.extended then readSeq n depth (← bareRepeat acc 1 none "+") true
        else if s.gnuOps || s.extended then readSeq n depth (repeatLast acc first 1 none '+') false
        else readSeq n depth (.char '+' :: acc) false
      | '?' :: after =>
        advance after
        if first && s.extended then readSeq n depth (← bareRepeat acc 0 (some 1) "?") true
        else if s.gnuOps || s.extended then readSeq n depth (repeatLast acc first 0 (some 1) '?') false
        else readSeq n depth (.char '?' :: acc) false
      | d :: after =>
        advance after
        if '1' ≤ d ∧ d ≤ '9' then
          let k := d.toNat - 48
          if s.closed.contains k then readSeq n depth (.backref k :: acc) false
          else throw "Invalid back reference"
        else
          let node : Rx := if ¬ s.gnuOps then .char d else match d with
            | 'w' => .word false
            | 'W' => .word true
            | 's' => .space false
            | 'S' => .space true
            | 'b' => .boundary false
            | 'B' => .boundary true
            | '<' => .wordStart
            | '>' => .wordEnd
            | '\x60' => .bufStart
            | '\'' => .bufEnd
            | _ => .char d
          readSeq n depth (node :: acc) false
    | c :: more =>
      advance more
      readSeq n depth (.char c :: acc) false

end

/-- An extended regular expression written in basic syntax: unescaped `( ) | + ? {` are
operators there and escaped ones plain characters, so each trades its backslash; bracket sets
are kept as they are. -/
def extendedToBasic (ordinary : Bool) : Nat → List Char → Except String (List Char)
  | 0, cs => .ok cs
  | _ + 1, [] => .ok []
  | n + 1, '\\' :: c :: rest =>
    if "(){}|+?".toList.contains c then (c :: ·) <$> extendedToBasic ordinary n rest
    else (['\\', c] ++ ·) <$> extendedToBasic ordinary n rest
  | n + 1, '[' :: rest =>
    let (lead, body) := match rest with
      | '^' :: b => (['^'], b)
      | b => ([], b)
    match bracketLength (body.length + 1) true body with
    | some k => ('[' :: lead ++ body.take k ++ ·) <$> extendedToBasic ordinary n (body.drop k)
    | none => .ok ('[' :: rest)
  | n + 1, c :: rest =>
    if "()|+?".toList.contains c then (['\\', c] ++ ·) <$> extendedToBasic ordinary n rest
    else if c = '{' then
      match readBraces false ordinary rest with
      | .interval lo hi after =>
        let bounds := toString lo ++ "," ++ (hi.map toString).getD ""
        (['\\', '{'] ++ bounds.toList ++ ['\\', '}'] ++ ·) <$> extendedToBasic ordinary n after
      | .plain => ('{' :: ·) <$> extendedToBasic ordinary n rest
      | .fault msg => .error msg
    else (c :: ·) <$> extendedToBasic ordinary n rest

/-- A regular expression read: its alternatives, how many groups it has, and the warnings
reading it gave. -/
structure Regex where
  alts : List (List Rx)
  groups : Nat
  warnings : List String := []
  deriving Repr

/-- How an expression is written: in basic syntax or `extended`; with the GNU operators unless
`gnuOps` is false; whether a repetition with nothing to repeat is refused (or warned about);
and whether a class written without its brackets is refused. -/
structure RxSyntax where
  extended : Bool := false
  gnuOps : Bool := true
  refuseBare : Bool := false
  checkColons : Bool := false
  /-- Whether, in extended syntax, a brace that starts no valid interval is a plain character
  (otherwise it is an error), and a `)` that closes no group is a plain character too. -/
  lenient : Bool := false
  /-- Whether a range whose end comes before its start is allowed, holding nothing. -/
  emptyRanges : Bool := false
  /-- Whether, in extended syntax, a `)` that closes no group is a plain character, braces
  keeping their strictness. -/
  closeOrdinary : Bool := false

def parseRegex (pat : List Char) (syn : RxSyntax := {}) : Except String Regex :=
  let translated := if syn.extended then extendedToBasic syn.lenient (pat.length + 1) pat else .ok pat
  match translated with
  | .error e => .error e
  | .ok pat =>
    let start : RxReader :=
      { rest := pat, gnuOps := syn.gnuOps, extended := syn.extended, refuseBare := syn.refuseBare,
        checkColons := syn.checkColons, closeOrdinary := syn.extended && (syn.lenient || syn.closeOrdinary),
        emptyRanges := syn.emptyRanges }
    match (ExceptT.run (readAlts (8 * pat.length + 16) 0)).run start with
    | (.ok alts, r) => .ok ⟨alts, r.opened, r.warnings⟩
    | (.error e, _) => .error e

/-- A way a match has got so far: the place reached, and the text of each group (its start and
end), the latest first. -/
structure Hit where
  pos : Nat
  caps : List (Nat × Nat × Nat) := []
  deriving DecidableEq, Repr

def isWordChar (c : Char) : Bool := Text.Unicode.isAlnum c || c = '_'

def wordAt (s : Array Char) (i : Nat) : Bool :=
  match s[i]? with
  | some c => isWordChar c
  | none => false

def wordBefore (s : Array Char) (i : Nat) : Bool := i > 0 && wordAt s (i - 1)

def charHit (s : Array Char) (h : Hit) (ok : Char → Bool) : List Hit :=
  match s[h.pos]? with
  | some c => if ok c then [{ h with pos := h.pos + 1 }] else []
  | none => []

def dedupHits (hs : List Hit) : List Hit :=
  hs.foldl (fun acc h => if acc.contains h then acc else acc ++ [h]) []

/-- How a match is made: `fold` ignores case, and `multiline` makes `^` and `$` match at the
line feeds inside the text, where `.` and a turned-around set no longer match. -/
structure MatchMode where
  fold : Bool := false
  multiline : Bool := false
  deriving DecidableEq, Repr

def sameChar (fold : Bool) (a b : Char) : Bool := a == b || (fold && Text.Unicode.sameIgnoringCase a b)

/-- Whether a member of a bracket set accepts a character: ranges go by code point and the
classes are those of the locale. -/
def memberAccepts : SetMember → Char → Bool
  | .char d, c => c == d
  | .range lo hi, c => lo ≤ c && c ≤ hi
  | .cls name, c => Text.Unicode.inClass name c

/-- Whether a set accepts a character, or with `fold` the character in either case; a byte
that starts no character is in no set. -/
def setAccepts (fold : Bool) (ms : List SetMember) (c : Char) : Bool :=
  ms.any (memberAccepts · c) ||
    (fold && (ms.any (memberAccepts · (Text.Unicode.toLower c)) ||
      ms.any (memberAccepts · (Text.Unicode.toUpper c))))

mutual

/-- The ways a sequence of nodes matches from a hit, in order of preference; `fold` ignores
case. -/
def matchSeq : Nat → MatchMode → Array Char → List Rx → Hit → List Hit
  | 0, _, _, _, _ => []
  | _ + 1, _, _, [], h => [h]
  | n + 1, mode, s, r :: rest, h =>
    dedupHits ((matchRx n mode s r h).flatMap fun h' => matchSeq n mode s rest h')

def matchAlts : Nat → MatchMode → Array Char → List (List Rx) → Hit → List Hit
  | 0, _, _, _, _ => []
  | _ + 1, _, _, [], _ => []
  | n + 1, mode, s, a :: more, h => matchSeq n mode s a h ++ matchAlts n mode s more h

def matchRx : Nat → MatchMode → Array Char → Rx → Hit → List Hit
  | 0, _, _, _, _ => []
  | n + 1, mode, s, r, h =>
    let fold := mode.fold
    let lineBreak (c : Char) : Bool := mode.multiline && c == '\n'
    match r with
    | .char c => charHit s h (sameChar fold c)
    | .any => charHit s h fun c => c != '\x00' && !Text.Unicode.isRaw c && !lineBreak c
    | .set invert ms => charHit s h fun c =>
      !Text.Unicode.isRaw c && setAccepts fold ms c != invert && !(invert && lineBreak c)
    | .word invert => charHit s h fun c => !Text.Unicode.isRaw c && isWordChar c != invert
    | .space invert => charHit s h fun c => !Text.Unicode.isRaw c && Text.Unicode.isSpace c != invert
    | .group k alts =>
      (matchAlts n mode s alts h).map fun h' => { h' with caps := (k, h.pos, h'.pos) :: h'.caps }
    | .backref k =>
      match h.caps.lookup k with
      | some (a, b) =>
        let sub := (s.extract a b).toList
        let here := (s.extract h.pos (h.pos + sub.length)).toList
        if here.length == sub.length && (here.zip sub).all fun (x, y) => sameChar fold x y then
          [{ h with pos := h.pos + sub.length }]
        else []
      | none => []
    | .atStart =>
      if h.pos = 0 || (mode.multiline && s[h.pos - 1]? == some '\n') then [h] else []
    | .atEnd =>
      if h.pos = s.size || (mode.multiline && s[h.pos]? == some '\n') then [h] else []
    | .bufStart => if h.pos = 0 then [h] else []
    | .bufEnd => if h.pos = s.size then [h] else []
    | .boundary invert =>
      if (wordBefore s h.pos != wordAt s h.pos) != invert then [h] else []
    | .wordStart => if !wordBefore s h.pos && wordAt s h.pos then [h] else []
    | .wordEnd => if wordBefore s h.pos && !wordAt s h.pos then [h] else []
    | .rep r lo hi => matchRep n mode s r lo hi 0 h

/-- The ways a node repeated matches from a hit after `count` repetitions, the most
repetitions first; a repetition past the least count must advance. -/
def matchRep : Nat → MatchMode → Array Char → Rx → Nat → Option Nat → Nat → Hit → List Hit
  | 0, _, _, _, _, _, _, _ => []
  | n + 1, mode, s, r, lo, hi, count, h =>
    let canMore := match hi with
      | some m => decide (count < m)
      | none => true
    let more := if canMore then
        ((matchRx n mode s r h).filter fun h' => h'.pos > h.pos || count < lo).flatMap fun h' =>
          matchRep n mode s r lo hi (count + 1) h'
      else []
    dedupHits (more ++ (if count ≥ lo then [h] else []))

end

def Rx.size : Rx → Nat
  | .group _ alts => 1 + sizeAlts alts
  | .rep r _ _ => 1 + r.size
  | _ => 1
where
  sizeAlts : List (List Rx) → Nat
    | [] => 0
    | a :: more => sizeSeq a + sizeAlts more
  sizeSeq : List Rx → Nat
    | [] => 1
    | r :: more => r.size + sizeSeq more

/-- The best match of an expression at a place of a text: the longest, and of those the first
found; `fold` ignores case. -/
def Regex.matchAt (rx : Regex) (s : Array Char) (start : Nat) (mode : MatchMode := {}) : Option Hit :=
  let fuel := 4 * (Rx.size.sizeAlts rx.alts + 2) * (s.size + 2)
  let hits := matchAlts fuel mode s rx.alts { pos := start }
  hits.foldl (fun best h => match best with
    | some b => if h.pos > b.pos then some h else some b
    | none => some h) none

def Regex.endsAt (rx : Regex) (s : Array Char) (start : Nat) (mode : MatchMode := {}) : List Nat :=
  let fuel := 4 * (Rx.size.sizeAlts rx.alts + 2) * (s.size + 2)
  (matchAlts fuel mode s rx.alts { pos := start }).map (·.pos)

/-- The leftmost match of an expression in a text from a place on: where it starts, and the
best match there. -/
def Regex.search (rx : Regex) (s : Array Char) (start : Nat) (mode : MatchMode := {}) :
    Option (Nat × Hit) :=
  go (s.size + 1 - start) start
where
  go : Nat → Nat → Option (Nat × Hit)
    | 0, _ => none
    | k + 1, i =>
      match rx.matchAt s i mode with
      | some h => some (i, h)
      | none => go k (i + 1)

def Hit.group (h : Hit) (s : Array Char) (k : Nat) : Option (List Char) :=
  (h.caps.lookup k).map fun (a, b) => (s.extract a b).toList

end SqlMigration.Shell
