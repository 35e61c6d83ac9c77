import SqlMigration.Shell.Syntax
import SqlMigration.Text.Unicode
/-!
# Shell patterns

The patterns of `case` items, of the trimming expansions `${x#pattern}` and of file name
generation.
-/

namespace SqlMigration.Shell

abbrev PatChar := Char × Bool

/-- A member of a bracket set. -/
inductive SetMember where
  | char (c : Char)
  | range (lo hi : Char)
  | cls (name : String)
  deriving DecidableEq, Repr

/-- How an extended group uses its alternatives: `?(...)` at most one, `*(...)` any number in
a row, `+(...)` at least one, `@(...)` exactly one, `!(...)` none. -/
inductive GroupKind where
  | atMostOne
  | anyNumber
  | atLeastOne
  | exactlyOne
  | noneOf
  deriving DecidableEq, Repr

def GroupKind.ofChar? : Char → Option GroupKind
  | '?' => some .atMostOne
  | '*' => some .anyNumber
  | '+' => some .atLeastOne
  | '@' => some .exactlyOne
  | '!' => some .noneOf
  | _ => none

/-- An element of a compiled pattern. -/
inductive PatItem where
  | star
  | one
  | literal (c : Char)
  | set (invert : Bool) (members : List SetMember)
  | group (kind : GroupKind) (alternatives : List (List PatItem))
  deriving Repr

def inClass (name : String) (c : Char) : Bool :=
  let n := c.toNat
  match name with
  | "alpha" => c.isAlpha
  | "digit" => c.isDigit
  | "alnum" => c.isAlphanum
  | "upper" => c.isUpper
  | "lower" => c.isLower
  | "space" => n = 32 ∨ (9 ≤ n ∧ n ≤ 13)
  | "blank" => n = 32 ∨ n = 9
  | "punct" => 33 ≤ n ∧ n ≤ 126 ∧ ¬ c.isAlphanum
  | "print" => 32 ≤ n ∧ n ≤ 126
  | "graph" => 33 ≤ n ∧ n ≤ 126
  | "cntrl" => n < 32 ∨ n = 127
  | "xdigit" => c.isDigit ∨ ('a' ≤ c ∧ c ≤ 'f') ∨ ('A' ≤ c ∧ c ≤ 'F')
  | _ => false

def SetMember.accepts : SetMember → Char → Bool
  | .char d, c => c == d
  | .range lo hi, c => lo ≤ c && c ≤ hi
  | .cls name, c => inClass name c

def readClass (cs : List PatChar) : Option (String × List PatChar) :=
  match cs with
  | (':', false) :: rest =>
    let name := rest.takeWhile fun (c, q) => q ∨ c ≠ ':'
    match rest.drop name.length with
    | (':', false) :: (']', false) :: after => some (String.ofList (name.map (·.1)), after)
    | _ => none
  | _ => none

/-- The members of a set body up to its closing `]`, the first character always a member; none
when the set is not closed. -/
def readSet : Nat → Bool → List SetMember → List PatChar → Option (List SetMember × List PatChar)
  | 0, _, _, _ => none
  | _ + 1, _, _, [] => none
  | k + 1, first, acc, (c, q) :: rest =>
    if c = ']' ∧ ¬ q ∧ ¬ first then some (acc.reverse, rest)
    else if c = '[' ∧ ¬ q then
      match readClass rest with
      | some (name, after) => readSet k false (.cls name :: acc) after
      | none => readSet k false (.char '[' :: acc) rest
    else
      let (c, rest) := match q, c, rest with
        | false, '\\', (d, _) :: more => (d, more)
        | _, _, _ => (c, rest)
      match rest with
      | ('-', false) :: (d, dq) :: more =>
        if d = ']' ∧ ¬ dq then readSet k false (.char c :: acc) rest
        else
          let (hi, more) := match dq, d, more with
            | false, '\\', (e, _) :: more' => (e, more')
            | _, _, _ => (d, more)
          readSet k false (.range c hi :: acc) more
      | _ => readSet k false (.char c :: acc) rest

/-- The body of an extended group after its `(`: its alternatives, split at each `|` outside
inner parentheses, and what follows its `)`; none when it is not closed. -/
def groupBody : Nat → Nat → List PatChar → List (List PatChar) → List PatChar →
    Option (List (List PatChar) × List PatChar)
  | 0, _, _, _, _ => none
  | _ + 1, _, _, _, [] => none
  | k + 1, depth, cur, alts, (c, q) :: rest =>
    if q then groupBody k depth ((c, q) :: cur) alts rest
    else if c = '\\' then
      match rest with
      | d :: more => groupBody k depth (d :: (c, q) :: cur) alts more
      | [] => none
    else if c = '(' then groupBody k (depth + 1) ((c, q) :: cur) alts rest
    else if c = ')' then
      if depth = 0 then some (alts ++ [cur.reverse], rest)
      else groupBody k (depth - 1) ((c, q) :: cur) alts rest
    else if c = '|' ∧ depth = 0 then groupBody k depth [] (alts ++ [cur.reverse]) rest
    else groupBody k depth ((c, q) :: cur) alts rest

def compile (ext : Bool) : Nat → List PatChar → List PatItem
  | 0, _ => []
  | _ + 1, [] => []
  | k + 1, (c, q) :: rest =>
    let group : Option (GroupKind × List (List PatChar) × List PatChar) :=
      match ext, q, GroupKind.ofChar? c, rest with
      | true, false, some kind, ('(', false) :: body =>
        (groupBody body.length 0 [] [] body).map fun (alts, after) => (kind, alts, after)
      | _, _, _, _ => none
    match group with
    | some (kind, alts, after) => .group kind (alts.map (compile ext k)) :: compile ext k after
    | none =>
    if q then .literal c :: compile ext k rest
    else match c with
      | '*' => .star :: compile ext k rest
      | '?' => .one :: compile ext k rest
      | '\\' => match rest with
        | (d, _) :: more => .literal d :: compile ext k more
        | [] => [.literal '\\']
      | '[' =>
        let (invert, body) := match rest with
          | ('!', false) :: more => (true, more)
          | _ => (false, rest)
        match readSet body.length true [] body with
        | some (ms, after) => .set invert ms :: compile ext k after
        | none => .literal '[' :: compile ext k rest
      | c => .literal c :: compile ext k rest

mutual

def matchFuel : Nat → List PatItem → List Char → Bool
  | 0, _, _ => false
  | _ + 1, [], s => s.isEmpty
  | f + 1, .star :: rest, s => (List.range (s.length + 1)).any fun i => matchFuel f rest (s.drop i)
  | f + 1, .one :: rest, s =>
    match s with
    | _ :: s => matchFuel f rest s
    | [] => false
  | f + 1, .literal c :: rest, s =>
    match s with
    | d :: s => c == d && matchFuel f rest s
    | [] => false
  | f + 1, .set invert ms :: rest, s =>
    match s with
    | d :: s => (ms.any (·.accepts d) != invert) && matchFuel f rest s
    | [] => false
  | f + 1, .group kind alts :: rest, s =>
    (List.range (s.length + 1)).any fun i =>
      groupMatches f kind alts (s.take i) && matchFuel f rest (s.drop i)

def groupMatches : Nat → GroupKind → List (List PatItem) → List Char → Bool
  | 0, _, _, _ => false
  | f + 1, kind, alts, piece =>
    let once := alts.any fun a => matchFuel f a piece
    match kind with
    | .exactlyOne => once
    | .atMostOne => piece.isEmpty || once
    | .noneOf => !once
    | .anyNumber => repeats f alts piece
    | .atLeastOne => once || (!piece.isEmpty && repeats f alts piece)

def repeats : Nat → List (List PatItem) → List Char → Bool
  | 0, _, _ => false
  | _ + 1, _, [] => true
  | f + 1, alts, s =>
    (List.range s.length).any fun j =>
      alts.any (fun a => matchFuel f a (s.take (j + 1))) && repeats f alts (s.drop (j + 1))

end

/-- The fuel that lets the items compiled from a pattern of `size` characters be matched
against a text to the end: the search goes through each item of a row once, and through each
group once for every character of the text. -/
def matchBudget (size : Nat) (s : List Char) : Nat := 2 * (size + 2) * (s.length + 2)

/-- A compiled pattern, with the size of the pattern it came from. -/
structure Compiled where
  items : List PatItem
  size : Nat

def Compiled.of (ext : Bool) (pat : List PatChar) : Compiled :=
  ⟨compile ext (pat.length + 1) pat, pat.length⟩

def Compiled.matches (p : Compiled) (s : List Char) : Bool :=
  matchFuel (matchBudget p.size s) p.items s

/-- Whether a pattern matches a whole text; with `ext` its extended groups count, and with
`fold` the pattern and the text are compared in lower case. -/
def patternMatches (ext : Bool) (pat : List PatChar) (s : String) (fold : Bool := false) : Bool :=
  if fold then
    (Compiled.of ext (pat.map fun (c, q) => (Text.Unicode.toLower c, q))).matches
      (s.toList.map Text.Unicode.toLower)
  else (Compiled.of ext pat).matches s.toList

/-- Whether a pattern has an unquoted `*`, `?` or `[`, or with `ext` an extended group, and so
may match more than itself. -/
def hasMeta (ext : Bool) (pat : List PatChar) : Bool :=
  (pat.zip ((pat.drop 1).map some ++ [none])).any fun ((c, q), next) =>
    ¬ q ∧ (c = '*' ∨ c = '?' ∨ c = '[' ∨
      (ext ∧ (GroupKind.ofChar? c).isSome ∧ next = some ('(', false)))

def patText (pat : List PatChar) : String := String.ofList (pat.map (·.1))

/-- The value with its shortest or longest prefix or suffix that the pattern matches removed;
the value itself when none does. -/
def trimValue (ext : Bool) (value : String) (pat : List PatChar) (suffix longest : Bool) : String :=
  let p := Compiled.of ext pat
  let cs := value.toList
  let n := cs.length
  let cuts := List.range (n + 1)
  if suffix then
    let order := if longest then cuts else cuts.reverse
    match order.find? fun i => p.matches (cs.drop i) with
    | some i => String.ofList (cs.take i)
    | none => value
  else
    let order := if longest then cuts.reverse else cuts
    match order.find? fun i => p.matches (cs.take i) with
    | some i => String.ofList (cs.drop i)
    | none => value

/-- The value with the case of its first character, or of every character, changed where the
pattern matches that character alone; an empty pattern matches any. -/
def recaseValue (ext : Bool) (value : String) (pat : List PatChar) (upper all : Bool) : String :=
  let p := Compiled.of ext pat
  let change (c : Char) : Char :=
    if pat.isEmpty ∨ p.matches [c] then (if upper then c.toUpper else c.toLower) else c
  match value.toList with
  | [] => value
  | c :: rest => String.ofList (change c :: (if all then rest.map change else rest))

/-- The value with the case of its first character, or of every character, swapped where the
pattern matches that character alone; an empty pattern matches any. -/
def toggleValue (ext : Bool) (value : String) (pat : List PatChar) (all : Bool) : String :=
  let p := Compiled.of ext pat
  let change (c : Char) : Char :=
    if pat.isEmpty ∨ p.matches [c] then (if c.isUpper then c.toLower else c.toUpper) else c
  match value.toList with
  | [] => value
  | c :: rest => String.ofList (change c :: (if all then rest.map change else rest))

def longestMatch (p : Compiled) (cs : List Char) : Option Nat :=
  (List.range (cs.length + 1)).reverse.find? fun j => p.matches (cs.take j)

/-- The value with matches of the pattern replaced: the first (longest at the earliest place),
every one in turn, or one that starts the value or ends it. -/
def replaceValue (ext : Bool) (value : String) (pat : List PatChar) (rep : List PatChar)
    (how : Replacement) : String :=
  let items := Compiled.of ext pat
  let cs := value.toList
  let fill (m : List Char) : List Char :=
    rep.flatMap fun (c, q) => if c = '&' ∧ ¬ q then m else [c]
  let rec every : Nat → List Char → Bool → List Char
    | 0, rest, _ => rest
    | _ + 1, [], _ => []
    | k + 1, c :: rest, once =>
      match longestMatch items (c :: rest) with
      | some j =>
        if j = 0 then c :: every k rest once
        else
          let m := (c :: rest).take j
          let after := (c :: rest).drop j
          fill m ++ (if once then after else every k after once)
      | none => c :: every k rest once
  if pat.isEmpty then value else
  match how with
  | .first => String.ofList (every (cs.length + 1) cs true)
  | .every => String.ofList (every (cs.length + 1) cs false)
  | .atStart =>
    match longestMatch items cs with
    | some j => String.ofList (fill (cs.take j) ++ cs.drop j)
    | none => value
  | .atEnd =>
    match (List.range (cs.length + 1)).find? fun i => items.matches (cs.drop i) with
    | some i => String.ofList (cs.take i ++ fill (cs.drop i))
    | none => value

def splitComponents (pat : List PatChar) : List (List PatChar) :=
  go pat.length pat [] []
where
  go : Nat → List PatChar → List PatChar → List (List PatChar) → List (List PatChar)
    | 0, _, cur, acc => (acc ++ [cur.reverse])
    | _ + 1, [], cur, acc => acc ++ [cur.reverse]
    | k + 1, (c, q) :: rest, cur, acc =>
      if c = '/' then go k rest [] (acc ++ [cur.reverse]) else go k rest ((c, q) :: cur) acc

end SqlMigration.Shell
