import SqlMigration.Shell.Regex
import SqlMigration.Shell.Awk.Lex

/-!
# awk's regular expressions, records and fields

awk's regular expressions are extended ones with C's escapes: `\t`, `\n` and the other letters,
octal and `\x` codes stand for their characters, `\/` and `\"` for the plain ones, and a
backslash before a character with no meaning is dropped.
-/

namespace SqlMigration.Shell

def awkRegexSpecial : List Char := ".[]()*+?\x7b\x7d|^$\\".toList

def awkPlainChar (c : Char) : List Char :=
  if awkRegexSpecial.contains c then ['\\', c] else [c]

/-- The set of a bracket expression up to its `]`, escapes replaced by their characters: the
characters of the set and the rest after it, or none when it is not closed. -/
def awkBracketSet : Nat → List Char → List Char → Option (List Char × List Char)
  | 0, _, _ => none
  | _ + 1, _, [] => none
  | k + 1, acc, c :: rest =>
    if c = ']' then some ((']' :: acc).reverse, rest)
    else if c = '[' ∧ (rest.head? = some ':' ∨ rest.head? = some '.' ∨ rest.head? = some '=') then
      let kind := rest.headD ':'
      let body := rest.drop 1
      let inner := (body.zip (body.drop 1)).takeWhile fun (a, b) => ¬ (a = kind ∧ b = ']')
      let len := inner.length
      if len + 2 ≤ body.length then
        awkBracketSet k ((['[', kind] ++ body.take (len + 2)).reverse ++ acc) (body.drop (len + 2))
      else awkBracketSet k ('[' :: acc) rest
    else if c = '\\' then
      match rest with
      | d :: more =>
        match awkEscape (d :: more) with
        | (some e, after) => awkBracketSet k (e :: acc) after
        | (none, _) => awkBracketSet k (d :: acc) more
      | [] => none
    else awkBracketSet k (c :: acc) rest

def awkRegexText : Nat → List Char → List Char
  | 0, _ => []
  | _ + 1, [] => []
  | k + 1, '\\' :: rest =>
    match rest with
    | [] => ['\\', '\\']
    | d :: more =>
      match awkEscape (d :: more) with
      | (some e, after) => awkPlainChar e ++ awkRegexText k after
      | (none, _) =>
        if awkRegexSpecial.contains d then ['\\', d] ++ awkRegexText k more
        else d :: awkRegexText k more
  | k + 1, '{' :: rest => ['\\', '{'] ++ awkRegexText k rest
  | k + 1, '}' :: rest => ['\\', '}'] ++ awkRegexText k rest
  | k + 1, '[' :: rest =>
    let (lead, body) := match rest with
      | '^' :: b => (['^'], b)
      | b => ([], b)
    let (first, body) := match body with
      | ']' :: b => ([']'], b)
      | b => ([], b)
    match awkBracketSet (body.length + 1) [] body with
    | some (set, after) => ('[' :: lead ++ first ++ set) ++ awkRegexText k after
    | none => '[' :: awkRegexText k rest
  | k + 1, c :: rest => c :: awkRegexText k rest

def awkRegexFailure (msg : String) : String :=
  let why :=
    if (msg.splitOn "Unmatched (").length > 1 then "missing ')'"
    else if (msg.splitOn "Unmatched [").length > 1 ∨ msg = "Invalid regular expression" then
      "bad class -- [], [^] or ["
    else if (msg.splitOn "preceding").length > 1 then "missing operand"
    else "syntax error ^* or ^+"
  "regular expression compile failed (" ++ why ++ ")"

def awkCompileRegex (src : String) : Except String Regex :=
  let text := awkRegexText (src.length + 1) src.toList
  match parseRegex text { extended := true, gnuOps := false, refuseBare := true, closeOrdinary := true } with
  | .ok rx => .ok rx
  | .error e => .error (awkRegexFailure e)

def awkSearch (rx : Regex) (s : Array Char) (start : Nat) : Option (Nat × Nat) :=
  (rx.search s start).map fun (i, h) => (i, h.pos)

/-! ## Records -/

/-- How records are cut from the input. -/
inductive AwkRecordSep where
  | char (c : Char)
  | paragraph
  | regex (rx : Regex)

/-- The first place from a place on where a test holds of the character and the one after it
(a space past the end). -/
def awkFindFrom (data : Array Char) (test : Char → Char → Bool) : Nat → Nat → Option Nat
  | 0, _ => none
  | k + 1, i =>
    if i ≥ data.size then none
    else if test (data.getD i ' ') (data.getD (i + 1) ' ') then some i
    else awkFindFrom data test k (i + 1)

def awkNextRecord (sep : AwkRecordSep) (data : Array Char) (pos : Nat) : Option (String × Nat) :=
  if pos ≥ data.size then none
  else match sep with
  | .char c =>
    match awkFindFrom data (fun a _ => a = c) data.size pos with
    | some i => some (String.ofList (data.extract pos i).toList, i + 1)
    | none => some (String.ofList (data.extract pos data.size).toList, data.size)
  | .paragraph =>
    let start := (awkFindFrom data (fun a _ => a ≠ '\n') data.size pos).getD data.size
    if start ≥ data.size then none
    else
      match awkFindFrom data (fun a b => a = '\n' ∧ b = '\n') data.size start with
      | some i =>
        let after := (awkFindFrom data (fun a _ => a ≠ '\n') data.size i).getD data.size
        some (String.ofList (data.extract start i).toList, after)
      | none =>
        let body := (data.extract start data.size).toList
        some (String.ofList (body.reverse.dropWhile (· = '\n')).reverse, data.size)
  | .regex rx =>
    match searchNonEmpty rx data pos (data.size + 1) with
    | some (i, e) => some (String.ofList (data.extract pos i).toList, e)
    | none => some (String.ofList (data.extract pos data.size).toList, data.size)
where
  /-- The first match that is not empty. -/
  searchNonEmpty (rx : Regex) (data : Array Char) : Nat → Nat → Option (Nat × Nat)
    | _, 0 => none
    | p, k + 1 =>
      match awkSearch rx data p with
      | some (i, e) => if e > i then some (i, e) else if i < data.size then searchNonEmpty rx data (i + 1) k else none
      | none => none

/-! ## Fields -/

/-- How fields are cut from a record. -/
inductive AwkFieldSep where
  | blanks
  | char (c : Char)
  | each
  | regex (rx : Regex)

def awkSplitAt (c : Char) (s : List Char) : List String :=
  (s.splitOn c).map String.ofList

def awkSplitBlanks (s : List Char) : List String :=
  let isSep := fun (c : Char) => c = ' ' ∨ c = '\t' ∨ c = '\n'
  ((s.splitBy fun a b => isSep a = isSep b).filter fun g => ¬ g.all isSep).map String.ofList

def awkSplitRegex (rx : Regex) (s : Array Char) : List String :=
  go (s.size + 1) 0 0 []
where
  go : Nat → Nat → Nat → List String → List String
    | 0, from_, _, acc => (String.ofList (s.extract from_ s.size).toList :: acc).reverse
    | k + 1, from_, pos, acc =>
      match awkSearch rx s pos with
      | some (i, e) =>
        if e > i then go k e e (String.ofList (s.extract from_ i).toList :: acc)
        else if i < s.size then go k from_ (i + 1) acc
        else (String.ofList (s.extract from_ s.size).toList :: acc).reverse
      | none => (String.ofList (s.extract from_ s.size).toList :: acc).reverse

/-- The fields of a text; an empty text has none. -/
def awkSplitFields (sep : AwkFieldSep) (s : String) : List String :=
  if s.isEmpty then []
  else match sep with
  | .blanks => awkSplitBlanks s.toList
  | .each => s.toList.map String.singleton
  | .char c => awkSplitAt c s.toList
  | .regex rx => awkSplitRegex rx s.toList.toArray

/-! ## Replacement -/

/-- The text a replacement stands for, given the text matched: `&` is the text matched, `\&` a
plain `&` and `\\` one backslash; any other backslash is kept. -/
def awkReplacement : Nat → List Char → List Char → List Char
  | 0, _, _ => []
  | _ + 1, [], _ => []
  | k + 1, '\\' :: c :: rest, matched =>
    if c = '&' ∨ c = '\\' then c :: awkReplacement k rest matched
    else '\\' :: awkReplacement k (c :: rest) matched
  | k + 1, '&' :: rest, matched => matched ++ awkReplacement k rest matched
  | k + 1, c :: rest, matched => c :: awkReplacement k rest matched

/-- Replaces the first match of an expression (every one when `global`) by a replacement: how
many were replaced, and the new text. -/
def awkSubstitute (rx : Regex) (repl : List Char) (global : Bool) (s : Array Char) : Nat × String :=
  let (n, out) := go (s.size + 2) 0 none [] 0
  (n, String.ofList out)
where
  replaceWith (matched : List Char) : List Char := awkReplacement (repl.length + 1) repl matched
  rest (pos : Nat) : List Char := (s.extract pos s.size).toList
  go : Nat → Nat → Option Nat → List Char → Nat → Nat × List Char
    | 0, pos, _, acc, n => (n, acc ++ rest pos)
    | k + 1, pos, lastEnd, acc, n =>
      if pos > s.size then (n, acc)
      else match awkSearch rx s pos with
      | none => (n, acc ++ rest pos)
      | some (i, e) =>
        let acc := acc ++ (s.extract pos i).toList
        if e > i then
          let acc := acc ++ replaceWith (s.extract i e).toList
          if global then go k e (some e) acc (n + 1) else (n + 1, acc ++ rest e)
        else if lastEnd = some i then
          if i < s.size then go k (i + 1) none (acc ++ [s.getD i ' ']) n else (n, acc)
        else
          let acc := acc ++ replaceWith []
          if ¬ global then (n + 1, acc ++ rest i)
          else if i < s.size then go k (i + 1) none (acc ++ [s.getD i ' ']) (n + 1)
          else (n + 1, acc)

end SqlMigration.Shell
