import SqlMigration.Shell.Syntax

/-!
# Shell command language: reading scripts

The reader turns source text into commands of `Shell.Syntax`, one complete command list at a
time, so a script runs line by line and a syntax error on a later line stops it only there.
-/

namespace SqlMigration.Shell

/-- What a syntax error is, as `bash` words it. -/
inductive BashSyntax where
  /-- A token the grammar does not allow, as `bash` spells it, and the line it stands on. -/
  | token (text : String) (line : Nat)
  /-- The end of the text where a command is not complete. -/
  | endOfFile
  /-- The end of the text inside a quotation or bracket: the character that would close it,
  and the line of the error. -/
  | unmatched (closing : Char) (line : Nat)
  /-- An error in the expression of `[[ ... ]]`: what the conditional grammar says, if anything,
  and then the word of the line near the place reached, and the line. -/
  | cond (message : Option String) (near : String) (line : Nat)
  /-- Another error. -/
  | other
  deriving DecidableEq, Repr, Inhabited

/-- A syntax error: the line it is found on, its message, and what it is as `bash` words it. -/
structure SyntaxError where
  line : Nat
  message : String
  bash : BashSyntax := .other
  deriving DecidableEq, Repr, Inhabited

/-- A here-document waiting for its text: its number, delimiter, and whether tabs are
stripped and the text expanded. -/
structure PendingDoc where
  id : Nat
  delimiter : String
  stripTabs : Bool
  expand : Bool
  deriving Repr, Inhabited

/-- What the reader asks of the next token: line breaks skipped, reserved words recognized. -/
structure Want where
  skipBreaks : Bool := false
  keywords : Bool := false
  /-- Whether a word that names an alias is replaced by its text. -/
  aliases : Bool := false
  deriving DecidableEq, Repr, Inhabited

/-- The state of the reader. -/
structure Reader where
  input : List Char
  line : Nat := 1
  /-- The last token read. -/
  last : Token := .eof
  /-- Whether the last token is read again next. -/
  pushed : Bool := false
  /-- What the next token read is asked for. -/
  want : Want := {}
  pending : List PendingDoc := []
  /-- The texts of the here-documents read, by number. -/
  docs : List (Nat × Word) := []
  nextDoc : Nat := 0
  /-- The aliases, by name. -/
  aliases : List (String × String) := []
  /-- The aliases whose text is being read: each name, the length of the input left after
  its text, and whether the text ends with a blank. -/
  active : List (String × Nat × Bool) := []
  /-- Whether the script is read as `bash` reads it, with its additions to the language. -/
  bash : Bool := false
  /-- Whether the extended patterns of `bash` are read as parts of words: a group such as
  `@(a|b)` is one word with its blanks and bars. -/
  extglob : Bool := false
  /-- The source text of the last word read. -/
  lastText : String := ""
  /-- The lines of the text read, from the first. -/
  source : Array String := #[]
  /-- The number of the text's first line. -/
  firstLine : Nat := 1
  /-- Warnings of `bash` about what it read, after its name. -/
  warnings : List String := []
  deriving Inhabited

def Reader.lineText (r : Reader) (line : Nat) : String :=
  r.source.getD (line - r.firstLine) ""

abbrev Rd := ExceptT SyntaxError (StateM Reader)

def readFail {α : Type} (msg : String) : Rd α := do throw ⟨(← get).line, msg, .other⟩

def Token.bashText (t : Token) (wordText : String) : String :=
  match t with
  | .eof => "end of file"
  | .newline => "newline"
  | .semi => ";"
  | .amp => "&"
  | .andIf => "&&"
  | .orIf => "||"
  | .pipe => "|"
  | .lparen => "("
  | .rparen => ")"
  | .dsemi => ";;"
  | .semiAmp => ";&"
  | .dsemiAmp => ";;&"
  | .redir _ k strip =>
    match k with
    | .output => ">"
    | .clobber => ">|"
    | .append => ">>"
    | .input => "<"
    | .readWrite => "<>"
    | .dupOut => ">&"
    | .dupIn => "<&"
    | .here => if strip then "<<-" else "<<"
    | .hereString => "<<<"
    | .outErr => "&>"
    | .appendOutErr => "&>>"
  | .word .. => wordText
  | .kw k => k.text

/-- What the last token read is as a syntax error of `bash`: the end of the text, or a token
on its line (a line break stands at the end of the line before). -/
def lastTokenError : Rd BashSyntax := do
  let s ← get
  match s.last with
  | .eof => return .endOfFile
  | .newline => return .token "newline" (s.line - 1)
  | t => return .token (t.bashText s.lastText) s.line

/-- Moves back from a place of a text while a test holds of the character there, stopping at
the start. -/
def backWhile (t : Array Char) (p : Char → Bool) : Nat → Nat
  | 0 => 0
  | i + 1 => if p (t.getD (i + 1) '\x00') then backWhile t p i else i + 1

def forwardBlanks (t : Array Char) (bound : Nat) : Nat → Nat → Nat
  | 0, i => i
  | k + 1, i =>
    if i ≠ bound ∧ (t.getD i '\x00' = ' ' ∨ t.getD i '\x00' = '\t' ∨ t.getD i '\x00' = '\n') then
      forwardBlanks t bound k (i + 1)
    else i

/-- The token `bash` names near a syntax error it cannot name by its token: in the line read,
the run of characters other than blanks and `;|&` that ends at the last character before the
place reached, blanks passed over. -/
def nearTextOf (line : List Char) (index : Nat) : String :=
  let t := line.toArray
  let blank (c : Char) : Bool := c = ' ' ∨ c = '\t' ∨ c = '\n'
  let i := if index > 0 ∧ index ≥ t.size then index - 1 else index
  let i := backWhile t blank i
  let tokenEnd := if i > 0 then i + 1 else 0
  let i := backWhile t (fun c => ¬ " \n\t;|&".toList.contains c) i
  let i := forwardBlanks t tokenEnd (t.size + 1) i
  if tokenEnd > 0 then String.ofList ((line.drop i).take (tokenEnd - i))
  else String.ofList (line.take 1)

/-- Stops at an error in the expression of `[[ ... ]]`, with what the conditional grammar says
of it, if anything; `bash` then names the word near the place reached. -/
def condFail {α : Type} (message : Option String) : Rd α := do
  let s ← get
  let text := (s.lineText s.line).toList
  let rest := (s.input.takeWhile (· ≠ '\n')).length
  let near := nearTextOf text (text.length - rest)
  throw ⟨s.line, message.getD "syntax error", .cond message near s.line⟩

/-- How `bash` names a token in the messages of `[[ ... ]]`: the operators and `]]`, but no other
word. -/
def condTokenText (t : Token) : Option String :=
  match t with
  | .word .. => if t.plainText? = some "]]" then some "]]" else none
  | .eof => none
  | t => some (t.bashText "")

def unexpectedToken {α : Type} (expected : Option String) : Rd α := do
  let t := (← get).last
  let shape ← lastTokenError
  throw ⟨(← get).line, t.name ++ " unexpected" ++
    (match expected with
    | some e => " (expecting " ++ e ++ ")"
    | none => ""), shape⟩

/-- Reads with an unclosed bracket that a character would close reported at the line where
the reading starts. -/
def openedAt {α : Type} (closing : Char) (act : Rd α) : Rd α := do
  let opening := (← get).line
  tryCatch act fun e =>
    throw (match e.bash with
      | .unmatched c _ => if c = closing then { e with bash := .unmatched c opening } else e
      | _ => e)

def badForName {α : Type} : Rd α := do
  throw ⟨(← get).line, "Bad for loop variable", ← lastTokenError⟩

def unmatchedAt {α : Type} (msg : String) (closing : Char) : Rd α := do
  let line := (← get).line
  throw ⟨line, msg, .unmatched closing line⟩

def unterminated : String := "Unterminated quoted string"

/-! ## Characters -/

def dropContinuations : Nat → List Char → Nat → List Char × Nat
  | 0, cs, n => (cs, n)
  | k + 1, '\\' :: '\n' :: rest, n => dropContinuations k rest (n + 1)
  | _, cs, n => (cs, n)

def peekChar (eat : Bool := true) : Rd (Option Char) := do
  let s ← get
  if eat then
    let (cs, n) := dropContinuations s.input.length s.input 0
    set { s with input := cs, line := s.line + n }
    return cs.head?
  else return s.input.head?

def takeChar (eat : Bool := true) : Rd (Option Char) := do
  match ← peekChar eat with
  | none => return none
  | some c =>
    modify fun s => { s with input := s.input.drop 1, line := if c = '\n' then s.line + 1 else s.line }
    return some c

def isMeta (c : Char) : Bool :=
  c = ' ' || c = '\t' || c = '\n' || c = ';' || c = '&' || c = '|' || c = '(' || c = ')' ||
    c = '<' || c = '>'

def isNameStart (c : Char) : Bool := ('a' ≤ c && c ≤ 'z') || ('A' ≤ c && c ≤ 'Z') || c = '_'

def isNameChar (c : Char) : Bool := isNameStart c || ('0' ≤ c && c ≤ '9')

def isDigitChar (c : Char) : Bool := '0' ≤ c && c ≤ '9'

def isName (s : String) : Bool :=
  match s.toList with
  | c :: cs => isNameStart c && cs.all isNameChar
  | [] => false

def isSpecialParam (c : Char) : Bool := "@*#?-$!".toList.contains c

/-- A word with literal text added, joined to the last part when that is literal text of the
same quoting. -/
def addText (w : Word) (s : String) (quoted : Bool) : Word :=
  match w.getLast? with
  | some (.lit t q) => if q = quoted then w.dropLast ++ [.lit (t ++ s) q] else w ++ [.lit s quoted]
  | _ => w ++ [.lit s quoted]

/-- Whether a word read so far ends with an unquoted `?`, `*`, `+`, `@` or `!`, which a `(`
after it makes the start of an extended group. -/
def opensGroup (w : Word) : Bool :=
  match w.getLast? with
  | some (.lit t false) => t.toList.getLast?.any fun c => "?*+@!".toList.contains c
  | _ => false

/-- Where a word is being read. -/
inductive Place where
  /-- An unquoted word, ended by a blank or an operator character. -/
  | top
  /-- Inside double quotes. -/
  | dquote
  /-- The word of a parameter expansion, ended by its closing brace; `dq` inside double
  quotes. -/
  | brace (dq : Bool)
  /-- Inside an arithmetic expansion, ended by `))` outside any parenthesis. -/
  | arith
  /-- The text of a here-document that is expanded. -/
  | doc
  /-- A word inside a parameter expansion ended, but not taken, by one of `stops` (a `/` of
  `${x/p/r}`, a `:` of `${x:o:l}`, or the closing brace); `dq` inside double quotes. -/
  | until (stops : List Char) (dq : Bool)
  /-- The right operand of `=~`, ended by a blank outside parentheses. -/
  | regex
  deriving DecidableEq, Repr

def Place.isBrace : Place → Bool
  | .brace _ => true
  | _ => false

def Place.quoted : Place → Bool
  | .top | .regex => false
  | .brace dq => dq
  | .until _ dq => dq
  | _ => true

def Place.quotes : Place → Bool
  | .top | .brace false | .until _ false | .regex => true
  | _ => false

/-- Whether double quotes at a place start a quoted part: everywhere but inside double quotes,
arithmetic and here-documents. -/
def Place.nests : Place → Bool
  | .dquote | .arith | .doc => false
  | _ => true

def Place.escapes (p : Place) (c : Char) : Bool :=
  match p with
  | .top | .brace false | .until _ false | .regex => true
  | .dquote | .arith => c = '$' ∨ c = '\x60' ∨ c = '"' ∨ c = '\\'
  | .brace true | .until _ true => c = '$' ∨ c = '\x60' ∨ c = '"' ∨ c = '\\' ∨ c = '\x7d'
  | .doc => c = '$' ∨ c = '\x60' ∨ c = '\\'

/-- A here-document's lines up to its delimiter line (or the end of the input), with tabs
stripped at their starts when asked, the input after it, the number of lines used, and whether
the delimiter was found. -/
def docLines : Nat → List Char → String → Bool → List String → List String × List Char × Nat × Bool
  | 0, cs, _, _, acc => (acc.reverse, cs, 0, false)
  | _ + 1, [], _, _, acc => (acc.reverse, [], 0, false)
  | k + 1, cs, delim, strip, acc =>
    let lineChars := cs.takeWhile (· ≠ '\n')
    let after := cs.drop (lineChars.length + 1)
    let shown := if strip then lineChars.dropWhile (· = '\t') else lineChars
    if String.ofList shown = delim then (acc.reverse, after, 1, true)
    else
      let (ls, rest, n, found) := docLines k after delim strip (String.ofList shown :: acc)
      (ls, rest, n + 1, found)

/-- Literal text of a backquoted substitution after its opening backquote, with `\$`, `` \` ``
and `\\` (and `\"` inside double quotes) unescaped, and the input after its closing
backquote; none when the input ends first. -/
def backquoteText : Nat → Bool → List Char → List Char → Option (String × List Char × Nat)
  | 0, _, _, _ => none
  | _ + 1, _, _, [] => none
  | _ + 1, _, acc, '\x60' :: rest => some (String.ofList acc.reverse, rest, 0)
  | k + 1, dq, acc, '\\' :: '\n' :: rest =>
    (backquoteText k dq acc rest).map fun (s, r, n) => (s, r, n + 1)
  | k + 1, dq, acc, '\\' :: d :: rest =>
    if d = '$' ∨ d = '\x60' ∨ d = '\\' ∨ (dq ∧ d = '"') then backquoteText k dq (d :: acc) rest
    else backquoteText k dq (d :: '\\' :: acc) rest
  | k + 1, dq, acc, c :: rest =>
    (backquoteText k dq (c :: acc) rest).map fun (s, r, n) => (s, r, if c = '\n' then n + 1 else n)

def digitsOf (base : Nat) (ds : List Char) : Nat :=
  ds.foldl (fun acc d =>
    acc * base + (if isDigitChar d then d.toNat - 48 else (d.toLower.toNat - 87))) 0

def isHexChar (c : Char) : Bool := isDigitChar c || ('a' ≤ c.toLower && c.toLower ≤ 'f')

/-- The text of a `$'...'` string after its opening quote, its escapes replaced (reversed into
`acc`), and the input after its closing quote; none when the input ends first. -/
def ansiText : Nat → List Char → List Char → Option (List Char × List Char)
  | 0, _, _ => none
  | _ + 1, [], _ => none
  | _ + 1, '\'' :: rest, acc => some (acc.reverse.takeWhile (· ≠ '\x00'), rest)
  | k + 1, '\\' :: c :: rest, acc =>
    let simple : Option Char := match c with
      | 'a' => some '\x07' | 'b' => some '\x08' | 'e' | 'E' => some '\x1b' | 'f' => some '\x0c'
      | 'n' => some '\n' | 'r' => some '\r' | 't' => some '\t' | 'v' => some '\x0b'
      | '\\' => some '\\' | '\'' => some '\'' | '"' => some '"' | '?' => some '?'
      | _ => none
    match simple with
    | some d => ansiText k rest (d :: acc)
    | none =>
      if '0' ≤ c ∧ c ≤ '7' then
        let ds := (c :: rest).takeWhile (fun d => '0' ≤ d ∧ d ≤ '7') |>.take 3
        ansiText k ((c :: rest).drop ds.length) (Char.ofNat (digitsOf 8 ds % 256) :: acc)
      else if c = 'x' ∧ (rest.head?.any isHexChar) then
        let ds := (rest.takeWhile isHexChar).take 2
        ansiText k (rest.drop ds.length) (Char.ofNat (digitsOf 16 ds) :: acc)
      else if (c = 'u' ∨ c = 'U') ∧ (rest.head?.any isHexChar) then
        let ds := (rest.takeWhile isHexChar).take (if c = 'u' then 4 else 8)
        ansiText k (rest.drop ds.length) (Char.ofNat (digitsOf 16 ds) :: acc)
      else if c = 'c' then
        match rest with
        | d :: more => ansiText k more (Char.ofNat (d.toUpper.toNat % 32) :: acc)
        | [] => ansiText k [] ('c' :: '\\' :: acc)
      else ansiText k rest (c :: '\\' :: acc)
  | k + 1, c :: rest, acc => ansiText k rest (c :: acc)

/-- The text up to the `]` that closes an open `[`, brackets inside it nesting, and the input
after that `]`; none when the input ends first. -/
def bracketBody : Nat → Nat → List Char → List Char → Option (List Char × List Char)
  | 0, _, _, _ => none
  | _ + 1, _, _, [] => none
  | k + 1, depth, acc, c :: rest =>
    if c = ']' ∧ depth = 0 then some (acc.reverse, rest)
    else bracketBody k (if c = '[' then depth + 1 else if c = ']' then depth - 1 else depth) (c :: acc) rest

/-! ## Tokens and commands -/

/-- The redirection operator after a word of at most one digit, whose first character is
`c` (already taken). -/
def redirOperator (c : Char) (digit : Option Nat) : Rd Token := do
  if c = '>' then
    let k ← match ← peekChar with
      | some '>' => do let _ ← takeChar; pure RedirKind.append
      | some '|' => do let _ ← takeChar; pure .clobber
      | some '&' => do let _ ← takeChar; pure .dupOut
      | _ => pure .output
    return .redir (digit.getD 1) k false
  else
    match ← peekChar with
    | some '<' => do
      let _ ← takeChar
      if (← get).bash ∧ (← peekChar) = some '<' then do
        let _ ← takeChar
        return .redir (digit.getD 0) .hereString false
      let strip ← match ← peekChar with
        | some '-' => do let _ ← takeChar; pure true
        | _ => pure false
      return .redir (digit.getD 0) .here strip
    | some '&' => do let _ ← takeChar; return .redir (digit.getD 0) .dupIn false
    | some '>' => do let _ ← takeChar; return .redir (digit.getD 0) .readWrite false
    | _ => return .redir (digit.getD 0) .input false

/-- Whether a word is empty or a single unquoted digit, as a redirection's descriptor may be,
and the digit; for `bash` any unquoted digits that make an int. -/
def descriptorWord? (w : Word) (quoted bash : Bool) : Option (Option Nat) :=
  if quoted then none else
  match w with
  | [] => some none
  | [.lit s false] =>
    match s.toList with
    | [d] => if isDigitChar d then some (some (d.toNat - 48)) else none
    | ds =>
      if bash ∧ ¬ ds.isEmpty ∧ ds.all isDigitChar ∧ s.toNat! ≤ 2147483647 then some (some s.toNat!)
      else none
  | _ => none

/-- The parts of a word with its literal text cut into single characters, so that names,
subscripts and `=` can be found across parts. -/
def explodeWord (w : Word) : Word :=
  w.flatMap fun p => match p with
    | .lit s q => s.toList.map fun c => Part.lit (String.singleton c) q
    | p => [p]

def implodeWord (w : Word) : Word :=
  w.foldl (fun acc p => match p with
    | .lit s q => addText acc s q
    | p => acc ++ [p]) []

def plainChar? : Part → Option Char
  | .lit s false => s.toList.head?
  | _ => none

def subscriptParts : Nat → Nat → Word → Word → Option (Word × Word)
  | 0, _, _, _ => none
  | _ + 1, _, _, [] => none
  | k + 1, depth, acc, p :: rest =>
    match plainChar? p with
    | some ']' => if depth = 0 then some (acc.reverse, rest) else subscriptParts k (depth - 1) (p :: acc) rest
    | some '[' => subscriptParts k (depth + 1) (p :: acc) rest
    | _ => subscriptParts k depth (p :: acc) rest

/-- An element of an array assigned whole that names its index or key, `[key]=value` (or
`[key]+=value`): the key's word, the value's word, and whether the value is added to the element. -/
def keyedItem? (w : Word) : Option (Word × Word × Bool) :=
  let ex := explodeWord w
  match ex with
  | p :: rest =>
    if plainChar? p ≠ some '[' then none
    else match subscriptParts (rest.length + 1) 0 [] rest with
      | some (key, after) =>
        match after.map plainChar? with
        | some '=' :: _ => some (implodeWord key, implodeWord (after.drop 1), false)
        | some '+' :: some '=' :: _ => some (implodeWord key, implodeWord (after.drop 2), true)
        | _ => none
      | none => none
  | [] => none

/-- Whether a word names an assignment: an unquoted name and `=` at its start; `bash` also takes
`name+=` and `name[subscript]=` (or `+=`). -/
def assignment? (bash : Bool) (w : Word) : Option Assign :=
  let ex := explodeWord w
  let name := (ex.takeWhile fun p => (plainChar? p).any isNameChar).filterMap plainChar?
  let rest := ex.drop name.length
  if ¬ isName (String.ofList name) then none
  else
    let value (rest : Word) (index : Option Word) : Option Assign :=
      match rest.map plainChar? with
      | some '=' :: _ => some { name := String.ofList name, index := index, value := implodeWord (rest.drop 1) }
      | some '+' :: some '=' :: _ =>
        if bash then some { name := String.ofList name, index := index, value := implodeWord (rest.drop 2),
                            append := true }
        else none
      | _ => none
    match rest.head?.bind plainChar? with
    | some '[' =>
      if bash then
        match subscriptParts rest.length 0 [] (rest.drop 1) with
        | some (sub, after) => value after (some (implodeWord sub))
        | none => none
      else none
    | _ => value rest none

def declarationCommands : List String := ["declare", "typeset", "local", "readonly", "export"]

def condUnaryOps : List String :=
  ["-a", "-b", "-c", "-d", "-e", "-f", "-g", "-h", "-k", "-p", "-r", "-s", "-t", "-u", "-w", "-x",
   "-G", "-L", "-N", "-O", "-S", "-z", "-n", "-o", "-v", "-R"]

def condBinaryOps : List String :=
  ["==", "=", "!=", "=~", "-eq", "-ne", "-lt", "-le", "-gt", "-ge", "-nt", "-ot", "-ef"]

def splitWordAt (sep : Char) (w : Word) : List Word :=
  let isSep (p : Part) : Bool := match p with
    | .lit t _ => t = String.singleton sep
    | _ => false
  let cut := (explodeWord w).foldr (fun p (acc : List Word) =>
    match acc with
    | cur :: done => if isSep p then [] :: cur :: done else (p :: cur) :: done
    | [] => [[p]]) [[]]
  cut.map implodeWord

def specialUtilities : List String :=
  [".", ":", "break", "continue", "eval", "exec", "exit", "export", "readonly", "return", "set",
   "shift", "times", "trap", "unset"]

mutual

/-- Reads the parts of a word at a place until its end, adding them to `w`; answers the word
and whether anything in it was quoted. -/
def readParts : Nat → Place → Nat → Word → Bool → Rd (Word × Bool)
  | 0, _, _, _, _ => readFail unterminated
  | n + 1, place, depth, w, quoted => do
    let eat := true
    match ← peekChar eat with
    | none =>
      match place with
      | .top | .doc | .regex => return (w, quoted)
      | .dquote => unmatchedAt unterminated '"'
      | .brace _ | .until .. => unmatchedAt "Missing '\x7d'" '\x7d'
      | .arith => unmatchedAt "Missing '))'" ')'
    | some c =>
      let stops : Bool := match place with
        | .until cs _ => cs.contains c
        | .regex => depth == 0 && (c == ' ' || c == '\t' || c == '\n')
        | _ => false
      let s ← get
      if place = .top ∧ s.bash ∧ (c = '<' ∨ c = '>') ∧ (s.input.drop 1).head? = some '(' then do
        set { s with input := s.input.drop 2 }
        let src ← tryCatch (readSubstitution n) fun e =>
          throw (if e.bash = .endOfFile then { e with bash := .unmatched ')' e.line } else e)
        readParts n place depth (w ++ [.procSubst src (c = '>')]) quoted
      else if place = .top ∧ depth > 0 ∧ isMeta c then do
        let _ ← takeChar
        let depth := if c = '(' then depth + 1 else if c = ')' then depth - 1 else depth
        readParts n place depth (addText w (String.singleton c) false) quoted
      else if place = .top ∧ c = '(' ∧ s.extglob ∧ opensGroup w then do
        let _ ← takeChar
        readParts n place 1 (addText w "(" false) quoted
      else if (place = .top ∧ isMeta c) ∨ stops then return (w, quoted)
      else if place = .dquote ∧ c = '"' then do
        let _ ← takeChar
        return (w, true)
      else if place.isBrace ∧ c = '\x7d' then do
        let _ ← takeChar
        return (w, quoted)
      else do
        let _ ← takeChar
        if c = '\\' then
          match ← takeChar false with
          | none => readParts n place depth (addText w "\\" place.quoted) quoted
          | some d =>
            if place.escapes d then readParts n place depth (addText w (String.singleton d) true) true
            else readParts n place depth (addText w (String.ofList ['\\', d]) place.quoted) quoted
        else if c = '\'' ∧ place.quotes then do
          let s ← get
          let body := s.input.takeWhile (· ≠ '\'')
          if body.length = s.input.length then unmatchedAt unterminated '\''
          set { s with input := s.input.drop (body.length + 1),
                       line := s.line + (body.filter (· = '\n')).length }
          readParts n place depth (addText w (String.ofList body) true) true
        else if c = '"' ∧ place.nests then do
          let (inner, _) ← openedAt '"' (readParts n .dquote 0 [] true)
          let inner := if inner.isEmpty then [Part.lit "" true] else inner
          readParts n place depth (w ++ inner) true
        else if c = '$' then do
          let p ← readDollar n place.quoted
          match p with
          | .lit t q => readParts n place depth (addText w t q) (quoted || q)
          | p => readParts n place depth (w ++ [p]) quoted
        else if c = '\x60' then do
          let p ← readBackquote n (¬ place.quotes)
          readParts n place depth (w ++ [p]) quoted
        else if (place = .arith ∨ place = .regex) ∧ c = '(' then
          readParts n place (depth + 1) (addText w "(" place.quoted) quoted
        else if place = .regex ∧ c = ')' ∧ depth > 0 then
          readParts n place (depth - 1) (addText w ")" false) quoted
        else if place = .arith ∧ c = ')' then
          if depth > 0 then readParts n place (depth - 1) (addText w ")" true) quoted
          else match ← peekChar with
            | some ')' => do
              let _ ← takeChar
              return (w, quoted)
            | _ => readParts n place depth (addText w ")" true) quoted
        else readParts n place depth (addText w (String.singleton c) place.quoted) quoted

/-- Reads what follows a `$` (already taken): an expansion, a quoted string of `bash`
(`$'...'` with its escapes, or `$"..."`, read as a plain double-quoted one), or a lone `$`. -/
def readDollar : Nat → Bool → Rd Part
  | 0, _ => readFail unterminated
  | n + 1, q => do
    let bash := (← get).bash
    match ← peekChar with
    | some '\x7b' => do
      let _ ← takeChar
      openedAt '\x7d' (readBraced n q)
    | some '(' => do
      let _ ← takeChar
      match ← peekChar with
      | some '(' => do
        let _ ← takeChar
        let (e, _) ← openedAt ')' (readParts n .arith 0 [] true)
        return .arith e q
      | _ => do
        let src ← tryCatch (readSubstitution n) fun e =>
          throw (if e.bash = .endOfFile then { e with bash := .unmatched ')' e.line } else e)
        return .subst src q
    | some '\'' =>
      if bash ∧ ¬ q then do
        let _ ← takeChar
        let s ← get
        match ansiText s.input.length s.input [] with
        | some (text, rest) =>
          set { s with input := rest, line := s.line + ((s.input.take (s.input.length - rest.length)).filter (· = '\n')).length }
          return .lit (String.ofList text) true
        | none => unmatchedAt unterminated '\''
      else return .lit "$" q
    | some '"' => return (if bash ∧ ¬ q then .lit "" false else .lit "$" q)
    | some c =>
      if isNameStart c then do
        let s ← get
        let name := s.input.takeWhile isNameChar
        set { s with input := s.input.drop name.length }
        return .param (String.ofList name) none .plain [] [] q
      else if isDigitChar c ∨ isSpecialParam c then do
        let _ ← takeChar
        return .param (String.singleton c) none .plain [] [] q
      else return .lit "$" q
    | none => return .lit "$" q

/-- Reads a parameter expansion after `${`. -/
def readBraced : Nat → Bool → Rd Part
  | 0, _ => readFail unterminated
  | n + 1, q => do
    let unget (c : Option Char) : Rd Unit := match c with
      | some c => modify fun s => { s with input := c :: s.input }
      | none => pure ()
    let bash := (← get).bash
    let first ← takeChar
    let pointer : Option Char ← if bash ∧ first = some '!' then do
        let s ← get
        match s.input with
        | c :: more =>
          if isNameStart c ∨ isDigitChar c ∨ (c = '#' ∧ more.head? = some '\x7d') then do
            let _ ← takeChar
            pure (some c)
          else pure none
        | [] => pure none
      else pure none
    match pointer with
    | some c => do
      let nm ← if isNameStart c then readName n c else pure (String.singleton c)
      let idx ← if isNameStart c then readSubscript n else pure none
      let s ← get
      match s.input with
      | '\x7d' :: _ => do let _ ← takeChar; return .param nm idx .indirect [] [] q
      | m :: '\x7d' :: _ =>
        if (m = '*' ∨ m = '@') ∧ idx.isNone then do
          let _ ← takeChar
          let _ ← takeChar
          return .param nm none (.names (m = '*')) [] [] q
        else do
          let (w, _) ← readParts n (.brace q) 0 [] false
          return .param nm idx .bad w [] q
      | _ => do
        let (w, _) ← readParts n (.brace q) 0 [] false
        return .param nm idx .bad w [] q
    | none =>
    let (name, length, index, next) ← match first with
      | none => pure ("", false, none, none)
      | some c =>
        if isNameStart c ∨ isDigitChar c then do
          let nm ← readName n c
          let idx ← if isNameStart c then readSubscript n else pure none
          pure (nm, false, idx, ← takeChar)
        else if c = '\x7d' then pure ("", false, none, some c)
        else do
          let c2 ← takeChar
          if c = '#' then
            match c2 with
            | some d =>
              if d = '_' ∨ isNameChar d then do
                let nm ← if isNameStart d then readName n d else pure (String.singleton d)
                let idx ← if isNameStart d then readSubscript n else pure none
                pure (nm, true, idx, ← takeChar)
              else do
                let c3 ← takeChar
                if d = '\x7d' ∨ c3 ≠ some '\x7d' then do
                  unget c3
                  pure ("#", false, none, some d)
                else if isSpecialParam d then pure (String.singleton d, true, none, c3)
                else pure ("", false, none, c3)
            | none => pure ("#", false, none, none)
          else if isSpecialParam c then pure (String.singleton c, false, none, c2)
          else do
            unget c2
            pure ("", false, none, none)
    let bad : Rd Part := do
      let (w, _) ← readParts n (.brace q) 0 [] false
      return .param name index .bad w [] q
    match next with
    | none => if name.isEmpty then bad else unmatchedAt "Missing '\x7d'" '\x7d'
    | some '\x7d' =>
      if name.isEmpty then return .param name none .bad [] [] q
      else return .param name index (if length then .length else .plain) [] [] q
    | some c =>
      if length ∨ name.isEmpty then do unget (some c); bad else
      let kindOf (d : Char) : Option Default :=
        match d with
        | '-' => some .use
        | '=' => some .assign
        | '?' => some .fail
        | '+' => some .alternative
        | _ => none
      if bash ∧ c = '@' then do
        let s ← get
        match s.input with
        | op :: '\x7d' :: _ => do
          let _ ← takeChar
          let _ ← takeChar
          return .param name index (.transform op) [] [] q
        | _ => bad
      else if bash ∧ (c = '^' ∨ c = ',' ∨ c = '~') then do
        let all ← match ← peekChar with
          | some d => if d = c then do let _ ← takeChar; pure true else pure false
          | none => pure false
        let (w, _) ← readParts n (.brace false) 0 [] false
        let form := if c = '~' then ParamForm.toggle all else .recase (c = '^') all
        return .param name index form w [] q
      else if bash ∧ c = '/' then do
        let how ← match ← peekChar with
          | some '/' => do let _ ← takeChar; pure Replacement.every
          | some '#' => do let _ ← takeChar; pure .atStart
          | some '%' => do let _ ← takeChar; pure .atEnd
          | _ => pure .first
        let (pat, _) ← readParts n (.until ['/', '\x7d'] false) 0 [] false
        match ← takeChar with
        | some '/' => do
          let (rep, _) ← readParts n (.brace q) 0 [] false
          return .param name index (.replace how) pat rep q
        | _ => return .param name index (.replace how) pat [] q
      else
      let form ← if c = ':' then do
          match ← takeChar with
          | some d =>
            match kindOf d with
            | some k => pure (some (ParamForm.test true k))
            | none => if bash then do unget (some d); pure (some (.slice false)) else pure none
          | none => pure none
        else match kindOf c with
          | some k => pure (some (.test false k))
          | none =>
            if c = '%' ∨ c = '#' then do
              let longest ← match ← peekChar with
                | some d => if d = c then do let _ ← takeChar; pure true else pure false
                | none => pure false
              pure (some (.trim (c = '%') longest))
            else pure none
      match form with
      | none => bad
      | some (.slice _) => do
        let (off, _) ← readParts n (.until [':', '\x7d'] q) 0 [] false
        match ← takeChar with
        | some ':' => do
          let (len, _) ← readParts n (.brace q) 0 [] false
          return .param name index (.slice true) off len q
        | _ => return .param name index (.slice false) off [] q
      | some f => do
        let place := match f with
          | .trim .. => Place.brace false
          | _ => .brace q
        let (w, _) ← readParts n place 0 [] false
        return .param name index f w [] q

/-- Reads the subscript after the name of an array element, when `bash` reads and a `[`
follows: its text up to the matching `]`, read as a word. -/
def readSubscript : Nat → Rd (Option Word)
  | 0 => pure none
  | n + 1 => do
    let s ← get
    if ¬ s.bash then return none
    match s.input with
    | '[' :: rest =>
      match bracketBody rest.length 0 [] rest with
      | some (body, after) => do
        set { s with input := after }
        let sub : Reader := { input := body, line := s.line, bash := true }
        match (ExceptT.run (readParts n .doc 0 [] true)).run sub with
        | (.ok (w, _), _) => return some w
        | (.error e, _) => throw e
      | none => return none
    | _ => return none

/-- Reads the rest of a name or of a number of digits whose first character is `c` (already
taken). -/
def readName : Nat → Char → Rd String
  | _, c => do
    let s ← get
    let more := if isNameStart c then s.input.takeWhile isNameChar else s.input.takeWhile isDigitChar
    set { s with input := s.input.drop more.length }
    return String.ofList (c :: more)

/-- Reads a command substitution after `$(`: a command list up to its closing parenthesis,
answering its source text. -/
def readSubstitution : Nat → Rd String
  | 0 => readFail unterminated
  | n + 1 => do
    let before ← get
    set { before with pushed := false, pending := [] }
    let _ ← readList n 2
    want {}
    let t ← readToken n
    match t with
    | .rparen => do
      let after ← get
      let used := before.input.take (before.input.length - after.input.length)
      set { after with pending := before.pending, pushed := false, last := before.last }
      return String.ofList used.dropLast
    | _ => unexpectedToken (some "\")\"")

def readBackquote : Nat → Bool → Rd Part
  | 0, _ => readFail unterminated
  | n + 1, dq => do
    let s ← get
    match backquoteText s.input.length dq [] s.input with
    | none => unmatchedAt "EOF in backquote substitution" '\x60'
    | some (src, rest, lines) => do
      set { s with input := rest, line := s.line + lines }
      match checkScript n src s.line s.bash with
      | some e => throw e
      | none => return .subst src dq

def checkScript : Nat → String → Nat → Bool → Option SyntaxError
  | 0, _, _, _ => none
  | n + 1, src, line, bash =>
    let r : Rd Unit := readAll n
    match (ExceptT.run r).run { input := src.toList, line := line, bash := bash } with
    | (.error e, _) => some e
    | (.ok (), _) => none

def readAll : Nat → Rd Unit
  | 0 => pure ()
  | n + 1 => do
    modify fun s => { s with pushed := false }
    let r ← readList n 1
    let s ← get
    match r, s.last with
    | none, .eof => pure ()
    | _, _ => readAll n

def want : Want → Rd Unit
  | w => modify fun s => { s with want := w }

def readDocs : Nat → Rd Unit
  | 0 => pure ()
  | n + 1 => do
    let s ← get
    match s.pending with
    | [] => pure ()
    | d :: more => do
      let (lines, rest, used, found) := docLines s.input.length s.input d.delimiter d.stripTabs []
      let cut := ¬ found ∧ s.input.getLast? ≠ some '\n'
      let text := String.join (lines.map (· ++ "\n"))
      let text := if cut then String.ofList text.toList.dropLast else text
      let warning := "line " ++ toString (s.line + used - 1) ++ ": warning: here-document at line " ++
        toString (s.line - 1) ++ " delimited by end-of-file (wanted \x60" ++ d.delimiter ++ "')"
      set { s with input := rest, line := s.line + used, pending := more,
                   warnings := if ¬ found ∧ s.bash then s.warnings ++ [warning] else s.warnings }
      let body ← if d.expand then do
          let sub : Reader := { input := text.toList, line := s.line, bash := s.bash }
          let r : Rd (Word × Bool) := readParts n .doc 0 [] true
          match (ExceptT.run r).run sub with
          | (.ok (w, _), _) => pure w
          | (.error e, _) => throw e
        else pure [Part.lit text true]
      modify fun s => { s with docs := s.docs ++ [(d.id, body)] }
      readDocs n

def lexToken : Nat → Rd Token
  | 0 => pure .eof
  | n + 1 => do
    match ← peekChar with
    | none => pure .eof
    | some c =>
      if c = ' ' ∨ c = '\t' then do let _ ← takeChar; lexToken n
      else if c = '#' then do
        modify fun s => { s with input := s.input.dropWhile (· ≠ '\n') }
        lexToken n
      else if c = '\n' then do
        let _ ← takeChar
        readDocs n
        pure .newline
      else if c = '&' then do
        let _ ← takeChar
        match ← peekChar with
        | some '&' => do let _ ← takeChar; pure .andIf
        | some '>' =>
          if (← get).bash then do
            let _ ← takeChar
            match ← peekChar with
            | some '>' => do let _ ← takeChar; pure (.redir 1 .appendOutErr false)
            | _ => pure (.redir 1 .outErr false)
          else pure .amp
        | _ => pure .amp
      else if c = '|' then do
        let _ ← takeChar
        match ← peekChar with
        | some '|' => do let _ ← takeChar; pure .orIf
        | _ => pure .pipe
      else if c = ';' then do
        let _ ← takeChar
        let bash := (← get).bash
        match ← peekChar with
        | some ';' => do
          let _ ← takeChar
          if bash ∧ (← peekChar) = some '&' then do let _ ← takeChar; pure .dsemiAmp
          else pure .dsemi
        | some '&' => if bash then do let _ ← takeChar; pure .semiAmp else pure .semi
        | _ => pure .semi
      else if c = '(' then do let _ ← takeChar; pure .lparen
      else if c = ')' then do let _ ← takeChar; pure .rparen
      else do
        let before := (← get).input
        let (w, quoted) ← readParts n .top 0 [] false
        modify fun s => { s with lastText := String.ofList (before.take (before.length - s.input.length)) }
        match ← peekChar with
        | some d =>
          if d = '<' ∨ d = '>' then
            match descriptorWord? w quoted (← get).bash with
            | some digit => do
              let _ ← takeChar
              redirOperator d digit
            | none => pure (.word w quoted)
          else pure (.word w quoted)
        | none => pure (.word w quoted)

/-- Reads the next token as the reader asks: the pushed-back one again, or a new one; line
breaks skipped and reserved words recognized when asked. -/
def readToken : Nat → Rd Token
  | 0 => pure .eof
  | n + 1 => do
    let s ← get
    let w := s.want
    let start := (s.input.dropWhile fun c => c = ' ' ∨ c = '\t').length
    let afterBlank := ¬ s.pushed ∧ s.active.any fun (_, e, blank) => blank ∧ start ≤ e
    let t ← if s.pushed then do
        set { s with pushed := false }
        pure s.last
      else lexToken n
    let t ← if w.skipBreaks then skipNewlines n t else pure t
    let t := match t with
      | .word .. =>
        if w.keywords then
          match t.plainText?.bind Keyword.ofText? with
          | some k => Token.kw k
          | none => t
        else t
      | _ => t
    let s ← get
    let active := s.active.filter fun (_, e, _) => e ≤ s.input.length
    let alias? : Option (String × String) :=
      if w.aliases ∨ afterBlank then
        (t.plainText?).bind fun name =>
          if active.any (·.1 == name) then none else (s.aliases.lookup name).map (name, ·)
      else none
    match alias? with
    | some (name, text) =>
      let blank := text.endsWith " " ∨ text.endsWith "\t"
      set { s with input := text.toList ++ s.input, pushed := false, want := w,
                   active := (name, s.input.length, blank) :: active }
      readToken n
    | none =>
      modify fun s => { s with last := t, want := {}, active := active }
      return t

def skipNewlines : Nat → Token → Rd Token
  | 0, t => pure t
  | n + 1, t =>
    match t with
    | .newline => do skipNewlines n (← lexToken n)
    | t => pure t

def pushBack : Nat → Rd Unit
  | _ => modify fun s => { s with pushed := true }

/-- The word of the last token, for patterns and names: a word, or the spelling of a reserved
word. -/
def lastWord : Nat → Rd (Option Word)
  | _ => do
    match (← get).last with
    | .word w _ => return some w
    | .kw k => return some [.lit k.text false]
    | _ => return none

def redirTarget : Nat → Nat → RedirKind → Bool → Rd Redirect
  | 0, _, _, _ => readFail unterminated
  | n + 1, fd, kind, strip => do
    if (← get).bash ∧ (kind = .dupOut ∨ kind = .dupIn) ∧ ¬ (← get).pushed then
      modify fun s => { s with input := s.input.dropWhile fun c => c = ' ' ∨ c = '\t' }
      if (← peekChar) = some '-' then
        let _ ← takeChar
        modify fun s => { s with last := .word [.lit "-" false] false, lastText := "-" }
        return { fd := fd, kind := kind, target := [.lit "-" false], text := "-" }
    let t ← readToken n
    match t with
    | .word w quoted =>
      if kind = .here then do
        let delim := String.join (w.map fun p => match p with | .lit s _ => s | _ => "")
        let s ← get
        let doc : PendingDoc := ⟨s.nextDoc, delim, strip, !quoted⟩
        set { s with pending := s.pending ++ [doc], nextDoc := s.nextDoc + 1 }
        return { fd := fd, kind := kind, target := [.lit (toString s.nextDoc) false], expand := !quoted }
      else return { fd := fd, kind := kind, target := w, text := (← get).lastText }
    | _ => unexpectedToken none

/-- A command list. `nl` 1 is a whole line at the top (a line break ends it); 0 is the body of
a compound command; 2 is a body that may be empty. -/
def readList : Nat → Nat → Rd (Option Node)
  | 0, _ => readFail unterminated
  | n + 1, nl => listLoop n nl (nl % 2 = 0) false none

def listLoop : Nat → Nat → Bool → Bool → Option Node → Rd (Option Node)
  | 0, _, _, _, acc => pure acc
  | n + 1, nl, skipNl, started, acc => do
    want { skipBreaks := skipNl, keywords := true, aliases := true }
    let t ← readToken n
    match t with
    | .newline => return acc
    | .eof => do pushBack n; return acc
    | _ => do
      pushBack n
      if (nl = 2 ∨ (nl = 0 ∧ started)) ∧ t.endsList then return acc
      let a ← readAndOr n
      let t ← readToken n
      let a := match t with
        | .amp => Node.background a
        | _ => a
      let acc := some (match acc with | some p => Node.seq p a | none => a)
      match t with
      | .eof => do pushBack n; return acc
      | .newline => do pushBack n; listLoop n nl skipNl true acc
      | .amp | .semi => listLoop n nl skipNl true acc
      | _ =>
        if ¬ skipNl then unexpectedToken none
        else do pushBack n; return acc

def readAndOr : Nat → Rd Node
  | 0 => readFail unterminated
  | n + 1 => do
    let a ← readPipeline n
    andOrLoop n a

def andOrLoop : Nat → Node → Rd Node
  | 0, a => pure a
  | n + 1, a => do
    let t ← readToken n
    match t with
    | .andIf => do
      want { skipBreaks := true, keywords := true, aliases := true }
      let b ← readPipeline n
      andOrLoop n (.both a b)
    | .orIf => do
      want { skipBreaks := true, keywords := true, aliases := true }
      let b ← readPipeline n
      andOrLoop n (.either a b)
    | _ => do pushBack n; return a

def readPipeline : Nat → Rd Node
  | 0 => readFail unterminated
  | n + 1 => do
    let t ← readToken n
    let negate ← match t with
      | .kw .bang => do want { keywords := true, aliases := true }; pure true
      | _ => do pushBack n; pure false
    let negate ← if negate ∧ (← get).bash then bangs n negate else pure negate
    let first ← readCommand n
    let stages ← pipeLoop n [first]
    let node := if stages.length > 1 then Node.pipe false stages else first
    return if negate then .pipe true [node] else node

def bangs : Nat → Bool → Rd Bool
  | 0, odd => pure odd
  | n + 1, odd => do
    match ← readToken n with
    | .kw .bang => do want { keywords := true, aliases := true }; bangs n (¬ odd)
    | _ => do
      pushBack n
      want { keywords := true, aliases := true }
      pure odd

def pipeLoop : Nat → List Node → Rd (List Node)
  | 0, acc => pure acc
  | n + 1, acc => do
    let t ← readToken n
    match t with
    | .pipe => do
      want { skipBreaks := true, keywords := true, aliases := true }
      let c ← readCommand n
      pipeLoop n (acc ++ [c])
    | _ => do pushBack n; return acc

def redirLoop : Nat → List Redirect → Rd (List Redirect)
  | 0, acc => pure acc
  | n + 1, acc => do
    want { keywords := true, aliases := true }
    let t ← readToken n
    match t with
    | .redir fd kind strip => do
      let r ← redirTarget n fd kind strip
      redirLoop n (acc ++ [r])
    | _ => do pushBack n; return acc

def expectKw : Nat → Keyword → Rd Unit
  | 0, _ => readFail unterminated
  | n + 1, k => do
    let t ← readToken n
    match t with
    | .kw k' => if k' = k then pure () else unexpectedToken (some ("\"" ++ k.text ++ "\""))
    | _ => unexpectedToken (some ("\"" ++ k.text ++ "\""))

def withRedirs : Nat → Node → Rd Node
  | 0, c => pure c
  | n + 1, c => do
    let rs ← redirLoop n []
    if rs.isEmpty then return c
    return match c with
      | .subshell b _ => .subshell b rs
      | c => .group c rs

def readCommand : Nat → Rd Node
  | 0 => readFail unterminated
  | n + 1 => do
    let line := (← get).line
    let t ← readToken n
    match t with
    | .kw .ifKw => do
      let c ← readIf n
      withRedirs n c
    | .kw .whileKw | .kw .untilKw => do
      let test ← readList n 0
      expectKw n .doKw
      let body ← readList n 0
      expectKw n .done
      withRedirs n (.loop (match t with | .kw .untilKw => true | _ => false)
        (test.getD .skip) (body.getD .skip))
    | .kw .forKw => do
      let s ← get
      let ahead := s.input.dropWhile fun c => c = ' ' ∨ c = '\t'
      if s.bash ∧ ahead.take 2 = ['(', '('] then do
        set { s with input := ahead.drop 2 }
        let (e, _) ← readParts n .arith 0 [] true
        let (init, test, step) := match splitWordAt ';' e with
          | [a, b, c] => (a, b, c)
          | _ => ([], [], [])
        want { skipBreaks := true, keywords := true }
        let t ← readToken n
        match t with
        | .semi => want { skipBreaks := true, keywords := true }
        | _ => pushBack n
        expectKw n .doKw
        let body ← readList n 0
        expectKw n .done
        return ← withRedirs n (.forArith line init test step (body.getD .skip))
      let v ← readToken n
      let var ← match v.plainText? with
        | some name => if isName name then pure name else badForName
        | none => badForName
      want { skipBreaks := true, keywords := true, aliases := true }
      let t ← readToken n
      let words ← match t with
        | .kw .inKw => do
          let ws ← forWords n []
          match (← get).last with
          | .newline | .semi => pure (some ws)
          | _ => unexpectedToken none
        | .semi => pure none
        | _ => do pushBack n; pure none
      want { skipBreaks := true, keywords := true, aliases := true }
      expectKw n .doKw
      let body ← readList n 0
      expectKw n .done
      withRedirs n (.forIn line var words (body.getD .skip))
    | .kw .caseKw => do
      let t ← readToken n
      let subject ← match t with
        | .word w _ => pure w
        | _ => unexpectedToken (some "word")
      want { skipBreaks := true, keywords := true, aliases := true }
      let t ← readToken n
      match t with
      | .kw .inKw => pure ()
      | _ => unexpectedToken (some "\"in\"")
      let items ← caseItems n []
      withRedirs n (.caseOf line subject items)
    | .lparen => do
      if (← get).bash ∧ (← peekChar false) = some '(' then do
        let _ ← takeChar
        let (e, _) ← readParts n .arith 0 [] true
        withRedirs n (.arithTest line e)
      else
      let body ← readList n 0
      let t ← readToken n
      match t with
      | .rparen => withRedirs n (.subshell (body.getD .skip) [])
      | _ => unexpectedToken (some "\")\"")
    | .kw .lbrace => do
      let body ← readList n 0
      expectKw n .rbrace
      withRedirs n (.group (body.getD .skip) [])
    | .word .. | .redir .. => do
      let bash := (← get).bash
      if bash ∧ t.plainText? = some "[[" then do
        let e ← condOr n
        want { skipBreaks := true }
        let t ← readToken n
        if t.plainText? = some "]]" then withRedirs n (.condTest line e)
        else condFail (some ("syntax error in conditional expression" ++
          ((condTokenText t).map fun x => ": unexpected token \x60" ++ x ++ "'").getD ""))
      else if bash ∧ t.plainText? = some "function" then do
        let t ← readToken n
        let name ← match t.plainText? with
          | some nm => pure nm
          | none => unexpectedToken none
        if (← peekChar) = some '(' then do
          let _ ← readToken n
          match ← readToken n with
          | .rparen => pure ()
          | _ => unexpectedToken (some "\")\"")
        want { skipBreaks := true, keywords := true, aliases := true }
        let body ← readCommand n
        return .define name body
      else do
        pushBack n
        readSimple n line [] [] [] true
    | _ => unexpectedToken none

def readIf : Nat → Rd Node
  | 0 => readFail unterminated
  | n + 1 => do
    let test ← readList n 0
    expectKw n .thenKw
    let yes ← readList n 0
    let t ← readToken n
    match t with
    | .kw .elif => do
      let no ← readIf n
      return .cond (test.getD .skip) (yes.getD .skip) (some no)
    | .kw .elseKw => do
      let no ← readList n 0
      expectKw n .fi
      return .cond (test.getD .skip) (yes.getD .skip) (some (no.getD .skip))
    | _ => do
      pushBack n
      expectKw n .fi
      return .cond (test.getD .skip) (yes.getD .skip) none

def forWords : Nat → List Word → Rd (List Word)
  | 0, acc => pure acc
  | n + 1, acc => do
    let t ← readToken n
    match t with
    | .word w _ => forWords n (acc ++ [w])
    | _ => return acc

def caseItems : Nat → List (List Word × Node × CaseEnd) → Rd (List (List Word × Node × CaseEnd))
  | 0, acc => pure acc
  | n + 1, acc => do
    want { skipBreaks := true, keywords := true }
    let t ← readToken n
    match t with
    | .kw .esac => return acc
    | _ => do
      if (match t with | .lparen => true | _ => false) then
        let _ ← readToken n
      let pats ← casePatterns n []
      match (← get).last with
      | .rparen => pure ()
      | _ => unexpectedToken (some "\")\"")
      let body ← readList n 2
      want { skipBreaks := true, keywords := true }
      let t ← readToken n
      match t with
      | .kw .esac => return acc ++ [(pats, body.getD .skip, .stop)]
      | .dsemi => caseItems n (acc ++ [(pats, body.getD .skip, .stop)])
      | .semiAmp => caseItems n (acc ++ [(pats, body.getD .skip, .fallThrough)])
      | .dsemiAmp => caseItems n (acc ++ [(pats, body.getD .skip, .retest)])
      | _ => unexpectedToken (some "\";;\"")

def casePatterns : Nat → List Word → Rd (List Word)
  | 0, acc => pure acc
  | n + 1, acc => do
    let w ← match ← lastWord n with
      | some w => pure w
      | none => if (← get).bash then unexpectedToken (some "word") else pure []
    let t ← readToken n
    match t with
    | .pipe => do
      let _ ← readToken n
      casePatterns n (acc ++ [w])
    | _ => return acc ++ [w]

def arrayItems : Nat → List Word → Rd (List Word)
  | 0, acc => pure acc
  | n + 1, acc => do
    want { skipBreaks := true }
    match ← readToken n with
    | .word w _ => arrayItems n (acc ++ [w])
    | .rparen => return acc
    | .eof => unmatchedAt "end of file unexpected" ')'
    | _ => unexpectedToken none

def condOr : Nat → Rd CondExpr
  | 0 => readFail unterminated
  | n + 1 => do
    let a ← condAnd n
    want { skipBreaks := true }
    match ← readToken n with
    | .orIf => return .either a (← condOr n)
    | _ => do pushBack n; return a

def condAnd : Nat → Rd CondExpr
  | 0 => readFail unterminated
  | n + 1 => do
    let a ← condPrimary n
    want { skipBreaks := true }
    match ← readToken n with
    | .andIf => return .both a (← condAnd n)
    | _ => do pushBack n; return a

/-- A negation, a parenthesized expression, a test of one operand, a comparison, or a word of
a conditional expression. -/
def condPrimary : Nat → Rd CondExpr
  | 0 => readFail unterminated
  | n + 1 => do
    want { skipBreaks := true }
    let t ← readToken n
    let quoted (pre post : String) (t : Token) (bare : String) : String :=
      match condTokenText t with
      | some x => pre ++ "\x60" ++ x ++ "'" ++ post
      | none => bare
    let operand (kind : String) : Rd Word := do
      let t ← readToken n
      match t with
      | .word w _ => if t.plainText? = some "]]" then condFail (some (quoted "unexpected argument " (" to conditional " ++ kind ++ " operator") t "")) else pure w
      | _ => condFail (some (quoted "unexpected argument " (" to conditional " ++ kind ++ " operator") t
          ("unexpected argument to conditional " ++ kind ++ " operator")))
    match t with
    | .lparen => do
      let e ← condOr n
      want { skipBreaks := true }
      let t ← readToken n
      match t with
      | .rparen => return e
      | _ => condFail (some (quoted "unexpected token " ", expected \x60)'" t "expected \x60)'"))
    | .word w _ =>
      let text := t.plainText?
      if text = some "!" then return .not (← condPrimary n)
      if text = some "]]" then condFail none
      if text.any fun o => condUnaryOps.contains o then
        return .unary (text.getD "") (← operand "unary")
      let t2 ← readToken n
      match t2 with
      | .word _ _ =>
        match t2.plainText? with
        | some "]]" => do pushBack n; return .word w
        | some "=~" => do
          modify fun s => { s with input := s.input.dropWhile fun c => c = ' ' ∨ c = '\t' }
          let (re, _) ← readParts n .regex 0 [] false
          return .binary "=~" w re
        | some o =>
          if condBinaryOps.contains o then do
            want { skipBreaks := true }
            let saved := (← get).extglob
            if o = "==" ∨ o = "!=" ∨ o = "=" then modify fun s => { s with extglob := true }
            let r ← tryCatch (do let v ← operand "binary"; pure (Except.ok v)) fun e => pure (Except.error e)
            modify fun s => { s with extglob := saved }
            match r with
            | .ok w3 => return .binary o w w3
            | .error e => throw e
          else condFail (some "conditional binary operator expected")
        | none => condFail (some "conditional binary operator expected")
      | .redir _ kind _ =>
        if kind = .input ∨ kind = .output then do
          want { skipBreaks := true }
          return .binary (if kind = .input then "<" else ">") w (← operand "binary")
        else condFail (some (quoted "unexpected token " ", conditional binary operator expected" t2
          "conditional binary operator expected"))
      | .andIf | .orIf | .rparen => do pushBack n; return .word w
      | _ => condFail (some (quoted "unexpected token " ", conditional binary operator expected" t2
          "conditional binary operator expected"))
    | _ => condFail (some (quoted "unexpected token " " in conditional command" t "syntax error"))

/-- A simple command, or a function definition `name() command`. -/
def readSimple : Nat → Nat → List Assign → List Word → List Redirect → Bool → Rd Node
  | 0, line, assigns, words, redirs, _ => pure (.simple line assigns words redirs)
  | n + 1, line, assigns, words, redirs, front => do
    if front then want { aliases := true }
    let t ← readToken n
    let bash := (← get).bash
    match t with
    | .word w _ =>
      match (if front then assignment? bash w else none) with
      | some a =>
        if bash ∧ a.value.isEmpty ∧ a.index.isNone ∧ (← get).input.head? = some '(' then do
          let _ ← takeChar
          let items ← openedAt ')' (arrayItems n [])
          readSimple n line (assigns ++ [{ a with items := some items }]) words redirs front
        else readSimple n line (assigns ++ [a]) words redirs front
      | none =>
        let declaring := bash ∧ ¬ front ∧
          (words.head?.bind fun c => (Token.word c false).plainText?).any declarationCommands.contains
        match (if declaring then assignment? bash w else none) with
        | some a =>
          if a.value.isEmpty ∧ a.index.isNone ∧ (← get).input.head? = some '(' then do
            let _ ← takeChar
            let items ← openedAt ')' (arrayItems n [])
            readSimple n line (assigns ++ [{ a with items := some items, declared := true }])
              (words ++ [[.lit a.name false]]) redirs false
          else readSimple n line assigns (words ++ [w]) redirs false
        | none => readSimple n line assigns (words ++ [w]) redirs false
    | .redir fd kind strip => do
      let r ← redirTarget n fd kind strip
      readSimple n line assigns words (redirs ++ [r]) front
    | .lparen =>
      match words, assigns, redirs with
      | [w], [], [] => do
        let t ← readToken n
        match t with
        | .rparen => pure ()
        | _ => unexpectedToken (some "\")\"")
        let name := String.join (w.map fun p => match p with | .lit s _ => s | _ => "\x7b")
        if ¬ isName name ∨ specialUtilities.contains name then readFail "Bad function name"
        want { skipBreaks := true, keywords := true, aliases := true }
        if (← get).bash then
          match ← readToken n with
          | .word .. => unexpectedToken none
          | _ => pure ()
          pushBack n
          want { skipBreaks := true, keywords := true, aliases := true }
        let body ← readCommand n
        return .define name body
      | _, _, _ => do
        pushBack n
        return .simple line assigns words redirs
    | _ => do
      pushBack n
      return .simple line assigns words redirs

end

/-! ## Here-documents -/

mutual

def Redirect.fill (docs : List (Nat × Word)) (r : Redirect) : Redirect :=
  if r.kind = .here then
    match r.target with
    | [.lit idx false] => match idx.toNat? with
      | some i => { r with target := (docs.lookup i).getD [] }
      | none => r
    | _ => r
  else r

def Node.fill (docs : List (Nat × Word)) : Node → Node
  | .simple l a w rs => .simple l a w (rs.map (Redirect.fill docs))
  | .pipe neg cs => .pipe neg (Node.fillAll docs cs)
  | .both a b => .both (a.fill docs) (b.fill docs)
  | .either a b => .either (a.fill docs) (b.fill docs)
  | .seq a b => .seq (a.fill docs) (b.fill docs)
  | .background a => .background (a.fill docs)
  | .subshell b rs => .subshell (b.fill docs) (rs.map (Redirect.fill docs))
  | .group b rs => .group (b.fill docs) (rs.map (Redirect.fill docs))
  | .cond t y none => .cond (t.fill docs) (y.fill docs) none
  | .cond t y (some e) => .cond (t.fill docs) (y.fill docs) (some (e.fill docs))
  | .loop neg t b => .loop neg (t.fill docs) (b.fill docs)
  | .forIn l v ws b => .forIn l v ws (b.fill docs)
  | .caseOf l s items => .caseOf l s (Node.fillItems docs items)
  | .define name b => .define name (b.fill docs)
  | .condTest l e => .condTest l e
  | .arithTest l e => .arithTest l e
  | .forArith l i t st b => .forArith l i t st (b.fill docs)
  | .skip => .skip

def Node.fillAll (docs : List (Nat × Word)) : List Node → List Node
  | [] => []
  | c :: cs => c.fill docs :: Node.fillAll docs cs

def Node.fillItems (docs : List (Nat × Word)) :
    List (List Word × Node × CaseEnd) → List (List Word × Node × CaseEnd)
  | [] => []
  | (ps, b, e) :: more => (ps, b.fill docs, e) :: Node.fillItems docs more

end

/-! ## Scripts -/

def readFuel (input : List Char) : Nat := 16 * input.length + 64

/-- What reading the next command of a script gives. -/
inductive NextCommand where
  /-- The script has ended. -/
  | done
  /-- A command (none for an empty line), and the reader after it. -/
  | command (c : Option Node) (after : Reader)
  /-- A syntax error. -/
  | error (e : SyntaxError)

/-- Reads the next command list of a script: up to the end of its line, or of the lines its
compound commands take. -/
def Reader.next (r : Reader) : NextCommand :=
  let fuel := readFuel r.input
  let step : Rd (Option Node) := readList fuel 1
  match (ExceptT.run step).run { r with pushed := false, want := {}, docs := [] } with
  | (.error e, _) => .error e
  | (.ok c, s) =>
    match c, s.last with
    | none, .eof => .done
    | c, _ => .command (c.map (Node.fill s.docs)) s

def Reader.ofText (s : String) (line : Nat := 1) (bash : Bool := false) : Reader :=
  { input := s.toList, line := line, bash := bash, source := (s.splitOn "\n").toArray, firstLine := line }

/-- The message of a syntax error as `bash` writes it, after its name and the label of the
text (`-c` or `eval`, when there is one); the lines a reader reads give the second line of an
unexpected token's message. -/
def SyntaxError.bashMessage (e : SyntaxError) (r : Reader) (head : String) : String :=
  let at_ := fun (l : Nat) => head ++ "line " ++ toString l ++ ": "
  match e.bash with
  | .token t l =>
    at_ l ++ "syntax error near unexpected token \x60" ++ t ++ "'\n" ++ at_ l ++ "\x60" ++ r.lineText l ++ "'\n"
  | .endOfFile => at_ e.line ++ "syntax error: unexpected end of file\n"
  | .unmatched c l => at_ l ++ "unexpected EOF while looking for matching \x60" ++ String.singleton c ++ "'\n"
  | .cond m near l =>
    (m.map fun x => at_ l ++ x ++ "\n").getD "" ++ at_ l ++ "syntax error near \x60" ++ near ++ "'\n" ++
      at_ l ++ "\x60" ++ r.lineText l ++ "'\n"
  | .other => at_ e.line ++ "syntax error: " ++ e.message ++ "\n"

end SqlMigration.Shell
