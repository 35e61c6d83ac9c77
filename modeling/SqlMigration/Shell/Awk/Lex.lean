import SqlMigration.Shell.Awk.Syntax
import SqlMigration.Shell.Awk.Value

/-!
# Reading awk programs into tokens

The text of a program is cut into tokens, each with the line it starts on.
-/

namespace SqlMigration.Shell

/-- A token of an awk program. -/
inductive AwkTok where
  | newline
  | eof
  | num (x : Float) (text : String)
  | str (s : String)
  | regex (src : String)
  | name (s : String)
  /-- A name right before `(`: a call of a function of the program. -/
  | funcName (s : String)
  | builtin (s : String)
  | keyword (s : String)
  /-- An operator or a punctuation mark. -/
  | op (s : String)
  /-- A mistake that stops the reading, with its message. -/
  | bad (msg : String)
  deriving Inhabited

/-- A token and the line it starts on. -/
structure AwkToken where
  tok : AwkTok
  line : Nat
  deriving Inhabited

/-- The variables that are cells of the record rather than plain variables: they cannot be
arrays, functions or parameters, and a message names them as a field. -/
def awkRecordCells : List String := ["NF", "RS", "FS", "CONVFMT", "OFMT"]

def awkGivenNames : List String :=
  awkRecordCells ++ ["NR", "FNR", "OFS", "ORS", "SUBSEP", "FILENAME", "RSTART", "RLENGTH", "ARGC",
    "ARGV", "ENVIRON"]

def AwkTok.shown : AwkTok → String
  | .newline => "end of line"
  | .eof => "end of file"
  | .num _ t => t
  | .str s => "\"" ++ s ++ "\""
  | .regex s => "/" ++ s ++ "/"
  | .name s =>
    if awkRecordCells.contains s then "$" else s
  | .funcName s | .builtin s | .keyword s | .op s => s
  | .bad m => m

def AwkTok.isOp (t : AwkTok) (s : String) : Bool :=
  match t with
  | .op o => o == s
  | _ => false

def AwkTok.isKeyword (t : AwkTok) (s : String) : Bool :=
  match t with
  | .keyword k => k == s
  | _ => false

def awkKeywords : List String :=
  ["BEGIN", "END", "do", "else", "exit", "for", "function", "getline", "if", "in", "next",
   "nextfile", "print", "printf", "return", "while", "delete", "break", "continue"]

def awkBuiltins : List String :=
  ["length", "substr", "index", "split", "sub", "gsub", "match", "sprintf", "sin", "cos",
   "atan2", "exp", "log", "int", "sqrt", "rand", "srand", "tolower", "toupper", "system",
   "close", "fflush"]

def AwkTok.endsOperand : AwkTok → Bool
  | .num .. | .str _ | .regex _ | .name _ => true
  | .keyword k => k == "getline"
  | .op o => o == ")" || o == "]" || o == "++" || o == "--"
  | _ => false

def AwkTok.eatsNewlines : AwkTok → Bool
  | .op o => o == "\x7b" || o == "\x7d" || o == ";" || o == "," || o == "&&" || o == "||"
  | .keyword k => k == "do" || k == "else"
  | .newline => true
  | _ => false

def awkNameStart (c : Char) : Bool := c.isAlpha || c == '_'

def awkNameChar (c : Char) : Bool := c.isAlphanum || c == '_'

def awkHexDigit (c : Char) : Option Nat :=
  if c.isDigit then some (c.toNat - 48)
  else if 'a' ≤ c ∧ c ≤ 'f' then some (c.toNat - 87)
  else if 'A' ≤ c ∧ c ≤ 'F' then some (c.toNat - 55)
  else none

def awkEscapeLetter (c : Char) : Option Char :=
  match c with
  | 'a' => some '\x07' | 'b' => some '\x08' | 'f' => some '\x0c' | 'n' => some '\n'
  | 'r' => some '\r' | 't' => some '\t' | 'v' => some '\x0b'
  | _ => none

/-- The escape at the front of the text after a backslash: the characters it stands for (none
when it is not one of C's) and the rest. -/
def awkEscape (cs : List Char) : Option Char × List Char :=
  match cs with
  | c :: rest =>
    match awkEscapeLetter c with
    | some e => (some e, rest)
    | none =>
      if '0' ≤ c ∧ c ≤ '7' then
        let ds := (c :: rest).take 3 |>.takeWhile fun d => '0' ≤ d ∧ d ≤ '7'
        (some (Char.ofNat ((ds.foldl (fun v d => v * 8 + (d.toNat - 48)) 0) % 256)),
          (c :: rest).drop ds.length)
      else if c = 'x' ∧ (rest.head?.bind awkHexDigit).isSome then
        let ds := (rest.take 2).takeWhile fun d => (awkHexDigit d).isSome
        (some (Char.ofNat (ds.foldl (fun v d => v * 16 + (awkHexDigit d).getD 0) 0)), rest.drop ds.length)
      else (none, cs)
  | [] => (none, cs)

/-- The characters of a string constant up to its closing quote, escapes replaced: the text
and the rest after the quote, or none when a line feed or the end comes first. -/
def awkStringBody : Nat → List Char → List Char → Option (List Char × List Char)
  | 0, _, _ => none
  | _ + 1, _, [] => none
  | k + 1, acc, c :: rest =>
    if c = '"' then some (acc.reverse, rest)
    else if c = '\n' then none
    else if c = '\\' then
      match rest with
      | '"' :: more => awkStringBody k ('"' :: acc) more
      | '\\' :: more => awkStringBody k ('\\' :: acc) more
      | '\n' :: more => awkStringBody k acc more
      | _ =>
        match awkEscape rest with
        | (some e, more) => awkStringBody k (e :: acc) more
        | (none, more) =>
          match more with
          | d :: more' => if d = '\n' then none else awkStringBody k (d :: '\\' :: acc) more'
          | [] => none
    else awkStringBody k (c :: acc) rest

/-- The characters of a regular expression up to its closing slash, `\/` made a plain slash:
the text and the rest, or none when a line feed or the end comes first. -/
def awkRegexBody : Nat → List Char → List Char → Option (List Char × List Char)
  | 0, _, _ => none
  | _ + 1, _, [] => none
  | k + 1, acc, c :: rest =>
    if c = '/' then some (acc.reverse, rest)
    else if c = '\n' then none
    else if c = '\\' then
      match rest with
      | '/' :: more => awkRegexBody k ('/' :: acc) more
      | '\n' :: _ => none
      | d :: more => awkRegexBody k (d :: '\\' :: acc) more
      | [] => none
    else awkRegexBody k (c :: acc) rest

/-- The text up to the end of its line, for a message about a string or an expression cut
there: at most ten characters. -/
def awkRunaway (cs : List Char) : String :=
  String.ofList ((cs.takeWhile (· ≠ '\n')).take 10)

/-- A number at the front of the text: decimal digits with an optional point and fraction, and
an optional exponent. -/
def awkNumeralText (cs : List Char) : Option (List Char × List Char) :=
  let whole := cs.takeWhile Char.isDigit
  let rest := cs.drop whole.length
  let (frac, rest) := match rest with
    | '.' :: more =>
      let ds := more.takeWhile Char.isDigit
      ('.' :: ds, more.drop ds.length)
    | _ => ([], rest)
  if whole.isEmpty ∧ frac.length ≤ 1 then none else
  let (expo, rest) := match rest with
    | e :: more =>
      if e = 'e' ∨ e = 'E' then
        let (sign, more') := match more with
          | s :: m => if s = '+' ∨ s = '-' then ([s], m) else ([], more)
          | [] => ([], more)
        let ds := more'.takeWhile Char.isDigit
        if ds.isEmpty then ([], rest) else (e :: sign ++ ds, more'.drop ds.length)
      else ([], rest)
    | [] => ([], rest)
  some (whole ++ frac ++ expo, rest)

def awkOperators : List String :=
  ["&&", "||", "==", "!=", "<=", ">=", ">>", "!~", "++", "--", "+=", "-=", "*=", "/=", "%=",
   "^=", "\x7b", "\x7d", "(", ")", "[", "]", ";", ",", "+", "-", "*", "/", "%", "^", "!", ">", "<",
   "|", "?", ":", "~", "$", "="]

/-- What reading the tokens keeps: the tokens so far (the latest first), the line, how many
parentheses and braces are open, and the messages of mistakes that do not stop the reading,
each with the number of tokens read before it. -/
structure AwkLexer where
  toks : List AwkToken := []
  line : Nat := 1
  parens : Nat := 0
  braces : Nat := 0
  notes : List (Nat × String) := []
  keepNewline : Bool := false

def AwkLexer.prev (l : AwkLexer) : AwkTok :=
  match l.toks with
  | t :: _ => t.tok
  | [] => .newline

def AwkLexer.push (l : AwkLexer) (t : AwkTok) : AwkLexer :=
  { l with toks := ⟨t, l.line⟩ :: l.toks, keepNewline := false }

def AwkLexer.note (l : AwkLexer) (msg : String) : AwkLexer :=
  { l with notes := (l.toks.length, "line " ++ toString l.line ++ ": " ++ msg) :: l.notes }

/-- Reads the tokens of a text; the last one is the end of the text, or a mistake that stops
the reading. -/
def awkLex : Nat → List Char → AwkLexer → AwkLexer
  | 0, _, l => l.push .eof
  | _ + 1, [], l => l.push .eof
  | k + 1, c :: rest, l =>
    if c = ' ' ∨ c = '\t' ∨ c = '\r' ∨ c = '\x0c' ∨ c = '\x0b' then awkLex k rest l
    else if c = '\\' ∧ rest.head? = some '\n' then awkLex k (rest.drop 1) { l with line := l.line + 1 }
    else if c = '#' then awkLex k (rest.dropWhile (· ≠ '\n')) l
    else if c = '\n' then
      let l' := { l with line := l.line + 1 }
      if l.prev.eatsNewlines ∧ ¬ l.keepNewline then awkLex k rest l'
      else awkLex k rest { l' with toks := ⟨.newline, l.line⟩ :: l.toks, keepNewline := false }
    else if c = '"' then
      match awkStringBody (rest.length + 1) [] rest with
      | some (body, more) => awkLex k more (l.push (.str (String.ofList body)))
      | none => l.push (.bad ("line " ++ toString l.line ++ ": runaway string constant \"" ++ awkRunaway rest ++ " ..."))
    else if c = '/' ∧ ¬ l.prev.endsOperand then
      match awkRegexBody (rest.length + 1) [] rest with
      | some (body, more) => awkLex k more (l.push (.regex (String.ofList body)))
      | none => l.push (.bad ("line " ++ toString l.line ++ ": runaway regular expression /" ++ awkRunaway rest ++ " ..."))
    else if c.isDigit ∨ (c = '.' ∧ (rest.head?.map Char.isDigit).getD false) then
      match awkNumeralText (c :: rest) with
      | some (text, more) =>
        let r := readFloatArg (text.map fun d => d.toNat.toUInt8)
        awkLex k more (l.push (.num (awkFloatOf r.neg r.value) (String.ofList text)))
      | none => l.push (.bad (toString l.line ++ ": unexpected character '.'"))
    else if awkNameStart c then
      let body := rest.takeWhile awkNameChar
      let name := String.ofList (c :: body)
      let more := rest.drop body.length
      let l := if name = "BEGIN" ∨ name = "END" then { l with parens := 0, braces := 0 } else l
      let tok : AwkTok :=
        if awkKeywords.contains name then .keyword name
        else if awkBuiltins.contains name then .builtin name
        else if more.head? = some '(' ∧ ¬ awkGivenNames.contains name then .funcName name
        else .name name
      awkLex k more (l.push tok)
    else
      match awkOperators.find? fun o => (c :: rest).take o.length = o.toList with
      | some o =>
        let more := (c :: rest).drop o.length
        if o = "(" then awkLex k more { l.push (.op o) with parens := l.parens + 1 }
        else if o = ")" then
          if l.parens = 0 then awkLex k more (l.note "extra ')'")
          else awkLex k more { l.push (.op o) with parens := l.parens - 1 }
        else if o = "\x7b" then awkLex k more { l.push (.op o) with braces := l.braces + 1 }
        else if o = "\x7d" then
          if l.braces = 0 then
            let more := match more.dropWhile (fun d => d = ' ' ∨ d = '\t') with
              | ';' :: m => m
              | _ => more
            awkLex k more { l.note "extra '\x7d'" with keepNewline := true }
          else awkLex k more { l.push (.op o) with braces := l.braces - 1 }
        else awkLex k more (l.push (.op o))
      | none =>
        let shown := if ' ' < c ∧ c.toNat < 127 then "unexpected character '" ++ String.singleton c ++ "'"
          else "unexpected character 0x" ++ String.ofList (hexPair c.toNat)
        l.push (.bad (toString l.line ++ ": " ++ shown))
where
  hexPair (n : Nat) : List Char :=
    let d := fun k => if k < 10 then Char.ofNat (48 + k) else Char.ofNat (87 + k)
    [d (n / 16 % 16), d (n % 16)]

/-- The tokens of a program text, and the messages of the mistakes that did not stop the
reading with the number of tokens before each. -/
def awkTokens (text : String) : Array AwkToken × List (Nat × String) :=
  let cs := text.toList ++ ['\n']
  let l := awkLex (cs.length + 1) cs {}
  (l.toks.reverse.toArray, l.notes.reverse)

end SqlMigration.Shell
