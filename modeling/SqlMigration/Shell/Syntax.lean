/-!
# Shell command language: syntax

The POSIX shell command language as a syntax tree, with the tokens its reader works on.
-/

namespace SqlMigration.Shell

/-- What a parameter expansion with a word does when the parameter is unset (or, with a colon,
empty). -/
inductive Default where
  /-- `${x-w}`: use the word. -/
  | use
  /-- `${x=w}`: assign the word, then use it. -/
  | assign
  /-- `${x?w}`: fail with the word as the message. -/
  | fail
  /-- `${x+w}`: use the word when the parameter is set, nothing otherwise. -/
  | alternative
  deriving DecidableEq, Repr, Inhabited

/-- Which match of a pattern `${x/p/r}` replaces. -/
inductive Replacement where
  /-- `${x/p/r}`: the first. -/
  | first
  /-- `${x//p/r}`: every one. -/
  | every
  /-- `${x/#p/r}`: one at the start. -/
  | atStart
  /-- `${x/%p/r}`: one at the end. -/
  | atEnd
  deriving DecidableEq, Repr, Inhabited

/-- The forms of parameter expansion. -/
inductive ParamForm where
  /-- `$x` or `${x}`. -/
  | plain
  /-- `${#x}`: the length of the value. -/
  | length
  /-- `${x-w}` and its kin; `onEmpty` when written with a colon. -/
  | test (onEmpty : Bool) (kind : Default)
  /-- `${x%w}`, `${x%%w}`, `${x#w}`, `${x##w}`: the value without its shortest or longest suffix
  or prefix that the pattern matches. -/
  | trim (suffix longest : Bool)
  /-- `${x^p}`, `${x^^p}`, `${x,p}`, `${x,,p}`: the first character, or every one, that the
  pattern matches (any character when there is none) made upper or lower case. -/
  | recase (upper all : Bool)
  /-- `${x~p}` and `${x~~p}`: the case of the first character, or of every one, that the
  pattern matches swapped. -/
  | toggle (all : Bool)
  /-- `${x/p/r}` and its kin: a match of the pattern replaced by the second word. -/
  | replace (how : Replacement)
  /-- `${x:offset}` and `${x:offset:length}`: the characters from an offset, as many as the
  second word says when `bounded`. -/
  | slice (bounded : Bool)
  /-- `${!x}`: the value of the variable that `x` names; `${!a[@]}`: the indices of an array. -/
  | indirect
  /-- `${!x*}` and `${!x@}` (with `star` false): the names of the variables that start with `x`. -/
  | names (star : Bool)
  /-- `${x@op}`: the value transformed by an operator, such as `Q` for quoting or `U` for
  upper case. -/
  | transform (op : Char)
  /-- A form the reader could not make sense of, refused when it is expanded. -/
  | bad
  deriving DecidableEq, Repr, Inhabited

/-- A piece of a word. -/
inductive Part where
  /-- Literal text. -/
  | lit (text : String) (quoted : Bool)
  /-- A parameter expansion: the parameter and the subscript of an array element, if any, the
  form, the word the form uses and the second word of the forms that take two. -/
  | param (name : String) (index : Option (List Part)) (form : ParamForm) (word : List Part)
      (extra : List Part) (quoted : Bool)
  /-- The output of a command, given by its source text. -/
  | subst (source : String) (quoted : Bool)
  /-- The value of an arithmetic expression, given as a word to expand first. -/
  | arith (expr : List Part) (quoted : Bool)
  /-- A process substitution of `bash`, `<(...)` or (with `output`) `>(...)`: the path of a
  file through which the command, given by its source text, is read or written. -/
  | procSubst (source : String) (output : Bool)
  deriving Repr, Inhabited

abbrev Word := List Part

/-- What a redirection does with its descriptor. -/
inductive RedirKind where
  /-- `>`: write a file, emptied first; with `-C` an existing file is not overwritten. -/
  | output
  /-- `>|`: write a file, emptied first, even with `-C`. -/
  | clobber
  /-- `>>`: append to a file. -/
  | append
  /-- `<`: read a file. -/
  | input
  /-- `<>`: open a file to read and write. -/
  | readWrite
  /-- `>&`: copy an output descriptor, or close with `-`. -/
  | dupOut
  /-- `<&`: copy an input descriptor, or close with `-`. -/
  | dupIn
  /-- `<<` and `<<-`: read a here-document. -/
  | here
  /-- `<<<`: read the word and a line feed. -/
  | hereString
  /-- `&>`: write a file with both the output and the errors. -/
  | outErr
  /-- `&>>`: append both the output and the errors to a file. -/
  | appendOutErr
  deriving DecidableEq, Repr, Inhabited

/-- A redirection of a descriptor: its kind and its target word; for a here-document, the
target is the document's text, to be expanded when the delimiter was unquoted. -/
structure Redirect where
  fd : Nat
  kind : RedirKind
  target : Word
  /-- For a here-document: whether its text is expanded. -/
  expand : Bool := false
  /-- The target as it was written, which messages about it quote. -/
  text : String := ""
  deriving Repr, Inhabited

/-- An assignment before a command: `name=word`, `name[index]=word` or `name=(words)`, and
with `+=` the value added to the old one. -/
structure Assign where
  name : String
  /-- The subscript of the array element assigned. -/
  index : Option Word := none
  value : Word := []
  /-- The elements of an array assigned whole. -/
  items : Option (List Word) := none
  append : Bool := false
  /-- Whether the assignment is an operand of `declare`, `local` or the like, made after that
  command has run. -/
  declared : Bool := false
  deriving Repr, Inhabited

/-- A conditional expression of `[[ ... ]]`. -/
inductive CondExpr where
  /-- A word, true when it is not empty. -/
  | word (w : Word)
  /-- A test of one operand, such as `-f w` or `-z w`. -/
  | unary (op : String) (w : Word)
  /-- A comparison of two operands; the right one of `==` and `!=` is a pattern, that of `=~`
  a regular expression. -/
  | binary (op : String) (a b : Word)
  | not (e : CondExpr)
  | both (a b : CondExpr)
  | either (a b : CondExpr)
  deriving Repr, Inhabited

/-- How an item of a `case` ends: `;;` ends the `case`; `bash` adds `;&`, which runs the next
item's body too, and `;;&`, which goes on testing the items after it. -/
inductive CaseEnd where
  | stop
  | fallThrough
  | retest
  deriving DecidableEq, Repr, Inhabited

/-- A command of the shell. -/
inductive Node where
  | simple (line : Nat) (assigns : List Assign) (words : List Word)
      (redirs : List Redirect)
  | pipe (negate : Bool) (stages : List Node)
  /-- Runs the second command when the first succeeds (`&&`). -/
  | both (a b : Node)
  /-- Runs the second command when the first fails (`||`). -/
  | either (a b : Node)
  | seq (a b : Node)
  | background (a : Node)
  | subshell (body : Node) (redirs : List Redirect)
  | group (body : Node) (redirs : List Redirect)
  | cond (test yes : Node) (no : Option Node)
  /-- A `while` loop, or an `until` loop when `negate` is set. -/
  | loop (negate : Bool) (test body : Node)
  /-- A `for` loop; without `in`, it runs over the positional parameters. -/
  | forIn (line : Nat) (var : String) (words : Option (List Word)) (body : Node)
  /-- A `case`: the subject, and each item's patterns, body and ending. -/
  | caseOf (line : Nat) (subject : Word) (items : List (List Word × Node × CaseEnd))
  | define (name : String) (body : Node)
  /-- `[[ ... ]]`: the status of a conditional expression. -/
  | condTest (line : Nat) (e : CondExpr)
  /-- `(( ... ))`: the status of an arithmetic expression, 0 when it is not zero. -/
  | arithTest (line : Nat) (e : Word)
  /-- `for ((init; test; step))`: a loop of arithmetic expressions. -/
  | forArith (line : Nat) (init test step : Word) (body : Node)
  | skip
  deriving Repr, Inhabited

/-- The reserved words of the language. -/
inductive Keyword where
  | bang | caseKw | doKw | done | elif | elseKw | esac | fi | forKw | ifKw | inKw | thenKw
  | untilKw | whileKw | lbrace | rbrace
  deriving DecidableEq, Repr, Inhabited

def Keyword.all : List (Keyword × String) :=
  [(.bang, "!"), (.caseKw, "case"), (.doKw, "do"), (.done, "done"), (.elif, "elif"),
   (.elseKw, "else"), (.esac, "esac"), (.fi, "fi"), (.forKw, "for"), (.ifKw, "if"),
   (.inKw, "in"), (.thenKw, "then"), (.untilKw, "until"), (.whileKw, "while"),
   (.lbrace, "\x7b"), (.rbrace, "\x7d")]

def Keyword.text (k : Keyword) : String := ((Keyword.all.find? (·.1 == k)).map (·.2)).getD ""

def Keyword.ofText? (s : String) : Option Keyword := (Keyword.all.find? (·.2 == s)).map (·.1)

def Keyword.endsList : Keyword → Bool
  | .doKw | .done | .elif | .elseKw | .esac | .fi | .thenKw | .rbrace => true
  | _ => false

/-- A token of the command language. -/
inductive Token where
  | eof
  | newline
  | semi
  | amp
  | andIf
  | orIf
  | pipe
  | lparen
  | rparen
  | dsemi
  /-- `;&` of `bash`. -/
  | semiAmp
  /-- `;;&` of `bash`. -/
  | dsemiAmp
  /-- A redirection operator, with its descriptor and kind. -/
  | redir (fd : Nat) (kind : RedirKind) (stripTabs : Bool)
  /-- A word, and whether any of it was quoted. -/
  | word (w : Word) (quoted : Bool)
  | kw (k : Keyword)
  deriving Repr, Inhabited

def Token.name : Token → String
  | .eof => "end of file"
  | .newline => "newline"
  | .semi => "\";\""
  | .amp => "\"&\""
  | .andIf => "\"&&\""
  | .orIf => "\"||\""
  | .pipe => "\"|\""
  | .lparen => "\"(\""
  | .rparen => "\")\""
  | .dsemi => "\";;\""
  | .semiAmp => "\";&\""
  | .dsemiAmp => "\";;&\""
  | .redir .. => "redirection"
  | .word .. => "word"
  | .kw k => "\"" ++ k.text ++ "\""

def Token.endsList : Token → Bool
  | .eof | .rparen | .dsemi | .semiAmp | .dsemiAmp => true
  | .kw k => k.endsList
  | _ => false

def Token.plainText? : Token → Option String
  | .word w false =>
    w.foldr (fun p acc => match p, acc with
      | .lit s false, some t => some (s ++ t)
      | _, _ => none) (some "")
  | _ => none

end SqlMigration.Shell
