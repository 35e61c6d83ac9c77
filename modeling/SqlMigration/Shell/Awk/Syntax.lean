/-!
# The syntax of awk programs

An awk program is a list of rules and functions.
-/

namespace SqlMigration.Shell

/-- The binary operators of awk: arithmetic, concatenation and comparison. -/
inductive AwkBinOp where
  | add | sub | mul | div | mod | pow | concat
  | lt | le | gt | ge | eq | ne
  deriving DecidableEq, Repr, Inhabited

/-- An awk expression. -/
inductive AwkExpr where
  /-- A number written in the program, as its double-precision value. -/
  | num (x : Float)
  | str (s : String)
  /-- A regular expression between slashes. -/
  | regex (src : String)
  | var (name : String)
  /-- An element of an array, its subscripts joined by `SUBSEP`. -/
  | elem (name : String) (subs : List AwkExpr)
  | field (e : AwkExpr)
  /-- An assignment; with an operator, `target op= value`. -/
  | assign (op : Option AwkBinOp) (target value : AwkExpr)
  | cond (c a b : AwkExpr)
  | and (a b : AwkExpr)
  | or (a b : AwkExpr)
  | not (a : AwkExpr)
  | neg (a : AwkExpr)
  | plus (a : AwkExpr)
  | binary (op : AwkBinOp) (a b : AwkExpr)
  /-- `a ~ re`, or `a !~ re` when `negate`. -/
  | matches (negate : Bool) (a re : AwkExpr)
  /-- `(subs) in name`. -/
  | member (subs : List AwkExpr) (name : String)
  /-- `++` or `--` (`up` or not), before the target (`pre`) or after it. -/
  | incr (pre up : Bool) (target : AwkExpr)
  | call (name : String) (args : List AwkExpr)
  | builtin (name : String) (args : List AwkExpr)
  /-- `getline` from the input, into a target or the record. -/
  | getline (target : Option AwkExpr)
  | getlineFile (file : AwkExpr) (target : Option AwkExpr)
  | getlineCmd (cmd : AwkExpr) (target : Option AwkExpr)
  /-- A parenthesized expression. -/
  | group (e : AwkExpr)
  deriving Inhabited

/-- Where `print` and `printf` write: a file emptied when first opened, a file added to, or
the input of a command. -/
inductive AwkOutput where
  | file (e : AwkExpr)
  | append (e : AwkExpr)
  | pipe (e : AwkExpr)
  deriving Inhabited

/-- An awk statement. -/
inductive AwkStmt where
  | expr (e : AwkExpr)
  | print (args : List AwkExpr) (out : Option AwkOutput)
  | printf (args : List AwkExpr) (out : Option AwkOutput)
  | ifElse (c : AwkExpr) (yes : AwkStmt) (no : Option AwkStmt)
  | whileLoop (c : AwkExpr) (body : AwkStmt)
  | doWhile (body : AwkStmt) (c : AwkExpr)
  | forLoop (init test step : Option AwkExpr) (body : AwkStmt)
  | forIn (var arr : String) (body : AwkStmt)
  | block (body : List AwkStmt)
  | next
  | nextFile
  | exit (code : Option AwkExpr)
  | ret (value : Option AwkExpr)
  | brk
  | cont
  /-- `delete name[subs]`, or the whole array without subscripts. -/
  | delete (name : String) (subs : Option (List AwkExpr))
  deriving Inhabited

/-- When a rule runs. -/
inductive AwkPattern where
  | begin
  | finish
  | always
  | test (e : AwkExpr)
  | range (a b : AwkExpr)
  deriving Inhabited

/-- A rule: its pattern, and its action (none writes the record). -/
structure AwkRule where
  pattern : AwkPattern
  action : Option (List AwkStmt)
  deriving Inhabited

/-- A function: its name, its parameters (the ones a call leaves out are its locals), and its
body. -/
structure AwkFunction where
  name : String
  params : List String
  body : List AwkStmt
  deriving Inhabited

/-- A program: its rules and its functions, in the order written. -/
structure AwkProgram where
  rules : List AwkRule := []
  functions : List AwkFunction := []
  deriving Inhabited

end SqlMigration.Shell
