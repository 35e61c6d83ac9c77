import SqlMigration.Shell.State
import SqlMigration.Shell.Regex

/-!
# expr

`expr` evaluates the expression its arguments spell, one token an argument, and writes the
value.
-/

namespace SqlMigration.Shell

/-- A value of `expr`: an integer or a text. -/
inductive ExprValue where
  | num (n : Int)
  | str (s : List Char)
  deriving DecidableEq, Repr, Inhabited

def looksInteger (s : List Char) : Bool :=
  let ds := match s with
    | '-' :: r => r
    | r => r
  !ds.isEmpty && ds.all Char.isDigit

def integerOf? (s : List Char) : Option Int :=
  if looksInteger s then
    match s with
    | '-' :: ds => some (-(ds.foldl (fun a d => 10 * a + (d.toNat - 48)) 0 : Nat))
    | ds => some (ds.foldl (fun a d => 10 * a + (d.toNat - 48)) 0 : Nat)
  else none

def ExprValue.text : ExprValue → List Char
  | .num n => (toString n).toList
  | .str s => s

def ExprValue.null : ExprValue → Bool
  | .num n => n == 0
  | .str s =>
    let ds := match s with
      | '-' :: r => r
      | r => r
    s.isEmpty || (!ds.isEmpty && ds.all (· == '0'))

def ExprValue.toInt? : ExprValue → Option Int
  | .num n => some n
  | .str s => integerOf? s

def exprQuote (s : List Char) : String := localeQuote (String.ofList s)

/-- The arguments of `expr` not yet read, and the last one read. -/
structure ExprInput where
  rest : List (List Char)
  prev : List Char := []

abbrev ExprM := ExceptT String (StateM ExprInput)

def nextIs (tok : String) : ExprM Bool := do
  let s ← get
  match s.rest with
  | a :: more =>
    if a == tok.toList then
      set { rest := more, prev := a : ExprInput }
      return true
    else return false
  | [] => return false

def requireMore : ExprM Unit := do
  let s ← get
  if s.rest.isEmpty then throw ("syntax error: missing argument after " ++ exprQuote s.prev)

def takeArg : ExprM (List Char) := do
  requireMore
  let s ← get
  match s.rest with
  | a :: more =>
    set { rest := more, prev := a : ExprInput }
    return a
  | [] => return []

/-- Matches a regular expression at the start of a text: the text of the first group (empty when
it did not take part or there is no match), or without groups the length matched. -/
def colonMatch (l r : ExprValue) : Except String ExprValue := do
  let rx ← parseRegex r.text { emptyRanges := true }
  let text := l.text.toArray
  let hit := rx.matchAt text 0
  if rx.groups > 0 then
    match hit.bind (·.group text 1) with
    | some g => return .str g
    | none => return .str []
  else
    match hit with
    | some h => return .num h.pos
    | none => return .num 0

def indexOf (s chars : List Char) : Nat :=
  match s.findIdx? (chars.contains ·) with
  | some i => i + 1
  | none => 0

def substrCount (v : ExprValue) : Option Nat :=
  match v.toInt? with
  | some n => some (if n < 0 then 18446744073709551615 else n.toNat)
  | none => none

/-- `substr`: the characters of a text from a place (from 1), at most a count of them. -/
def substrOf (s : List Char) (pos len : ExprValue) : ExprValue :=
  match substrCount pos, substrCount len with
  | some p, some n =>
    if s.length < p || p == 0 || n == 0 || n == 18446744073709551615 then .str []
    else .str ((s.drop (p - 1)).take n)
  | _, _ => .str []

def liftExcept {α : Type} (r : Except String α) : ExprM α :=
  match r with
  | .ok a => pure a
  | .error e => throw e

mutual

def exprOr : Nat → Bool → ExprM ExprValue
  | 0, _ => throw "syntax error"
  | n + 1, ev => do
    let l ← exprAnd n ev
    orMore n ev l

def orMore : Nat → Bool → ExprValue → ExprM ExprValue
  | 0, _, _ => throw "syntax error"
  | n + 1, ev, l => do
    if ← nextIs "|" then
      let r ← exprAnd n (ev && l.null)
      let v := if l.null then (if r.null then .num 0 else r) else l
      orMore n ev v
    else return l

def exprAnd : Nat → Bool → ExprM ExprValue
  | 0, _ => throw "syntax error"
  | n + 1, ev => do
    let l ← exprCompare n ev
    andMore n ev l

def andMore : Nat → Bool → ExprValue → ExprM ExprValue
  | 0, _, _ => throw "syntax error"
  | n + 1, ev, l => do
    if ← nextIs "&" then
      let r ← exprCompare n (ev && !l.null)
      let v := if l.null || r.null then .num 0 else l
      andMore n ev v
    else return l

def exprCompare : Nat → Bool → ExprM ExprValue
  | 0, _ => throw "syntax error"
  | n + 1, ev => do
    let l ← exprSum n ev
    compareMore n ev l

def compareMore : Nat → Bool → ExprValue → ExprM ExprValue
  | 0, _, _ => throw "syntax error"
  | n + 1, ev, l => do
    let ops : List (String × (Ordering → Bool)) :=
      [("<", (· == .lt)), ("<=", (· != .gt)), ("=", (· == .eq)), ("==", (· == .eq)),
       ("!=", (· != .eq)), (">=", (· != .lt)), (">", (· == .gt))]
    let s ← get
    match s.rest with
    | a :: _ =>
      match ops.find? (·.1.toList == a) with
      | some (_, test) => do
        let _ ← nextIs (String.ofList a)
        let r ← exprSum n ev
        let ord := match integerOf? l.text, integerOf? r.text with
          | some x, some y => compare x y
          | _, _ => compareOfLessAndEq (l.text.map Char.toNat) (r.text.map Char.toNat)
        compareMore n ev (.num (if test ord then 1 else 0))
      | none => return l
    | [] => return l

def exprSum : Nat → Bool → ExprM ExprValue
  | 0, _ => throw "syntax error"
  | n + 1, ev => do
    let l ← exprProduct n ev
    sumMore n ev l

def sumMore : Nat → Bool → ExprValue → ExprM ExprValue
  | 0, _, _ => throw "syntax error"
  | n + 1, ev, l => do
    let plus ← nextIs "+"
    let minus ← if plus then pure false else nextIs "-"
    if plus || minus then
      let r ← exprProduct n ev
      if ev then
        match l.toInt?, r.toInt? with
        | some x, some y => sumMore n ev (.num (if plus then x + y else x - y))
        | _, _ => throw "non-integer argument"
      else sumMore n ev l
    else return l

def exprProduct : Nat → Bool → ExprM ExprValue
  | 0, _ => throw "syntax error"
  | n + 1, ev => do
    let l ← exprColon n ev
    productMore n ev l

def productMore : Nat → Bool → ExprValue → ExprM ExprValue
  | 0, _, _ => throw "syntax error"
  | n + 1, ev, l => do
    let op ← if ← nextIs "*" then pure (some '*')
      else if ← nextIs "/" then pure (some '/')
      else if ← nextIs "%" then pure (some '%')
      else pure none
    match op with
    | none => return l
    | some op =>
      let r ← exprColon n ev
      if ev then
        match l.toInt?, r.toInt? with
        | some x, some y =>
          if op != '*' && y == 0 then throw "division by zero"
          let v := if op == '*' then x * y else if op == '/' then x.tdiv y else x.tmod y
          productMore n ev (.num v)
        | _, _ => throw "non-integer argument"
      else productMore n ev l

def exprColon : Nat → Bool → ExprM ExprValue
  | 0, _ => throw "syntax error"
  | n + 1, ev => do
    let l ← exprPrimary n ev
    colonMore n ev l

def colonMore : Nat → Bool → ExprValue → ExprM ExprValue
  | 0, _, _ => throw "syntax error"
  | n + 1, ev, l => do
    if ← nextIs ":" then
      let r ← exprPrimary n ev
      if ev then colonMore n ev (← liftExcept (colonMatch l r))
      else colonMore n ev l
    else return l

def exprPrimary : Nat → Bool → ExprM ExprValue
  | 0, _ => throw "syntax error"
  | n + 1, ev => do
    if ← nextIs "+" then return .str (← takeArg)
    if ← nextIs "length" then
      let r ← exprPrimary n ev
      return .num r.text.length
    if ← nextIs "match" then
      let l ← exprPrimary n ev
      let r ← exprPrimary n ev
      if ev then return ← liftExcept (colonMatch l r) else return l
    if ← nextIs "index" then
      let l ← exprPrimary n ev
      let r ← exprPrimary n ev
      return .num (indexOf l.text r.text)
    if ← nextIs "substr" then
      let l ← exprPrimary n ev
      let p ← exprPrimary n ev
      let k ← exprPrimary n ev
      return substrOf l.text p k
    exprOperand n ev

def exprOperand : Nat → Bool → ExprM ExprValue
  | 0, _ => throw "syntax error"
  | n + 1, ev => do
    requireMore
    if ← nextIs "(" then
      let v ← exprOr n ev
      let s ← get
      match s.rest with
      | [] => throw ("syntax error: expecting ')' after " ++ exprQuote s.prev)
      | a :: _ =>
        if ← nextIs ")" then return v
        else throw ("syntax error: expecting ')' instead of " ++ exprQuote a)
    if ← nextIs ")" then throw "syntax error: unexpected ')'"
    return .str (← takeArg)

end

def evalExpr (args : List (List Char)) : Except String ExprValue :=
  let step : ExprM ExprValue := do
    let v ← exprOr (16 * args.length + 32) true
    match (← get).rest with
    | [] => return v
    | a :: _ => throw ("syntax error: unexpected argument " ++ exprQuote a)
  match (ExceptT.run step).run { rest := args } with
  | (r, _) => r

def byteChars (s : String) : List Char := Text.Unicode.decode (Text.Utf8.encode s)

/-- `expr`: writes the value of the expression, with the status 1 when it is null. -/
def exprUtility (args : List String) : Sh Unit := do
  let args := match args with
    | "--" :: more => more
    | _ => args
  if args.isEmpty then
    say 2 "expr: missing operand\nTry 'expr --help' for more information.\n"
    setStatus 2
  else
    match evalExpr (args.map byteChars) with
    | .ok v =>
      emit 1 (Text.Unicode.encode v.text ++ [10])
      setStatus (if v.null then 1 else 0)
    | .error e =>
      say 2 ("expr: " ++ e ++ "\n")
      setStatus 2

end SqlMigration.Shell
