import SqlMigration.Shell.Awk.Lex
import SqlMigration.Shell.Awk.Pattern

/-!
# Parsing awk programs

A program is read from its tokens by recursive descent, each level of the grammar one function.
-/

namespace SqlMigration.Shell

/-- A name used as a variable (`array` false) or an array (`array` true): the place and line of
its token, and the function it is a parameter of, if it is one. -/
structure AwkUse where
  pos : Nat
  line : Nat
  name : String
  array : Bool
  owner : Option String
  deriving Inhabited

/-- What reading a program keeps: the tokens, the place reached, whether a function body or
a `BEGIN` or `END` action is being read (and the function's name and parameters), how many
loops are open, the mistakes found that do not stop the reading, each with the place of the
token it was found at, the places from which parentheses are counted anew, and the uses of
names (the latest first). -/
structure AwkParser where
  toks : Array AwkToken
  pos : Nat := 0
  inFunction : Bool := false
  function : String := ""
  params : List String := []
  uses : List AwkUse := []
  inSpecial : Bool := false
  loops : Nat := 0
  problems : List (Nat × String) := []
  errors : List (Nat × String) := []
  recounts : List Nat := []
  called : List (String × Nat) := []

/-- A mistake in the program: its message (after the program's name), the place of its token,
whether it is only the reading giving up, with no message of its own, and whether it is a
missing `)`, after which parentheses are counted anew. -/
structure AwkSyntaxError where
  message : String
  pos : Nat
  quiet : Bool := false
  unparen : Bool := false
  deriving Inhabited

abbrev AwkP := ExceptT AwkSyntaxError (StateM AwkParser)

def awkPeek : AwkP AwkToken := do
  let p ← get
  return p.toks.getD p.pos ⟨.eof, 0⟩

def awkPeekAt (k : Nat) : AwkP AwkTok := do
  let p ← get
  return (p.toks.getD (p.pos + k) ⟨.eof, 0⟩).tok

def awkAdvance : AwkP Unit := modify fun p => { p with pos := p.pos + 1 }

/-- How many of a kind of bracket are open before a place: opening tokens less closing ones,
counted from the last `BEGIN` or `END` or the last of some places. -/
def awkOpenBefore (toks : Array AwkToken) (pos : Nat) (opening closing : String)
    (recounts : List Nat) : Int :=
  (toks.toList.take pos).zipIdx.foldl (fun n (t, i) =>
    let n := if recounts.contains i then 0 else n
    if t.tok.isOp opening then n + 1 else if t.tok.isOp closing then n - 1
    else if t.tok.isKeyword "BEGIN" ∨ t.tok.isKeyword "END" then 0 else n) 0

def awkSyntaxError {α : Type} : AwkP α := do
  let p ← get
  let t := p.toks.getD p.pos ⟨.eof, 0⟩
  let line := "line " ++ toString t.line ++ ": "
  let parens := awkOpenBefore p.toks p.pos "(" ")" p.recounts > 0
  let braces := awkOpenBefore p.toks p.pos "\x7b" "\x7d" [] > 0
  let plain := line ++ "syntax error at or near " ++ t.tok.shown
  let unparen := line ++ "missing ) near " ++ t.tok.shown
  match t.tok with
    | .bad m => throw ⟨m, p.pos, false, false⟩
    | .op ";" | .op "\x7d" | .newline | .eof =>
      if parens then throw ⟨unparen, p.pos, false, true⟩
      else if braces && (t.tok matches .eof) then throw ⟨line ++ "missing \x7d near end of file", p.pos, false, false⟩
      else throw ⟨plain, p.pos, false, false⟩
    | .keyword "BEGIN" | .keyword "END" =>
      throw ⟨if braces then line ++ "missing \x7d near " ++ t.tok.shown else plain, p.pos, false, false⟩
    | _ => throw ⟨plain, p.pos, false, false⟩

/-- Keeps the message of a mistake and gives up when it was found at the end of the text or at
a token that cannot be read. -/
def awkReport (e : AwkSyntaxError) : AwkP Unit := do
  let p ← get
  match (p.toks.getD e.pos ⟨.eof, 0⟩).tok with
  | .eof | .bad _ => throw e
  | _ =>
    if e.quiet then throw e
    set { p with errors := (e.pos, e.message) :: p.errors,
                 recounts := if e.unparen then e.pos :: p.recounts else p.recounts }

/-- The first place from one on where a statement ends: a line feed or `;` (true: passed
over) or a `}` after another token (false: it closes the block); or else the place of the end
of the text or of a token that cannot be read. -/
def awkStatementEnd (toks : Array AwkToken) : Nat → Nat → Sum Nat (Nat × Bool)
  | 0, i => .inl i
  | k + 1, i =>
    match (toks.getD i ⟨.eof, 0⟩).tok with
    | .eof | .bad _ => .inl i
    | .newline | .op ";" => .inr (i, true)
    | .op "\x7d" =>
      let before := if i = 0 then AwkTok.newline else (toks.getD (i - 1) ⟨.eof, 0⟩).tok
      if before matches .newline | .op ";" | .op "\x7d" then awkStatementEnd toks k (i + 1)
      else .inr (i, false)
    | _ => awkStatementEnd toks k (i + 1)

/-- The first place from one on of a `{`, or else of the end of the text or of a token that
cannot be read. -/
def awkBlockStart (toks : Array AwkToken) : Nat → Nat → Sum Nat Nat
  | 0, i => .inl i
  | k + 1, i =>
    match (toks.getD i ⟨.eof, 0⟩).tok with
    | .eof | .bad _ => .inl i
    | .op "\x7b" => .inr i
    | _ => awkBlockStart toks k (i + 1)

/-- Gives up at a place: with the message of a token that cannot be read if one stands there,
and else with no message. -/
def awkGiveUp {α : Type} (i : Nat) : AwkP α := do
  let p ← get
  match (p.toks.getD i ⟨.eof, 0⟩).tok with
  | .bad m => throw ⟨m, i, false, false⟩
  | _ => throw ⟨"", p.toks.size, true, false⟩

def awkRecover (e : AwkSyntaxError) : AwkP Unit := do
  awkReport e
  let p ← get
  match awkStatementEnd p.toks (p.toks.size + 1) e.pos with
  | .inr (j, passed) => set { p with pos := if passed then j + 1 else j }
  | .inl i => awkGiveUp i

def awkProblem (msg : String) : AwkP Unit := do
  let t ← awkPeek
  modify fun p => { p with problems := (p.pos, "line " ++ toString t.line ++ ": " ++ msg) :: p.problems }

/-- Compiles a regular expression as the program is read, noting it when it does not compile,
at the token reached. -/
def awkCheckRegex (src : String) : AwkP Unit := do
  match awkCompileRegex src with
  | .error m => awkProblem (m ++ "\n" ++ src)
  | .ok _ => pure ()

/-- A string constant where a regular expression is expected (perhaps in parentheses) is
compiled as one when the program is read. -/
def awkConstRegex : AwkExpr → AwkP Unit
  | .str s => awkCheckRegex s
  | .group g => awkConstRegex g
  | _ => pure ()

def awkUse (pos : Nat) (name : String) (array : Bool) : AwkP Unit :=
  modify fun p =>
    let owner := if p.inFunction ∧ p.params.contains name then some p.function else none
    { p with uses := ⟨pos, (p.toks.getD pos ⟨.eof, 0⟩).line, name, array, owner⟩ :: p.uses }

def awkRetype (pos : Nat) (array : Option Bool) : AwkP Unit :=
  modify fun p => { p with uses := p.uses.filterMap fun u =>
    if u.pos = pos then array.map fun a => { u with array := a } else some u }

/-- The arguments of a call that are a name alone, from the tokens between its parentheses:
the index of each among the arguments and the place of the name. -/
def awkBareArgs (toks : Array AwkToken) (start stop : Nat) : List (Nat × Nat) :=
  let inner := (List.range (stop - start)).map fun k => (start + k, (toks.getD (start + k) ⟨.eof, 0⟩).tok)
  let (pieces, last, _) := inner.foldl (fun (pieces, cur, depth) (i, t) =>
    if depth = 0 ∧ t.isOp "," then (cur.reverse :: pieces, [], depth)
    else
      let depth :=
        if t.isOp "(" ∨ t.isOp "[" then depth + 1
        else if t.isOp ")" ∨ t.isOp "]" then depth - 1 else depth
      (pieces, (i, t) :: cur, depth)) (([] : List (List (Nat × AwkTok))), ([] : List (Nat × AwkTok)), 0)
  (last.reverse :: pieces).reverse.zipIdx.filterMap fun (piece, k) =>
    match piece with
    | [(i, .name _)] => some (k, i)
    | _ => none

def awkBuiltinNames : List (String × Bool) :=
  [("ENVIRON", true), ("ARGV", true), ("ARGC", false), ("NR", false), ("FNR", false),
   ("FS", false), ("OFS", false), ("ORS", false), ("RS", false), ("SUBSEP", false),
   ("CONVFMT", false), ("OFMT", false), ("FILENAME", false), ("RSTART", false),
   ("RLENGTH", false)]

/-- The mistakes of names used both as variables and as arrays: each use that differs from the
first use of its name (a parameter within its function) is refused. -/
def awkTypeErrors (uses : List AwkUse) : List (Nat × String) :=
  let start : List ((Option String × String) × Bool) := awkBuiltinNames.map fun (v, a) => ((none, v), a)
  let (_, errs) := uses.foldl (fun (known, errs) u =>
    match known.lookup (u.owner, u.name) with
    | some a =>
      if a = u.array then (known, errs)
      else
        let what := (if u.owner.isSome then "local " else "") ++ (if a then "array " else "variable ")
        (known, (u.pos, "line " ++ toString u.line ++ ": illegal reference to " ++ what ++ u.name) :: errs)
    | none => (((u.owner, u.name), u.array) :: known, errs)) (start, [])
  errs.reverse

def awkExpectOp (s : String) : AwkP Unit := do
  if (← awkPeek).tok.isOp s then awkAdvance else awkSyntaxError

def awkSkipNewlines : Nat → AwkP Unit
  | 0 => pure ()
  | k + 1 => do
    match (← awkPeek).tok with
    | .newline => do awkAdvance; awkSkipNewlines k
    | _ => pure ()

def AwkExpr.isLvalue : AwkExpr → Bool
  | .var _ | .elem .. | .field _ => true
  | _ => false

def awkAssignOp? (t : AwkTok) : Option (Option AwkBinOp) :=
  match t with
  | .op "=" => some none
  | .op "+=" => some (some .add)
  | .op "-=" => some (some .sub)
  | .op "*=" => some (some .mul)
  | .op "/=" => some (some .div)
  | .op "%=" => some (some .mod)
  | .op "^=" => some (some .pow)
  | _ => none

def awkCompareOp? (t : AwkTok) (noGt : Bool) : Option AwkBinOp :=
  match t with
  | .op "<" => some .lt
  | .op "<=" => some .le
  | .op "==" => some .eq
  | .op "!=" => some .ne
  | .op ">" => if noGt then none else some .gt
  | .op ">=" => some .ge
  | _ => none

def awkStartsOperand (t : AwkTok) : Bool :=
  match t with
  | .num .. | .str _ | .regex _ | .name _ | .funcName _ | .builtin _ => true
  | .op o => o == "$" || o == "(" || o == "!" || o == "++" || o == "--"
  | _ => false

def awkBuiltinArity (name : String) : Nat × Option Nat :=
  match name with
  | "length" => (0, some 1)
  | "substr" | "split" | "sub" | "gsub" => (2, some 3)
  | "index" | "match" | "atan2" => (2, some 2)
  | "sprintf" => (1, none)
  | "rand" => (0, some 0)
  | "srand" | "fflush" => (0, some 1)
  | _ => (1, some 1)

mutual

def awkExpr : Nat → Bool → AwkP AwkExpr
  | 0, _ => awkSyntaxError
  | n + 1, noGt => do
    let lhs ← awkTernary n noGt
    match awkAssignOp? (← awkPeek).tok with
    | some op =>
      if lhs.isLvalue then
        awkAdvance
        let rhs ← awkExpr n noGt
        return .assign op lhs rhs
      else return lhs
    | none => return lhs

def awkTernary : Nat → Bool → AwkP AwkExpr
  | 0, _ => awkSyntaxError
  | n + 1, noGt => do
    let c ← awkOr n noGt
    if (← awkPeek).tok.isOp "?" then
      awkAdvance
      awkSkipNewlines 2
      let a ← awkExpr n noGt
      awkSkipNewlines 2
      awkExpectOp ":"
      awkSkipNewlines 2
      let b ← awkExpr n noGt
      return .cond c a b
    else return c

def awkOr : Nat → Bool → AwkP AwkExpr
  | 0, _ => awkSyntaxError
  | n + 1, noGt => do
    let a ← awkAnd n noGt
    awkOrRest n noGt a

def awkOrRest : Nat → Bool → AwkExpr → AwkP AwkExpr
  | 0, _, _ => awkSyntaxError
  | n + 1, noGt, a => do
    if (← awkPeek).tok.isOp "||" then
      awkAdvance
      let b ← awkAnd n noGt
      awkOrRest n noGt (.or a b)
    else return a

def awkAnd : Nat → Bool → AwkP AwkExpr
  | 0, _ => awkSyntaxError
  | n + 1, noGt => do
    let a ← awkIn n noGt
    awkAndRest n noGt a

def awkAndRest : Nat → Bool → AwkExpr → AwkP AwkExpr
  | 0, _, _ => awkSyntaxError
  | n + 1, noGt, a => do
    if (← awkPeek).tok.isOp "&&" then
      awkAdvance
      let b ← awkIn n noGt
      awkAndRest n noGt (.and a b)
    else return a

def awkIn : Nat → Bool → AwkP AwkExpr
  | 0, _ => awkSyntaxError
  | n + 1, noGt => do
    let a ← awkMatch n noGt
    awkInRest n a

def awkInRest : Nat → AwkExpr → AwkP AwkExpr
  | 0, _ => awkSyntaxError
  | n + 1, a => do
    if (← awkPeek).tok.isKeyword "in" then
      awkAdvance
      match (← awkPeek).tok with
      | .name arr => do
        awkUse (← get).pos arr true
        awkAdvance
        awkInRest n (.member [a] arr)
      | _ => awkSyntaxError
    else return a

def awkMatch : Nat → Bool → AwkP AwkExpr
  | 0, _ => awkSyntaxError
  | n + 1, noGt => do
    let a ← awkCompare n noGt
    awkMatchRest n noGt a

def awkMatchRest : Nat → Bool → AwkExpr → AwkP AwkExpr
  | 0, _, _ => awkSyntaxError
  | n + 1, noGt, a => do
    let t := (← awkPeek).tok
    if t.isOp "~" ∨ t.isOp "!~" then
      awkAdvance
      let b ← awkCompare n noGt
      awkConstRegex b
      awkMatchRest n noGt (.matches (t.isOp "!~") a b)
    else return a

def awkCompare : Nat → Bool → AwkP AwkExpr
  | 0, _ => awkSyntaxError
  | n + 1, noGt => do
    let a ← awkConcat n noGt
    awkCompareRest n noGt a

def awkCompareRest : Nat → Bool → AwkExpr → AwkP AwkExpr
  | 0, _, _ => awkSyntaxError
  | n + 1, noGt, a => do
    match awkCompareOp? (← awkPeek).tok noGt with
    | some op => do
      awkAdvance
      let b ← awkConcat n noGt
      awkCompareRest n noGt (.binary op a b)
    | none => return a

def awkConcat : Nat → Bool → AwkP AwkExpr
  | 0, _ => awkSyntaxError
  | n + 1, noGt => do
    let a ← awkAdditive n noGt
    awkConcatRest n noGt a

def awkConcatRest : Nat → Bool → AwkExpr → AwkP AwkExpr
  | 0, _, _ => awkSyntaxError
  | n + 1, noGt, a => do
    if awkStartsOperand (← awkPeek).tok then
      let b ← awkAdditive n noGt
      awkConcatRest n noGt (.binary .concat a b)
    else return a

def awkAdditive : Nat → Bool → AwkP AwkExpr
  | 0, _ => awkSyntaxError
  | n + 1, noGt => do
    let a ← awkMultiplicative n noGt
    awkAdditiveRest n noGt a

def awkAdditiveRest : Nat → Bool → AwkExpr → AwkP AwkExpr
  | 0, _, _ => awkSyntaxError
  | n + 1, noGt, a => do
    let t := (← awkPeek).tok
    if t.isOp "+" ∨ t.isOp "-" then
      awkAdvance
      let b ← awkMultiplicative n noGt
      awkAdditiveRest n noGt (.binary (if t.isOp "+" then .add else .sub) a b)
    else return a

def awkMultiplicative : Nat → Bool → AwkP AwkExpr
  | 0, _ => awkSyntaxError
  | n + 1, noGt => do
    let a ← awkUnary n noGt
    awkMultiplicativeRest n noGt a

def awkMultiplicativeRest : Nat → Bool → AwkExpr → AwkP AwkExpr
  | 0, _, _ => awkSyntaxError
  | n + 1, noGt, a => do
    let t := (← awkPeek).tok
    let op? : Option AwkBinOp :=
      if t.isOp "*" then some .mul else if t.isOp "/" then some .div
      else if t.isOp "%" then some .mod else none
    match op? with
    | some op => do
      awkAdvance
      let b ← awkUnary n noGt
      awkMultiplicativeRest n noGt (.binary op a b)
    | none => return a

def awkUnary : Nat → Bool → AwkP AwkExpr
  | 0, _ => awkSyntaxError
  | n + 1, noGt => do
    let t := (← awkPeek).tok
    if t.isOp "!" then do awkAdvance; return .not (← awkUnary n noGt)
    else if t.isOp "-" then do awkAdvance; return .neg (← awkUnary n noGt)
    else if t.isOp "+" then do awkAdvance; return .plus (← awkUnary n noGt)
    else awkPower n noGt

def awkPower : Nat → Bool → AwkP AwkExpr
  | 0, _ => awkSyntaxError
  | n + 1, noGt => do
    let a ← awkPostfix n
    let a ← if (← awkPeek).tok.isOp "^" then do
        awkAdvance
        let b ← awkExponent n
        pure (AwkExpr.binary .pow a b)
      else pure a
    awkPipeGetline n noGt a

def awkExponent : Nat → AwkP AwkExpr
  | 0 => awkSyntaxError
  | n + 1 => do
    let t := (← awkPeek).tok
    if t.isOp "-" then do awkAdvance; return .neg (← awkExponent n)
    else if t.isOp "+" then do awkAdvance; return .plus (← awkExponent n)
    else if t.isOp "!" then do awkAdvance; return .not (← awkExponent n)
    else
      let a ← awkPostfix n
      if (← awkPeek).tok.isOp "^" then do
        awkAdvance
        return .binary .pow a (← awkExponent n)
      else return a

def awkPipeGetline : Nat → Bool → AwkExpr → AwkP AwkExpr
  | 0, _, _ => awkSyntaxError
  | n + 1, noGt, a => do
    if ¬ noGt ∧ (← awkPeek).tok.isOp "|" ∧ (← awkPeekAt 1).isKeyword "getline" then
      awkAdvance
      awkAdvance
      let target ← awkGetlineTarget n
      awkPipeGetline n noGt (.getlineCmd a target)
    else return a

def awkGetlineTarget : Nat → AwkP (Option AwkExpr)
  | 0 => awkSyntaxError
  | n + 1 => do
    match (← awkPeek).tok with
    | .name _ => return some (← awkPostfixOnly n)
    | .op "$" => return some (← awkPostfixOnly n)
    | _ => return none

def awkPostfix : Nat → AwkP AwkExpr
  | 0 => awkSyntaxError
  | n + 1 => do
    let a ← awkPrimary n
    let t := (← awkPeek).tok
    if a.isLvalue ∧ (t.isOp "++" ∨ t.isOp "--") then
      awkAdvance
      return .incr false (t.isOp "++") a
    else return a

def awkPostfixOnly : Nat → AwkP AwkExpr
  | 0 => awkSyntaxError
  | n + 1 => awkPrimary n

def awkFieldOperand : Nat → AwkP AwkExpr
  | 0 => awkSyntaxError
  | n + 1 => do
    let t := (← awkPeek).tok
    if t.isOp "-" then do awkAdvance; return .neg (← awkFieldOperand n)
    else if t.isOp "+" then do awkAdvance; return .plus (← awkFieldOperand n)
    else if t.isOp "!" then do awkAdvance; return .not (← awkFieldOperand n)
    else awkPrimary n

def awkExprList : Nat → String → List AwkExpr → AwkP (List AwkExpr)
  | 0, _, _ => awkSyntaxError
  | n + 1, closing, acc => do
    let e ← awkExpr n false
    let t := (← awkPeek).tok
    if t.isOp "," then do
      awkAdvance
      awkExprList n closing (e :: acc)
    else if t.isOp closing then do
      awkAdvance
      return (e :: acc).reverse
    else awkSyntaxError

def awkCallArgs : Nat → AwkP (List AwkExpr)
  | 0 => awkSyntaxError
  | n + 1 => do
    if (← awkPeek).tok.isOp ")" then do awkAdvance; return []
    else awkExprList n ")" []

/-- An operand: a constant, a variable or an element, a field, a call, a parenthesized
expression or list, `++` or `--` before a target, or `getline`. -/
def awkPrimary : Nat → AwkP AwkExpr
  | 0 => awkSyntaxError
  | n + 1 => do
    let t ← awkPeek
    match t.tok with
    | .num x _ => do awkAdvance; return .num x
    | .str s => do awkAdvance; return .str s
    | .regex r => do
      awkCheckRegex r
      awkAdvance
      return .regex r
    | .name v => do
      let at_ := (← get).pos
      awkAdvance
      if (← awkPeek).tok.isOp "[" then do
        if awkRecordCells.contains v then awkSyntaxError
        awkUse at_ v true
        awkAdvance
        let subs ← awkExprList n "]" []
        return .elem v subs
      else do
        awkUse at_ v false
        return .var v
    | .funcName f => do
      awkAdvance
      awkExpectOp "("
      let start := (← get).pos
      let args ← awkCallArgs n
      for (_, i) in awkBareArgs (← get).toks start ((← get).pos - 1) do awkRetype i none
      modify fun p => { p with called := p.called ++ [(f, t.line)] }
      return .call f args
    | .builtin b => do
      awkAdvance
      if b = "length" ∧ ¬ (← awkPeek).tok.isOp "(" then return .builtin b []
      awkExpectOp "("
      let start := (← get).pos
      let args ← awkCallArgs n
      let bare := awkBareArgs (← get).toks start ((← get).pos - 1)
      if b = "length" then for (_, i) in bare do awkRetype i none
      if b = "split" then for (k, i) in bare do if k = 1 then awkRetype i (some true)
      let (lo, hi) := awkBuiltinArity b
      let tooMany := match hi with
        | some h => decide (args.length > h)
        | none => false
      if decide (args.length < lo) || tooMany then
        awkProblem ("wrong number of arguments in call to " ++ b)
      match b, args with
      | "match", [_, r] | "sub", r :: _ | "gsub", r :: _ => awkConstRegex r
      | "split", [_, _, r] =>
        match r with
        | .str sep => if sep.length > 1 then awkConstRegex r
        | _ => pure ()
      | _, _ => pure ()
      return .builtin b args
    | .op "$" => do
      awkAdvance
      return .field (← awkFieldOperand n)
    | .op "(" => do
      awkAdvance
      let es ← awkExprList n ")" []
      match es with
      | [e] => return .group e
      | _ =>
        if (← awkPeek).tok.isKeyword "in" then do
          awkAdvance
          match (← awkPeek).tok with
          | .name arr => do awkUse (← get).pos arr true; awkAdvance; return .member es arr
          | _ => awkSyntaxError
        else awkSyntaxError
    | .op "++" | .op "--" => do
      awkAdvance
      let target ← awkPrimary n
      if target.isLvalue then return .incr true (t.tok.isOp "++") target
      else awkSyntaxError
    | .keyword "getline" => do
      awkAdvance
      let target ← awkGetlineTarget n
      if (← awkPeek).tok.isOp "<" then do
        awkAdvance
        let file ← awkPostfix n
        return .getlineFile file target
      else return .getline target
    | _ => awkSyntaxError

end

def awkEndsPrint (t : AwkTok) : Bool :=
  match t with
  | .newline | .eof => true
  | .op o => o == ";" || o == "\x7d" || o == ">" || o == ">>" || o == "|"
  | _ => false

def awkTerminator : AwkP Unit := do
  match (← awkPeek).tok with
  | .newline => awkAdvance
  | .op ";" => awkAdvance
  | .op "\x7d" => pure ()
  | _ => awkSyntaxError

def awkMatchingParen (toks : Array AwkToken) : Nat → Nat → Nat → Option Nat
  | 0, _, _ => none
  | k + 1, i, depth =>
    match (toks.getD i ⟨.eof, 0⟩).tok with
    | .eof => none
    | .op "(" => awkMatchingParen toks k (i + 1) (depth + 1)
    | .op ")" => if depth = 1 then some i else awkMatchingParen toks k (i + 1) (depth - 1)
    | _ => awkMatchingParen toks k (i + 1) depth

def awkPrintArgs (n : Nat) : AwkP (List AwkExpr × Option AwkOutput) := do
  let p ← get
  let t := (← awkPeek).tok
  let args ←
    if awkEndsPrint t then pure []
    else
      let grouped := if t.isOp "(" then
          match awkMatchingParen p.toks (p.toks.size + 1) p.pos 0 with
          | some close => awkEndsPrint (p.toks.getD (close + 1) ⟨.eof, 0⟩).tok
          | none => false
        else false
      if grouped then do
        awkAdvance
        awkExprList n ")" []
      else printList n []
  let out ← match (← awkPeek).tok with
    | .op ">" => do awkAdvance; pure (some (AwkOutput.file (← awkExpr n false)))
    | .op ">>" => do awkAdvance; pure (some (AwkOutput.append (← awkExpr n false)))
    | .op "|" => do awkAdvance; pure (some (AwkOutput.pipe (← awkExpr n false)))
    | _ => pure none
  return (args, out)
where
  printList : Nat → List AwkExpr → AwkP (List AwkExpr)
    | 0, _ => awkSyntaxError
    | k + 1, acc => do
      let e ← awkExpr n true
      if (← awkPeek).tok.isOp "," then do
        awkAdvance
        printList k (e :: acc)
      else return (e :: acc).reverse

mutual

def awkStatement : Nat → AwkP AwkStmt
  | 0 => awkSyntaxError
  | n + 1 => do
    let t ← awkPeek
    match t.tok with
    | .op "\x7b" => do
      awkAdvance
      return .block (← awkStatements n [])
    | .op ";" | .newline => do
      awkAdvance
      return .block []
    | .op "\x7d" => return .block []
    | .keyword "if" => do
      awkAdvance
      awkExpectOp "("
      let c ← awkExpr n false
      awkExpectOp ")"
      awkSkipNewlines 2
      let yes ← awkStatement n
      if (← awkPeek).tok.isKeyword "else" then do
        awkAdvance
        return .ifElse c yes (some (← awkStatement n))
      else return .ifElse c yes none
    | .keyword "while" => do
      awkAdvance
      awkExpectOp "("
      let c ← awkExpr n false
      awkExpectOp ")"
      if (← awkPeek).tok.isOp ";" then do
        awkAdvance
        return .whileLoop c (.block [])
      awkSkipNewlines 2
      return .whileLoop c (← awkLoopBody n)
    | .keyword "do" => do
      awkAdvance
      let body ← awkLoopBody n
      awkSkipNewlines 2
      if ¬ (← awkPeek).tok.isKeyword "while" then awkSyntaxError
      awkAdvance
      awkExpectOp "("
      let c ← awkExpr n false
      awkExpectOp ")"
      awkTerminator
      return .doWhile body c
    | .keyword "for" => do
      awkAdvance
      awkExpectOp "("
      match (← awkPeekAt 0), (← awkPeekAt 1), (← awkPeekAt 2), (← awkPeekAt 3) with
      | .name v, .keyword "in", .name arr, .op ")" => do
        let at_ := (← get).pos
        awkUse at_ v false
        awkUse (at_ + 2) arr true
        awkAdvance; awkAdvance; awkAdvance; awkAdvance
        awkSkipNewlines 2
        return .forIn v arr (← awkLoopBody n)
      | _, _, _, _ => do
        let init ← if (← awkPeek).tok.isOp ";" then pure none else some <$> awkExpr n false
        awkExpectOp ";"
        awkSkipNewlines 2
        let test ← if (← awkPeek).tok.isOp ";" then pure none else some <$> awkExpr n false
        awkExpectOp ";"
        awkSkipNewlines 2
        let step ← if (← awkPeek).tok.isOp ")" then pure none else some <$> awkExpr n false
        awkExpectOp ")"
        if (← awkPeek).tok.isOp ";" then do
          awkAdvance
          return .forLoop init test step (.block [])
        awkSkipNewlines 2
        return .forLoop init test step (← awkLoopBody n)
    | .keyword "break" | .keyword "continue" => do
      let word := if t.tok.isKeyword "break" then "break" else "continue"
      if (← get).loops = 0 then awkProblem (word ++ " statement outside of loop")
      awkAdvance
      awkTerminator
      return (if word = "break" then .brk else .cont)
    | .keyword "next" | .keyword "nextfile" => do
      let word := if t.tok.isKeyword "next" then "next" else "nextfile"
      let p ← get
      if p.inFunction ∨ p.inSpecial then awkProblem ("improper use of " ++ word)
      awkAdvance
      awkTerminator
      return (if word = "next" then .next else .nextFile)
    | .keyword "exit" => do
      awkAdvance
      let t' := (← awkPeek).tok
      let code ← if awkEndsPrint t' then pure none else some <$> awkExpr n false
      awkTerminator
      return .exit code
    | .keyword "return" => do
      if ¬ (← get).inFunction then awkProblem "return outside function body"
      awkAdvance
      let t' := (← awkPeek).tok
      let value ← if awkEndsPrint t' then pure none else some <$> awkExpr n false
      awkTerminator
      return .ret value
    | .keyword "delete" => do
      awkAdvance
      match (← awkPeek).tok with
      | .name arr => do
        awkUse (← get).pos arr true
        awkAdvance
        if (← awkPeek).tok.isOp "[" then do
          awkAdvance
          let subs ← awkExprList n "]" []
          awkTerminator
          return .delete arr (some subs)
        else do
          awkTerminator
          return .delete arr none
      | _ => awkSyntaxError
    | .keyword "print" | .keyword "printf" => do
      awkAdvance
      let (args, out) ← awkPrintArgs n
      awkTerminator
      if t.tok.isKeyword "print" then return .print args out
      else do
        if args.isEmpty then awkProblem "no arguments in call to printf"
        return .printf args out
    | _ => do
      let e ← awkExpr n false
      awkTerminator
      return .expr e

def awkLoopBody : Nat → AwkP AwkStmt
  | 0 => awkSyntaxError
  | n + 1 => do
    modify fun p => { p with loops := p.loops + 1 }
    let body ← awkStatement n
    modify fun p => { p with loops := p.loops - 1 }
    return body

def awkStatements : Nat → List AwkStmt → AwkP (List AwkStmt)
  | 0, _ => awkSyntaxError
  | n + 1, acc => do
    match (← awkPeek).tok with
    | .op "\x7d" => do awkAdvance; return acc.reverse
    | .eof | .bad _ => awkSyntaxError
    | _ =>
      let loops := (← get).loops
      let stmt ← try some <$> awkStatement n catch e => do
        awkRecover e
        modify fun p => { p with loops := loops }
        pure none
      awkStatements n (match stmt with | some st => st :: acc | none => acc)

end

def awkParams (fname : String) : Nat → List String → AwkP (List String)
  | 0, _ => awkSyntaxError
  | n + 1, acc => do
    match (← awkPeek).tok with
    | .name v | .funcName v => do
      if awkRecordCells.contains v then awkSyntaxError
      if v = fname then
        awkProblem "function parameter cannot be the function"
        awkSyntaxError
      awkAdvance
      if acc.contains v then awkProblem (v ++ " is duplicated in argument list")
      match (← awkPeek).tok with
      | .op "," => do awkAdvance; awkParams fname n (v :: acc)
      | .op ")" => do awkAdvance; return (v :: acc).reverse
      | _ => awkSyntaxError
    | .op ")" => if acc.isEmpty then do awkAdvance; return [] else awkSyntaxError
    | _ => awkSyntaxError

def awkBraced (n : Nat) : AwkP (List AwkStmt) := do
  awkExpectOp "\x7b"
  awkStatements n []

def awkItem (n : Nat) (prog : AwkProgram) : AwkP AwkProgram := do
  let t ← awkPeek
  match t.tok with
  | .keyword "function" => do
    awkAdvance
    let name ← match (← awkPeek).tok with
      | .name f | .funcName f => do
        if awkRecordCells.contains f then awkSyntaxError
        awkAdvance
        pure f
      | _ => awkSyntaxError
    let p ← get
    let prior := (awkBuiltinNames.lookup name).orElse fun _ =>
      (p.uses.find? fun u => u.name = name ∧ u.owner.isNone).map (·.array)
    if let some array := prior then
      awkProblem ("illegal reference to " ++ (if array then "array " else "variable ") ++ name)
    if prog.functions.any (·.name == name) then awkProblem ("redefinition of " ++ name)
    awkExpectOp "("
    let params ← awkParams name n []
    awkSkipNewlines 2
    modify fun p => { p with inFunction := true, function := name, params := params }
    let body ← awkBraced n
    modify fun p => { p with inFunction := false, params := [] }
    afterBlock
    return { prog with functions := prog.functions ++ [⟨name, params, body⟩] }
  | .keyword "BEGIN" | .keyword "END" => do
    awkAdvance
    modify fun p => { p with inSpecial := true }
    let body ← awkBraced n
    modify fun p => { p with inSpecial := false }
    afterBlock
    let pattern := if t.tok.isKeyword "BEGIN" then AwkPattern.begin else .finish
    return { prog with rules := prog.rules ++ [⟨pattern, some body⟩] }
  | .op "\x7b" => do
    let body ← awkBraced n
    afterBlock
    return { prog with rules := prog.rules ++ [⟨.always, some body⟩] }
  | .newline => awkSyntaxError
  | _ => do
    let a ← awkExpr n false
    let pattern ← if (← awkPeek).tok.isOp "," then do
        awkAdvance
        pure (AwkPattern.range a (← awkExpr n false))
      else pure (AwkPattern.test a)
    match (← awkPeek).tok with
    | .op "\x7b" => do
      let body ← awkBraced n
      afterBlock
      return { prog with rules := prog.rules ++ [⟨pattern, some body⟩] }
    | .newline | .op ";" => do
      awkAdvance
      return { prog with rules := prog.rules ++ [⟨pattern, none⟩] }
    | _ => awkSyntaxError
where
  /-- One `;` may follow the block of a rule. -/
  afterBlock : AwkP Unit := do
    if (← awkPeek).tok.isOp ";" then awkAdvance

def awkRecoverOutside (n : Nat) (e : AwkSyntaxError) : AwkP Unit := do
  awkReport e
  modify fun p => { p with inFunction := false, inSpecial := false, loops := 0, params := [] }
  let p ← get
  match awkBlockStart p.toks (p.toks.size + 1) e.pos with
  | .inr j =>
    set { p with pos := j }
    let _ ← awkBraced n
    awkItem.afterBlock
  | .inl i => awkGiveUp i

def awkItems : Nat → AwkProgram → AwkP AwkProgram
  | 0, prog => pure prog
  | k + 1, prog => do
    let n := 4 * (← get).toks.size + 16
    match (← awkPeek).tok with
    | .eof => return prog
    | _ =>
      let prog ← try awkItem n prog catch e => do
        awkRecoverOutside n e
        pure prog
      awkItems k prog

/-- Reads a program text: the program, or the messages of its mistakes (each after the
program's name), in the order they were found. -/
def parseAwk (text : String) : Except (List String) AwkProgram :=
  let (toks, notes) := awkTokens text
  let start : AwkParser := { toks := toks }
  match (awkItems (toks.size + 2) {}).run.run start with
  | (.error e, p) =>
    let upTo := fun (xs : List (Nat × String)) => xs.filter fun (k, _) => k ≤ e.pos
    let found := merge (upTo notes ++ upTo p.problems.reverse ++ upTo (awkTypeErrors p.uses.reverse) ++
      p.errors.reverse)
    .error (if e.quiet then found else found ++ [e.message])
  | (.ok prog, p) =>
    let defined := prog.functions.map (·.name)
    let eofLine := (toks.back?.map (·.line)).getD 1
    let missing := (p.called.map (·.1)).eraseDups.filter fun f => ¬ defined.contains f
    let undefinedMsgs := missing.map fun f => "line " ++ toString eofLine ++ ": function " ++ f ++ " never defined"
    let found := merge (notes ++ p.problems.reverse ++ awkTypeErrors p.uses.reverse ++ p.errors.reverse) ++
      undefinedMsgs
    if found.isEmpty then .ok prog else .error found
where
  /-- Placed messages in the order of their places. -/
  merge (xs : List (Nat × String)) : List String :=
    (xs.mergeSort fun x y => x.1 ≤ y.1).map (·.2)

end SqlMigration.Shell
