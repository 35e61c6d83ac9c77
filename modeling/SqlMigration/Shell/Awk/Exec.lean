import SqlMigration.Shell.Awk.Run

/-!
# Evaluating awk expressions and statements

Each expression is evaluated to a value, left operand first.
-/

namespace SqlMigration.Shell

def awkEndless {α : Type} : AwkM α := do
  let r ← (throw Stop.timeout : Sh α)
  return r

def awkArgOf : AwkValue → AwkArg
  | .num x => if x.isNaN then .nan true else .number x
  | .nan neg => .nan neg
  | .uninit => .text ""
  | .str s => .text s
  | .strnum s _ => .text s

mutual

def awkEval (prog : AwkProgram) (host : AwkHost) : Nat → AwkExpr → AwkM AwkValue
  | 0, _ => awkEndless
  | n + 1, e =>
    match e with
    | .num x => return .num x
    | .str s => return .str s
    | .regex r => do
      let rx ← awkRegex r
      let text ← awkToStr (← awkGetField 0)
      return awkBool (awkSearch rx text.toList.toArray 0).isSome
    | .var name => awkGetVar name
    | .elem name subs => do
      let k ← awkKey prog host n subs
      awkWithArray name (·.get k)
    | .field i => do
      let idx ← awkFieldIndex (← awkEval prog host n i)
      awkGetField idx
    | .assign op target value => do
      let v ← awkEval prog host n value
      let v ← match op with
        | none => pure v
        | some bop => do
          let old ← awkEval prog host n target
          pure (awkNumOf (awkArith bop old.toNum v.toNum) [old, v])
      awkAssign prog host n target v
      return v
    | .cond c a b => do
      if (← awkEval prog host n c).toBool then awkEval prog host n a else awkEval prog host n b
    | .and a b => do
      if (← awkEval prog host n a).toBool then return awkBool (← awkEval prog host n b).toBool
      else return awkBool false
    | .or a b => do
      if (← awkEval prog host n a).toBool then return awkBool true
      else return awkBool (← awkEval prog host n b).toBool
    | .not a => return awkBool !(← awkEval prog host n a).toBool
    | .neg a => return (← awkEval prog host n a).negate
    | .plus a => do
      let v ← awkEval prog host n a
      return awkNumOf v.toNum [v]
    | .binary op a b => do
      let x ← awkEval prog host n a
      let y ← awkEval prog host n b
      let fmt ← awkConvfmt
      match op with
      | .concat => return .str (x.toStr fmt ++ y.toStr fmt)
      | .lt => return awkBool (x.compare fmt y < 0)
      | .le => return awkBool (x.compare fmt y ≤ 0)
      | .gt => return awkBool (x.compare fmt y > 0)
      | .ge => return awkBool (x.compare fmt y ≥ 0)
      | .eq => return awkBool (x.compare fmt y = 0)
      | .ne => return awkBool (x.compare fmt y ≠ 0)
      | _ => return awkNumOf (awkArith op x.toNum y.toNum) [x, y]
    | .matches negate a re => do
      let text ← awkToStr (← awkEval prog host n a)
      let rx ← awkRegexOf prog host n re
      return awkBool ((awkSearch rx text.toList.toArray 0).isSome != negate)
    | .member subs name => do
      let k ← awkKey prog host n subs
      return awkBool (← awkWithArray name (·.has k))
    | .incr pre up target => do
      let v ← awkEval prog host n target
      let old := awkNumOf v.toNum [v]
      let new := awkNumOf (if up then v.toNum + 1 else v.toNum - 1) [v]
      awkAssign prog host n target new
      return if pre then new else old
    | .call name args => awkCall prog host n name args
    | .builtin name args => awkBuiltin prog host n name args
    | .getline target => do
      match ← awkReadMain awkLoopLimit with
      | some rec => do
        awkCountRecord
        match target with
        | some t => awkAssign prog host n t (AwkValue.ofInput rec)
        | none => awkSetRecord (AwkValue.ofInput rec)
        return .num 1
      | none => return .num 0
    | .getlineFile file target => do
      let name ← awkToStr (← awkEval prog host n file)
      match ← awkReadFile name with
      | some (some rec) => do
        match target with
        | some t => awkAssign prog host n t (AwkValue.ofInput rec)
        | none => do
          awkSetRecord (AwkValue.ofInput rec)
        return .num 1
      | some none => return .num 0
      | none => return .num (-1)
    | .getlineCmd cmd target => do
      let name ← awkToStr (← awkEval prog host n cmd)
      match ← awkReadCommand host name with
      | some rec => do
        awkSetGlobal "NR" (.num ((← awkGlobal "NR").toNum + 1))
        match target with
        | some t => awkAssign prog host n t (AwkValue.ofInput rec)
        | none => awkSetRecord (AwkValue.ofInput rec)
        return .num 1
      | none => return .num 0
    | .group inner => awkEval prog host n inner

/-- The regular expression an operand of `~` or of a function stands for: a regular expression
written as one, or the string of any other value. -/
def awkRegexOf (prog : AwkProgram) (host : AwkHost) : Nat → AwkExpr → AwkM Regex
  | 0, _ => awkEndless
  | n + 1, e =>
    match e with
    | .regex r => awkRegex r
    | .group inner => awkRegexOf prog host n inner
    | _ => do awkRegex (← awkToStr (← awkEval prog host n e))

def awkKey (prog : AwkProgram) (host : AwkHost) : Nat → List AwkExpr → AwkM AwkKey
  | 0, _ => awkEndless
  | n + 1, subs =>
    match subs with
    | [e] => do return awkKeyOf (← awkConvfmt) (← awkEval prog host n e)
    | _ => do
      let sep ← awkVarText "SUBSEP" "\x1c"
      let parts ← awkEvalTexts prog host n subs
      return .str (sep.intercalate parts)

def awkEvalTexts (prog : AwkProgram) (host : AwkHost) : Nat → List AwkExpr → AwkM (List String)
  | 0, _ => awkEndless
  | _ + 1, [] => return []
  | n + 1, e :: rest => do
    let s ← awkToStr (← awkEval prog host n e)
    return s :: (← awkEvalTexts prog host n rest)

def awkAssign (prog : AwkProgram) (host : AwkHost) : Nat → AwkExpr → AwkValue → AwkM Unit
  | 0, _, _ => awkEndless
  | n + 1, target, v =>
    match target with
    | .var name => awkSetVar name v
    | .elem name subs => do
      let k ← awkKey prog host n subs
      awkWithArray name fun a => (a.put k v, ())
    | .field i => do
      let idx ← awkFieldIndex (← awkEval prog host n i)
      awkSetField idx v
    | .group inner => awkAssign prog host n inner v
    | _ => pure ()

/-- The slots of a call's parameters: an argument that is a bare name of an array, or of a
variable never set, is passed by reference; any other is passed by value, and a parameter with
no argument is a local. -/
def awkBindParams (prog : AwkProgram) (host : AwkHost) : Nat → List String → List AwkExpr →
    AwkM (List (String × AwkSlot))
  | 0, _, _ => awkEndless
  | _ + 1, [], _ => return []
  | n + 1, p :: ps, args => do
    let slot ← match args with
      | .var x :: _ =>
        if x = "NF" then pure (AwkSlot.scalar (← awkGetVar x))
        else match ← awkSlotOf x with
          | some (d, .array _) => pure (AwkSlot.ref (.frame d x))
          | some (_, .ref r) => pure (AwkSlot.ref r)
          | some (d, .scalar .uninit) => pure (AwkSlot.ref (.frame d x))
          | some (_, .scalar v) => pure (AwkSlot.scalar v)
          | none => do
            let s ← getThe AwkState
            if s.arrays.contains x then pure (AwkSlot.ref (.global x))
            else match s.globals.get? x with
              | some v => pure (AwkSlot.scalar v)
              | none => pure (AwkSlot.ref (.global x))
      | e :: _ => do pure (AwkSlot.scalar (← awkEval prog host n e))
      | [] => pure (AwkSlot.scalar .uninit)
    return (p, slot) :: (← awkBindParams prog host n ps (args.drop 1))

def awkCall (prog : AwkProgram) (host : AwkHost) : Nat → String → List AwkExpr → AwkM AwkValue
  | 0, _, _ => awkEndless
  | n + 1, name, args => do
    match prog.functions.find? (·.name == name) with
    | none => throw (.fatal ("function " ++ name ++ " never defined"))
    | some f => do
      let slots ← awkBindParams prog host n f.params args
      for a in args.drop f.params.length do
        let _ ← awkEval prog host n a
      modifyThe AwkState fun s => { s with frames := s.frames.push slots }
      let r ← tryCatch (do awkBlock prog host n f.body; pure AwkValue.uninit) fun
        | .ret v => pure v
        | e => do
          modifyThe AwkState fun s => { s with frames := s.frames.pop }
          throw e
      modifyThe AwkState fun s => { s with frames := s.frames.pop }
      return r

def awkBuiltin (prog : AwkProgram) (host : AwkHost) : Nat → String → List AwkExpr → AwkM AwkValue
  | 0, _, _ => awkEndless
  | n + 1, name, args => do
    let arg (i : Nat) : AwkM AwkValue :=
      match (args.drop i).head? with
      | some e => awkEval prog host n e
      | none => pure .uninit
    let num (i : Nat) : AwkM Float := do return (← arg i).toNum
    let text (i : Nat) : AwkM String := do awkToStr (← arg i)
    match name with
    | "length" =>
      match args with
      | [] => do return .num (awkOfNat (← awkToStr (← awkGetField 0)).length)
      | [.var x] =>
        if ← awkIsArray x then do return .num (awkOfNat (← awkWithArray x fun a => (a, a.size)))
        else do return .num (awkOfNat (← text 0).length)
      | _ => do return .num (awkOfNat (← text 0).length)
    | "substr" => do
      let s ← text 0
      let start ← num 1
      let len ← if args.length > 2 then some <$> num 2 else pure none
      return .str (awkSubstr s start len)
    | "index" => do
      let s ← text 0
      let t ← text 1
      return .num (awkOfNat (awkIndex s.toList t.toList))
    | "split" => do
      let s ← text 0
      let target := match (args.drop 1).head? with
        | some (.var x) => x
        | _ => ""
      let sepArg : Option AwkExpr := (args.drop 2).head?
      let sep ← match sepArg with
        | some (.regex r) => do pure (AwkFieldSep.regex (← awkRegex r))
        | some e => do awkFieldSepOf (← awkToStr (← awkEval prog host n e))
        | none => do awkFieldSepOf (← awkVarText "FS" " ")
      let pieces := awkSplitFields sep s
      awkWithArray target fun _ => (AwkArray.ofPieces pieces, ())
      return .num (awkOfNat pieces.length)
    | "sub" | "gsub" => do
      let rx ← awkRegexOf prog host n (args.headD (.str ""))
      let repl ← text 1
      let target := ((args.drop 2).head?).getD (.field (.num 0))
      let s ← awkToStr (← awkEval prog host n target)
      let (count, out) := awkSubstitute rx repl.toList (name = "gsub") s.toList.toArray
      if count > 0 then awkAssign prog host n target (.str out)
      return .num (awkOfNat count)
    | "match" => do
      let s ← text 0
      let rx ← awkRegexOf prog host n (((args.drop 1).head?).getD (.str ""))
      match awkSearch rx s.toList.toArray 0 with
      | some (i, e) => do
        awkSetGlobal "RSTART" (.num (awkOfNat (i + 1)))
        awkSetGlobal "RLENGTH" (.num (awkOfNat (e - i)))
        return .num (awkOfNat (i + 1))
      | none => do
        awkSetGlobal "RSTART" (.num 0)
        awkSetGlobal "RLENGTH" (.num (-1))
        return .num 0
    | "sprintf" => do
      let vals ← awkEvalArgs prog host n args
      let fmt ← awkToStr (vals.headD .uninit)
      let ofmt ← awkConvfmt
      let (out, err) := awkFormat "sprintf" fmt ((vals.drop 1).map awkArgOf) (awkNumberText ofmt)
      match err with
      | some msg => throw (.fatal msg)
      | none => return .str out
    | "sin" => do let v ← arg 0; return awkNumOf v.toNum.sin [v]
    | "cos" => do let v ← arg 0; return awkNumOf v.toNum.cos [v]
    | "atan2" => do
      let v ← arg 0
      let w ← arg 1
      return awkNumOf (Float.atan2 v.toNum w.toNum) [v, w]
    | "exp" => do let v ← arg 0; return awkNumOf v.toNum.exp [v]
    | "log" => do let v ← arg 0; return awkNumOf v.toNum.log [v]
    | "sqrt" => do let v ← arg 0; return awkNumOf v.toNum.sqrt [v]
    | "int" => do
      let v ← arg 0
      let x := v.toNum
      return awkNumOf (if x ≥ 0 then x.floor else x.ceil) [v]
    | "rand" => do
      let s ← getThe AwkState
      let (v, g) := s.randState.next
      modifyThe AwkState fun s => { s with randState := g }
      return .num (Float.ofNat v / 2147483647)
    | "srand" => do
      let prev := (← getThe AwkState).seed
      let seed ← if args.isEmpty then pure (.num 0) else arg 0
      let k := awkToInt seed.toNum
      modifyThe AwkState fun s =>
        { s with seed := seed, randState := AwkRandom.seeded (UInt32.ofInt k) }
      return prev
    | "tolower" => do return .str (awkCase false (← text 0))
    | "toupper" => do return .str (awkCase true (← text 0))
    | "system" => do
      let cmd ← text 0
      awkFlushFiles
      awkFlushOut
      let code ← (host.run cmd [] : Sh Nat)
      return .num (awkOfNat code)
    | "close" => do
      let name ← text 0
      let s ← getThe AwkState
      if (s.outFiles.lookup name).isSome then do
        awkFlushFile name
        modifyThe AwkState fun s =>
          { s with outFiles := s.outFiles.filter (·.1 ≠ name), recent := s.recent.erase (">" ++ name) }
        return .num 0
      else if (s.pipes.lookup name).isSome then do
        return .num (awkOfNat (← awkClosePipe host name))
      else if (s.files.lookup name).isSome then do
        modifyThe AwkState fun s => { s with files := s.files.filter (·.1 ≠ name) }
        return .num 0
      else if (s.commands.lookup name).isSome then do
        modifyThe AwkState fun s => { s with commands := s.commands.filter (·.1 ≠ name) }
        return .num 0
      else return .num (-1)
    | "fflush" => do
      awkFlushFiles
      awkFlushOut
      return .num 0
    | _ => return .uninit

def awkEvalArgs (prog : AwkProgram) (host : AwkHost) : Nat → List AwkExpr → AwkM (List AwkValue)
  | 0, _ => awkEndless
  | _ + 1, [] => return []
  | n + 1, e :: rest => do
    let v ← awkEval prog host n e
    return v :: (← awkEvalArgs prog host n rest)

def awkExec (prog : AwkProgram) (host : AwkHost) : Nat → AwkStmt → AwkM Unit
  | 0, _ => awkEndless
  | n + 1, st =>
    match st with
    | .expr e => do let _ ← awkEval prog host n e
    | .print args out => do
      let texts ← if args.isEmpty then do pure [← awkToStr (← awkGetField 0)]
        else awkOutputTexts prog host n args
      let ofs ← awkVarText "OFS" " "
      let ors ← awkVarText "ORS" "\n"
      awkWriteOut prog host n out (ofs.intercalate texts ++ ors)
    | .printf args out => do
      let vals ← awkEvalArgs prog host n args
      let fmt ← awkToStr (vals.headD .uninit)
      let ofmt ← awkConvfmt
      let (text, err) := awkFormat "printf" fmt ((vals.drop 1).map awkArgOf) (awkNumberText ofmt)
      awkWriteOut prog host n out text
      match err with
      | some msg => throw (.fatal msg)
      | none => pure ()
    | .ifElse c yes no => do
      if (← awkEval prog host n c).toBool then awkExec prog host n yes
      else match no with
        | some s => awkExec prog host n s
        | none => pure ()
    | .whileLoop c body => awkWhile prog host n c body
    | .doWhile body c => do
      let again ← awkTurn prog host n body
      if again then awkWhile prog host n c body
    | .forLoop init test step body => do
      match init with
      | some e => do let _ ← awkEval prog host n e
      | none => pure ()
      awkFor prog host n test step body
    | .forIn var arr body => do
      let keys ← awkWithArray arr (·.keys)
      awkForIn prog host n var body keys
    | .block body => awkBlock prog host n body
    | .next => throw .next
    | .nextFile => throw .nextFile
    | .exit code => do
      match code with
      | some e => do
        let v ← awkEval prog host n e
        modifyThe AwkState fun s => { s with exitCode := ((awkToInt v.toNum) % 256).toNat }
      | none => pure ()
      throw .exit
    | .ret value => do
      let v ← match value with
        | some e => awkEval prog host n e
        | none => pure .uninit
      throw (.ret v)
    | .brk => throw .brk
    | .cont => throw .cont
    | .delete name subs => do
      match subs with
      | none => awkWithArray name fun _ => (AwkArray.clear, ())
      | some ss => do
        let k ← awkKey prog host n ss
        awkWithArray name fun a => (a.remove k, ())

def awkOutputTexts (prog : AwkProgram) (host : AwkHost) : Nat → List AwkExpr → AwkM (List String)
  | 0, _ => awkEndless
  | _ + 1, [] => return []
  | n + 1, e :: rest => do
    let s ← awkOutputText (← awkEval prog host n e)
    return s :: (← awkOutputTexts prog host n rest)

def awkWriteOut (prog : AwkProgram) (host : AwkHost) : Nat → Option AwkOutput → String → AwkM Unit
  | 0, _, _ => awkEndless
  | n + 1, out, text =>
    match out with
    | none => awkEmit 1 text
    | some (.file e) => do awkWriteFile (← awkToStr (← awkEval prog host n e)) false text
    | some (.append e) => do awkWriteFile (← awkToStr (← awkEval prog host n e)) true text
    | some (.pipe e) => do awkWritePipe (← awkToStr (← awkEval prog host n e)) text

def awkTurn (prog : AwkProgram) (host : AwkHost) : Nat → AwkStmt → AwkM Bool
  | 0, _ => awkEndless
  | n + 1, body =>
    tryCatch (do awkExec prog host n body; pure true) fun
      | .brk => pure false
      | .cont => pure true
      | e => throw e

def awkWhile (prog : AwkProgram) (host : AwkHost) : Nat → AwkExpr → AwkStmt → AwkM Unit
  | 0, _, _ => awkEndless
  | n + 1, c, body => do
    if (← awkEval prog host n c).toBool then
      if ← awkTurn prog host n body then awkWhile prog host n c body

def awkFor (prog : AwkProgram) (host : AwkHost) :
    Nat → Option AwkExpr → Option AwkExpr → AwkStmt → AwkM Unit
  | 0, _, _, _ => awkEndless
  | n + 1, test, step, body => do
    let go ← match test with
      | some t => do pure (← awkEval prog host n t).toBool
      | none => pure true
    if go then
      if ← awkTurn prog host n body then
        match step with
        | some s => do let _ ← awkEval prog host n s
        | none => pure ()
        awkFor prog host n test step body

def awkForIn (prog : AwkProgram) (host : AwkHost) : Nat → String → AwkStmt → List String → AwkM Unit
  | 0, _, _, _ => awkEndless
  | _ + 1, _, _, [] => pure ()
  | n + 1, var, body, k :: rest => do
    awkSetVar var (.str k)
    if ← awkTurn prog host n body then awkForIn prog host n var body rest

def awkBlock (prog : AwkProgram) (host : AwkHost) : Nat → List AwkStmt → AwkM Unit
  | 0, _ => awkEndless
  | _ + 1, [] => pure ()
  | n + 1, s :: rest => do
    awkExec prog host n s
    awkBlock prog host n rest

end

end SqlMigration.Shell
