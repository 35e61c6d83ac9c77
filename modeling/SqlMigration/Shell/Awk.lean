import SqlMigration.Shell.Awk.Exec

/-!
# awk

`awk` runs a program over its input.
-/

namespace SqlMigration.Shell

def awkUsage : String :=
  String.join [
    "Usage: mawk [Options] [Program] [file ...]\n\n",
    "Program:\n",
    "    The -f option value is the name of a file containing program text.\n",
    "    If no -f option is given, a \"--\" ends option processing; the following\n",
    "    parameters are the program text.\n\n",
    "Options:\n",
    "    -f program-file  Program  text is read from file instead of from the\n",
    "                     command-line.  Multiple -f options are accepted.\n",
    "    -F value         sets the field separator, FS, to value.\n",
    "    -v var=value     assigns value to program variable var.\n",
    "    --               unambiguous end of options.\n\n",
    "    Implementation-specific options are prefixed with \"-W\".  They can be\n",
    "    abbreviated:\n\n",
    "    -W version       show version information and exit.\n",
    "    -W dump          show assembler-like listing of program and exit.\n",
    "    -W help          show this message and exit.\n",
    "    -W interactive   set unbuffered output, line-buffered input.\n",
    "    -W exec file     use file as program as well as last option.\n",
    "    -W random=number set initial random seed.\n",
    "    -W sprintf=number adjust size of sprintf buffer.\n",
    "    -W posix_space   do not consider \"\\n\" a space.\n",
    "    -W usage         show this message and exit.\n"]

def awkVersion : String :=
  String.join [
    "mawk 1.3.4 20200120\n",
    "Copyright 2008-2019,2020, Thomas E. Dickey\n",
    "Copyright 1991-1996,2014, Michael D. Brennan\n\n",
    "random-funcs:       srandom/random\n",
    "regex-funcs:        internal\n",
    "compiled limits:\n",
    "sprintf buffer      8192\n",
    "maximum-integer     2147483647\n"]

/-- What the options of `awk` ask for. -/
structure AwkOptions where
  programFiles : List String := []
  fs : Option String := none
  assigns : List (String × String) := []
  /-- `-W version` or `-W usage` (`some true` for the version). -/
  info : Option Bool := none

/-- Reads the options of `awk`: the options, and the operands after them; or the message of a
wrong option. -/
def readAwkOptions : Nat → List String → AwkOptions → Except String (AwkOptions × List String)
  | 0, args, o => .ok (o, args)
  | _ + 1, [], o => .ok (o, [])
  | k + 1, a :: rest, o =>
    if a = "--" then .ok (o, rest)
    else if a.length < 2 ∨ ¬ a.startsWith "-" then .ok (o, a :: rest)
    else
      let letter := a.toList.getD 1 ' '
      let inline := String.ofList (a.toList.drop 2)
      let valued : Except String (String × List String) :=
        if ¬ inline.isEmpty then .ok (inline, rest)
        else match rest with
          | v :: more => .ok (v, more)
          | [] => .error ("option -" ++ String.singleton letter ++ " lacks argument")
      match letter with
      | 'f' => valued.bind fun (v, more) => readAwkOptions k more { o with programFiles := o.programFiles ++ [v] }
      | 'F' => valued.bind fun (v, more) => readAwkOptions k more { o with fs := some v }
      | 'v' => valued.bind fun (v, more) =>
        match awkAssignment? v with
        | some p => readAwkOptions k more { o with assigns := o.assigns ++ [p] }
        | none => .error ("improper assignment: -v " ++ v)
      | 'W' => valued.bind fun (v, more) =>
        if v.startsWith "v" then .ok ({ o with info := some true }, more)
        else if v.startsWith "u" ∨ v.startsWith "h" then .ok ({ o with info := some false }, more)
        else readAwkOptions k more o
      | _ => .error ("not an option: " ++ a)

def awkStartGlobals (fs : String) : List (String × AwkValue) :=
  [("FS", .str fs), ("OFS", .str " "), ("ORS", .str "\n"), ("RS", .str "\n"), ("NR", .num 0),
   ("FNR", .num 0), ("SUBSEP", .str "\x1c"), ("CONVFMT", .str "%.6g"), ("OFMT", .str "%.6g"),
   ("FILENAME", .str ""), ("RSTART", .num 0), ("RLENGTH", .num (-1))]

def awkMainLoop (prog : AwkProgram) (host : AwkHost) (rules : List (Nat × AwkRule)) :
    Nat → AwkM Unit
  | 0 => pure ()
  | k + 1 => do
    match ← awkReadMain awkLoopLimit with
    | none => pure ()
    | some rec => do
      awkCountRecord
      awkSetRecord (AwkValue.ofInput rec)
      tryCatch (awkRules rules) fun
        | .next => pure ()
        | .nextFile => modifyThe AwkState fun s => { s with current := none }
        | e => throw e
      awkMainLoop prog host rules k
where
  /-- Runs each rule whose pattern holds on the record. -/
  awkRules : List (Nat × AwkRule) → AwkM Unit
    | [] => pure ()
    | (i, r) :: more => do
      let holds ← match r.pattern with
        | .test e => do pure (← awkEval prog host awkLoopLimit e).toBool
        | .range a b => do
          let active := (← getThe AwkState).ranges.getD i false
          let start ← if active then pure true else do pure (← awkEval prog host awkLoopLimit a).toBool
          if start then do
            let stop := (← awkEval prog host awkLoopLimit b).toBool
            modifyThe AwkState fun s => { s with ranges := s.ranges.set! i (¬ stop) }
            pure true
          else pure false
        | _ => pure true
      if holds then
        match r.action with
        | some body => awkBlock prog host awkLoopLimit body
        | none => do
          let text ← awkToStr (← awkGetField 0)
          awkEmit 1 (text ++ (← awkVarText "ORS" "\n"))
      awkRules more

/-- Runs a program: its `BEGIN` rules, its other rules over the input, and its `END` rules;
`exit` leaves the rules it stops for the `END` rules. -/
def awkRunProgram (prog : AwkProgram) (host : AwkHost) : AwkM Unit := do
  let begins := prog.rules.filter fun r => match r.pattern with | .begin => true | _ => false
  let ends := prog.rules.filter fun r => match r.pattern with | .finish => true | _ => false
  let mains := (prog.rules.filter fun r => match r.pattern with
    | .begin | .finish => false
    | _ => true).zipIdx.map fun (r, i) => (i, r)
  modifyThe AwkState fun s => { s with ranges := Array.replicate mains.length false }
  let exited ← tryCatch (do
      for r in begins do awkBlock prog host awkLoopLimit (r.action.getD [])
      pure false) fun
    | .exit => pure true
    | e => throw e
  if ¬ exited ∧ (¬ mains.isEmpty ∨ ¬ ends.isEmpty) then
    tryCatch (awkMainLoop prog host mains awkLoopLimit) fun
      | .exit => pure ()
      | e => throw e
  tryCatch (for r in ends do awkBlock prog host awkLoopLimit (r.action.getD [])) fun
    | .exit => pure ()
    | e => throw e

/-- Closes the outputs, the one used last first: adds the output kept for a file to it, runs a
command written to, and passes on the standard output, which is last unless it was named. -/
def awkFinish (host : AwkHost) : AwkM Unit := do
  for key in (← getThe AwkState).recent do
    match key.toList with
    | '|' :: cmd => let _ ← awkClosePipe host (String.ofList cmd)
    | _ :: name =>
      let name := String.ofList name
      if name = "/dev/stdout" ∨ name = "-" then awkFlushOut else awkFlushFile name
    | [] => pure ()
  awkFlushFiles
  for (cmd, _) in (← getThe AwkState).pipes do
    let _ ← awkClosePipe host cmd
  awkFlushOut

/-- `awk`: reads its options and its program, and runs it. -/
def awkUtility (progName : String) (env : List (String × String)) (host : AwkHost)
    (args : List String) : Sh Unit := do
  match readAwkOptions (args.length + 1) args {} with
  | .error msg =>
    say 2 (progName ++ ": " ++ msg ++ "\n")
    setStatus 2
  | .ok (opts, operands) =>
    match opts.info with
    | some true =>
      say 1 awkVersion
      setStatus 0
    | some false =>
      say 2 awkUsage
      setStatus 0
    | none =>
    let (text, operands) ← if opts.programFiles.isEmpty then
        match operands with
        | p :: more => pure (some (awkOfBytes (Text.Utf8.encode p)), more)
        | [] => pure (none, [])
      else do
        let mut parts : List String := []
        for f in opts.programFiles do
          match ← readOperand f with
          | .ok bs => parts := parts ++ [awkOfBytes bs]
          | .error e =>
            say 2 (progName ++ ": cannot open " ++ f ++ " (" ++ readError e ++ ")\n")
            setStatus 2
            return
        pure (some ("\n".intercalate parts), operands)
    match text with
    | none =>
      say 2 awkUsage
      setStatus 0
    | some text =>
    match parseAwk text with
    | .error msgs =>
      for m in msgs do say 2 (progName ++ ": " ++ m ++ "\n")
      setStatus 2
    | .ok prog =>
      let fs := opts.fs.map fun v => (awkAssignedValue (awkOfBytes (Text.Utf8.encode v))).toStr "%.6g"
      let globals := awkStartGlobals (fs.getD " ")
      let argv := (progName :: operands).zipIdx.foldl (fun a (v, i) =>
        a.put (.int i) (if i = 0 then .str v else AwkValue.ofInput (awkOfBytes (Text.Utf8.encode v)))) ({} : AwkArray)
      let environ := env.foldl (fun a (k, v) =>
        a.put (.str (awkOfBytes (Text.Utf8.encode k))) (AwkValue.ofInput (awkOfBytes (Text.Utf8.encode v)))) ({} : AwkArray)
      let start : AwkState :=
        { globals := (globals ++ [("ARGC", AwkValue.num (awkOfNat (operands.length + 1)))]).foldl
            (fun m (k, v) => m.insert k v) ({} : Std.HashMap String AwkValue),
          arrays := (({} : Std.HashMap String AwkArray).insert "ARGV" argv).insert "ENVIRON" environ }
      let run : AwkM Unit := do
        for (k, v) in opts.assigns do awkSetVar k (awkAssignedValue (awkOfBytes (Text.Utf8.encode v)))
        let r ← tryCatch (do awkRunProgram prog host; pure none) fun e => pure (some e)
        match r with
        | some (.fatal msg) =>
          let st ← getThe AwkState
          let name := ((st.globals.get? "FILENAME").map (·.toStr "%.6g")).getD ""
          let count := fun (k : String) => ((st.globals.get? k).map (·.toStr "%.6g")).getD "0"
          awkEmit 2 (progName ++ ": run time error: " ++ msg ++ "\n\tFILENAME=\"" ++ name ++
            "\" FNR=" ++ count "FNR" ++ " NR=" ++ count "NR" ++ "\n")
        | some (.failure msg) => awkEmit 2 (progName ++ ": " ++ msg ++ "\n")
        | _ => pure ()
        awkFinish host
        match r with
        | some e => throw e
        | none => pure ()
      let (r, st) ← (run.run).run start
      match r with
      | .ok () => setStatus st.exitCode
      | .error .endless =>
        let writing := st.writtenAtHalf.any (· < st.written)
        match ← channelOf 1 with
        | some (.capture _) => if writing then emitUnending [] else throw .timeout
        | _ => throw .timeout
      | .error (.fatal _) | .error (.failure _) => setStatus 2
      | .error _ => setStatus st.exitCode

end SqlMigration.Shell
