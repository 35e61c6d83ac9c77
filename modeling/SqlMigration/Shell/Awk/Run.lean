import SqlMigration.Shell.Awk.Parse
import SqlMigration.Shell.Awk.Table
import SqlMigration.Shell.Awk.Pattern
import SqlMigration.Shell.Utility
import Std.Data.HashMap

/-!
# Running awk programs

A program runs its `BEGIN` rules, then, when it has other rules, reads the records of its input
and runs each rule whose pattern holds on each record, and last its `END` rules.
-/

namespace SqlMigration.Shell

/-- How commands of a program run: `run` gives a command its input and lets it write to the
standard output, answering its status; `capture` answers its output and its status. -/
structure AwkHost where
  run : String → Bytes → Sh Nat
  capture : String → Sh (Bytes × Nat)

/-- Where an array passed to a function lives: a global, or a local of a call. -/
inductive AwkRef where
  | global (name : String)
  | frame (depth : Nat) (name : String)
  deriving Inhabited

/-- A local of a function call: a scalar, an array of its own, or an array of a caller. -/
inductive AwkSlot where
  | scalar (v : AwkValue)
  | array (a : AwkArray)
  | ref (r : AwkRef)
  deriving Inhabited

/-- An input read from a place. -/
structure AwkStream where
  data : Array Char
  pos : Nat := 0
  deriving Inhabited

/-- The generator of `rand`: an additive feedback generator of 31 words, read at two places
three words apart, each number the sum of the words there with its lowest bit dropped. -/
structure AwkRandom where
  words : Array UInt32
  front : Nat := 3
  rear : Nat := 0
  deriving Inhabited

namespace AwkRandom

def next (g : AwkRandom) : Nat × AwkRandom :=
  let v := g.words.getD g.front 0 + g.words.getD g.rear 0
  let words := g.words.set! g.front v
  let (front, rear) :=
    if g.front + 1 ≥ 31 then (0, g.rear + 1)
    else (g.front + 1, if g.rear + 1 ≥ 31 then 0 else g.rear + 1)
  ((v >>> 1).toNat, { words, front, rear })

def skip : Nat → AwkRandom → AwkRandom
  | 0, g => g
  | k + 1, g => skip k (g.next.2)

/-- The generator seeded with a number (zero counts as one): the first word is the seed, each
next one the one before (read as signed) times 16807 modulo 2^31 - 1, computed with quotients
cut toward zero, and the first 310 numbers are dropped. -/
def seeded (seed : UInt32) : AwkRandom :=
  let first : UInt32 := if seed = 0 then 1 else seed
  let start : Int := if first.toNat ≥ 2147483648 then (first.toNat : Int) - 4294967296 else first.toNat
  let (_, words) := (List.range 30).foldl (fun (w, acc) _ =>
    let v : Int := 16807 * w.tmod 127773 - 2836 * w.tdiv 127773
    let v := if v < 0 then v + 2147483647 else v
    (v, acc.push (UInt32.ofInt v))) (start, #[first])
  skip 310 { words }

end AwkRandom

/-- What a running program keeps. -/
structure AwkState where
  globals : Std.HashMap String AwkValue := {}
  arrays : Std.HashMap String AwkArray := {}
  /-- The locals of the calls running, the innermost last. -/
  frames : Array (List (String × AwkSlot)) := #[]
  record : AwkValue := .str ""
  fields : Array AwkValue := #[]
  /-- The next operand of the input to look at. -/
  argIndex : Nat := 1
  current : Option AwkStream := none
  openedAny : Bool := false
  inputDone : Bool := false
  /-- Whether the main input being read is the start of an input that never ends. -/
  endlessMain : Bool := false
  /-- The bytes written to the standard output. -/
  written : Nat := 0
  /-- The bytes written to the standard output when half of the start of an input that never
  ends was read: more written after shows that the program writes without end. -/
  writtenAtHalf : Option Nat := none
  files : List (String × AwkStream) := []
  commands : List (String × AwkStream) := []
  /-- The files written, each with what is not yet added to it (latest first). -/
  outFiles : List (String × List Bytes) := []
  /-- The commands written to, each with its input so far (latest first). -/
  pipes : List (String × List Bytes) := []
  ranges : Array Bool := #[]
  regexes : Std.HashMap String Regex := {}
  /-- The value the generator of `rand` was last seeded with, as it was given. -/
  seed : AwkValue := .num 0
  randState : AwkRandom := AwkRandom.seeded 0
  exitCode : Nat := 0
  /-- What was written to the standard output and is not yet passed on. -/
  outBuffer : Array UInt8 := #[]
  /-- Whether the buffer of the standard output was made, by the first write to it. -/
  outStarted : Bool := false
  /-- The files (`>name`) and commands (`|command`) written to, the one used last first. -/
  recent : List String := []
  deriving Inhabited

/-- How running a part of a program stops early. -/
inductive AwkStop where
  | next
  | nextFile
  | exit
  | ret (v : AwkValue)
  | brk
  | cont
  /-- A mistake at run time, with its message. -/
  | fatal (msg : String)
  /-- A mistake whose message stands alone. -/
  | failure (msg : String)
  /-- The main input never ends, and the program did not stop reading it. -/
  | endless
  deriving Inhabited

abbrev AwkM := ExceptT AwkStop (StateT AwkState Sh)

def awkLoopLimit : Nat := 50000000

/-! ## Variables and fields -/

def awkGlobal (name : String) : AwkM AwkValue := do
  return ((← getThe AwkState).globals.get? name).getD .uninit

def awkSetGlobal (name : String) (v : AwkValue) : AwkM Unit :=
  modifyThe AwkState fun s => { s with globals := s.globals.insert name v }

def awkVarText (name dflt : String) : AwkM String := do
  match (← getThe AwkState).globals.get? name with
  | some v => return v.toStr "%.6g"
  | none => return dflt

def awkConvfmt : AwkM String := awkVarText "CONVFMT" "%.6g"

def awkToStr (v : AwkValue) : AwkM String := return v.toStr (← awkConvfmt)

def awkOutputText (v : AwkValue) : AwkM String := do
  match v with
  | .num x => return awkNumberText (← awkVarText "OFMT" "%.6g") x true
  | .nan neg => return awkNumberText (← awkVarText "OFMT" "%.6g") awkNaN neg
  | _ => awkToStr v

def awkNum (x : Float) : AwkValue := .num x

def awkBool (b : Bool) : AwkValue := .num (if b then 1 else 0)

def awkOfNat (n : Nat) : Float := Float.ofNat n

def awkOfInt (i : Int) : Float := if i < 0 then -(Float.ofNat i.natAbs) else Float.ofNat i.toNat

def awkRegex (src : String) : AwkM Regex := do
  match (← getThe AwkState).regexes.get? src with
  | some rx => return rx
  | none =>
    match awkCompileRegex src with
    | .ok rx => do
      modifyThe AwkState fun s => { s with regexes := s.regexes.insert src rx }
      return rx
    | .error msg => throw (.fatal (msg ++ "\n" ++ src))

def awkFieldSepOf (fs : String) : AwkM AwkFieldSep := do
  if fs = " " then return .blanks
  else if fs.isEmpty then return .each
  else match fs.toList with
    | [c] => if c = '\\' then return .regex (← awkRegex fs) else return .char c
    | _ => return .regex (← awkRegex fs)

def awkRecordSep : AwkM AwkRecordSep := do
  let rs ← awkVarText "RS" "\n"
  match rs.toList with
  | [] => return .paragraph
  | [c] => return .char c
  | _ => return .regex (← awkRegex rs)

def awkSetRecord (v : AwkValue) : AwkM Unit := do
  let text ← awkToStr v
  let sep ← awkFieldSepOf (← awkVarText "FS" " ")
  let pieces := awkSplitFields sep text
  modifyThe AwkState fun s => { s with record := v, fields := (pieces.map AwkValue.ofInput).toArray }

def awkRebuild : AwkM Unit := do
  let ofs ← awkVarText "OFS" " "
  let fmt ← awkConvfmt
  let s ← getThe AwkState
  let text := ofs.intercalate (s.fields.toList.map (·.toStr fmt))
  modifyThe AwkState fun s => { s with record := .str text }

def awkFieldIndex (v : AwkValue) : AwkM Nat := do
  let i := awkToInt v.toNum
  if i < 0 then throw (.fatal ("negative field index $" ++ toString i))
  return i.toNat

def awkGetField (i : Nat) : AwkM AwkValue := do
  let s ← getThe AwkState
  if i = 0 then return s.record
  return s.fields.getD (i - 1) (.str "")

def awkSetNF (v : AwkValue) : AwkM Unit := do
  let n := (awkToInt v.toNum).toNat
  modifyThe AwkState fun s =>
    { s with fields := if n ≤ s.fields.size then s.fields.extract 0 n
                       else s.fields ++ Array.replicate (n - s.fields.size) (.str "") }
  awkRebuild

def awkSetField (i : Nat) (v : AwkValue) : AwkM Unit := do
  if i = 0 then awkSetRecord v
  else
    modifyThe AwkState fun s =>
      let fs := if i ≤ s.fields.size then s.fields
        else s.fields ++ Array.replicate (i - s.fields.size) (.str "")
      { s with fields := fs.set! (i - 1) v }
    awkRebuild

def awkSlotOf (name : String) : AwkM (Option (Nat × AwkSlot)) := do
  let s ← getThe AwkState
  match s.frames.back? with
  | some frame => return (frame.lookup name).map fun sl => (s.frames.size - 1, sl)
  | none => return none

def awkSetSlot (depth : Nat) (name : String) (sl : AwkSlot) : AwkM Unit :=
  modifyThe AwkState fun s =>
    { s with frames := s.frames.modify depth fun fr =>
        fr.map fun (k, old) => if k = name then (k, sl) else (k, old) }

def awkGetVar (name : String) : AwkM AwkValue := do
  if name = "NF" then return .num (awkOfNat (← getThe AwkState).fields.size)
  match ← awkSlotOf name with
  | some (_, .scalar v) => return v
  | some _ => return .uninit
  | none => awkGlobal name

def awkSetVar (name : String) (v : AwkValue) : AwkM Unit := do
  if name = "NF" then awkSetNF v
  else match ← awkSlotOf name with
    | some (d, _) => awkSetSlot d name (.scalar v)
    | none => awkSetGlobal name v

def awkResolve (frames : Array (List (String × AwkSlot))) : Nat → AwkRef → AwkRef
  | 0, r => r
  | _ + 1, .global n => .global n
  | k + 1, .frame d n =>
    match (frames.getD d []).lookup n with
    | some (.ref r) => awkResolve frames k r
    | _ => .frame d n

def awkArrayRef (name : String) : AwkM AwkRef := do
  match ← awkSlotOf name with
  | some (_, .ref r) =>
    let s ← getThe AwkState
    return awkResolve s.frames (s.frames.size + 1) r
  | some (d, _) => return .frame d name
  | none => return .global name

def awkWithArray {α : Type} (name : String) (f : AwkArray → AwkArray × α) : AwkM α := do
  match ← awkArrayRef name with
  | .global n =>
    let s ← getThe AwkState
    let (a, r) := f ((s.arrays.get? n).getD {})
    modifyThe AwkState fun s => { s with arrays := s.arrays.insert n a }
    return r
  | .frame d n =>
    let s ← getThe AwkState
    let current := match (s.frames.getD d []).lookup n with
      | some (.array a) => a
      | _ => {}
    let (a, r) := f current
    awkSetSlot d n (.array a)
    return r

def awkIsArray (name : String) : AwkM Bool := do
  match ← awkArrayRef name with
  | .global n => return (← getThe AwkState).arrays.contains n
  | .frame d n =>
    match ((← getThe AwkState).frames.getD d []).lookup n with
    | some (.array _) => return true
    | _ => return false

/-! ## Output -/

def awkBufferSize : Nat := 4096

def awkFlushOut : AwkM Unit := do
  let s ← getThe AwkState
  if ¬ s.outBuffer.isEmpty then
    modifyThe AwkState fun s => { s with outBuffer := #[] }
    let _ ← (emit 1 s.outBuffer.toList : Sh Unit)

/-- Writes bytes to the standard output through its buffer: what fits is kept; otherwise the
buffer is filled and passed on, whole blocks of the rest are passed on at once, and what is
left is kept. -/
def awkPutOut (bs : Bytes) : AwkM Unit := do
  if bs.isEmpty then return
  modifyThe AwkState fun s => { s with written := s.written + bs.length }
  let s ← getThe AwkState
  let room := if s.outStarted then awkBufferSize - s.outBuffer.size else 0
  if bs.length ≤ room then
    modifyThe AwkState fun s => { s with outBuffer := s.outBuffer ++ bs.toArray }
  else
    let rest := bs.drop room
    let direct := rest.length - rest.length % awkBufferSize
    modifyThe AwkState fun s => { s with outBuffer := (rest.drop direct).toArray, outStarted := true }
    let _ ← (emit 1 (s.outBuffer.toList ++ bs.take room ++ rest.take direct) : Sh Unit)

def awkEmit (fd : Nat) (text : String) : AwkM Unit := do
  if fd = 1 then awkPutOut (awkBytes text)
  else let _ ← (emit fd (awkBytes text) : Sh Unit)

def awkTouch (key : String) : AwkM Unit :=
  modifyThe AwkState fun s => { s with recent := key :: s.recent.erase key }

def awkFlushFile (name : String) : AwkM Unit := do
  let s ← getThe AwkState
  match s.outFiles.lookup name with
  | some chunks =>
    if ¬ chunks.isEmpty then
      let old ← match ← (readOperand name : Sh _) with
        | .ok bs => pure bs
        | .error _ => pure []
      let _ ← (writeTreeFile name (old ++ (chunks.reverse.flatMap id)) : Sh _)
      modifyThe AwkState fun s => { s with outFiles := s.outFiles.map fun (k, c) => if k = name then (k, []) else (k, c) }
  | none => pure ()

def awkFlushFiles : AwkM Unit := do
  for (name, _) in (← getThe AwkState).outFiles do awkFlushFile name

def awkWriteFile (name : String) (append : Bool) (text : String) : AwkM Unit := do
  if name = "/dev/stdout" ∨ name = "-" then
    awkTouch (">" ++ name)
    awkEmit 1 text
  else if name = "/dev/stderr" then awkEmit 2 text
  else if name = "/dev/null" then pure ()
  else
    let s ← getThe AwkState
    if (s.outFiles.lookup name).isNone then
      let failed ← if append then do
          match ← (readOperand name : Sh _) with
          | .ok _ => pure none
          | .error _ => (writeTreeFile name [] : Sh _)
        else (writeTreeFile name [] : Sh _)
      if let some e := failed then
        throw (.failure ("cannot open \"" ++ name ++ "\" for output (" ++ readError e ++ ")"))
      modifyThe AwkState fun s => { s with outFiles := s.outFiles ++ [(name, [])] }
    awkTouch (">" ++ name)
    modifyThe AwkState fun s =>
      { s with outFiles := s.outFiles.map fun (k, c) => if k = name then (k, awkBytes text :: c) else (k, c) }

def awkWritePipe (cmd : String) (text : String) : AwkM Unit := do
  let s ← getThe AwkState
  if (s.pipes.lookup cmd).isNone then
    awkFlushOut
    modifyThe AwkState fun s => { s with pipes := s.pipes ++ [(cmd, [])] }
  awkTouch ("|" ++ cmd)
  modifyThe AwkState fun s =>
    { s with pipes := s.pipes.map fun (k, c) => if k = cmd then (k, awkBytes text :: c) else (k, c) }

def awkClosePipe (host : AwkHost) (cmd : String) : AwkM Nat := do
  match (← getThe AwkState).pipes.lookup cmd with
  | some chunks =>
    modifyThe AwkState fun s => { s with pipes := s.pipes.filter (·.1 ≠ cmd), recent := s.recent.erase ("|" ++ cmd) }
    awkFlushFiles
    (host.run cmd (chunks.reverse.flatMap id) : Sh Nat)
  | none => return 0

/-! ## Input -/

def awkAssignment? (arg : String) : Option (String × String) :=
  match arg.splitOn "=" with
  | name :: rest =>
    if ¬ rest.isEmpty ∧ (name.toList.head?.map awkNameStart).getD false ∧ name.toList.all awkNameChar then
      some (name, "=".intercalate rest)
    else none
  | [] => none

/-- The value of an assignment on the command line: escapes replaced, a number when it looks
like one. -/
def awkAssignedValue (text : String) : AwkValue :=
  AwkValue.ofInput (String.ofList (unescape (text.length + 1) text.toList))
where
  unescape : Nat → List Char → List Char
    | 0, cs => cs
    | _ + 1, [] => []
    | k + 1, '\\' :: rest =>
      match rest with
      | '"' :: more => '"' :: unescape k more
      | '\\' :: more => '\\' :: unescape k more
      | '/' :: more => '/' :: unescape k more
      | _ =>
        match awkEscape rest with
        | (some e, more) => e :: unescape k more
        | (none, more) => '\\' :: unescape k more
    | k + 1, c :: rest => c :: unescape k rest

def awkStreamRecord (st : AwkStream) : AwkM (Option (String × AwkStream)) := do
  let sep ← awkRecordSep
  match awkNextRecord sep st.data st.pos with
  | some (rec, pos) => return some (rec, { st with pos := pos })
  | none => return none

def awkStreamOf (bs : Bytes) : AwkStream := { data := (bs.map fun b => Char.ofNat b.toNat).toArray }

def awkEndlessRecords : Nat := 20000

def awkStdin : AwkM Bytes := do
  let (chunk, endless) ← (peekRest 0 : Sh _)
  if endless then
    match endlessPrefix chunk (16 * awkEndlessRecords) awkEndlessRecords with
    | some bs =>
      modifyThe AwkState fun s => { s with endlessMain := true }
      return bs
    | none => (throw .timeout : Sh _)
  else (readRest 0 : Sh Bytes)

/-- The next record of the main input: from the file being read, or from the next operand
that names one (setting the variables the operands before it set), or from the standard input
when no operand named a file. -/
def awkReadMain : Nat → AwkM (Option String)
  | 0 => return none
  | k + 1 => do
    let s ← getThe AwkState
    match s.current with
    | some st =>
      match ← awkStreamRecord st with
      | some (rec, st') => do
        modifyThe AwkState fun s => { s with current := some st' }
        if s.endlessMain ∧ s.writtenAtHalf.isNone ∧ 2 * st'.pos ≥ st'.data.size then
          modifyThe AwkState fun s => { s with writtenAtHalf := some s.written }
        return some rec
      | none => do
        if s.endlessMain then throw .endless
        modifyThe AwkState fun s => { s with current := none }
        awkReadMain k
    | none =>
      if s.inputDone then return none
      let argc := awkToInt (← awkGlobal "ARGC").toNum
      if (s.argIndex : Int) < argc then do
        let i := s.argIndex
        modifyThe AwkState fun s => { s with argIndex := s.argIndex + 1 }
        let present ← awkWithArray "ARGV" (·.has (.int i))
        let arg ← if present then do awkToStr (← awkWithArray "ARGV" (·.get (.int i))) else pure ""
        if arg.isEmpty then awkReadMain k
        else match awkAssignment? arg with
          | some (name, value) => do
            awkSetVar name (awkAssignedValue value)
            awkReadMain k
          | none => do
            let read ← if arg = "-" ∨ arg = "/dev/stdin" then do pure (.ok (← awkStdin))
              else (readOperand arg : Sh _)
            match read with
            | .ok bs => do
              modifyThe AwkState fun s => { s with current := some (awkStreamOf bs), openedAny := true }
              awkSetGlobal "FILENAME" (.str arg)
              awkSetGlobal "FNR" (.num 0)
              awkReadMain k
            | .error e =>
              throw (.failure ("cannot open " ++ arg ++ " (" ++ readError e ++ ")"))
      else if ¬ s.openedAny then do
        let bs ← awkStdin
        modifyThe AwkState fun s => { s with current := some (awkStreamOf bs), openedAny := true }
        awkSetGlobal "FILENAME" (.str "-")
        awkSetGlobal "FNR" (.num 0)
        awkReadMain k
      else do
        modifyThe AwkState fun s => { s with inputDone := true }
        return none

def awkCountRecord : AwkM Unit := do
  awkSetGlobal "NR" (.num ((← awkGlobal "NR").toNum + 1))
  awkSetGlobal "FNR" (.num ((← awkGlobal "FNR").toNum + 1))

/-- The next record of a file read by `getline <`: none at its end or when it cannot be read
(`-1` then). -/
def awkReadFile (name : String) : AwkM (Option (Option String)) := do
  let s ← getThe AwkState
  let st ← match s.files.lookup name with
    | some st => pure (some st)
    | none => do
      match ← (readOperand name : Sh _) with
      | .ok bs => do
        let st := awkStreamOf bs
        modifyThe AwkState fun s => { s with files := s.files ++ [(name, st)] }
        pure (some st)
      | .error _ => pure none
  match st with
  | none => return none
  | some st =>
    match ← awkStreamRecord st with
    | some (rec, st') => do
      modifyThe AwkState fun s => { s with files := s.files.map fun (k, x) => if k = name then (k, st') else (k, x) }
      return some (some rec)
    | none => return some none

def awkReadCommand (host : AwkHost) (cmd : String) : AwkM (Option String) := do
  let s ← getThe AwkState
  let st ← match s.commands.lookup cmd with
    | some st => pure st
    | none => do
      awkFlushFiles
      awkFlushOut
      let (bs, _) ← (host.capture cmd : Sh _)
      let st := awkStreamOf bs
      modifyThe AwkState fun s => { s with commands := s.commands ++ [(cmd, st)] }
      pure st
  match ← awkStreamRecord st with
  | some (rec, st') => do
    modifyThe AwkState fun s => { s with commands := s.commands.map fun (k, x) => if k = cmd then (k, st') else (k, x) }
    return some rec
  | none => return none

/-! ## Arithmetic -/

def awkFmod (x y : Float) : Float :=
  match awkFloatParts x, awkFloatParts y with
  | (nx, .finite _ mx ex), (_, .finite _ my ey) =>
    if my = 0 then awkNaN
    else
      let (a, b) := Number.powTwo ex
      let (c, d) := Number.powTwo ey
      let r := (mx * a * d) % (b * my * c)
      awkFloatOf nx (Number.roundRational Number.double nx r (b * d))
  | (_, .finite ..), (_, .infinity _) => x
  | (_, .nan), _ => x
  | _, (_, .nan) => y
  | _, _ => awkNaN

def awkArith (op : AwkBinOp) (x y : Float) : Float :=
  match op with
  | .add => x + y
  | .sub => x - y
  | .mul => x * y
  | .div => x / y
  | .mod => awkFmod x y
  | .pow => Float.pow x y
  | _ => 0


def awkCase (upper : Bool) (s : String) : String :=
  String.ofList (s.toList.map fun c =>
    if upper ∧ 'a' ≤ c ∧ c ≤ 'z' then Char.ofNat (c.toNat - 32)
    else if ¬ upper ∧ 'A' ≤ c ∧ c ≤ 'Z' then Char.ofNat (c.toNat + 32) else c)

/-- The place of the first occurrence of a text in another, from 1; 0 when there is none and 1
for an empty text. -/
def awkIndex (s t : List Char) : Nat :=
  if t.isEmpty then 1
  else ((List.range (s.length + 1)).find? fun i => (s.drop i).take t.length = t).map (· + 1) |>.getD 0

/-- An integer as an integer of 32 bits wraps it: the one in `[-2^31, 2^31)` equal to it
modulo 2^32. -/
def awkWrap32 (i : Int) : Int := (i + 2147483648) % 4294967296 - 2147483648

/-- `substr`: the characters from a place for a length, both cut toward zero to 32 bits; a place
before the first lengthens the text taken by as much, the sum wrapping at 32 bits. -/
def awkSubstr (s : String) (start : Float) (len : Option Float) : String :=
  let cs := s.toList
  if cs.isEmpty then "" else
  let b := awkToInt start
  let n : Int := match len with
    | some l => awkToInt l
    | none => cs.length + 1
  let (b, n) := if b < 1 then (1, awkWrap32 (n - b)) else (b, n)
  if n ≤ 0 then "" else
  String.ofList ((cs.drop (b - 1).toNat).take n.toNat)

end SqlMigration.Shell
