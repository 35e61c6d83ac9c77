import SqlMigration.Shell.Awk.Value

/-!
# awk arrays

An array is a hash table whose order of traversal `for (k in a)` shows, so the table is kept
as the interpreter keeps it:
-/

namespace SqlMigration.Shell

/-- An element of a table: its string key, its integer key, the hash of the string key, and
its value. -/
structure AwkNode where
  key : Option String := none
  ival : Option Int := none
  hash : UInt32 := 0
  value : AwkValue := .uninit
  deriving Inhabited

/-- An array: a vector of the elements `split` made, or a table of elements with their lists of
string keys and of integer keys by bucket (the front of each list first). -/
structure AwkArray where
  split : Option (Array AwkValue) := none
  nodes : Array AwkNode := #[]
  strLists : Array (List Nat) := #[]
  intLists : Array (List Nat) := #[]
  hmask : Nat := 63
  size : Nat := 0
  hasInt : Bool := false
  hasStr : Bool := false
  deriving Inhabited

def awkHash (s : String) : UInt32 :=
  s.toList.foldl (fun h c => (h ^^^ c.toNat.toUInt32) * 16777619) 2166136261

def awkTableLimit (hmask : Nat) : Nat := (hmask + 1) * 12

def awkIntBucket (hmask : Nat) (i : Int) : Nat := (i % ((hmask + 1 : Nat) : Int)).toNat

def AwkArray.emptyTable : AwkArray :=
  { strLists := Array.replicate 64 [], intLists := Array.replicate 64 [], hmask := 63 }

def awkToFront (xs : List Nat) (x : Nat) : List Nat := x :: xs.erase x

namespace AwkArray

def ofSplit (cells : Array AwkValue) : AwkArray :=
  let size := cells.size
  let hmask := grow size (size + 1) 63
  let base : AwkArray :=
    { strLists := Array.replicate (hmask + 1) [], intLists := Array.replicate (hmask + 1) [],
      hmask := hmask, size := size, hasInt := true }
  cells.toList.zipIdx.foldl (fun a (v, i) =>
    let id := a.nodes.size
    let b := (i + 1) % (hmask + 1)
    { a with nodes := a.nodes.push { ival := some (i + 1 : Nat), value := v },
             intLists := a.intLists.modify b (id :: ·) }) base
where
  grow (count : Nat) : Nat → Nat → Nat
    | 0, h => h
    | k + 1, h => if count > awkTableLimit h then grow count k (2 * h + 1) else h

def asTable (a : AwkArray) : AwkArray :=
  match a.split with
  | some cells => ofSplit cells
  | none => if a.strLists.isEmpty then emptyTable else a

def double (a : AwkArray) : AwkArray :=
  let old := a.hmask + 1
  let nm := 2 * a.hmask + 1
  let splitLists (lists : Array (List Nat)) (bucket : AwkNode → Nat) : Array (List Nat) :=
    (Array.range (2 * old)).map (fun j =>
      (lists.getD (j % old) []).filter (fun id => bucket (a.nodes.getD id default) = j))
  let strs := splitLists a.strLists (fun nd => nd.hash.toNat % (nm + 1))
  let ints := splitLists a.intLists (fun nd => awkIntBucket nm (nd.ival.getD 0))
  { a with hmask := nm, strLists := strs, intLists := ints }

def grew (a : AwkArray) : AwkArray :=
  let a := { a with size := a.size + 1 }
  if a.size > awkTableLimit a.hmask then a.double else a

def addStringKeys (a : AwkArray) : AwkArray :=
  if a.hasStr then a
  else
    let a := a.asTable
    let order := (List.range (a.hmask + 1)).flatMap fun b => a.intLists.getD b []
    let a := order.foldl (fun a id =>
      let nd := a.nodes.getD id default
      let key := toString (nd.ival.getD 0)
      let h := awkHash key
      let b := h.toNat % (a.hmask + 1)
      { a with nodes := a.nodes.set! id { nd with key := some key, hash := h },
               strLists := a.strLists.modify b (id :: ·) }) a
    { a with hasStr := true }

/-- The element with a string key, found (and moved to the front of its list) or, when
`create`, made. -/
def findStr (a : AwkArray) (key : String) (create : Bool) : AwkArray × Option Nat :=
  let a := a.addStringKeys
  let h := awkHash key
  let b := h.toNat % (a.hmask + 1)
  let list := a.strLists.getD b []
  match list.find? fun id => (a.nodes.getD id default).key == some key with
  | some id => ({ a with strLists := a.strLists.set! b (awkToFront list id) }, some id)
  | none =>
    if ¬ create then (a, none)
    else
      let id := a.nodes.size
      let a := { a with nodes := a.nodes.push { key := some key, hash := h } }
      let a := a.grew
      let b := h.toNat % (a.hmask + 1)
      ({ a with strLists := a.strLists.modify b (id :: ·) }, some id)

/-- The element with an integer key, found (and moved to the front of its list) or, when
`create`, made. -/
def findInt (a : AwkArray) (i : Int) (create : Bool) : AwkArray × Option Nat :=
  let a := a.asTable
  let b := awkIntBucket a.hmask i
  let list := a.intLists.getD b []
  match list.find? fun id => (a.nodes.getD id default).ival == some i with
  | some id => ({ a with intLists := a.intLists.set! b (awkToFront list id) }, some id)
  | none =>
    let (a, found) :=
      if a.hasStr then a.findStr (toString i) create
      else if create then
        let id := a.nodes.size
        (({ a with nodes := a.nodes.push {} } : AwkArray).grew, some id)
      else (a, none)
    match found with
    | none => (a, none)
    | some id =>
      let nd := a.nodes.getD id default
      let b := awkIntBucket a.hmask i
      ({ a with nodes := a.nodes.set! id { nd with ival := some i }, hasInt := true,
                intLists := a.intLists.modify b (id :: ·) }, some id)

end AwkArray

/-- A key of an array: a whole number of 32 bits, or a string. -/
inductive AwkKey where
  | int (i : Int)
  | str (s : String)
  deriving Inhabited, BEq

/-- The key a subscript value stands for: a number that is a whole number of 32 bits is an
integer key, any other number its text by the conversion format, and anything else its string. -/
def awkKeyOf (convfmt : String) (v : AwkValue) : AwkKey :=
  match v with
  | .num x =>
    match awkWhole? x with
    | some i => if -2147483647 ≤ i ∧ i ≤ 2147483647 then .int i else .str (awkNumberText convfmt x true)
    | none => .str (awkNumberText convfmt x true)
  | .nan neg => .str (awkNumberText convfmt awkNaN neg)
  | .uninit => .str ""
  | .str s => .str s
  | .strnum s _ => .str s

namespace AwkArray

/-- The element of a key, found or (when `create`) made; the place of a `split` element is its
index among them, and a table's element is its node. -/
def locate (a : AwkArray) (key : AwkKey) (create : Bool) : AwkArray × Option (Sum Nat Nat) :=
  match a.split, key with
  | some cells, .int i =>
    if 1 ≤ i ∧ i ≤ (cells.size : Int) then (a, some (.inl (i.toNat - 1)))
    else if ¬ create then (a, none)
    else
      let (a, id) := (ofSplit cells).findInt i true
      (a, id.map .inr)
  | _, .int i =>
    if a.size = 0 ∧ ¬ create then (a, none)
    else
      let (a, id) := a.findInt i create
      (a, id.map .inr)
  | _, .str s =>
    if a.size = 0 ∧ ¬ create then (a, none)
    else
      let (a, id) := a.findStr s create
      (a, id.map .inr)

def get (a : AwkArray) (key : AwkKey) : AwkArray × AwkValue :=
  match a.locate key true with
  | (a, some (.inl i)) => (a, (a.split.getD #[]).getD i .uninit)
  | (a, some (.inr id)) => (a, (a.nodes.getD id default).value)
  | (a, none) => (a, .uninit)

def put (a : AwkArray) (key : AwkKey) (v : AwkValue) : AwkArray :=
  match a.locate key true with
  | (a, some (.inl i)) => { a with split := a.split.map (·.set! i v) }
  | (a, some (.inr id)) => { a with nodes := a.nodes.modify id fun nd => { nd with value := v } }
  | (a, none) => a

def has (a : AwkArray) (key : AwkKey) : AwkArray × Bool :=
  match a.locate key false with
  | (a, some _) => (a, true)
  | (a, none) => (a, false)

def clear : AwkArray := {}

def remove (a : AwkArray) (key : AwkKey) : AwkArray :=
  if a.size = 0 ∧ a.split.isNone then a
  else
    let a := match a.split, key with
      | some cells, .int i => if 1 ≤ i ∧ i ≤ (cells.size : Int) then ofSplit cells else a
      | some cells, .str _ => ofSplit cells
      | _, _ => a
    if a.split.isSome then a
    else
      match a.locate key false with
      | (a, some (.inr id)) =>
        let nd := a.nodes.getD id default
        let a := match nd.key with
          | some _ =>
            let b := nd.hash.toNat % (a.hmask + 1)
            { a with strLists := a.strLists.modify b (·.erase id) }
          | none => a
        let a := match nd.ival with
          | some i =>
            let b := awkIntBucket a.hmask i
            { a with intLists := a.intLists.modify b (·.erase id) }
          | none => a
        let a := { a with size := a.size - 1 }
        if a.size = 0 then clear else a
      | (a, _) => a

def ofPieces (pieces : List String) : AwkArray :=
  { split := some (pieces.map AwkValue.ofInput).toArray, size := pieces.length }

def keys (a : AwkArray) : AwkArray × List String :=
  if a.size = 0 then (a, [])
  else
    let a := a.addStringKeys
    (a, (List.range (a.hmask + 1)).flatMap fun b =>
      (a.strLists.getD b []).map fun id => ((a.nodes.getD id default).key.getD ""))

end AwkArray

end SqlMigration.Shell
