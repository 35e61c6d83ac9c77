import SqlMigration.Path

/-!
# File trees

The files and directories below the working directory, and the system calls the tool makes on
them, with the errors a Linux system gives. A tree maps each entry's components (relative to
the working directory) to a file's bytes or a directory; the parent of every entry is a
directory of the tree.

A path is resolved component by component from the working directory. An intermediate
component that is too long (over 255 bytes) fails with `nameTooLong`, one that is missing with
`noEntry`, and one that is a file with `notDir`; `..` steps back to the parent directory. A path
text of 4096 bytes or more is refused as too long before any component is looked at. The last
component is then handled by each call: `mkdir` refuses one that exists, writing refuses a
directory, reading refuses a missing entry or a directory, `unlink` refuses a directory, and
`rename` moves a file or a whole directory over a file, an empty directory, or nothing.

Paths outside the working directory (absolute ones, or ones that climb above it) name
nothing, except a path whose last `..` climbs above it: that names a directory above the working
directory, which exists but whose contents the tree does not hold.
-/

namespace SqlMigration

/-- The system errors the tool meets, with their Linux numbers and texts. -/
inductive Errno where
  | noEntry
  | exists
  | notDir
  | isDir
  | busy
  | invalid
  | nameTooLong
  | notEmpty
  | denied
  deriving DecidableEq, Repr

/-- The Linux number of an error. -/
def Errno.code : Errno → Nat
  | .noEntry => 2
  | .exists => 17
  | .notDir => 20
  | .isDir => 21
  | .busy => 16
  | .invalid => 22
  | .nameTooLong => 36
  | .notEmpty => 39
  | .denied => 13

/-- The Linux text of an error. -/
def Errno.text : Errno → String
  | .noEntry => "No such file or directory"
  | .exists => "File exists"
  | .notDir => "Not a directory"
  | .isDir => "Is a directory"
  | .busy => "Device or resource busy"
  | .invalid => "Invalid argument"
  | .nameTooLong => "File name too long"
  | .notEmpty => "Directory not empty"
  | .denied => "Permission denied"

/-- A failed system call: the error and the path it was made on (two for a rename). -/
structure OsError where
  errno : Errno
  path : String
  dest : Option String := none
  deriving DecidableEq, Repr

/-- `[Errno N] text: 'path'`, with ` -> 'dest'` for a rename. -/
def OsError.message (e : OsError) : String :=
  "[Errno " ++ toString e.errno.code ++ "] " ++ e.errno.text ++ ": " ++ Text.quoted e.path ++
    match e.dest with
    | some d => " -> " ++ Text.quoted d
    | none => ""

/-- What an entry of the tree is. -/
inductive Entry where
  | file (bytes : List UInt8)
  | dir
  deriving DecidableEq, Repr

/-- The entries below the working directory, by their components. -/
structure FileTree where
  entries : List (List String × Entry) := []
  deriving Repr, Inhabited

namespace FileTree

/-- The entry at some components; the empty list is the working directory itself. -/
def find? (t : FileTree) (loc : List String) : Option Entry :=
  if loc.isEmpty then some .dir else t.entries.lookup loc

/-- The tree with the entry at `loc` set. -/
def set (t : FileTree) (loc : List String) (e : Entry) : FileTree :=
  ⟨(loc, e) :: t.entries.filter (·.1 ≠ loc)⟩

/-- The tree without the entry at `loc` and those below it. -/
def erase (t : FileTree) (loc : List String) : FileTree :=
  ⟨t.entries.filter fun (k, _) => ¬ loc.isPrefixOf k⟩

/-- The entries directly inside the directory at `loc`, with their names. -/
def children (t : FileTree) (loc : List String) : List (String × Entry) :=
  t.entries.filterMap fun (k, e) =>
    if k.length = loc.length + 1 ∧ loc.isPrefixOf k then some (k.getLastD "", e) else none

/-- The longest name a directory entry can have, in bytes. -/
def nameMax : Nat := 255

/-- The length a path text must stay below, in bytes. -/
def pathMax : Nat := 4096

/-- Where a path leads: a place in the tree, or outside the working directory. -/
inductive Place where
  /-- The entry named `name` in the directory at `dir` (which may be absent). -/
  | child (dir : List String) (name : String)
  /-- The directory at `dir`, reached by a final `..` or by an empty path. -/
  | here (dir : List String)
  /-- A directory above the working directory, reached by a final `..`. -/
  | above
  /-- Nowhere the tree can see. -/
  | outside
  deriving DecidableEq, Repr

/-- Walks the intermediate components of a path from the directory at `dir`; the last
component is left to the call, which checks its length itself. -/
def walk (t : FileTree) : List String → List String → Except Errno Place
  | dir, [] => .ok (.here dir)
  | dir, [n] =>
    if n = ".." then (if dir.isEmpty then .ok .above else .ok (.here dir.dropLast))
    else .ok (.child dir n)
  | dir, n :: rest =>
    if n = ".." then
      if dir.isEmpty then .ok .outside else walk t dir.dropLast rest
    else if n.utf8ByteSize > nameMax then .error .nameTooLong
    else match t.find? (dir ++ [n]) with
      | none => .error .noEntry
      | some (.file _) => .error .notDir
      | some .dir => walk t (dir ++ [n]) rest

/-- Resolves a path to the place its last component names. -/
def resolve (t : FileTree) (p : Path) : Except Errno Place :=
  if p.render.utf8ByteSize ≥ pathMax then .error .nameTooLong
  else if ¬ p.root.isEmpty then .ok .outside
  else walk t [] p.parts

/-- The components a place names, when it is in the tree. -/
def Place.loc : Place → Option (List String)
  | .child d n => some (d ++ [n])
  | .here d => some d
  | .above | .outside => none

/-- Whether the last component of a place is too long to name an entry. -/
def Place.tooLong : Place → Bool
  | .child _ n => n.utf8ByteSize > nameMax
  | _ => false

/-- The entry a path names, or the error a lookup of it gives. -/
def stat (t : FileTree) (p : Path) : Except OsError Entry :=
  let fail (e : Errno) : Except OsError Entry := .error ⟨e, p.render, none⟩
  match t.resolve p with
  | .error e => fail e
  | .ok place =>
    if place.tooLong then fail .nameTooLong
    else if place = .above then .ok .dir else
    match place.loc.bind t.find? with
    | some e => .ok e
    | none => fail .noEntry

/-- Whether a lookup error means only that nothing is there. -/
def Errno.meansAbsent (e : Errno) : Bool := e == .noEntry || e == .notDir

/-- Whether something is at a path; errors other than absence are raised. -/
def exists? (t : FileTree) (p : Path) : Except OsError Bool :=
  match t.stat p with
  | .ok _ => .ok true
  | .error e => if Errno.meansAbsent e.errno then .ok false else .error e

/-- Whether a path is a directory; errors other than absence are raised. -/
def isDir? (t : FileTree) (p : Path) : Except OsError Bool :=
  match t.stat p with
  | .ok e => .ok (e == .dir)
  | .error e => if Errno.meansAbsent e.errno then .ok false else .error e

/-- Whether a path is a regular file; errors other than absence are raised. -/
def isFile? (t : FileTree) (p : Path) : Except OsError Bool :=
  match t.stat p with
  | .ok e => .ok (e != .dir)
  | .error e => if Errno.meansAbsent e.errno then .ok false else .error e

def mkdir (t : FileTree) (p : Path) : Except OsError FileTree :=
  let fail (e : Errno) : Except OsError FileTree := .error ⟨e, p.render, none⟩
  match t.resolve p with
  | .error e => fail e
  | .ok (.here _) | .ok .above => fail .exists
  | .ok .outside => fail .noEntry
  | .ok (.child d n) =>
    if n.utf8ByteSize > nameMax then fail .nameTooLong else
    match t.find? d, t.find? (d ++ [n]) with
    | some .dir, none => .ok (t.set (d ++ [n]) .dir)
    | some .dir, some _ => fail .exists
    | _, _ => fail .noEntry

/-- Opens a file for writing, creating it or cutting it to nothing, and writes `bytes`. -/
def writeFile (t : FileTree) (p : Path) (bytes : List UInt8) : Except OsError FileTree :=
  let fail (e : Errno) : Except OsError FileTree := .error ⟨e, p.render, none⟩
  match t.resolve p with
  | .error e => fail e
  | .ok (.here _) | .ok .above => fail .isDir
  | .ok .outside => fail .noEntry
  | .ok (.child d n) =>
    if n.utf8ByteSize > nameMax then fail .nameTooLong else
    match t.find? d, t.find? (d ++ [n]) with
    | some .dir, some .dir => fail .isDir
    | some .dir, _ => .ok (t.set (d ++ [n]) (.file bytes))
    | _, _ => fail .noEntry

def readFile (t : FileTree) (p : Path) : Except OsError (List UInt8) :=
  match t.stat p with
  | .ok (.file bs) => .ok bs
  | .ok .dir => .error ⟨.isDir, p.render, none⟩
  | .error e => .error e

def unlink (t : FileTree) (p : Path) : Except OsError FileTree :=
  match t.stat p with
  | .ok (.file _) =>
    match t.resolve p with
    | .ok place => .ok (match place.loc with | some l => t.erase l | none => t)
    | .error _ => .ok t
  | .ok .dir => .error ⟨.isDir, p.render, none⟩
  | .error e => .error e

/-- The tree with every entry under `src` moved under `dst`. -/
def move (t : FileTree) (src dst : List String) : FileTree :=
  ⟨(t.entries.filter fun (k, _) => ¬ dst.isPrefixOf k).map fun (k, e) =>
    if src.isPrefixOf k then (dst ++ k.drop src.length, e) else (k, e)⟩

/-- Renames a file or directory, replacing what the destination holds. Both parents are
resolved first, the source's before the destination's; then the source must exist, neither may
contain the other, and a file replaces only a file or nothing, a directory only an empty
directory or nothing. -/
def rename (t : FileTree) (src dst : Path) : Except OsError FileTree :=
  let fail (e : Errno) : Except OsError FileTree := .error ⟨e, src.render, some dst.render⟩
  match t.resolve src, t.resolve dst with
  | .error e, _ => fail e
  | _, .error e => fail e
  | .ok .outside, _ => fail .noEntry
  | _, .ok .outside => fail .noEntry
  | .ok (.here _), _ | .ok .above, _ => fail .busy
  | _, .ok (.here _) | _, .ok .above => fail .busy
  | .ok (.child sd sn), .ok (.child dd dn) =>
    let s := sd ++ [sn]
    let d := dd ++ [dn]
    if sn.utf8ByteSize > nameMax then fail .nameTooLong else
    match t.find? s with
    | none => fail .noEntry
    | some se =>
      if dn.utf8ByteSize > nameMax then fail .nameTooLong
      else if s.isPrefixOf dd then fail .invalid
      else if d.isPrefixOf sd then fail .notEmpty
      else if s = d then .ok t
      else match se, t.find? d with
        | .file _, some .dir => fail .isDir
        | .dir, some (.file _) => fail .notDir
        | .dir, some .dir =>
          if (t.children d).isEmpty then .ok (t.move s d) else fail .notEmpty
        | _, _ => .ok (t.move s d)

/-! ## Building and viewing a tree -/

/-- Walks components from the directory at `dir`, creating each directory that is missing, where
`..` steps back to the parent; answers the tree and the directory reached, none when the walk
climbs above the working directory. -/
def makeDirs (t : FileTree) (dir : List String) : List String → FileTree × Option (List String)
  | [] => (t, some dir)
  | n :: rest =>
    if n = ".." then
      if dir.isEmpty then (t, none) else makeDirs t dir.dropLast rest
    else
      let d := dir ++ [n]
      makeDirs (if t.find? d = some .dir then t else t.set d .dir) d rest

/-- The tree with an entry planted at a path text: a directory when `content` is none, else a
file with those bytes; missing directories on the way are created and `..` steps back. -/
def plant (t : FileTree) (path : String) (content : Option (List UInt8)) : FileTree :=
  let loc := Path.componentsOf path
  match content, loc.getLast? with
  | none, _ => (t.makeDirs [] loc).1
  | some bytes, some name =>
    if name = ".." then t else
    match t.makeDirs [] loc.dropLast with
    | (t, some d) => t.set (d ++ [name]) (.file bytes)
    | (t, none) => t
  | some _, none => t

/-- The text of an entry's place, components joined by `/`. -/
def placeText (loc : List String) : String := "/".intercalate loc

/-- The files of the tree with their bytes, and its directories, each sorted by their place's
text. -/
def snapshot (t : FileTree) : List (String × List UInt8) × List String :=
  let files := t.entries.filterMap fun (k, e) => match e with
    | .file bs => some (placeText k, bs)
    | .dir => none
  let dirs := t.entries.filterMap fun (k, e) => match e with
    | .dir => some (placeText k)
    | .file _ => none
  (files.mergeSort fun a b => a.1 ≤ b.1, dirs.mergeSort fun a b => a ≤ b)

end FileTree

end SqlMigration
