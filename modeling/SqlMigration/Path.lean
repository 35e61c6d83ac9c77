import SqlMigration.Text.Quoted

/-!
# Paths

A path as the tool handles it: an optional root and a list of components. Reading a path text
drops empty components and `.` and keeps `..`; a leading `/` is the root, and exactly two
leading slashes are a root of their own (`//`), while three or more are one. The text of a path
joins its root and components with `/`, and is `.` when there is neither.

The name of a path is its last component. Its suffix is the part of the name from the last dot,
when that dot is neither the first nor the last character of the name; the stem is the name
without its suffix. `withSuffix` and `withName` refuse a path without a name and a suffix or
name that is not one.
-/

namespace SqlMigration

/-- A path: its root text (`""`, `"/"` or `"//"`) and its components, none empty or `.`. -/
structure Path where
  root : String := ""
  parts : List String := []
  deriving DecidableEq, Repr, Inhabited

namespace Path

/-- The components of a relative path text. -/
def componentsOf (s : String) : List String :=
  (s.splitOn "/").filter fun p => p ≠ "" ∧ p ≠ "."

/-- The number of slashes a text starts with. -/
def leadingSlashes (cs : List Char) : Nat := (cs.takeWhile (· = '/')).length

def ofString (s : String) : Path :=
  let n := leadingSlashes s.toList
  let root := if n = 0 then "" else if n = 2 then "//" else "/"
  ⟨root, componentsOf s⟩

instance : Coe String Path := ⟨ofString⟩

def render (p : Path) : String :=
  if p.root.isEmpty ∧ p.parts.isEmpty then "." else p.root ++ "/".intercalate p.parts

instance : ToString Path := ⟨render⟩

/-- Appends a path text; an absolute text replaces the path. -/
def join (p : Path) (s : String) : Path :=
  let q := ofString s
  if q.root.isEmpty then ⟨p.root, p.parts ++ q.parts⟩ else q

instance : HDiv Path String Path := ⟨join⟩

/-- The last component, or `""` for a path with none. -/
def name (p : Path) : String := p.parts.getLastD ""

/-- The path without its last component; a path with none is its own parent. -/
def parent (p : Path) : Path := ⟨p.root, p.parts.dropLast⟩

/-- The position of the last dot in a text, if any. -/
def lastDot (cs : List Char) : Option Nat :=
  (cs.zipIdx.filter fun (c, _) => c = '.').getLast?.map Prod.snd

/-- The suffix of a name: from its last dot, when that dot is neither first nor last. -/
def suffixOf (name : String) : String :=
  let cs := name.toList
  match lastDot cs with
  | some i => if 0 < i ∧ i + 1 < cs.length then String.ofList (cs.drop i) else ""
  | none => ""

/-- The suffix of the path's name. -/
def suffix (p : Path) : String := suffixOf p.name

/-- The name without its suffix. -/
def stem (p : Path) : String :=
  let n := p.name
  String.ofList (n.toList.take (n.length - (suffixOf n).length))

/-- How a path shows itself in messages: `PosixPath('text')`. -/
def shown (p : Path) : String := "PosixPath(" ++ Text.quoted p.render ++ ")"

/-- Why a path could not be derived from another. -/
inductive Problem where
  /-- The path has no name to change. -/
  | emptyName (p : Path)
  /-- A suffix that does not start with a dot, is a lone dot, or holds a slash. -/
  | invalidSuffix (s : String)
  /-- A name that is empty, holds a slash, or is not one component. -/
  | invalidName (s : String)
  deriving DecidableEq, Repr

def Problem.message : Problem → String
  | .emptyName p => p.shown ++ " has an empty name"
  | .invalidSuffix s => "Invalid suffix " ++ Text.quoted s
  | .invalidName s => "Invalid name " ++ Text.quoted s

/-- The path with the suffix of its name replaced. -/
def withSuffix (p : Path) (s : String) : Except Problem Path :=
  if s.contains '/' ∨ (¬ s.isEmpty ∧ ¬ s.startsWith ".") ∨ s = "." then .error (.invalidSuffix s)
  else if p.name.isEmpty then .error (.emptyName p)
  else
    let n := p.name
    let base := String.ofList (n.toList.take (n.length - (suffixOf n).length))
    .ok ⟨p.root, p.parts.dropLast ++ [base ++ s]⟩

def withName (p : Path) (n : String) : Except Problem Path :=
  if p.name.isEmpty then .error (.emptyName p)
  else if n.isEmpty ∨ n.endsWith "/" ∨ (ofString n).root ≠ "" ∨ (ofString n).parts.length ≠ 1 then
    .error (.invalidName n)
  else .ok ⟨p.root, p.parts.dropLast ++ [n]⟩

/-- The components of `p` after those of `base`, when `base` is a prefix of `p`. -/
def relativeTo (p base : Path) : Option (List String) :=
  if p.root = base.root ∧ base.parts.isPrefixOf p.parts then some (p.parts.drop base.parts.length)
  else none

end Path

end SqlMigration
