import SqlMigration.FileTree.Basic

/-!
# Name patterns

Shell-style patterns on entry names, and the listing of the entries below a directory whose
names match a pattern component by component.

In a pattern `*` matches any text, `?` any one character, and `[…]` one character of a set; a
set may start with `!` to match the characters outside it, a `]` right after the opening (or
after `!`) belongs to the set, ranges `a-z` are inclusive, reversed ranges are dropped, and a
`[` without a closing `]` is an ordinary character. Every other character matches itself, and
case matters. A leading dot is matched like any other character.

A listing pattern is read like a path: its components, one `**` standing for the directory
itself and every directory below it, at any depth. A `**` within a longer component is refused.
-/

namespace SqlMigration

/-- One element of a name pattern. -/
inductive PatternItem where
  /-- Any text, the empty one included. -/
  | star
  /-- Any one character. -/
  | any
  /-- One given character. -/
  | literal (c : Char)
  /-- One character of a set (or outside it): its characters and its ranges. -/
  | set (outside : Bool) (chars : List Char) (ranges : List (Char × Char))
  /-- Nothing at all: an empty set. -/
  | never
  deriving DecidableEq, Repr

/-- Whether a pattern element that stands for one character accepts `c`. -/
def PatternItem.accepts : PatternItem → Char → Bool
  | .any, _ => true
  | .literal d, c => c == d
  | .set outside cs rs, c => (cs.contains c || rs.any fun (lo, hi) => lo ≤ c && c ≤ hi) != outside
  | _, _ => false

/-- A character of a set body, with whether it is a range dash. -/
abbrev SetToken := Char × Bool

/-- The chunks of a set body with dashes: the pieces between the dashes that form ranges,
found from the second character on (the third after a leading `!`), each next dash searched
from two characters after the last. -/
def setChunks (body : List Char) : List (List Char) :=
  let start := if body.head? = some '!' then 2 else 1
  go body.length start body []
where
  go : Nat → Nat → List Char → List (List Char) → List (List Char)
    | 0, _, rest, acc => (acc ++ [rest])
    | fuel + 1, from_, rest, acc =>
      match ((rest.drop from_).findIdx? (· = '-')) with
      | none =>
        if rest.isEmpty then
          match acc.reverse with
          | last :: earlier => ((last ++ ['-']) :: earlier).reverse
          | [] => [['-']]
        else acc ++ [rest]
      | some k =>
        let cut := from_ + k
        go fuel 2 (rest.drop (cut + 1)) (acc ++ [rest.take cut])

/-- Joins the chunks around each dash that would form a reversed range, in one pass from the
last dash to the first. -/
def mergeReversed (chunks : List (List Char)) : List (List Char) :=
  go (chunks.length - 1) chunks
where
  /-- Handles the dash between chunks `k - 1` and `k`, then the ones before it. -/
  go : Nat → List (List Char) → List (List Char)
    | 0, cs => cs
    | k + 1, cs =>
      let reversed := match cs[k]?, cs[k + 1]? with
        | some a, some b => match a.getLast?, b.head? with
          | some x, some y => decide (x > y)
          | _, _ => false
        | _, _ => false
      if reversed then
        let a := cs.getD k []
        let b := cs.getD (k + 1) []
        go k (cs.take k ++ [a.dropLast ++ b.drop 1] ++ cs.drop (k + 2))
      else go k cs

/-- Reads the tokens of a set body into characters and ranges. -/
def setParts : List SetToken → List Char × List (Char × Char)
  | [] => ([], [])
  | (a, false) :: (_, true) :: (b, false) :: rest =>
    let (cs, rs) := setParts rest
    (cs, (a, b) :: rs)
  | (c, _) :: rest =>
    let (cs, rs) := setParts rest
    (c :: cs, rs)

/-- The pattern element of a set body (the text between the brackets). -/
def setItem (body : List Char) : PatternItem :=
  let tokens : List SetToken :=
    if body.contains '-' then
      let chunks := mergeReversed (setChunks body)
      [('-', true)].intercalate (chunks.map fun ch => ch.map fun c => (c, false))
    else body.map fun c => (c, false)
  match tokens with
  | [] => .never
  | [('!', false)] => .any
  | ('!', false) :: rest =>
    let (cs, rs) := setParts rest
    .set true cs rs
  | _ =>
    let (cs, rs) := setParts tokens
    .set false cs rs

/-- The elements of a name pattern. -/
def compilePattern (pat : List Char) : List PatternItem :=
  go pat.length pat
where
  go : Nat → List Char → List PatternItem
    | 0, _ => []
    | _ + 1, [] => []
    | fuel + 1, '*' :: rest =>
      match go fuel rest with
      | .star :: items => .star :: items
      | items => .star :: items
    | fuel + 1, '?' :: rest => .any :: go fuel rest
    | fuel + 1, '[' :: rest =>
      let r1 := if rest.head? = some '!' then rest.drop 1 else rest
      let skip := (rest.length - r1.length) + (if r1.head? = some ']' then 1 else 0)
      match (rest.drop skip).findIdx? (· = ']') with
      | none => .literal '[' :: go fuel rest
      | some k =>
        let body := rest.take (skip + k)
        setItem body :: go fuel (rest.drop (skip + k + 1))
    | fuel + 1, c :: rest => .literal c :: go fuel rest

/-- Whether pattern elements match a name. -/
def matchItems : List PatternItem → List Char → Bool
  | [], cs => cs.isEmpty
  | .star :: rest, cs => matchStar rest cs
  | item :: rest, c :: cs => item.accepts c && matchItems rest cs
  | _ :: _, [] => false
termination_by items cs => (items.length, cs.length, 1)
where
  /-- A star followed by `rest` against `cs`: try every split. -/
  matchStar (rest : List PatternItem) : List Char → Bool
    | [] => matchItems rest []
    | c :: cs => matchItems rest (c :: cs) || matchStar rest cs
  termination_by cs => (rest.length, cs.length, 2)

def nameMatches (pattern name : String) : Bool :=
  matchItems (compilePattern pattern.toList) name.toList

/-- Whether a pattern component holds a wildcard. -/
def hasWildcard (s : String) : Bool := s.contains '*' || s.contains '?' || s.contains '['

/-- A listing pattern refused: `**` within a longer component. -/
def invalidPatternMessage : String := "Invalid pattern: '**' can only be an entire path component"

namespace FileTree

/-- The directories at and below a directory, the directory first. -/
def dirsBelow (t : FileTree) (p : Path) (loc : List String) : List (Path × List String) :=
  (p, loc) :: (t.entries.filterMap fun (k, e) =>
    if e = .dir ∧ loc.isPrefixOf k ∧ k.length > loc.length then
      some (⟨p.root, p.parts ++ k.drop loc.length⟩, k)
    else none)

/-- The paths below `p` that the remaining pattern components select. A place whose name is
`..` is followed up to the directory it names. -/
def select (t : FileTree) : Nat → List String → Path → Except OsError (List Path)
  | 0, _, _ => .ok []
  | _ + 1, [], p => .ok [p]
  | fuel + 1, c :: rest, p => do
    let dironly := !rest.isEmpty
    if c.isEmpty then return [p]
    if c = "**" then
      let loc ← match t.resolve p with
        | .ok place => pure place.loc
        | .error e => throw ⟨e, p.render, none⟩
      match loc with
      | none => return []
      | some l =>
        let starts := t.dirsBelow p l
        let found ← starts.mapM fun (q, _) => t.select fuel rest q
        return found.flatten.eraseDups
    else if hasWildcard c then
      let loc ← match t.resolve p with
        | .ok place => pure place.loc
        | .error e => throw ⟨e, p.render, none⟩
      match loc with
      | none => return []
      | some l =>
        let kids := (t.children l).filter fun (n, e) => (!dironly || e = .dir) && nameMatches c n
        let found ← kids.mapM fun (n, _) => t.select fuel rest ⟨p.root, p.parts ++ [n]⟩
        return found.flatten
    else
      let q : Path := ⟨p.root, p.parts ++ [c]⟩
      let keep ← if dironly then t.isDir? q else t.exists? q
      if keep then t.select fuel rest q else return []

/-- The components of a listing pattern, refusing `**` inside a longer component. -/
def patternParts (pattern : String) : Except String (List String) :=
  let parts := Path.componentsOf pattern ++ (if pattern.endsWith "/" then [""] else [])
  if parts.any fun c => c ≠ "**" ∧ (c.splitOn "**").length > 1 then .error invalidPatternMessage
  else .ok parts

/-- The entries below a directory matching a listing pattern; nothing when the directory is
not one. -/
def glob (t : FileTree) (base : Path) (pattern : String) : Except String (Except OsError (List Path)) :=
  match patternParts pattern with
  | .error m => .error m
  | .ok parts => .ok do
    if ← t.isDir? base then t.select (t.entries.length + parts.length + 2) parts base
    else return []

/-- The entries at any depth below a directory whose names match a pattern. -/
def rglob (t : FileTree) (base : Path) (pattern : String) :
    Except String (Except OsError (List Path)) :=
  match patternParts pattern with
  | .error m => .error m
  | .ok parts => .ok do
    if ← t.isDir? base then t.select (t.entries.length + parts.length + 2) ("**" :: parts) base
    else return []

end FileTree

end SqlMigration
