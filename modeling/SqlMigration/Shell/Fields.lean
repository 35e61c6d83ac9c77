import SqlMigration.Shell.Pattern
import SqlMigration.FileTree.Basic

/-!
# Fields

An expanded word is a list of pieces: characters, each quoted or not and each either literal or
part of the result of an unquoted expansion, a *region*, where it may split the word; marks that
an empty quoted string was there; and cuts, where `"$@"` ends one parameter's field and starts
the next.
-/

namespace SqlMigration.Shell

/-- A piece of an expanded word. -/
inductive Piece where
  /-- A character: quoted or not, and the region of the expansion it came from, if any. -/
  | char (c : Char) (quoted : Bool) (region : Option Nat)
  /-- An empty quoted string was here: the field exists even if empty. -/
  | mark
  /-- A boundary between the fields of two positional parameters. -/
  | cut
  deriving DecidableEq, Repr, Inhabited

def quotedPieces (s : String) : List Piece := .mark :: s.toList.map (Piece.char · true none)

def literalPieces (s : String) (quoted : Bool) : List Piece :=
  if quoted then quotedPieces s else s.toList.map (Piece.char · false none)

def resultPieces (s : String) (quoted : Bool) (region : Nat) : List Piece :=
  if quoted then quotedPieces s else s.toList.map (Piece.char · false (some region))

def piecesText (ps : List Piece) : String :=
  String.ofList (ps.filterMap fun
    | .char c _ _ => some c
    | _ => none)

def piecesPattern (ps : List Piece) : List PatChar :=
  ps.filterMap fun
    | .char c q _ => some (c, q)
    | _ => none

def isIfsBlank (c : Char) : Bool := c = ' ' ∨ c = '\t' ∨ c = '\n'

/-- What the splitter is doing after a delimiter: nothing, absorbing blanks and one more
separator, or absorbing blanks only. -/
inductive Absorb where
  | none
  | anySeparator (region : Nat)
  | blanksOnly (region : Nat)
  deriving DecidableEq, Repr

/-- The state of field splitting: the fields done (last first) with the place each starts at,
the current field's pieces (last first) and its start, the place of the next piece, and what
is being absorbed. -/
structure Splitter where
  done : List (Nat × List Piece) := []
  cur : List Piece := []
  start : Nat := 0
  pos : Nat := 0
  absorb : Absorb := .none

def Splitter.cutField (s : Splitter) : Splitter :=
  { s with done := (s.start, s.cur.reverse) :: s.done, cur := [], start := s.pos + 1 }

def Splitter.add (s : Splitter) (p : Piece) : Splitter := { s with cur := p :: s.cur, absorb := .none }

def Splitter.skip (s : Splitter) : Splitter := { s with start := s.pos + 1 }

def Splitter.take (ifs : List Char) (s : Splitter) (p : Piece) : Splitter :=
  match p with
  | .mark => s.add p
  | .cut => s.cutField
  | .char _ _ none => s.add p
  | .char c _ (some r) =>
    let isSep := ifs.contains c
    let blank := isSep ∧ isIfsBlank c
    let fresh (s : Splitter) : Splitter :=
      if ¬ isSep then s.add p
      else if s.cur.isEmpty ∧ blank then { s.skip with absorb := .none }
      else { s.cutField with absorb := if blank then .anySeparator r else .blanksOnly r }
    match s.absorb with
    | .anySeparator r' =>
      if r' = r ∧ isSep then
        if blank then s.skip else { s.skip with absorb := .blanksOnly r }
      else fresh { s with absorb := .none }
    | .blanksOnly r' =>
      if r' = r ∧ blank then s.skip else fresh { s with absorb := .none }
    | .none => fresh s

def Splitter.step (ifs : List Char) (s : Splitter) (p : Piece) : Splitter :=
  let s := s.take ifs p
  { s with pos := s.pos + 1 }

/-- Splits the pieces of a word into fields at the separators `ifs`, each with the place of
the piece it starts at. -/
def splitFieldsAt (ifs : List Char) (ps : List Piece) : List (Nat × List Piece) :=
  let s := ps.foldl (Splitter.step ifs) {}
  let fields := if s.cur.isEmpty then s.done else (s.start, s.cur.reverse) :: s.done
  fields.reverse

def splitFields (ifs : List Char) (ps : List Piece) : List (List Piece) :=
  (splitFieldsAt ifs ps).map (·.2)

/-! ## File name generation -/

/-- How file names are generated: with the extended groups of patterns (`ext`), with `**`
standing for any number of directories (`star`), with names starting with a dot matched by any
pattern (`dot`), and without `.` and `..` even for a pattern starting with a dot (`skipDots`). -/
structure GlobStyle where
  ext : Bool := false
  star : Bool := false
  dot : Bool := false
  skipDots : Bool := false

/-- The names a directory of the tree lists for a pattern component: its entries, and `.` and
`..` too when the pattern starts with a dot; a name starting with a dot only then, or with
`dot`. -/
def listing (g : GlobStyle) (tree : FileTree) (dir : List String) (pat : List PatChar) :
    List String :=
  let dotted := match pat with
    | ('.', _) :: _ => true
    | _ => false
  let names := (tree.children dir).map (·.1)
  let names := if dotted && !g.skipDots then "." :: ".." :: names else names
  names.filter fun n => (dotted || g.dot || !n.startsWith ".") && patternMatches g.ext pat n

def treeHas (tree : FileTree) (cwd : List String) (parts : List String) : Bool :=
  match tree.resolve ⟨"", cwd ++ parts⟩ with
  | .ok place => place == FileTree.Place.above || (place.loc.bind tree.find?).isSome
  | .error _ => false

def treeDir (tree : FileTree) (cwd : List String) (parts : List String) : Option (List String) :=
  match tree.resolve ⟨"", cwd ++ parts⟩ with
  | .ok place => match place.loc with
    | some loc => if tree.find? loc = some .dir then some loc else none
    | none => none
  | .error _ => none

/-- The paths below a directory written `written`, each directory before what it holds; a
name starting with a dot only with `dot`. -/
def descendants (g : GlobStyle) (tree : FileTree) (cwd : List String) :
    Nat → List String → List (List String)
  | 0, _ => []
  | k + 1, written =>
    match treeDir tree cwd written with
    | none => []
    | some loc =>
      let names := ((tree.children loc).map (·.1)).filter fun n => g.dot || !n.startsWith "."
      names.flatMap fun n => (written ++ [n]) :: descendants g tree cwd k (written ++ [n])

/-- The paths that pattern components match below a directory written `written` (its
components from the working directory, as written). -/
def globFrom (g : GlobStyle) (tree : FileTree) (cwd : List String) :
    List String → List (List PatChar) → List (List String)
  | written, [] => if treeHas tree cwd written then [written] else []
  | written, c :: rest =>
    if g.star && c == [('*', false), ('*', false)] then
      let below := descendants g tree cwd (tree.entries.length + 1) written
      if rest.isEmpty then (if written.isEmpty then [] else [written ++ [""]]) ++ below
      else
        let dirs := written :: below.filter fun p => (treeDir tree cwd p).isSome
        dirs.flatMap fun d => globFrom g tree cwd d rest
    else if hasMeta g.ext c then
      match treeDir tree cwd written with
      | none => []
      | some loc =>
        let names := listing g tree loc c
        names.flatMap fun n =>
          if rest.isEmpty then [written ++ [n]]
          else globFrom g tree cwd (written ++ [n]) rest
    else globFrom g tree cwd (written ++ [patText c]) rest

/-- The names a field's pattern matches, sorted; none for an absolute pattern, which looks
outside the tree. -/
def globField (g : GlobStyle) (tree : FileTree) (cwd : List String) (pat : List PatChar) :
    List String :=
  let comps := splitComponents pat
  match comps with
  | [] :: _ :: _ => []
  | _ =>
    let trailing := match pat.getLast? with
      | some ('/', _) => true
      | _ => false
    let comps := comps.filter (· ≠ [])
    let found := (globFrom g tree cwd [] comps).filter fun parts =>
      !trailing || (treeDir tree cwd parts).isSome
    let texts := found.map fun parts => "/".intercalate parts ++ (if trailing then "/" else "")
    texts.mergeSort fun a b => decide (a ≤ b)

end SqlMigration.Shell
