import SqlMigration.Shell.Parse

/-!
# Brace expansion

`bash` expands braces in a word before anything else: `x{a,b}y` is the two words `xay` and
`xby`, and `{1..3}` or `{a..c}` a sequence.
-/

namespace SqlMigration.Shell

/-- The parts up to the unquoted `}` matching an open `{` of an exploded word, and the parts
after it; braces nested in between must match too. -/
def braceBody : Nat → Nat → Word → Word → Option (Word × Word)
  | 0, _, _, _ => none
  | _ + 1, _, _, [] => none
  | k + 1, depth, acc, p :: rest =>
    match plainChar? p with
    | some '\x7d' =>
      if depth = 0 then some (acc.reverse, rest) else braceBody k (depth - 1) (p :: acc) rest
    | some '\x7b' => braceBody k (depth + 1) (p :: acc) rest
    | _ => braceBody k depth (p :: acc) rest

/-- The alternatives of the body of a brace expression: its parts cut at the unquoted commas
outside nested braces. -/
def braceAlternatives (body : Word) : List Word :=
  let (alts, cur, _) := body.foldl (fun (acc : List Word × Word × Nat) p =>
    let (alts, cur, depth) := acc
    match plainChar? p with
    | some ',' => if depth = 0 then (cur.reverse :: alts, [], depth) else (alts, p :: cur, depth)
    | some '\x7b' => (alts, p :: cur, depth + 1)
    | some '\x7d' => (alts, p :: cur, depth - 1)
    | _ => (alts, p :: cur, depth)) ([], [], 0)
  (cur.reverse :: alts).reverse

def braceInteger? (s : String) : Option Int :=
  match s.toList with
  | '-' :: ds => if ¬ ds.isEmpty ∧ ds.all Char.isDigit then some (-(String.ofList ds).toNat!) else none
  | '+' :: ds => if ¬ ds.isEmpty ∧ ds.all Char.isDigit then some (String.ofList ds).toNat! else none
  | ds => if ¬ ds.isEmpty ∧ ds.all Char.isDigit then some (String.ofList ds).toNat! else none

/-- The numbers from `a` toward `b` in steps of `step` (at least one), `b` included when a step
lands on it. -/
def braceNumbers (a b : Int) (step : Nat) : List Int :=
  let step := max step 1
  let count := (if a ≤ b then b - a else a - b).toNat / step + 1
  (List.range count).map fun i => if a ≤ b then a + (i * step : Nat) else a - (i * step : Nat)

def padInteger (width : Nat) (v : Int) : String :=
  let digits := toString v.natAbs
  let sign := if v < 0 then "-" else ""
  let room := width - sign.length
  sign ++ String.ofList (List.replicate (room - digits.length) '0') ++ digits

def zeroPadded (s : String) : Bool :=
  match s.toList.dropWhile (fun c => c = '-' ∨ c = '+') with
  | '0' :: _ :: _ => true
  | _ => false

def braceSequence? (body : Word) : Option (List String) :=
  let chars := body.map plainChar?
  if chars.any Option.isNone then none else
  let text := String.ofList (chars.filterMap id)
  let parts := text.splitOn ".."
  let (ends, step?) := match parts with
    | [a, b] => (some (a, b), some "1")
    | [a, b, c] => (some (a, b), some c)
    | _ => (none, none)
  match ends, step?.bind braceInteger? with
  | some (a, b), some step =>
    match braceInteger? a, braceInteger? b with
    | some x, some y =>
      let width := if zeroPadded a ∨ zeroPadded b then max a.length b.length else 0
      some ((braceNumbers x y step.natAbs).map (padInteger width))
    | _, _ =>
      match a.toList, b.toList with
      | [x], [y] =>
        if x.isAlpha ∧ y.isAlpha then
          some ((braceNumbers x.toNat y.toNat step.natAbs).map fun v => String.singleton (Char.ofNat v.toNat))
        else none
      | _, _ => none
  | _, _ => none

/-- The words a word stands for after brace expansion, the word itself when it has no brace
expression. -/
def expandBraces : Nat → Word → Word → List Word
  | 0, before, rest => [implodeWord (before.reverse ++ rest)]
  | _ + 1, before, [] => [implodeWord before.reverse]
  | k + 1, before, p :: rest =>
    let skip := expandBraces k (p :: before) rest
    if plainChar? p ≠ some '\x7b' then skip else
    match braceBody rest.length 0 [] rest with
    | none => skip
    | some (body, after) =>
      let alts := braceAlternatives body
      let choices : Option (List Word) :=
        if alts.length ≥ 2 then some alts
        else (braceSequence? body).map fun items => items.map fun t => [Part.lit t false]
      match choices with
      | none => skip
      | some cs => cs.flatMap fun c => expandBraces k [] (before.reverse ++ explodeWord c ++ after)

def braceWords (w : Word) : List Word :=
  let ex := explodeWord w
  expandBraces (4 * ex.length + 8) [] ex

end SqlMigration.Shell
