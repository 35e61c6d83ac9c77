/-!
# Sorting by a test that may fail

`sortWith` sorts a list stably by a strict order given as a test `lt` that may fail. It makes
its tests in one fixed sequence, so the first failing test is always the same one, and when the
order is not consistent (a value that is neither less than, greater than nor equal to another)
the arrangement is still the one that sequence gives.

The sequence is that of a natural merge sort on runs:

* The list is cut into runs from the left. A run is the longest prefix that ascends (no element
  less than the one before) or strictly descends; a descending run is reversed. A run shorter
  than `minRun` of the list's length is made that long (or as long as what is left) by inserting
  the elements after it one at a time, each placed by binary search.
* Each run but the first gets a power, the depth in a balanced merge tree at which the run
  before it would meet it (`boundaryPower`); runs waiting on the stack with a greater power are
  merged first. At the end the runs left are merged from the top.
* Two runs are merged after trimming: the elements of the first that are not greater than the
  second's first element, and those of the second that are not less than the first's last, are
  already in place. The merge then takes one element at a time until one side has won
  `threshold` times in a row, and then gallops: it finds how many elements of a side come next
  by an exponential search and then a binary one. It goes back to single steps once both sides
  move fewer than seven elements in a gallop. The threshold falls while galloping pays and rises
  when it stops, and carries over from one merge to the next. The merge works from the front
  when the first run is not the longer one, and from the back otherwise.

With fewer than 64 elements the whole list is one run, made by insertion.
-/

namespace SqlMigration

section Sorting

variable {α ε : Type}

/-! ## Runs -/

/-- How many of `xs` continue a run after `prev`: each element continues it while the test
of it against the element before gives `descending`. -/
def runTail (lt : α → α → Except ε Bool) (descending : Bool) (prev : α) :
    List α → Except ε Nat
  | [] => .ok 0
  | x :: xs => do
    if (← lt x prev) == descending then return (← runTail lt descending x xs) + 1
    else return 0

/-- The length of the run at the head of a list, and whether it descends strictly: it
descends when its second element is less than its first. -/
def headRun (lt : α → α → Except ε Bool) : List α → Except ε (Nat × Bool)
  | a :: b :: rest => do
    let descending ← lt b a
    return ((← runTail lt descending b rest) + 2, descending)
  | xs => .ok (xs.length, false)

/-- The least length of a run in a list of `n` elements: `n` itself below 64, and otherwise
the six leading bits of `n`, plus one when any bit after them is set. -/
def minRun (n : Nat) : Nat := go n false
where
  /-- Halves `n` until it is below 64, noting whether a set bit was dropped. -/
  go (n : Nat) (dropped : Bool) : Nat :=
    if h : n < 64 then n + (if dropped then 1 else 0)
    else go (n / 2) (dropped || n % 2 == 1)
  termination_by n
  decreasing_by omega

/-- The power of the boundary between two adjacent runs, the first starting at `start` with
`n1` elements and the second with `n2`, in a list of `n`: the first binary digit at which the
fractions `mid / n` of the two runs' midpoints differ. Doubled midpoints keep it in whole
numbers. -/
def boundaryPower (start n1 n2 n : Nat) : Nat :=
  go (n + 2) (2 * start + n1) (2 * start + 2 * n1 + n2) 1
where
  /-- Compares the digits of `a / n` and `b / n` one at a time, counting them in `power`. -/
  go : Nat → Nat → Nat → Nat → Nat
    | 0, _, _, power => power
    | fuel + 1, a, b, power =>
      if a ≥ n then go fuel (2 * (a - n)) (2 * (b - n)) (power + 1)
      else if b ≥ n then power
      else go fuel (2 * a) (2 * b) (power + 1)

/-! ## Searching a sorted run -/

/-- The first place in `[lo, hi)` at which `after` fails, found by halving, where `after`
holds at every place before some point and at none from it on. -/
def bisect (after : Nat → Except ε Bool) (lo hi : Nat) : Except ε Nat :=
  if lo < hi then do
    let mid := lo + (hi - lo) / 2
    if ← after mid then bisect after (mid + 1) hi else bisect after lo mid
  else .ok lo
termination_by hi - lo

/-- The place of `pivot` among the sorted elements between `lo` and `hi`: after every element
that it is not less than, found by halving the range. -/
def placeOf (lt : α → α → Except ε Bool) (sorted : Array α) (pivot : α) (lo hi : Nat) :
    Except ε Nat :=
  bisect (fun m => (! ·) <$> lt pivot (sorted.getD m pivot)) lo hi

/-- Inserts each element into the sorted array at its place. -/
def insertEach (lt : α → α → Except ε Bool) (sorted : Array α) : List α → Except ε (Array α)
  | [] => .ok sorted
  | x :: xs => do
    let i ← placeOf lt sorted x 0 sorted.size
    insertEach lt ((sorted.toList.take i ++ x :: sorted.toList.drop i).toArray) xs

/-- Widens a step through `0, 1, 3, 7, …` while it stays below `limit` and `more` holds at it:
the last step at which `more` held (0 when none did) and the first at which it did not, or
`limit`. -/
def widen (more : Nat → Except ε Bool) (limit : Nat) : Nat → Nat → Nat → Except ε (Nat × Nat)
  | 0, last, step => .ok (last, min step limit)
  | fuel + 1, last, step =>
    if step < limit then do
      if ← more step then widen more limit fuel step (2 * step + 1)
      else return (last, step)
    else .ok (last, limit)

/-- Where `key` goes in the sorted array `a`, before every element it is not greater than.
The search starts at `hint`, widens its steps to the side where the place lies, then halves
the stretch it has found. -/
def gallopLeft (lt : α → α → Except ε Bool) (key : α) (a : Array α) (hint : Nat) :
    Except ε Nat := do
  let item (i : Nat) : α := a.getD i key
  let below (m : Nat) : Except ε Bool := lt (item m) key
  if ← below hint then
    let (last, step) ← widen (fun s => below (hint + s)) (a.size - hint) (a.size + 1) 0 1
    bisect below (hint + last + 1) (hint + step)
  else
    let (last, step) ← widen (fun s => (! ·) <$> below (hint - s)) (hint + 1) (a.size + 1) 0 1
    bisect below (hint + 1 - step) (hint - last)

/-- Where `key` goes in the sorted array `a`, after every element it is not less than; the
search goes as in `gallopLeft`. -/
def gallopRight (lt : α → α → Except ε Bool) (key : α) (a : Array α) (hint : Nat) :
    Except ε Nat := do
  let item (i : Nat) : α := a.getD i key
  let notAbove (m : Nat) : Except ε Bool := (! ·) <$> lt key (item m)
  if ← lt key (item hint) then
    let (last, step) ← widen (fun s => lt key (item (hint - s))) (hint + 1) (a.size + 1) 0 1
    bisect notAbove (hint + 1 - step) (hint - last)
  else
    let (last, step) ← widen (fun s => notAbove (hint + s)) (a.size - hint) (a.size + 1) 0 1
    bisect notAbove (hint + last + 1) (hint + step)

/-! ## Merging two runs -/

/-- The number of elements a gallop must move, on one side or the other, for galloping to go
on. -/
def gallopLength : Nat := 7

/-- Merges from the front: `as` and `bs` are the rest of the two runs and `out` what is merged
so far, last first; `aWins` and `bWins` count the single steps each side has won in a row, and
`galloping` says which way the merge goes on. `threshold` is the number of wins in a row that
starts a gallop, and `kept` the threshold the next merge starts with. The result is the merged
list and that threshold. -/
def frontSteps (lt : α → α → Except ε Bool) :
    Nat → List α → List α → List α → Nat → Nat → Bool → Nat → Nat → Except ε (List α × Nat)
  | 0, as, bs, out, _, _, _, _, kept => .ok (out.reverse ++ as ++ bs, kept)
  | fuel + 1, as, bs, out, aWins, bWins, false, threshold, kept =>
    match as, bs with
    | a :: as', b :: bs' => do
      if ← lt b a then
        if bs'.isEmpty then return ((b :: out).reverse ++ as, kept)
        else if bWins + 1 ≥ threshold then
          frontSteps lt fuel as bs' (b :: out) 0 0 true (threshold + 1) kept
        else frontSteps lt fuel as bs' (b :: out) 0 (bWins + 1) false threshold kept
      else
        if as'.length = 1 then return ((a :: out).reverse ++ bs ++ as', kept)
        else if aWins + 1 ≥ threshold then
          frontSteps lt fuel as' bs (a :: out) 0 0 true (threshold + 1) kept
        else frontSteps lt fuel as' bs (a :: out) (aWins + 1) 0 false threshold kept
    | _, _ => .ok (out.reverse ++ as ++ bs, kept)
  | fuel + 1, as, bs, out, _, _, true, threshold, _ =>
    let threshold := if threshold > 1 then threshold - 1 else threshold
    match bs with
    | [] => .ok (out.reverse ++ as, threshold)
    | b :: bs' => do
      -- the first run's elements that come before `b`
      let k ← gallopRight lt b as.toArray 0
      let out := (as.take k).reverse ++ out
      let as := as.drop k
      if k > 0 ∧ as.length = 1 then return (out.reverse ++ bs ++ as, threshold)
      if k > 0 ∧ as.isEmpty then return (out.reverse ++ bs, threshold)
      let out := b :: out
      if bs'.isEmpty then return (out.reverse ++ as, threshold)
      match as with
      | [] => return (out.reverse ++ bs', threshold)
      | a :: as' =>
        -- the second run's elements that come before `a`
        let k' ← gallopLeft lt a bs'.toArray 0
        let out := (bs'.take k').reverse ++ out
        let bs := bs'.drop k'
        if k' > 0 ∧ bs.isEmpty then return (out.reverse ++ as, threshold)
        let out := a :: out
        if as'.length = 1 then return (out.reverse ++ bs ++ as', threshold)
        if k ≥ gallopLength ∨ k' ≥ gallopLength then
          frontSteps lt fuel as' bs out 0 0 true threshold threshold
        else frontSteps lt fuel as' bs out 0 0 false (threshold + 1) (threshold + 1)

/-- Merges from the back: `ra` and `rb` are the rest of the two runs, last element first, and
`out` the merged end, in order; the rest is as in `frontSteps`, with the greater element taken
each time and the second run's on ties. -/
def backSteps (lt : α → α → Except ε Bool) :
    Nat → List α → List α → List α → Nat → Nat → Bool → Nat → Nat → Except ε (List α × Nat)
  | 0, ra, rb, out, _, _, _, _, kept => .ok (ra.reverse ++ rb.reverse ++ out, kept)
  | fuel + 1, ra, rb, out, aWins, bWins, false, threshold, kept =>
    match ra, rb with
    | a :: ra', b :: rb' => do
      if ← lt b a then
        if ra'.isEmpty then return (rb.reverse ++ a :: out, kept)
        else if aWins + 1 ≥ threshold then
          backSteps lt fuel ra' rb (a :: out) 0 0 true (threshold + 1) kept
        else backSteps lt fuel ra' rb (a :: out) (aWins + 1) 0 false threshold kept
      else
        if rb'.length = 1 then return (rb'.reverse ++ ra.reverse ++ b :: out, kept)
        else if bWins + 1 ≥ threshold then
          backSteps lt fuel ra rb' (b :: out) 0 0 true (threshold + 1) kept
        else backSteps lt fuel ra rb' (b :: out) 0 (bWins + 1) false threshold kept
    | _, _ => .ok (ra.reverse ++ rb.reverse ++ out, kept)
  | fuel + 1, ra, rb, out, _, _, true, threshold, _ =>
    let threshold := if threshold > 1 then threshold - 1 else threshold
    match rb with
    | [] => .ok (ra.reverse ++ out, threshold)
    | b :: rb' => do
      -- the first run's elements that come after `b`
      let k := ra.length - (← gallopRight lt b ra.reverse.toArray (ra.length - 1))
      let out := (ra.take k).reverse ++ out
      let ra := ra.drop k
      if k > 0 ∧ ra.isEmpty then return (rb.reverse ++ out, threshold)
      let out := b :: out
      if rb'.length = 1 then return (rb'.reverse ++ ra.reverse ++ out, threshold)
      match ra with
      | [] => return (rb'.reverse ++ out, threshold)
      | a :: ra' =>
        -- the second run's elements that come after `a`
        let k' := rb'.length - (← gallopLeft lt a rb'.reverse.toArray (rb'.length - 1))
        let out := (rb'.take k').reverse ++ out
        let rb := rb'.drop k'
        if k' > 0 ∧ rb.length = 1 then return (rb.reverse ++ ra.reverse ++ out, threshold)
        if k' > 0 ∧ rb.isEmpty then return (ra.reverse ++ out, threshold)
        let out := a :: out
        if ra'.isEmpty then return (rb.reverse ++ out, threshold)
        if k ≥ gallopLength ∨ k' ≥ gallopLength then
          backSteps lt fuel ra' rb out 0 0 true threshold threshold
        else backSteps lt fuel ra' rb out 0 0 false (threshold + 1) (threshold + 1)

/-- Merges two trimmed runs from the front: the second run's first element goes first, as
trimming showed it to be less than the first run's first. -/
def mergeFront (lt : α → α → Except ε Bool) (a b : List α) (threshold : Nat) :
    Except ε (List α × Nat) :=
  match a, b with
  | [], _ | _, [] => .ok (a ++ b, threshold)
  | a, b₀ :: bs =>
    if bs.isEmpty then .ok (b₀ :: a, threshold)
    else if a.length = 1 then .ok (b₀ :: bs ++ a, threshold)
    else frontSteps lt (a.length + b.length + 1) a bs [b₀] 0 0 false threshold threshold

/-- Merges two trimmed runs from the back: the first run's last element goes last, as
trimming showed it to be greater than the second run's last. -/
def mergeBack (lt : α → α → Except ε Bool) (a b : List α) (threshold : Nat) :
    Except ε (List α × Nat) :=
  match a.reverse, b.reverse with
  | [], _ | _, [] => .ok (a ++ b, threshold)
  | aLast :: ra, rb =>
    if ra.isEmpty then .ok (b ++ [aLast], threshold)
    else if rb.length = 1 then .ok (b ++ ra.reverse ++ [aLast], threshold)
    else backSteps lt (a.length + b.length + 1) ra rb [aLast] 0 0 false threshold threshold

/-- Merges two adjacent sorted runs, the first run's elements going first among equals. The
ends already in place are set aside, and the rest is merged from the side of the shorter
run. -/
def mergeRuns (lt : α → α → Except ε Bool) (a b : List α) (threshold : Nat) :
    Except ε (List α × Nat) :=
  match b with
  | [] => .ok (a, threshold)
  | b₀ :: _ => do
    let k ← gallopRight lt b₀ a.toArray 0
    let before := a.take k
    let a := a.drop k
    match a.getLast? with
    | none => return (before ++ b, threshold)
    | some aLast =>
      let n ← gallopLeft lt aLast b.toArray (b.length - 1)
      if n = 0 then return (before ++ a ++ b, threshold)
      let (merged, threshold) ←
        if a.length ≤ n then mergeFront lt a (b.take n) threshold
        else mergeBack lt a (b.take n) threshold
      return (before ++ merged ++ b.drop n, threshold)

/-! ## The stack of runs -/

/-- A sorted run waiting to be merged: its elements, where it starts in the list, and the
power of its boundary with the run after it. -/
structure PendingRun (α : Type) where
  items : List α
  start : Nat
  power : Nat := 0

/-- Merges two runs of the stack (top first): the top two, or with `deep` the two below the
top. The merged run keeps the place and power of the lower one. -/
def mergePending (lt : α → α → Except ε Bool) (stack : List (PendingRun α)) (deep : Bool)
    (threshold : Nat) : Except ε (List (PendingRun α) × Nat) :=
  match deep, stack with
  | false, b :: a :: rest => do
    let (items, threshold) ← mergeRuns lt a.items b.items threshold
    return ({ a with items } :: rest, threshold)
  | true, c :: b :: a :: rest => do
    let (items, threshold) ← mergeRuns lt a.items b.items threshold
    return (c :: { a with items } :: rest, threshold)
  | _, _ => .ok (stack, threshold)

/-- Merges the top two runs while the run below the top has a greater power than `power`. -/
def settle (lt : α → α → Except ε Bool) (power : Nat) :
    Nat → List (PendingRun α) → Nat → Except ε (List (PendingRun α) × Nat)
  | 0, stack, threshold => .ok (stack, threshold)
  | fuel + 1, stack, threshold =>
    match stack with
    | _ :: below :: _ =>
      if below.power > power then do
        let (stack, threshold) ← mergePending lt stack false threshold
        settle lt power fuel stack threshold
      else .ok (stack, threshold)
    | _ => .ok (stack, threshold)

/-- Merges the runs left on the stack into one, from the top: the two below the top when the
third is shorter than the top, else the top two. -/
def collapse (lt : α → α → Except ε Bool) :
    Nat → List (PendingRun α) → Nat → Except ε (List α)
  | 0, stack, _ => .ok (stack.reverse.flatMap (·.items))
  | _ + 1, [], _ => .ok []
  | _ + 1, [r], _ => .ok r.items
  | fuel + 1, stack, threshold => do
    let deep := match stack with
      | c :: _ :: a :: _ => decide (a.items.length < c.items.length)
      | _ => false
    let (stack, threshold) ← mergePending lt stack deep threshold
    collapse lt fuel stack threshold

/-- Cuts the rest of a list of `total` elements, from place `lo`, into runs of at least
`least` elements, pushing each onto the stack after settling the stack by its power. -/
def cutRuns (lt : α → α → Except ε Bool) (total least : Nat) :
    Nat → List α → Nat → List (PendingRun α) → Nat → Except ε (List (PendingRun α) × Nat)
  | 0, _, _, stack, threshold => .ok (stack, threshold)
  | _ + 1, [], _, stack, threshold => .ok (stack, threshold)
  | fuel + 1, rest, lo, stack, threshold => do
    let (n, descending) ← headRun lt rest
    let run := if descending then (rest.take n).reverse else rest.take n
    let (run, n) ←
      if n < least then do
        let force := min rest.length least
        let sorted ← insertEach lt run.toArray ((rest.drop n).take (force - n))
        pure (sorted.toList, force)
      else pure (run, n)
    let (stack, threshold) ← match stack with
      | top :: _ => do
        let power := boundaryPower top.start top.items.length n total
        let (stack, threshold) ← settle lt power (stack.length + 1) stack threshold
        pure (match stack with
          | t :: more => { t with power } :: more
          | [] => [], threshold)
      | [] => pure (stack, threshold)
    cutRuns lt total least fuel (rest.drop n) (lo + n) ({ items := run, start := lo } :: stack)
      threshold

/-! ## Sorting -/

/-- Sorts stably by the strict order `lt`, stopping at the first test that fails. -/
def sortWith (lt : α → α → Except ε Bool) (xs : List α) : Except ε (List α) := do
  if xs.length < 2 then return xs
  let (stack, threshold) ← cutRuns lt xs.length (minRun xs.length) (xs.length + 1) xs 0 []
    gallopLength
  collapse lt (stack.length + 1) stack threshold

/-- Sorts stably, greatest first, by the strict order `lt`: the list is reversed, sorted and
reversed again, so equal elements keep their order. -/
def sortDescendingWith (lt : α → α → Except ε Bool) (xs : List α) : Except ε (List α) :=
  List.reverse <$> sortWith lt xs.reverse

end Sorting

end SqlMigration
