/-!
# File modes

The modes a permission change is written in, as the programs that take one read them: octal
digits, or comma-separated clauses of the classes they touch (`u`, `g`, `o`, `a`) and one or
more actions, each an operator (`+`, `-`, `=`) with the permissions it adds, removes or sets.
-/

namespace SqlMigration.Shell

/-- The permission bits a mode names, changing no bits at first, for a file and for a
directory: octal digits up to `7777`, or clauses like `u=rw,go+r` (`X` adds search permission
for directories only). -/
def modeBits? (s : String) : Option (Nat × Nat) :=
  if s.isEmpty then none
  else if s.toList.all fun c => '0' ≤ c ∧ c ≤ '7' then
    let v := s.toList.foldl (fun a c => a * 8 + (c.toNat - 48)) 0
    if v > 0o7777 then none else some (v, v)
  else
    (s.splitOn ",").foldlM (fun (acc : Nat × Nat) clause => clauseBits acc clause.toList) (0, 0)
where
  /-- The bits after one clause. -/
  clauseBits (acc : Nat × Nat) (cs : List Char) : Option (Nat × Nat) :=
    let who := cs.takeWhile fun c => "ugoa".toList.contains c
    let rest := cs.drop who.length
    let mask := if who.isEmpty then 0o7777 else who.foldl (fun m c => m ||| match c with
      | 'u' => 0o4700 | 'g' => 0o2070 | 'o' => 0o1007 | _ => 0o7777) 0
    actions (rest.length + 1) mask acc rest
  /-- The bits after the actions `[-+=][rwxXst]*` of a clause. -/
  actions : Nat → Nat → Nat × Nat → List Char → Option (Nat × Nat)
    | 0, _, _, _ => none
    | _ + 1, _, _, [] => none
    | k + 1, mask, (f, d), op :: more =>
      if ¬ "-+=".toList.contains op then none
      else
        let kept := more.takeWhile fun c => "rwxXst".toList.contains c
        let (perms, after) := match more with
          | c :: rest => if "ugo".toList.contains c then ([], rest) else (kept, more.drop kept.length)
          | [] => ([], [])
        if ¬ after.isEmpty ∧ ¬ "-+=".toList.contains (after.headD ' ') then none
        else
          let bitsOf (dir : Bool) : Nat := perms.foldl (fun b c => b ||| match c with
            | 'r' => 0o444 | 'w' => 0o222 | 'x' => 0o111 | 'X' => if dir then 0o111 else 0
            | 's' => 0o6000 | _ => 0o1000) 0
          let apply (old : Nat) (dir : Bool) : Nat :=
            let b := bitsOf dir &&& mask
            match op with
            | '+' => old ||| b
            | '-' => old &&& (0o7777 - b)
            | _ => (old &&& (0o7777 - mask)) ||| b
          let next := (apply f false, apply d true)
          if after.isEmpty then some next else actions k mask next after

end SqlMigration.Shell
