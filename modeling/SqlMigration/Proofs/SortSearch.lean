import SqlMigration.Proofs.Sorting
import SqlMigration.Proofs.StableSort

/-!
# The searches and runs of the sort

A test that compares keys, on the elements it is asked about (`ComparesBy`), makes every search
of `sortWith` find what it looks for in a run with ascending keys:

* halving finds the end of the places where its test holds (`bisect_eq`), and widening finds a
  stretch that holds that end (`widen_eq`);
* the gallops count the run's elements before the key they are given: those with a less key
  (`gallopLeft_eq`) and those with a key that is not greater (`gallopRight_eq`);
* binary insertion is a stable merge of one element (`insertEach_eq`);
* the run at the head of the list has keys that ascend, or descend strictly
  (`headRun_eq`), so it is sorted as it stands or reversed (`runOf_eq_mergeSort`).
-/

namespace SqlMigration

variable {α ε κ : Type} [LinearOrder κ]

/-- A test that answers, for the elements `S` admits, whether the first one's key is less. -/
def ComparesBy (lt : α → α → Except ε Bool) (S : α → Prop) (key : α → κ) : Prop :=
  ∀ a b, S a → S b → lt a b = .ok (decide (key a < key b))

/-- Two neighbours of a run: keys that descend strictly, or keys that do not descend. -/
def RunStep (key : α → κ) (descending : Bool) (a b : α) : Prop :=
  if descending then key b < key a else key a ≤ key b

theorem RunStep.trans {key : α → κ} {descending : Bool} {a b c : α}
    (hab : RunStep key descending a b) (hbc : RunStep key descending b c) :
    RunStep key descending a c := by
  cases descending
  · exact le_trans (α := κ) hab hbc
  · exact lt_trans (α := κ) hbc hab

/-- A run with keys that descend strictly is sorted by reversing it, and one with keys that do
not descend is sorted already. -/
theorem runOf_eq_mergeSort (key : α → κ) {descending : Bool} {l : List α}
    (h : l.Pairwise (RunStep key descending)) :
    (if descending then l.reverse else l) = l.mergeSort (keyLE key) := by
  cases descending
  · exact (mergeSort_of_ascending key h).symm
  · exact (mergeSort_of_descending key h).symm

/-! ## Searching by halving and by widening steps -/

/-- Halving `[lo, hi)` finds the end `p` of the places where the test holds. -/
theorem bisect_eq {after : Nat → Except ε Bool} {p lo hi : Nat} (hlo : lo ≤ p) (hhi : p ≤ hi)
    (hafter : ∀ m, lo ≤ m → m < hi → after m = .ok (decide (m < p))) :
    bisect after lo hi = .ok p := by
  fun_induction bisect after lo hi with
  | case1 lo hi hlt mid ih₁ ih₂ =>
    rw [hafter mid (by omega) (by omega), except_ok_bind]
    by_cases hm : mid < p
    · simp only [hm, decide_true, ↓reduceIte]
      exact ih₁ (by omega) hhi fun m h₁ h₂ => hafter m (by omega) h₂
    · simp only [hm, decide_false, Bool.false_eq_true, ↓reduceIte]
      exact ih₂ hlo (by omega) fun m h₁ h₂ => hafter m h₁ (by omega)
  | case2 lo hi hge =>
    congr 1
    omega

/-- Widening the steps `0, 1, 3, 7, …` below `limit`, with fuel enough to reach it, stops with a
step where the test held and a step at which it failed: the end `q` of the steps where it holds
lies between them. -/
theorem widen_eq (more : Nat → Except ε Bool) (limit q : Nat)
    (hmore : ∀ s, s < limit → more s = .ok (decide (s < q))) (hq : q ≤ limit) :
    ∀ fuel last step, last < q → limit < step + fuel →
      ∃ l s, widen more limit fuel last step = .ok (l, s) ∧ l < q ∧ q ≤ s ∧ s ≤ limit
  | 0, last, step, hl, hf => ⟨last, min step limit, rfl, hl, by omega, by omega⟩
  | fuel + 1, last, step, hl, hf => by
    simp only [widen]
    split
    · rw [hmore step ‹_›, except_ok_bind]
      by_cases hs : step < q
      · simp only [hs, decide_true, ↓reduceIte]
        exact widen_eq more limit q hmore hq fuel step (2 * step + 1) hs (by omega)
      · simp only [hs, decide_false, Bool.false_eq_true, ↓reduceIte]
        exact ⟨last, step, rfl, hl, by omega, by omega⟩
    · exact ⟨last, limit, rfl, hl, hq, Nat.le_refl _⟩

/-! ## Gallops -/

section Gallop

variable {lt : α → α → Except ε Bool} {S : α → Prop} {key : α → κ} (hlt : ComparesBy lt S key)

theorem getD_toArray_of_lt {l : List α} {m : Nat} (hm : m < l.length) (d : α) :
    l.toArray.getD m d = l[m] := by
  simp [List.getElem?_eq_getElem hm]

theorem getD_toArray_of_le {l : List α} {m : Nat} (hm : l.length ≤ m) (d : α) :
    l.toArray.getD m d = d := by
  simp [List.getElem?_eq_none hm]

include hlt in
/-- Asking whether an element of a run is less than `x` answers whether it lies before the
run's elements with a key that is not less; past the run the element read is `x` itself. -/
theorem lt_getD_key {l : List α} (hl : Within S l) (hs : l.Pairwise (fun a b => key a ≤ key b))
    {x : α} (hx : S x) (m : Nat) :
    lt (l.toArray.getD m x) x =
      .ok (decide (m < (l.takeWhile (fun y => key y < key x)).length)) := by
  have hdown : DownClosed key (fun y => decide (key y < key x)) := fun a b hab hb => by
    simp only [decide_eq_true_eq] at hb ⊢
    exact lt_of_le_of_lt hab hb
  by_cases hm : m < l.length
  · rw [getD_toArray_of_lt hm, hlt _ _ (hl _ (List.getElem_mem hm)) hx]
    congr 1
    exact Bool.eq_iff_iff.2 (by simpa using getElem_iff_lt_length_takeWhile key hdown hs m hm)
  · have hle : (l.takeWhile (fun y => key y < key x)).length ≤ l.length :=
      (List.takeWhile_sublist _).length_le
    rw [getD_toArray_of_le (by omega), hlt _ _ hx hx]
    simp only [lt_self_iff_false, decide_false]
    congr 1
    exact (decide_eq_false (by omega)).symm

include hlt in
/-- Asking whether `x` is less than an element of a run answers whether the element lies past
the run's elements with a key that is not greater. -/
theorem lt_key_getD {l : List α} (hl : Within S l) (hs : l.Pairwise (fun a b => key a ≤ key b))
    {x : α} (hx : S x) {m : Nat} (hm : m < l.length) :
    lt x (l.toArray.getD m x) = .ok (decide ((l.takeWhile (keyLE key · x)).length ≤ m)) := by
  have hdown : DownClosed key (keyLE key · x) := fun a b hab hb => by
    simp only [keyLE_eq_true] at hb ⊢
    exact le_trans hab hb
  rw [getD_toArray_of_lt hm, hlt _ _ hx (hl _ (List.getElem_mem hm))]
  congr 1
  have h := getElem_iff_lt_length_takeWhile key hdown hs m hm
  simp only [keyLE_eq_true] at h
  exact Bool.eq_iff_iff.2 (by simp only [decide_eq_true_eq, ← not_le, h]; omega)

include hlt in
/-- The gallop to the left of a run, from any hint within it, counts the run's elements with a
key less than `x`'s. -/
theorem gallopLeft_eq {l : List α} (hl : Within S l) (hs : l.Pairwise (fun a b => key a ≤ key b))
    {x : α} (hx : S x) {hint : Nat} (hh : hint ≤ l.length) :
    gallopLeft lt x l.toArray hint = .ok (l.takeWhile (fun y => key y < key x)).length := by
  have hpl : (l.takeWhile (fun y => key y < key x)).length ≤ l.length :=
    (List.takeWhile_sublist _).length_le
  have hbelow := lt_getD_key hlt hl hs hx
  generalize (l.takeWhile (fun y => key y < key x)).length = p at hbelow hpl ⊢
  simp only [gallopLeft, hbelow, except_ok_bind, except_map_ok, List.size_toArray]
  by_cases hhint : hint < p
  · -- the place lies after the hint: widen to the right
    simp only [hhint, decide_true, ↓reduceIte]
    obtain ⟨last, step, hw, hlast, hq, hstep⟩ :=
      widen_eq (fun s => (.ok (decide (hint + s < p)) : Except ε Bool)) (l.length - hint)
        (p - hint) (fun s _ => by congr 1; exact Bool.eq_iff_iff.2 (by simp; omega)) (by omega)
        (l.length + 1) 0 1 (by omega) (by omega)
    rw [hw, except_ok_bind]
    exact bisect_eq (by omega) (by omega) fun m _ _ => rfl
  · -- the place lies at or before the hint: widen to the left
    simp only [hhint, decide_false, Bool.false_eq_true, ↓reduceIte]
    obtain ⟨last, step, hw, hlast, hq, hstep⟩ :=
      widen_eq (fun s => (.ok (!decide (hint - s < p)) : Except ε Bool)) (hint + 1)
        (hint + 1 - p) (fun s _ => by congr 1; exact Bool.eq_iff_iff.2 (by simp; omega))
        (by omega) (l.length + 1) 0 1 (by omega) (by omega)
    rw [hw, except_ok_bind]
    exact bisect_eq (by omega) (by omega) fun m _ _ => rfl

include hlt in
/-- The gallop to the right of a run, from a hint within it, counts the run's elements with a
key not greater than `x`'s. -/
theorem gallopRight_eq {l : List α} (hl : Within S l)
    (hs : l.Pairwise (fun a b => key a ≤ key b)) {x : α} (hx : S x) {hint : Nat}
    (hh : hint < l.length) :
    gallopRight lt x l.toArray hint = .ok (l.takeWhile (keyLE key · x)).length := by
  have hpl : (l.takeWhile (keyLE key · x)).length ≤ l.length :=
    (List.takeWhile_sublist _).length_le
  have habove := fun m (hm : m < l.length) => lt_key_getD hlt hl hs hx hm
  generalize (l.takeWhile (keyLE key · x)).length = p at habove hpl ⊢
  have hnot : ∀ m, m < l.length →
      ((! ·) <$> lt x (l.toArray.getD m x)) = .ok (decide (m < p)) := fun m hm => by
    rw [habove m hm, except_map_ok]
    congr 1
    by_cases hmp : m < p
    · simp [hmp, Nat.not_le.2 hmp]
    · simp [hmp, Nat.not_lt.1 hmp]
  simp only [gallopRight, habove hint hh, except_ok_bind, List.size_toArray]
  by_cases hhint : p ≤ hint
  · -- the place lies at or before the hint: widen to the left
    simp only [hhint, decide_true, ↓reduceIte]
    obtain ⟨last, step, hw, hlast, hq, hstep⟩ :=
      widen_eq (fun s => lt x (l.toArray.getD (hint - s) x)) (hint + 1) (hint + 1 - p)
        (fun s hs => by
          rw [habove _ (by omega)]
          congr 1
          exact Bool.eq_iff_iff.2 (by simp; omega))
        (by omega) (l.length + 1) 0 1 (by omega) (by omega)
    rw [hw, except_ok_bind]
    exact bisect_eq (by omega) (by omega) fun m _ hm => hnot m (by omega)
  · -- the place lies after the hint: widen to the right
    simp only [hhint, decide_false, Bool.false_eq_true, ↓reduceIte]
    obtain ⟨last, step, hw, hlast, hq, hstep⟩ :=
      widen_eq (fun s => (! ·) <$> lt x (l.toArray.getD (hint + s) x)) (l.length - hint)
        (p - hint) (fun s hs => by rw [hnot _ (by omega)]; congr 1; simp; omega)
        (by omega) (l.length + 1) 0 1 (by omega) (by omega)
    rw [hw, except_ok_bind]
    exact bisect_eq (by omega) (by omega) fun m _ hm => hnot m (by omega)

include hlt in
/-- On an empty run the gallop to the right reads only its default, `x`, and answers one. -/
theorem gallopRight_nil {x : α} (hx : S x) :
    gallopRight lt x ([] : List α).toArray 0 = .ok 1 := by
  have hread : ∀ m, (#[] : Array α).getD m x = x := fun _ => rfl
  have hwiden : ∀ more : Nat → Except ε Bool, widen more 0 1 0 1 = .ok (0, 0) := fun _ => rfl
  simp only [gallopRight, hread, hlt x x hx hx, lt_self_iff_false, decide_false,
    except_ok_bind, Bool.false_eq_true, ↓reduceIte, List.size_toArray, List.length_nil,
    Nat.sub_zero, Nat.zero_add, hwiden]
  rw [bisect, if_neg (by omega)]

/-! ## Binary insertion -/

include hlt in
/-- Binary insertion places `x` after the sorted elements with a key not greater than its. -/
theorem placeOf_eq {l : List α} (hl : Within S l) (hs : l.Pairwise (fun a b => key a ≤ key b))
    {x : α} (hx : S x) :
    placeOf lt l.toArray x 0 l.toArray.size = .ok (l.takeWhile (keyLE key · x)).length := by
  refine bisect_eq (Nat.zero_le _) (by simpa using (List.takeWhile_sublist _).length_le)
    fun m _ hm => ?_
  rw [List.size_toArray] at hm
  rw [lt_key_getD hlt hl hs hx hm, except_map_ok]
  congr 1
  exact Bool.eq_iff_iff.2 (by simp)

include hlt in
/-- Inserting elements one at a time into the stable sort of `l` gives the stable sort of `l`
followed by them. -/
theorem insertEach_eq :
    ∀ (xs l : List α), Within S l → Within S xs →
      ∃ r, insertEach lt (l.mergeSort (keyLE key)).toArray xs = .ok r ∧
        r.toList = (l ++ xs).mergeSort (keyLE key)
  | [], l, _, _ => ⟨_, rfl, by simp⟩
  | x :: xs, l, hl, hxs => by
    rw [within_cons] at hxs
    have hsorted := (sortsBy_mergeSort key l).ascending
    have hsw : Within S (l.mergeSort (keyLE key)) := fun y hy => hl y (List.mem_mergeSort.1 hy)
    rw [insertEach, placeOf_eq hlt hsw hsorted hxs.1, except_ok_bind]
    -- the element goes where a stable merge of it would put it
    have hmerge : (l.mergeSort (keyLE key)).toArray.toList.take
          ((l.mergeSort (keyLE key)).takeWhile (keyLE key · x)).length ++
        x :: (l.mergeSort (keyLE key)).toArray.toList.drop
          ((l.mergeSort (keyLE key)).takeWhile (keyLE key · x)).length =
        (l ++ [x]).mergeSort (keyLE key) := by
      rw [List.toList_toArray, take_length_takeWhile, drop_length_takeWhile, mergeSort_append,
        List.mergeSort_singleton, merge_cons_right, List.merge_right]
    rw [hmerge]
    obtain ⟨r, hr, hrl⟩ := insertEach_eq xs (l ++ [x]) (by simp [hl, hxs.1]) hxs.2
    exact ⟨r, hr, by rw [hrl, List.append_assoc, List.singleton_append]⟩

/-! ## Runs -/

include hlt in
theorem runTail_eq (descending : Bool) :
    ∀ (prev : α) (xs : List α), S prev → Within S xs →
      ∃ n, runTail lt descending prev xs = .ok n ∧ n ≤ xs.length ∧
        (prev :: xs.take n).Pairwise (RunStep key descending)
  | prev, [], _, _ => ⟨0, rfl, Nat.le_refl _, by simp⟩
  | prev, x :: xs, hp, hxs => by
    rw [within_cons] at hxs
    obtain ⟨n, hn, hle, hrun⟩ := runTail_eq descending x xs hxs.1 hxs.2
    simp only [runTail, hlt x prev hxs.1 hp, except_ok_bind]
    by_cases hstep : RunStep key descending prev x
    · -- `x` continues the run, and so does every element that continues it after `x`
      have hcont : (decide (key x < key prev) == descending) = true := by
        cases descending <;> simp_all [RunStep]
      rw [if_pos hcont, hn]
      refine ⟨n + 1, rfl, by simpa using hle, ?_⟩
      rw [List.take_succ_cons]
      exact List.Pairwise.cons (fun y hy => (List.mem_cons.1 hy).elim (· ▸ hstep)
        fun hy => hstep.trans (List.rel_of_pairwise_cons hrun hy)) hrun
    · have hstop : ¬ (decide (key x < key prev) == descending) = true := by
        cases descending <;> simp_all [RunStep]
      rw [if_neg hstop]
      exact ⟨0, rfl, Nat.zero_le _, by simp⟩

include hlt in
/-- The run at the head of a list that is not empty: at least one element, with keys that
ascend or descend strictly. -/
theorem headRun_eq {xs : List α} (hxs : Within S xs) (hne : xs ≠ []) :
    ∃ n descending, headRun lt xs = .ok (n, descending) ∧ 0 < n ∧ n ≤ xs.length ∧
      (xs.take n).Pairwise (RunStep key descending) := by
  match xs, hxs, hne with
  | [a], _, _ => exact ⟨1, false, rfl, Nat.one_pos, Nat.le_refl _, by simp⟩
  | a :: b :: rest, hxs, _ =>
    simp only [within_cons] at hxs
    obtain ⟨n, hn, hle, hrun⟩ := runTail_eq hlt (decide (key b < key a)) b rest hxs.2.1 hxs.2.2
    refine ⟨n + 2, decide (key b < key a), ?_, by omega, by simpa using hle, ?_⟩
    · simp only [headRun, hlt b a hxs.2.1 hxs.1, except_ok_bind, hn]
      rfl
    · -- the first two elements set the direction, and the tail keeps it
      have hab : RunStep key (decide (key b < key a)) a b := by
        by_cases h : key b < key a
        · simp [RunStep, h]
        · simpa [RunStep, h] using le_of_not_gt h
      rw [List.take_succ_cons]
      exact List.Pairwise.cons (fun y hy => (List.mem_cons.1 hy).elim (· ▸ hab)
        fun hy => hab.trans (List.rel_of_pairwise_cons hrun hy)) hrun

end Gallop

end SqlMigration
