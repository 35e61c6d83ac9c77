import SqlMigration.Proofs.SortSearch

/-!
# The merges and the stack of the sort

With a test that compares keys on the elements of the list, `sortWith` is `List.mergeSort` by
those keys (`sortWith_eq`), so it sorts stably; `sortDescendingWith` sorts stably with the
greatest key first (`sortDescendingWith_eq`).

The merges compute `List.merge` of two runs with ascending keys. From the front, a round of
steps or gallops keeps the merged part in `out`, last first, and needs the last element of the
first run to be greater than every element left of the second (`FrontReady`), which the runs
keep as they shrink; the merge from the back is its mirror image (`BackReady`). Each step moves
an element, so fuel above the number of elements left is enough (`frontSteps_eq`,
`backSteps_eq`). Trimming the ends already in place sets both invariants up
(`mergeRuns_eq`).

The stack holds the stable sorts of consecutive pieces of the list (`Stacked`); merging two
neighbours keeps that, whatever order the merges come in (`Stacked.mergeTop`,
`Stacked.mergeDeep`), so the powers that choose the merges play no part in the result.
-/

namespace SqlMigration

variable {α ε κ : Type} [LinearOrder κ]

@[simp] theorem except_pure {β : Type} (b : β) : (pure b : Except ε β) = .ok b := rfl

theorem mem_getLast?_of_drop {l : List α} {k : Nat} {z : α} (h : z ∈ (l.drop k).getLast?) :
    z ∈ l.getLast? := by
  rw [List.getLast?_drop] at h
  split at h
  · simp at h
  · exact h

/-! ## Merging from the front -/

/-- The rest of the two runs of a merge from the front: elements the test is asked about, keys
ascending in each, and every element left of the second run less than the first run's last. -/
structure FrontReady (S : α → Prop) (key : α → κ) (as bs : List α) : Prop where
  withinLeft : Within S as
  withinRight : Within S bs
  sortedLeft : as.Pairwise (fun a b => key a ≤ key b)
  sortedRight : bs.Pairwise (fun a b => key a ≤ key b)
  belowLast : ∀ y ∈ bs, ∀ z ∈ as.getLast?, key y < key z

section Front

variable {S : α → Prop} {key : α → κ} {as bs : List α}

theorem FrontReady.drop_left (h : FrontReady S key as bs) (k : Nat) :
    FrontReady S key (as.drop k) bs :=
  ⟨h.withinLeft.drop k, h.withinRight, h.sortedLeft.sublist (List.drop_sublist k as),
    h.sortedRight, fun y hy _ hz => h.belowLast y hy _ (mem_getLast?_of_drop hz)⟩

theorem FrontReady.drop_right (h : FrontReady S key as bs) (k : Nat) :
    FrontReady S key as (bs.drop k) :=
  ⟨h.withinLeft, h.withinRight.drop k, h.sortedLeft,
    h.sortedRight.sublist (List.drop_sublist k bs),
    fun y hy => h.belowLast y (List.mem_of_mem_drop hy)⟩

/-- When one element is left of the first run it goes after all of the second. -/
theorem FrontReady.merge_single {z : α} (h : FrontReady S key [z] bs) :
    [z].merge bs (keyLE key) = bs ++ [z] :=
  merge_of_lt key fun y hy z' hz' => by
    rw [List.mem_singleton.1 hz']
    exact h.belowLast y hy z rfl

end Front

section FrontSteps

variable {lt : α → α → Except ε Bool} {S : α → Prop} {key : α → κ} (hlt : ComparesBy lt S key)

include hlt in
/-- The merge from the front appends the merge of what is left of the two runs to what it has
merged, given fuel above the number of elements left. -/
theorem frontSteps_eq (fuel : Nat) (as bs out : List α) (aWins bWins : Nat) (galloping : Bool)
    (threshold kept : Nat) :
    FrontReady S key as bs → as.length + bs.length < fuel →
    ∃ t, frontSteps lt fuel as bs out aWins bWins galloping threshold kept =
      .ok (out.reverse ++ as.merge bs (keyLE key), t) := by
  fun_induction frontSteps lt fuel as bs out aWins bWins galloping threshold kept with
  | case1 => intro _ hfuel; omega
  | case2 fuel out aWins bWins threshold kept a as b bs ih₄ ih₃ ih₂ ih₁ =>
    intro h hfuel
    have hfuel' : as.length + bs.length + 1 < fuel := by simp at hfuel; omega
    rw [hlt b a (h.withinRight b List.mem_cons_self) (h.withinLeft a List.mem_cons_self),
      except_ok_bind]
    by_cases hba : key b < key a
    · -- `b` goes next
      rw [List.cons_merge_cons_neg _ _ _ (by simpa using hba)]
      simp only [hba, decide_true, ↓reduceIte]
      split
      · rename_i hbs
        rw [List.isEmpty_iff.1 hbs]
        exact ⟨kept, by simp⟩
      · have h' : FrontReady S key (a :: as) bs := h.drop_right 1
        split
        · obtain ⟨t, ht⟩ := ih₄ h' (by simp; omega)
          exact ⟨t, by rw [ht]; simp⟩
        · obtain ⟨t, ht⟩ := ih₃ h' (by simp; omega)
          exact ⟨t, by rw [ht]; simp⟩
    · -- `a` goes next, also when the keys are equal
      rw [List.cons_merge_cons_pos _ _ _ ((keyLE_eq_true key).2 (le_of_not_gt hba))]
      simp only [hba, decide_false, Bool.false_eq_true, ↓reduceIte]
      have h' : FrontReady S key as (b :: bs) := h.drop_left 1
      split
      · -- only the first run's last element is left, and it goes after all of the second
        rename_i hone
        obtain ⟨z, rfl⟩ := List.length_eq_one_iff.1 hone
        exact ⟨kept, by rw [h'.merge_single]; simp⟩
      · split
        · obtain ⟨t, ht⟩ := ih₂ h' (by simp; omega)
          exact ⟨t, by rw [ht]; simp⟩
        · obtain ⟨t, ht⟩ := ih₁ h' (by simp; omega)
          exact ⟨t, by rw [ht]; simp⟩
  | case3 fuel as bs out aWins bWins threshold kept hnot =>
    intro _ _
    -- one of the runs is empty
    refine ⟨kept, ?_⟩
    rcases as with _ | ⟨a, as⟩
    · simp
    · rcases bs with _ | ⟨b, bs⟩
      · simp
      · exact (hnot a as b bs rfl rfl).elim
  | case4 => intro _ _; exact ⟨_, by rw [List.merge_right]⟩
  | case5 fuel as out _ _ _ _ threshold b bs ih₂ ih₁ =>
    intro h hfuel
    have hb : S b := h.withinRight b List.mem_cons_self
    by_cases hnil : as = []
    · subst hnil
      rw [gallopRight_nil hlt hb, except_ok_bind]
      exact ⟨threshold, by simp⟩
    -- the first gallop: the first run's elements up to `b` go first, then `b`
    rw [gallopRight_eq hlt h.withinLeft h.sortedLeft hb (List.length_pos_iff.2 hnil),
      except_ok_bind]
    have hdown : DownClosed key (keyLE key · b) := fun x y hxy hy => by
      simp only [keyLE_eq_true] at hy ⊢
      exact le_trans hxy hy
    have hafter : ∀ x ∈ as.drop (as.takeWhile (keyLE key · b)).length, key b < key x := by
      intro x hx
      rw [drop_length_takeWhile] at hx
      simpa using dropWhile_not key hdown h.sortedLeft x hx
    have hsplit := merge_cons_right key b bs as
    rw [← take_length_takeWhile, ← drop_length_takeWhile] at hsplit
    generalize (as.takeWhile (keyLE key · b)).length = k at hsplit hafter
    rw [hsplit]
    have hd : FrontReady S key (as.drop k) (b :: bs) := h.drop_left k
    dsimp only
    split
    · -- only the first run's last element is left
      rename_i hone
      obtain ⟨z, hz⟩ := List.length_eq_one_iff.1 hone.2
      rw [hz] at hd ⊢
      have hd' : FrontReady S key [z] bs := hd.drop_right 1
      exact ⟨threshold, by rw [hd'.merge_single]; simp⟩
    split
    · rename_i hempty
      rw [List.isEmpty_iff.1 hempty.2]
      exact ⟨threshold, by simp⟩
    split
    · rename_i hbs
      rw [List.isEmpty_iff.1 hbs]
      exact ⟨threshold, by simp⟩
    split
    · rename_i hempty
      rw [hempty]
      exact ⟨threshold, by simp⟩
    -- the second gallop: the second run's elements before `a` go first, then `a`
    rename_i a as' hdrop
    have ha : S a := hd.withinLeft a (hdrop ▸ List.mem_cons_self)
    have hr : FrontReady S key (a :: as') bs := hdrop ▸ hd.drop_right 1
    rw [gallopLeft_eq hlt hr.withinRight hr.sortedRight ha (Nat.zero_le _), except_ok_bind]
    have hsplit' := merge_cons_left key a as' bs
    rw [← take_length_takeWhile, ← drop_length_takeWhile] at hsplit'
    generalize (bs.takeWhile (fun y => key y < key a)).length = k' at hsplit'
    rw [hdrop, hsplit']
    have hr' : FrontReady S key as' (bs.drop k') := (hr.drop_left 1).drop_right k'
    split
    · rename_i hempty
      rw [List.isEmpty_iff.1 hempty.2]
      exact ⟨threshold, by simp⟩
    split
    · -- only the first run's last element is left
      rename_i hone
      obtain ⟨z, rfl⟩ := List.length_eq_one_iff.1 hone
      exact ⟨threshold, by rw [hr'.merge_single]; simp⟩
    have hlen : as'.length + (bs.drop k').length < fuel := by
      have := congrArg List.length hdrop
      simp only [List.length_drop, List.length_cons] at this hfuel ⊢
      omega
    split
    · obtain ⟨t, ht⟩ := ih₂ k a as' k' hr' hlen
      exact ⟨t, by rw [ht]; simp⟩
    · obtain ⟨t, ht⟩ := ih₁ k a as' k' hr' hlen
      exact ⟨t, by rw [ht]; simp⟩

end FrontSteps

/-! ## Merging from the back -/

/-- The rest of the two runs of a merge from the back, each last element first: elements the
test is asked about, keys descending in each, and the second run's first element less than
every element left of the first run. -/
structure BackReady (S : α → Prop) (key : α → κ) (ra rb : List α) : Prop where
  withinLeft : Within S ra
  withinRight : Within S rb
  sortedLeft : ra.Pairwise (fun a b => key b ≤ key a)
  sortedRight : rb.Pairwise (fun a b => key b ≤ key a)
  aboveFirst : ∀ x ∈ ra, ∀ z ∈ rb.getLast?, key z < key x

section Back

variable {S : α → Prop} {key : α → κ} {ra rb : List α}

theorem BackReady.drop_left (h : BackReady S key ra rb) (k : Nat) :
    BackReady S key (ra.drop k) rb :=
  ⟨h.withinLeft.drop k, h.withinRight, h.sortedLeft.sublist (List.drop_sublist k ra),
    h.sortedRight, fun x hx => h.aboveFirst x (List.mem_of_mem_drop hx)⟩

theorem BackReady.drop_right (h : BackReady S key ra rb) (k : Nat) :
    BackReady S key ra (rb.drop k) :=
  ⟨h.withinLeft, h.withinRight.drop k, h.sortedLeft,
    h.sortedRight.sublist (List.drop_sublist k rb),
    fun x hx _ hz => h.aboveFirst x hx _ (mem_getLast?_of_drop hz)⟩

/-- When one element is left of the second run it goes before all of the first. -/
theorem BackReady.merge_single {z : α} (h : BackReady S key ra [z]) :
    ra.reverse.merge [z] (keyLE key) = z :: ra.reverse :=
  merge_of_lt key fun y hy x hx => by
    rw [List.mem_singleton.1 hy]
    exact h.aboveFirst x (List.mem_reverse.1 hx) z rfl

end Back

section BackGallop

variable (key : α → κ) {ra rb : List α}

/-- A first gallop from the back: the first run's elements greater than `b`, the second run's
greatest, go last, and `b` just before them. -/
theorem merge_reverse_gallop_first {b : α} (hra : ra.Pairwise (fun a b => key b ≤ key a))
    (hrb : ∀ y ∈ rb, key y ≤ key b) :
    ra.reverse.merge (rb.reverse ++ [b]) (keyLE key) =
      (ra.drop (ra.length - (ra.reverse.takeWhile (keyLE key · b)).length)).reverse.merge
          rb.reverse (keyLE key) ++
        b :: (ra.take (ra.length - (ra.reverse.takeWhile (keyLE key · b)).length)).reverse := by
  have hdown : DownClosed key (keyLE key · b) := fun x y hxy hy => by
    simp only [keyLE_eq_true] at hy ⊢
    exact le_trans hxy hy
  rw [drop_reverse_takeWhile, take_reverse_takeWhile, List.reverse_reverse,
    List.reverse_reverse]
  conv => lhs; rw [← List.takeWhile_append_dropWhile (p := (keyLE key · b)) (l := ra.reverse)]
  rw [merge_append_left_block key fun y hy x hx => ?_, merge_append_right_block key fun x hx z hz => ?_]
  · simp
  · -- the first run's elements up to `b` are not greater than it
    rw [List.mem_singleton.1 hz]
    simpa using List.all_eq_true.1 List.all_takeWhile x hx
  · -- the rest of the first run is greater than every element of the second
    have hbx : key b < key x := by
      simpa using dropWhile_not key hdown (List.pairwise_reverse.2 hra) x hx
    rcases List.mem_append.1 hy with hy | hy
    · exact lt_of_le_of_lt (hrb y (List.mem_reverse.1 hy)) hbx
    · rw [List.mem_singleton.1 hy]
      exact hbx

/-- A second gallop from the back: the second run's elements not less than `a`, the first
run's greatest, go last, and `a` just before them. -/
theorem merge_reverse_gallop_second {a : α} (hra : ∀ x ∈ ra, key x ≤ key a)
    (hrb : rb.Pairwise (fun a b => key b ≤ key a)) :
    (ra.reverse ++ [a]).merge rb.reverse (keyLE key) =
      ra.reverse.merge (rb.drop (rb.length -
          (rb.reverse.takeWhile (fun y => key y < key a)).length)).reverse (keyLE key) ++
        a :: (rb.take (rb.length - (rb.reverse.takeWhile (fun y => key y < key a)).length)).reverse := by
  have hdown : DownClosed key (fun y => decide (key y < key a)) := fun x y hxy hy => by
    simp only [decide_eq_true_eq] at hy ⊢
    exact lt_of_le_of_lt hxy hy
  rw [drop_reverse_takeWhile, take_reverse_takeWhile, List.reverse_reverse,
    List.reverse_reverse]
  conv => lhs; rw [← List.takeWhile_append_dropWhile (p := fun y => decide (key y < key a))
    (l := rb.reverse)]
  rw [merge_append_right_block key fun x hx z hz => ?_, merge_append_left_block key fun y hy x hx => ?_]
  · simp
  · -- the second run's elements below `a` are less than it
    rw [List.mem_singleton.1 hx]
    simpa using List.all_eq_true.1 List.all_takeWhile y hy
  · -- the rest of the second run is not less than any element of the first
    have haz : key a ≤ key z := by
      simpa using dropWhile_not key hdown (List.pairwise_reverse.2 hrb) z hz
    rcases List.mem_append.1 hx with hx | hx
    · exact le_trans (hra x (List.mem_reverse.1 hx)) haz
    · rw [List.mem_singleton.1 hx]
      exact haz

end BackGallop

section BackSteps

variable {lt : α → α → Except ε Bool} {S : α → Prop} {key : α → κ} (hlt : ComparesBy lt S key)

include hlt in
/-- The merge from the back puts the merge of what is left of the two runs before what it has
merged, given fuel above the number of elements left. -/
theorem backSteps_eq (fuel : Nat) (ra rb out : List α) (aWins bWins : Nat) (galloping : Bool)
    (threshold kept : Nat) :
    BackReady S key ra rb → ra.length + rb.length < fuel →
    ∃ t, backSteps lt fuel ra rb out aWins bWins galloping threshold kept =
      .ok (ra.reverse.merge rb.reverse (keyLE key) ++ out, t) := by
  fun_induction backSteps lt fuel ra rb out aWins bWins galloping threshold kept with
  | case1 => intro _ hfuel; omega
  | case2 fuel out aWins bWins threshold kept a ra b rb ih₄ ih₃ ih₂ ih₁ =>
    intro h hfuel
    have hfuel' : ra.length + rb.length + 1 < fuel := by simp at hfuel; omega
    rw [hlt b a (h.withinRight b List.mem_cons_self) (h.withinLeft a List.mem_cons_self),
      except_ok_bind]
    by_cases hba : key b < key a
    · -- `a` goes last: it is greater than all of the second run
      have hbelow : ∀ y ∈ (b :: rb).reverse, ∀ x ∈ [a], key y < key x := fun y hy x hx => by
        rw [List.mem_singleton.1 hx]
        rcases List.mem_cons.1 (List.mem_reverse.1 hy) with rfl | hy
        · exact hba
        · exact lt_of_le_of_lt (List.rel_of_pairwise_cons h.sortedRight hy) hba
      rw [List.reverse_cons (a := a), merge_append_left_block key hbelow]
      simp only [hba, decide_true, ↓reduceIte]
      have h' : BackReady S key ra (b :: rb) := h.drop_left 1
      split
      · rename_i hra
        rw [List.isEmpty_iff.1 hra]
        exact ⟨kept, by simp⟩
      · split
        · obtain ⟨t, ht⟩ := ih₄ h' (by simp; omega)
          exact ⟨t, by rw [ht]; simp⟩
        · obtain ⟨t, ht⟩ := ih₃ h' (by simp; omega)
          exact ⟨t, by rw [ht]; simp⟩
    · -- `b` goes last, also when the keys are equal: it is not less than any of the first run
      have habove : ∀ x ∈ (a :: ra).reverse, ∀ z ∈ [b], key x ≤ key z := fun x hx z hz => by
        rw [List.mem_singleton.1 hz]
        rcases List.mem_cons.1 (List.mem_reverse.1 hx) with rfl | hx
        · exact le_of_not_gt hba
        · exact le_trans (List.rel_of_pairwise_cons h.sortedLeft hx) (le_of_not_gt hba)
      rw [List.reverse_cons (a := b), merge_append_right_block key habove]
      simp only [hba, decide_false, Bool.false_eq_true, ↓reduceIte]
      have h' : BackReady S key (a :: ra) rb := h.drop_right 1
      split
      · -- only the second run's first element is left, and it goes before all of the first
        rename_i hone
        obtain ⟨z, rfl⟩ := List.length_eq_one_iff.1 hone
        exact ⟨kept, by rw [List.reverse_singleton, h'.merge_single]; simp⟩
      · split
        · obtain ⟨t, ht⟩ := ih₂ h' (by simp; omega)
          exact ⟨t, by rw [ht]; simp⟩
        · obtain ⟨t, ht⟩ := ih₁ h' (by simp; omega)
          exact ⟨t, by rw [ht]; simp⟩
  | case3 fuel ra rb out aWins bWins threshold kept hnot =>
    intro _ _
    -- one of the runs is empty
    refine ⟨kept, ?_⟩
    rcases ra with _ | ⟨a, ra⟩
    · simp
    · rcases rb with _ | ⟨b, rb⟩
      · simp
      · exact (hnot a ra b rb rfl rfl).elim
  | case4 => intro _ _; exact ⟨_, by rw [List.reverse_nil, List.merge_right]⟩
  | case5 fuel ra out _ _ _ _ threshold b rb ih₂ ih₁ =>
    intro h hfuel
    have hb : S b := h.withinRight b List.mem_cons_self
    rw [List.reverse_cons]
    by_cases hnil : ra = []
    · subst hnil
      simp only [List.reverse_nil, List.length_nil, Nat.zero_sub]
      rw [gallopRight_nil hlt hb, except_ok_bind]
      refine ⟨threshold, ?_⟩
      split <;> simp
    -- the first gallop: the first run's elements greater than `b` go last, then `b`
    rw [gallopRight_eq hlt (within_reverse.2 h.withinLeft) (List.pairwise_reverse.2 h.sortedLeft)
      hb (by have := List.length_pos_iff.2 hnil; simp; omega), except_ok_bind]
    rw [merge_reverse_gallop_first key h.sortedLeft
      fun y hy => List.rel_of_pairwise_cons h.sortedRight hy]
    generalize (ra.reverse.takeWhile (keyLE key · b)).length = g
    have hd : BackReady S key (ra.drop (ra.length - g)) (b :: rb) := h.drop_left _
    dsimp only
    split
    · rename_i hempty
      rw [List.isEmpty_iff.1 hempty.2]
      exact ⟨threshold, by simp⟩
    split
    · -- only the second run's first element is left
      rename_i hone
      obtain ⟨z, rfl⟩ := List.length_eq_one_iff.1 hone
      have hd' : BackReady S key (ra.drop (ra.length - g)) [z] := hd.drop_right 1
      exact ⟨threshold, by rw [List.reverse_singleton, hd'.merge_single]; simp⟩
    split
    · rename_i hempty
      rw [hempty]
      exact ⟨threshold, by simp⟩
    -- the second gallop: the second run's elements not less than `a` go last, then `a`
    rename_i a ra' hdrop
    have ha : S a := hd.withinLeft a (hdrop ▸ List.mem_cons_self)
    have hr : BackReady S key (a :: ra') rb := hdrop ▸ hd.drop_right 1
    rw [gallopLeft_eq hlt (within_reverse.2 hr.withinRight) (List.pairwise_reverse.2 hr.sortedRight)
      ha (by simp), except_ok_bind]
    rw [hdrop, List.reverse_cons, merge_reverse_gallop_second key
      (fun x hx => List.rel_of_pairwise_cons hr.sortedLeft hx) hr.sortedRight]
    generalize (rb.reverse.takeWhile (fun y => key y < key a)).length = g'
    have hr' : BackReady S key ra' (rb.drop (rb.length - g')) := (hr.drop_left 1).drop_right _
    split
    · -- only the second run's first element is left
      rename_i hone
      obtain ⟨z, hz⟩ := List.length_eq_one_iff.1 hone.2
      rw [hz] at hr' ⊢
      exact ⟨threshold, by rw [List.reverse_singleton, hr'.merge_single]; simp⟩
    split
    · rename_i hempty
      rw [List.isEmpty_iff.1 hempty.2]
      exact ⟨threshold, by simp⟩
    split
    · rename_i hra
      rw [List.isEmpty_iff.1 hra]
      exact ⟨threshold, by simp⟩
    have hlen : ra'.length + (rb.drop (rb.length - g')).length < fuel := by
      have := congrArg List.length hdrop
      simp only [List.length_drop, List.length_cons] at this hfuel ⊢
      omega
    split
    · obtain ⟨t, ht⟩ := ih₂ g a ra' g' hr' hlen
      exact ⟨t, by rw [ht]; simp⟩
    · obtain ⟨t, ht⟩ := ih₁ g a ra' g' hr' hlen
      exact ⟨t, by rw [ht]; simp⟩

end BackSteps

/-! ## Merging two runs -/

section Runs

variable (key : α → κ) {l r : List α}

/-- An element less than every element of the first side goes first. -/
theorem merge_cons_of_lt {b : α} (h : ∀ x ∈ l, key b < key x) :
    l.merge (b :: r) (keyLE key) = b :: l.merge r (keyLE key) := by
  cases l with
  | nil => simp
  | cons x l =>
    exact List.cons_merge_cons_neg _ _ _ (by simpa using h x List.mem_cons_self)

/-- In a list with ascending keys, the last element has the greatest key. -/
theorem le_of_mem_getLast? (hs : l.Pairwise (fun a b => key a ≤ key b)) {x z : α}
    (hx : x ∈ l) (hz : z ∈ l.getLast?) : key x ≤ key z := by
  obtain ⟨ys, rfl⟩ := List.getLast?_eq_some_iff.1 hz
  rcases List.mem_append.1 hx with hx | hx
  · exact (List.pairwise_append.1 hs).2.2 x hx z (List.mem_singleton_self z)
  · rw [List.mem_singleton.1 hx]

end Runs

section MergeRuns

variable {lt : α → α → Except ε Bool} {S : α → Prop} {key : α → κ} (hlt : ComparesBy lt S key)
  {a b : List α}

include hlt in
/-- Merging from the front two runs that trimming left: the second run's first element is less
than every element of the first, and the first run's last greater than every element of the
second. -/
theorem mergeFront_eq (ha : Within S a) (hb : Within S b)
    (hsa : a.Pairwise (fun x y => key x ≤ key y)) (hsb : b.Pairwise (fun x y => key x ≤ key y))
    (hfirst : ∀ y ∈ b.head?, ∀ x ∈ a, key y < key x)
    (hlast : ∀ y ∈ b, ∀ z ∈ a.getLast?, key y < key z) (threshold : Nat) :
    ∃ t, mergeFront lt a b threshold = .ok (a.merge b (keyLE key), t) := by
  have hready : FrontReady S key a b := ⟨ha, hb, hsa, hsb, hlast⟩
  cases b with
  | nil => exact ⟨threshold, by cases a <;> simp [mergeFront]⟩
  | cons b₀ bs =>
    cases a with
    | nil => exact ⟨threshold, by simp [mergeFront]⟩
    | cons x a =>
      rw [merge_cons_of_lt key (hfirst b₀ rfl)]
      simp only [mergeFront]
      split
      · rename_i hbs
        rw [List.isEmpty_iff.1 hbs]
        exact ⟨threshold, by simp⟩
      split
      · -- a single element of the first run goes after all of the second
        rename_i hone
        obtain ⟨z, hz⟩ := List.length_eq_one_iff.1 hone
        rw [hz] at hready ⊢
        have hready' : FrontReady S key [z] bs := hready.drop_right 1
        rw [hready'.merge_single]
        exact ⟨threshold, rfl⟩
      · obtain ⟨t, ht⟩ := frontSteps_eq hlt ((x :: a).length + (b₀ :: bs).length + 1) (x :: a) bs
          [b₀] 0 0 false threshold threshold (hready.drop_right 1)
          (by simp only [List.length_cons]; omega)
        exact ⟨t, by rw [ht]; rfl⟩

include hlt in
/-- Merging from the back two runs that trimming left, under the same conditions as from the
front. -/
theorem mergeBack_eq (ha : Within S a) (hb : Within S b)
    (hsa : a.Pairwise (fun x y => key x ≤ key y)) (hsb : b.Pairwise (fun x y => key x ≤ key y))
    (hfirst : ∀ y ∈ b.head?, ∀ x ∈ a, key y < key x)
    (hlast : ∀ y ∈ b, ∀ z ∈ a.getLast?, key y < key z) (threshold : Nat) :
    ∃ t, mergeBack lt a b threshold = .ok (a.merge b (keyLE key), t) := by
  unfold mergeBack
  rcases hra : a.reverse with _ | ⟨aLast, ra⟩
  · rw [List.reverse_eq_nil_iff.1 hra]
    exact ⟨threshold, by simp⟩
  rcases hrb : b.reverse with _ | ⟨b₁, rb⟩
  · rw [List.reverse_eq_nil_iff.1 hrb]
    exact ⟨threshold, by simp⟩
  -- the first run ends with `aLast`, which goes after all of the second
  have hsplit : a = ra.reverse ++ [aLast] := by
    rw [← List.reverse_reverse a, hra, List.reverse_cons]
  have hb' : b = (b₁ :: rb).reverse := by rw [← hrb, List.reverse_reverse]
  have hlastAbove : ∀ y ∈ b, key y < key aLast := fun y hy =>
    hlast y hy aLast (by rw [hsplit]; simp)
  have hmerge : a.merge b (keyLE key) = ra.reverse.merge b (keyLE key) ++ [aLast] := by
    rw [hsplit, merge_append_left_block key fun y hy z hz => by
      rw [List.mem_singleton.1 hz]; exact hlastAbove y hy]
  dsimp only
  rw [hmerge]
  split
  · rename_i hra'
    rw [List.isEmpty_iff.1 hra']
    exact ⟨threshold, by simp⟩
  split
  · -- a single element of the second run goes before all of the first
    rename_i hone
    have hrb0 : rb = [] := by simpa using hone
    subst hrb0
    have hbelow : ∀ x ∈ ra.reverse, key b₁ < key x := fun x hx =>
      hfirst b₁ (by rw [hb']; rfl) x (by rw [hsplit]; exact List.mem_append_left _ hx)
    rw [hb', List.reverse_singleton, merge_of_lt key fun y hy x hx => by
      rw [List.mem_singleton.1 hy]; exact hbelow x hx]
    exact ⟨threshold, by simp⟩
  · have hready : BackReady S key ra (b₁ :: rb) := by
      refine ⟨fun x hx => ha x (by rw [hsplit]; simp [hx]),
        fun y hy => hb y (by rw [hb', List.mem_reverse]; exact hy),
        ?_, ?_, fun x hx z hz => hfirst z ?_ x (by rw [hsplit]; simp [hx])⟩
      · have hs := List.pairwise_reverse.2 hsa
        rw [hra] at hs
        exact hs.of_cons
      · have hs := List.pairwise_reverse.2 hsb
        rwa [hrb] at hs
      · rw [hb', List.head?_reverse]
        exact hz
    obtain ⟨t, ht⟩ := backSteps_eq hlt (a.length + b.length + 1) ra (b₁ :: rb) [aLast] 0 0 false
      threshold threshold hready
      (by simp only [hsplit, hb', List.length_append, List.length_reverse, List.length_cons]; omega)
    exact ⟨t, by rw [ht, ← hb']⟩

include hlt in
/-- Merging two runs with ascending keys gives their stable merge: the ends already in place
are set aside, and what is left meets the conditions of both merges. -/
theorem mergeRuns_eq (ha : Within S a) (hb : Within S b)
    (hsa : a.Pairwise (fun x y => key x ≤ key y)) (hsb : b.Pairwise (fun x y => key x ≤ key y))
    (threshold : Nat) : ∃ t, mergeRuns lt a b threshold = .ok (a.merge b (keyLE key), t) := by
  cases b with
  | nil => exact ⟨threshold, by simp [mergeRuns]⟩
  | cons b₀ bs =>
    have hb₀ : S b₀ := hb b₀ List.mem_cons_self
    simp only [mergeRuns]
    by_cases hnil : a = []
    · subst hnil
      rw [gallopRight_nil hlt hb₀, except_ok_bind]
      exact ⟨threshold, by simp⟩
    -- the first run's elements not greater than `b₀` are in place already
    rw [gallopRight_eq hlt ha hsa hb₀ (List.length_pos_iff.2 hnil), except_ok_bind]
    have hdown : DownClosed key (keyLE key · b₀) := fun x y hxy hy => by
      simp only [keyLE_eq_true] at hy ⊢
      exact le_trans hxy hy
    have hafter : ∀ x ∈ a.drop (a.takeWhile (keyLE key · b₀)).length, key b₀ < key x := by
      intro x hx
      rw [drop_length_takeWhile] at hx
      simpa using dropWhile_not key hdown hsa x hx
    have hsplit : a.merge (b₀ :: bs) (keyLE key) =
        a.take (a.takeWhile (keyLE key · b₀)).length ++
          (a.drop (a.takeWhile (keyLE key · b₀)).length).merge (b₀ :: bs) (keyLE key) := by
      rw [merge_cons_of_lt key hafter, merge_cons_right, take_length_takeWhile,
        drop_length_takeWhile]
    generalize (a.takeWhile (keyLE key · b₀)).length = k at hsplit hafter
    rw [hsplit]
    have hd : Within S (a.drop k) := ha.drop k
    have hsd : (a.drop k).Pairwise (fun x y => key x ≤ key y) := hsa.sublist (List.drop_sublist k a)
    split
    · -- nothing of the first run is left
      rename_i hlast
      rw [List.getLast?_eq_none_iff.1 hlast]
      exact ⟨threshold, by simp⟩
    rename_i aLast hlast
    have haLast : aLast ∈ a.drop k := List.mem_of_getLast? hlast
    have hle : ∀ x ∈ a.drop k, key x ≤ key aLast := fun x hx =>
      le_of_mem_getLast? key hsd hx (by rw [hlast]; rfl)
    -- the second run's elements not less than `aLast` are in place already
    rw [gallopLeft_eq hlt hb hsb (hd aLast haLast) (by simp), except_ok_bind]
    have hdown' : DownClosed key (fun y => decide (key y < key aLast)) := fun x y hxy hy => by
      simp only [decide_eq_true_eq] at hy ⊢
      exact lt_of_le_of_lt hxy hy
    have hbelow : ∀ y ∈ (b₀ :: bs).take ((b₀ :: bs).takeWhile (fun y => key y < key aLast)).length,
        key y < key aLast := by
      intro y hy
      rw [take_length_takeWhile] at hy
      simpa using List.all_eq_true.1 List.all_takeWhile y hy
    have habove : ∀ y ∈ (b₀ :: bs).drop ((b₀ :: bs).takeWhile (fun y => key y < key aLast)).length,
        key aLast ≤ key y := by
      intro y hy
      rw [drop_length_takeWhile] at hy
      simpa using dropWhile_not key hdown' hsb y hy
    generalize ((b₀ :: bs).takeWhile (fun y => key y < key aLast)).length = n at hbelow habove
    have hright : (a.drop k).merge (b₀ :: bs) (keyLE key) =
        (a.drop k).merge ((b₀ :: bs).take n) (keyLE key) ++ (b₀ :: bs).drop n := by
      conv => lhs; rw [← List.take_append_drop n (b₀ :: bs)]
      exact merge_append_right_block key fun x hx y hy => le_trans (hle x hx) (habove y hy)
    split
    · -- every element of the second run goes after all of the first
      rename_i hn
      subst hn
      have hall : ∀ y ∈ b₀ :: bs, key aLast ≤ key y := habove
      rw [List.merge_of_le fun x y hx hy => (keyLE_eq_true key).2
        (le_trans (hle x hx) (hall y hy))]
      exact ⟨threshold, by rw [List.append_assoc]; rfl⟩
    -- the trimmed runs meet the conditions of both merges
    have htake : Within S ((b₀ :: bs).take n) := hb.take n
    have hst : ((b₀ :: bs).take n).Pairwise (fun x y => key x ≤ key y) :=
      hsb.sublist (List.take_sublist n _)
    have hfirst : ∀ y ∈ ((b₀ :: bs).take n).head?, ∀ x ∈ a.drop k, key y < key x := by
      intro y hy x hx
      rw [List.head?_take] at hy
      split at hy
      · simp at hy
      · simp only [List.head?_cons, Option.mem_def, Option.some.injEq] at hy
        rw [← hy]
        exact hafter x hx
    have hlast' : ∀ y ∈ (b₀ :: bs).take n, ∀ z ∈ (a.drop k).getLast?, key y < key z := by
      intro y hy z hz
      rw [hlast, Option.mem_some_iff] at hz
      rw [← hz]
      exact hbelow y hy
    rw [hright]
    split
    · obtain ⟨t, ht⟩ := mergeFront_eq hlt hd htake hsd hst hfirst hlast' threshold
      rw [ht, except_ok_bind]
      exact ⟨t, by simp⟩
    · obtain ⟨t, ht⟩ := mergeBack_eq hlt hd htake hsd hst hfirst hlast' threshold
      rw [ht, except_ok_bind]
      exact ⟨t, by simp⟩

end MergeRuns

/-! ## The stack of pending runs -/

/-- The runs waiting on the stack, top first, are the stable sorts of consecutive pieces of
`done`, the top run's piece last. -/
inductive Stacked (key : α → κ) : List (PendingRun α) → List α → Prop
  | nil : Stacked key [] []
  | push {stack : List (PendingRun α)} {done : List α} (r : PendingRun α) (piece : List α) :
      Stacked key stack done → r.items = piece.mergeSort (keyLE key) →
      Stacked key (r :: stack) (done ++ piece)

section Stack

variable {key : α → κ} {stack rest : List (PendingRun α)} {done : List α}

theorem Stacked.eq_nil (h : Stacked key [] done) : done = [] := by
  cases h
  rfl

/-- Merging the top two runs keeps the stack's pieces consecutive. -/
theorem Stacked.mergeTop {a b : PendingRun α} (h : Stacked key (b :: a :: rest) done) :
    Stacked key ({ a with items := a.items.merge b.items (keyLE key) } :: rest) done := by
  cases h with
  | push _ pb ha hb =>
    cases ha with
    | push _ pa hrest hA =>
      rw [List.append_assoc]
      exact .push _ (pa ++ pb) hrest (by rw [hA, hb, mergeSort_append])

/-- Merging the two runs below the top keeps the stack's pieces consecutive. -/
theorem Stacked.mergeDeep {a b c : PendingRun α} (h : Stacked key (c :: b :: a :: rest) done) :
    Stacked key (c :: { a with items := a.items.merge b.items (keyLE key) } :: rest) done := by
  cases h with
  | push _ pc hb hc => exact .push _ pc hb.mergeTop hc

/-- The power of the top run plays no part in the pieces. -/
theorem Stacked.setPower {t : PendingRun α} (h : Stacked key (t :: rest) done) (power : Nat) :
    Stacked key ({ t with power } :: rest) done := by
  cases h with
  | push _ piece hrest ht => exact .push _ piece hrest ht

theorem Stacked.sorted (h : Stacked key stack done) :
    ∀ r ∈ stack, r.items.Pairwise (fun x y => key x ≤ key y) := by
  induction h with
  | nil => intro r hr; cases hr
  | push r piece _ hr ih =>
    intro r' hr'
    rcases List.mem_cons.1 hr' with rfl | hr'
    · rw [hr]
      exact (sortsBy_mergeSort key piece).ascending
    · exact ih r' hr'

theorem Stacked.within {S : α → Prop} (h : Stacked key stack done) (hw : Within S done) :
    ∀ r ∈ stack, Within S r.items := by
  induction h with
  | nil => intro r hr; cases hr
  | push r piece _ hr ih =>
    rw [within_append] at hw
    intro r' hr'
    rcases List.mem_cons.1 hr' with rfl | hr'
    · rw [hr]
      exact fun y hy => hw.2 y (List.mem_mergeSort.1 hy)
    · exact ih hw.1 r' hr'

end Stack

section Sorting

variable {lt : α → α → Except ε Bool} {S : α → Prop} {key : α → κ} (hlt : ComparesBy lt S key)

include hlt in
theorem mergePending_top {a b : PendingRun α} {rest : List (PendingRun α)} {done : List α}
    (h : Stacked key (b :: a :: rest) done) (hw : Within S done) (threshold : Nat) :
    ∃ t, mergePending lt (b :: a :: rest) false threshold =
      .ok ({ a with items := a.items.merge b.items (keyLE key) } :: rest, t) := by
  obtain ⟨t, ht⟩ := mergeRuns_eq hlt (h.within hw a (by simp)) (h.within hw b (by simp))
    (h.sorted a (by simp)) (h.sorted b (by simp)) threshold
  exact ⟨t, by simp only [mergePending, ht, except_ok_bind]; rfl⟩

include hlt in
theorem mergePending_deep {a b c : PendingRun α} {rest : List (PendingRun α)} {done : List α}
    (h : Stacked key (c :: b :: a :: rest) done) (hw : Within S done) (threshold : Nat) :
    ∃ t, mergePending lt (c :: b :: a :: rest) true threshold =
      .ok (c :: { a with items := a.items.merge b.items (keyLE key) } :: rest, t) := by
  obtain ⟨t, ht⟩ := mergeRuns_eq hlt (h.within hw a (by simp)) (h.within hw b (by simp))
    (h.sorted a (by simp)) (h.sorted b (by simp)) threshold
  exact ⟨t, by simp only [mergePending, ht, except_ok_bind]; rfl⟩

include hlt in
/-- Settling merges runs of the stack and keeps its pieces consecutive. -/
theorem settle_eq (power : Nat) (done : List α) (hw : Within S done) :
    ∀ (fuel : Nat) (stack : List (PendingRun α)) (threshold : Nat), Stacked key stack done →
      ∃ stack' t, settle lt power fuel stack threshold = .ok (stack', t) ∧ Stacked key stack' done
  | 0, stack, threshold, h => ⟨stack, threshold, rfl, h⟩
  | fuel + 1, [], threshold, h => ⟨[], threshold, rfl, h⟩
  | fuel + 1, [r], threshold, h => ⟨[r], threshold, rfl, h⟩
  | fuel + 1, b :: a :: rest, threshold, h => by
    simp only [settle]
    split
    · obtain ⟨t, ht⟩ := mergePending_top hlt h hw threshold
      rw [ht, except_ok_bind]
      exact settle_eq power done hw fuel _ t h.mergeTop
    · exact ⟨_, _, rfl, h⟩

include hlt in
/-- Collapsing a stack of consecutive sorted pieces, with fuel for each merge, sorts what they
hold. -/
theorem collapse_eq (done : List α) (hw : Within S done) :
    ∀ (fuel : Nat) (stack : List (PendingRun α)) (threshold : Nat), Stacked key stack done →
      stack.length ≤ fuel → collapse lt fuel stack threshold = .ok (done.mergeSort (keyLE key))
  | 0, stack, _, h, hlen => by
    rw [List.length_eq_zero_iff.1 (Nat.le_zero.1 hlen)] at h ⊢
    rw [h.eq_nil]
    simp [collapse]
  | fuel + 1, [], _, h, _ => by
    rw [h.eq_nil]
    simp [collapse]
  | fuel + 1, [r], _, h, _ => by
    cases h with
    | push _ piece hrest hr =>
      rw [hrest.eq_nil, List.nil_append, ← hr]
      rfl
  | fuel + 1, c :: b :: rest, threshold, h, hlen => by
    have hlen' : rest.length + 1 ≤ fuel := by simp at hlen; omega
    simp only [collapse]
    -- the two runs below the top are merged when the third is shorter than the top
    rcases rest with _ | ⟨a, rest⟩
    · obtain ⟨t, ht⟩ := mergePending_top hlt h hw threshold
      rw [ht, except_ok_bind]
      exact collapse_eq done hw fuel _ t h.mergeTop hlen'
    · by_cases hdeep : a.items.length < c.items.length
      · obtain ⟨t, ht⟩ := mergePending_deep hlt h hw threshold
        simp only [hdeep, decide_true]
        rw [ht, except_ok_bind]
        exact collapse_eq done hw fuel _ t h.mergeDeep (by simp at hlen' ⊢; omega)
      · obtain ⟨t, ht⟩ := mergePending_top hlt h hw threshold
        simp only [hdeep, decide_false]
        rw [ht, except_ok_bind]
        exact collapse_eq done hw fuel _ t h.mergeTop (by simp at hlen' ⊢; omega)

include hlt in
/-- Cutting the rest of the list into runs, with fuel above its length, pushes the stable sorts
of consecutive pieces of it. -/
theorem cutRuns_eq (total least : Nat) :
    ∀ (fuel : Nat) (rest : List α) (lo : Nat) (stack : List (PendingRun α)) (threshold : Nat)
      (done : List α), Stacked key stack done → Within S done → Within S rest →
      rest.length < fuel →
      ∃ stack' t, cutRuns lt total least fuel rest lo stack threshold = .ok (stack', t) ∧
        Stacked key stack' (done ++ rest)
  | 0, _, _, _, _, _, _, _, _, hfuel => absurd hfuel (Nat.not_lt_zero _)
  | _ + 1, [], _, stack, threshold, done, h, _, _, _ =>
    ⟨stack, threshold, rfl, by rw [List.append_nil]; exact h⟩
  | fuel + 1, x :: xs, lo, stack, threshold, done, h, hw, hr, hfuel => by
    simp only [cutRuns]
    obtain ⟨n, descending, hh, hpos, hle, hrun⟩ := headRun_eq hlt hr (List.cons_ne_nil x xs)
    rw [hh, except_ok_bind]
    dsimp only
    rw [runOf_eq_mergeSort key hrun]
    -- the run pushed is the stable sort of the first `m` elements, for some `m` that is not 0
    split
    case' isTrue =>
      -- a short run is made `least` long by inserting the elements after it
      obtain ⟨r, hins, hrl⟩ := insertEach_eq hlt _ _ (hr.take n) ((hr.drop n).take
        (min (x :: xs).length least - n))
      rw [hins, except_ok_bind]
      have hm : ((x :: xs).take (min (x :: xs).length least)).mergeSort (keyLE key) = r.toList := by
        rw [hrl, ← List.take_add, Nat.add_sub_cancel' (by omega)]
      have hmpos : 0 < min (x :: xs).length least := by omega
      have hmle : min (x :: xs).length least ≤ (x :: xs).length := Nat.min_le_left _ _
      generalize r.toList = run at hm
      generalize min (x :: xs).length least = m at hm hmpos hmle
    case' isFalse =>
      generalize hm : ((x :: xs).take n).mergeSort (keyLE key) = run
      have hmpos := hpos
      have hmle := hle
      generalize n = m at hm hmpos hmle
    all_goals
      rw [except_pure, except_ok_bind]
      dsimp only
      have hpush : ∀ stack', Stacked key stack' done →
          Stacked key ({ items := run, start := lo } :: stack') (done ++ (x :: xs).take m) :=
        fun _ h' => .push _ _ h' hm.symm
      have hrest : done ++ (x :: xs).take m ++ (x :: xs).drop m = done ++ x :: xs := by
        rw [List.append_assoc, List.take_append_drop]
      have hwd : Within S (done ++ (x :: xs).take m) := within_append.2 ⟨hw, hr.take m⟩
      have hlen : ((x :: xs).drop m).length < fuel := by simp at hfuel ⊢; omega
      cases stack with
      | nil =>
        rw [except_pure, except_ok_bind]
        obtain ⟨stack', t, hc, hs⟩ := cutRuns_eq total least fuel _ (lo + m) _ threshold _
          (hpush [] h) hwd (hr.drop m) hlen
        exact ⟨stack', t, hc, hrest ▸ hs⟩
      | cons top tail =>
        -- the stack is settled by the new run's power, which the run below it takes
        obtain ⟨st, th, hset, hst⟩ := settle_eq hlt (boundaryPower top.start top.items.length m total)
          done hw ((top :: tail).length + 1) _ threshold h
        dsimp only
        rw [hset, except_ok_bind, except_pure, except_ok_bind]
        dsimp only
        cases st with
        | nil =>
          obtain ⟨stack', t, hc, hs⟩ := cutRuns_eq total least fuel _ (lo + m) _ th _
            (hpush [] hst) hwd (hr.drop m) hlen
          exact ⟨stack', t, hc, hrest ▸ hs⟩
        | cons t more =>
          obtain ⟨stack', t', hc, hs⟩ := cutRuns_eq total least fuel _ (lo + m) _ th _
            (hpush _ (hst.setPower (boundaryPower top.start top.items.length m total))) hwd
            (hr.drop m) hlen
          exact ⟨stack', t', hc, hrest ▸ hs⟩

include hlt in
/-- With a test that compares keys on the list's elements, the sort is `List.mergeSort` by the
keys: it sorts stably. -/
theorem sortWith_eq {xs : List α} (hxs : Within S xs) :
    sortWith lt xs = .ok (xs.mergeSort (keyLE key)) := by
  unfold sortWith
  split
  · -- fewer than two elements are sorted already
    rename_i hlen
    rcases xs with _ | ⟨a, _ | ⟨b, xs⟩⟩
    · simp
    · simp
    · simp only [List.length_cons] at hlen
      omega
  · obtain ⟨stack, t, hc, hs⟩ := cutRuns_eq hlt xs.length (minRun xs.length) (xs.length + 1) xs 0
      [] gallopLength [] .nil within_nil hxs (Nat.lt_succ_self _)
    rw [hc, except_ok_bind]
    exact collapse_eq hlt xs hxs _ stack t (by simpa using hs) (Nat.le_succ _)

include hlt in
/-- Sorting greatest first is sorting the reversed list stably and reversing the result. -/
theorem sortDescendingWith_eq {xs : List α} (hxs : Within S xs) :
    sortDescendingWith lt xs = .ok (xs.reverse.mergeSort (keyLE key)).reverse := by
  unfold sortDescendingWith
  rw [sortWith_eq hlt (within_reverse.2 hxs), except_map_ok]

end Sorting

end SqlMigration
