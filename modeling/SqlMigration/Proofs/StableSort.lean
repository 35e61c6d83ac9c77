import Mathlib

/-!
# Sorting stably by a key

A stable sort by a key puts the keys in ascending order and keeps the elements of each key in
their order (`SortsBy`). The two together fix the result (`eq_of_ascending_of_filter`), so every
stable sort by a key is `List.mergeSort` by that key (`SortsBy.eq_mergeSort`), and a sort is
shown stable by showing it computes the merges that `List.mergeSort` is made of: merging the
stable sorts of two adjacent pieces sorts their concatenation stably (`mergeSort_append`).

The merge lemmas describe `List.merge` by key the way a merge that gallops takes it apart: the
elements of one side that go before the other side's next element (`merge_cons_right`,
`merge_cons_left`), and the ends of one side that go after all of the other
(`merge_append_left_block`, `merge_append_right_block`). In a list with ascending keys the
elements below a bound form a prefix, found by counting (`getElem_iff_lt_length_takeWhile`).
-/

namespace SqlMigration

section StableSort

variable {α κ : Type} [LinearOrder κ] (key : α → κ)

/-- The order a stable sort by `key` merges with: an element goes before another whose key is
not less, so of two equal keys the first stays first. -/
def keyLE (a b : α) : Bool := decide (key a ≤ key b)

@[simp] theorem keyLE_eq_true {a b : α} : keyLE key a b = true ↔ key a ≤ key b := by
  simp [keyLE]

@[simp] theorem keyLE_eq_false {a b : α} : keyLE key a b = false ↔ key b < key a := by
  simp [keyLE]

theorem keyLE_trans (a b c : α) (hab : keyLE key a b) (hbc : keyLE key b c) : keyLE key a c := by
  simp only [keyLE_eq_true] at hab hbc ⊢
  exact le_trans hab hbc

theorem keyLE_total (a b : α) : (keyLE key a b || keyLE key b a) = true := by
  simp only [Bool.or_eq_true, keyLE_eq_true]
  exact le_total _ _

/-- `s` is `l` sorted stably by `key`: its keys ascend, and the elements with any one key come
in their order in `l`. -/
structure SortsBy (l s : List α) : Prop where
  ascending : s.Pairwise (fun a b => key a ≤ key b)
  stable : ∀ k, s.filter (fun a => key a = k) = l.filter (fun a => key a = k)

/-! ## A stable sort is unique -/

theorem mem_of_filter_key_eq {s t : List α}
    (h : ∀ k, s.filter (fun a => key a = k) = t.filter (fun a => key a = k)) {z : α}
    (hz : z ∈ s) : z ∈ t := by
  have hz' : z ∈ s.filter (fun a => key a = key z) := List.mem_filter.2 ⟨hz, by simp⟩
  rw [h] at hz'
  exact (List.mem_filter.1 hz').1

/-- Two lists with ascending keys and the same elements of each key, in the same order, are
equal: the heads have the least key of both, hence one key, and are the first element of
that key in each. -/
theorem eq_of_ascending_of_filter {s t : List α} (hs : s.Pairwise (fun a b => key a ≤ key b))
    (ht : t.Pairwise (fun a b => key a ≤ key b))
    (h : ∀ k, s.filter (fun a => key a = k) = t.filter (fun a => key a = k)) : s = t := by
  induction s generalizing t with
  | nil =>
    cases t with
    | nil => rfl
    | cons y t => simpa using (h (key y)).symm
  | cons x s ih =>
    cases t with
    | nil => simpa using h (key x)
    | cons y t =>
      have hxt : x ∈ y :: t := mem_of_filter_key_eq key h List.mem_cons_self
      have hys : y ∈ x :: s := mem_of_filter_key_eq key (fun k => (h k).symm) List.mem_cons_self
      have hxy : key x ≤ key y := by
        rcases List.mem_cons.1 hys with rfl | hy
        · exact le_rfl
        · exact List.rel_of_pairwise_cons hs hy
      have hyx : key y ≤ key x := by
        rcases List.mem_cons.1 hxt with rfl | hx
        · exact le_rfl
        · exact List.rel_of_pairwise_cons ht hx
      have hkey : key x = key y := le_antisymm hxy hyx
      have hhead := h (key x)
      simp only [List.filter_cons, decide_true, hkey, ↓reduceIte, List.cons.injEq] at hhead
      obtain ⟨rfl, -⟩ := hhead
      -- with equal heads, each key's elements of the tails agree too
      refine congrArg _ (ih hs.of_cons ht.of_cons fun k => ?_)
      have hk := h k
      simp only [List.filter_cons] at hk
      split at hk
      · exact (List.cons.inj hk).2
      · exact hk

theorem sortsBy_mergeSort (l : List α) : SortsBy key l (l.mergeSort (keyLE key)) where
  ascending := (List.pairwise_mergeSort (keyLE_trans key) (keyLE_total key) l).imp
    fun h => (keyLE_eq_true key).1 h
  stable k := by
    -- the elements of one key are sorted already, so they stay a sublist of the sorted list
    have hsub : List.Sublist (l.filter (fun a => key a = k)) (l.mergeSort (keyLE key)) :=
      List.sublist_mergeSort (keyLE_trans key) (keyLE_total key)
        (List.pairwise_of_forall_mem_list fun a ha b hb => by
          simp only [List.mem_filter, decide_eq_true_eq] at ha hb
          simp [ha.2, hb.2])
        List.filter_sublist
    have hsub' := hsub.filter (fun a => key a = k)
    rw [List.filter_filter, List.filter_congr (fun a _ => Bool.and_self _)] at hsub'
    exact (hsub'.eq_of_length
      ((List.mergeSort_perm l (keyLE key)).filter _).length_eq.symm).symm

theorem SortsBy.eq_mergeSort {l s : List α} (h : SortsBy key l s) :
    s = l.mergeSort (keyLE key) :=
  eq_of_ascending_of_filter key h.ascending (sortsBy_mergeSort key l).ascending
    fun k => (h.stable k).trans ((sortsBy_mergeSort key l).stable k).symm

theorem sortsBy_iff {l s : List α} : SortsBy key l s ↔ s = l.mergeSort (keyLE key) :=
  ⟨SortsBy.eq_mergeSort key, fun h => h ▸ sortsBy_mergeSort key l⟩

theorem SortsBy.perm {l s : List α} (h : SortsBy key l s) : s.Perm l :=
  h.eq_mergeSort ▸ List.mergeSort_perm l _

/-! ## Sorting greatest key first -/

/-- Sorting the reversed list stably and reversing the result puts the keys in descending
order. -/
theorem descending_reverse_mergeSort (l : List α) :
    (l.reverse.mergeSort (keyLE key)).reverse.Pairwise (fun a b => key b ≤ key a) :=
  List.pairwise_reverse.2 (sortsBy_mergeSort key l.reverse).ascending

/-- Sorting the reversed list stably and reversing the result keeps the elements of each key
in their order: reversing twice undoes itself on each key's elements. -/
theorem filter_reverse_mergeSort (l : List α) (k : κ) :
    (l.reverse.mergeSort (keyLE key)).reverse.filter (fun a => key a = k) =
      l.filter (fun a => key a = k) := by
  rw [List.filter_reverse, (sortsBy_mergeSort key l.reverse).stable, List.filter_reverse,
    List.reverse_reverse]

/-! ## Inputs in another order -/

/-- When equal keys mean equal elements, the elements of one key are copies of one element, as
many in a permutation as in the list. -/
theorem filter_key_eq_of_perm {l₁ l₂ : List α} (hp : l₁.Perm l₂)
    (hkey : ∀ a ∈ l₁, ∀ b ∈ l₁, key a = key b → a = b) (k : κ) :
    l₁.filter (fun a => key a = k) = l₂.filter (fun a => key a = k) := by
  have hperm := hp.filter (fun a => key a = k)
  cases h : l₁.filter (fun a => key a = k) with
  | nil =>
    rw [h] at hperm
    exact hperm.nil_eq
  | cons c rest =>
    rw [h] at hperm
    have hmem : ∀ b ∈ c :: rest, b ∈ l₁ ∧ key b = k := by
      intro b hb
      rw [← h] at hb
      simpa using hb
    have hone : ∀ b ∈ c :: rest, b = c := fun b hb =>
      hkey b (hmem b hb).1 c (hmem c List.mem_cons_self).1
        ((hmem b hb).2.trans (hmem c List.mem_cons_self).2.symm)
    calc c :: rest = List.replicate (c :: rest).length c := List.eq_replicate_iff.2 ⟨rfl, hone⟩
      _ = List.replicate (l₂.filter (fun a => key a = k)).length c := by rw [hperm.length_eq]
      _ = l₂.filter (fun a => key a = k) :=
        (List.eq_replicate_iff.2 ⟨rfl, fun b hb => hone b (hperm.mem_iff.2 hb)⟩).symm

/-- A stable sort does not see the order of its input when equal keys mean equal elements. -/
theorem mergeSort_eq_of_perm {l₁ l₂ : List α} (hp : l₁.Perm l₂)
    (hkey : ∀ a ∈ l₁, ∀ b ∈ l₁, key a = key b → a = b) :
    l₁.mergeSort (keyLE key) = l₂.mergeSort (keyLE key) := by
  refine eq_of_ascending_of_filter key (sortsBy_mergeSort key l₁).ascending
    (sortsBy_mergeSort key l₂).ascending fun k => ?_
  rw [(sortsBy_mergeSort key l₁).stable, (sortsBy_mergeSort key l₂).stable]
  exact filter_key_eq_of_perm key hp hkey k

/-! ## Runs that are sorted already -/

theorem mergeSort_of_ascending {l : List α} (h : l.Pairwise (fun a b => key a ≤ key b)) :
    l.mergeSort (keyLE key) = l :=
  List.mergeSort_of_pairwise (h.imp fun h => (keyLE_eq_true key).2 h)

/-- A run with strictly descending keys is sorted by reversing it: no two of its elements
share a key, so reversing keeps every key's elements in order. -/
theorem mergeSort_of_descending {l : List α} (h : l.Pairwise (fun a b => key b < key a)) :
    l.mergeSort (keyLE key) = l.reverse := by
  refine (SortsBy.eq_mergeSort key ⟨?_, fun k => ?_⟩).symm
  · exact List.pairwise_reverse.2 (h.imp le_of_lt)
  · rw [List.filter_reverse]
    -- at most one element has the key `k`
    have hone : (l.filter (fun a => key a = k)).Pairwise (fun _ _ => False) :=
      (List.Pairwise.filter _ h).imp_of_mem fun ha hb hlt => by
        simp only [List.mem_filter, decide_eq_true_eq] at ha hb
        rw [ha.2, hb.2] at hlt
        exact lt_irrefl _ hlt
    rcases hl : l.filter (fun a => key a = k) with _ | ⟨a, _ | ⟨b, t⟩⟩
    · rfl
    · rfl
    · rw [hl] at hone
      exact (List.rel_of_pairwise_cons hone List.mem_cons_self).elim

/-! ## Merging by key -/

/-- Merging keeps every key's elements in order when the first side's keys ascend: an element
of the second side goes before the first side's only when its key is less than all of them. -/
theorem filter_merge (k : κ) :
    ∀ {s t : List α}, s.Pairwise (fun a b => key a ≤ key b) →
      (s.merge t (keyLE key)).filter (fun a => key a = k) =
        s.filter (fun a => key a = k) ++ t.filter (fun a => key a = k)
  | [], t, _ => by simp
  | x :: s, [], _ => by simp
  | x :: s, y :: t, hs => by
    by_cases hxy : key x ≤ key y
    · rw [List.cons_merge_cons_pos _ _ _ ((keyLE_eq_true key).2 hxy), List.filter_cons,
        List.filter_cons (x := x), filter_merge k hs.of_cons]
      split <;> simp
    · have hlt : key y < key x := lt_of_not_ge hxy
      rw [List.cons_merge_cons_neg _ _ _ (by simpa using hlt), List.filter_cons,
        filter_merge k hs]
      by_cases hy : key y = k
      · -- no element of the first side has the key of `y`
        have hnone : (x :: s).filter (fun a => key a = k) = [] := by
          refine List.filter_eq_nil_iff.2 fun a ha => ?_
          have hxa : key x ≤ key a := by
            rcases List.mem_cons.1 ha with rfl | ha
            · exact le_rfl
            · exact List.rel_of_pairwise_cons hs ha
          simp only [decide_eq_true_eq]
          exact fun hak => absurd (hak ▸ hy ▸ hlt) (not_lt_of_ge hxa)
        simp [hnone, hy]
      · simp [hy, List.filter_cons]

theorem SortsBy.merge {l₁ l₂ s₁ s₂ : List α} (h₁ : SortsBy key l₁ s₁) (h₂ : SortsBy key l₂ s₂) :
    SortsBy key (l₁ ++ l₂) (s₁.merge s₂ (keyLE key)) where
  ascending := by
    have hm := List.pairwise_merge (keyLE_trans key) (keyLE_total key) s₁ s₂
      (h₁.ascending.imp fun h => (keyLE_eq_true key).2 h)
      (h₂.ascending.imp fun h => (keyLE_eq_true key).2 h)
    exact hm.imp fun h => (keyLE_eq_true key).1 h
  stable k := by
    rw [filter_merge key k h₁.ascending, h₁.stable, h₂.stable, List.filter_append]

/-- Merging the stable sorts of two adjacent pieces sorts their concatenation stably. -/
theorem mergeSort_append (l₁ l₂ : List α) :
    (l₁ ++ l₂).mergeSort (keyLE key) =
      (l₁.mergeSort (keyLE key)).merge (l₂.mergeSort (keyLE key)) (keyLE key) :=
  (((sortsBy_mergeSort key l₁).merge key (sortsBy_mergeSort key l₂)).eq_mergeSort key).symm

/-- Before the second side's next element `b` go the first side's elements up to the first
whose key is greater than `b`'s. -/
theorem merge_cons_right (b : α) (r : List α) :
    ∀ l : List α, l.merge (b :: r) (keyLE key) =
      l.takeWhile (keyLE key · b) ++ b :: (l.dropWhile (keyLE key · b)).merge r (keyLE key)
  | [] => by simp
  | x :: l => by
    cases hx : keyLE key x b
    · rw [List.cons_merge_cons_neg _ _ _ (by simp [hx])]
      simp [hx]
    · rw [List.cons_merge_cons_pos _ _ _ hx, merge_cons_right b r l]
      simp [hx]

/-- Before the first side's next element `a` go the second side's elements up to the first
whose key is not less than `a`'s. -/
theorem merge_cons_left (a : α) (l : List α) :
    ∀ r : List α, (a :: l).merge r (keyLE key) =
      r.takeWhile (fun y => key y < key a) ++
        a :: l.merge (r.dropWhile (fun y => key y < key a)) (keyLE key)
  | [] => by simp
  | y :: r => by
    by_cases hy : key y < key a
    · rw [List.cons_merge_cons_neg _ _ _ (by simpa using hy), merge_cons_left a l r]
      simp [hy]
    · rw [List.cons_merge_cons_pos _ _ _ ((keyLE_eq_true key).2 (le_of_not_gt hy))]
      simp [hy]

/-- A first side whose keys are all greater than the second side's goes after it. -/
theorem merge_of_lt :
    ∀ {l r : List α}, (∀ y ∈ r, ∀ z ∈ l, key y < key z) → l.merge r (keyLE key) = r ++ l
  | [], r, _ => by simp
  | z :: l, [], _ => by simp
  | z :: l, y :: r, h => by
    rw [List.cons_merge_cons_neg _ _ _ (by simpa using h y List.mem_cons_self z List.mem_cons_self),
      merge_of_lt fun y' hy' z' hz' => h y' (List.mem_cons_of_mem y hy') z' hz']
    rfl

/-- An end of the first side whose keys are all greater than the second side's stays at the
end of the merge. -/
theorem merge_append_left_block {suffix : List α} :
    ∀ {l r : List α}, (∀ y ∈ r, ∀ z ∈ suffix, key y < key z) →
      (l ++ suffix).merge r (keyLE key) = l.merge r (keyLE key) ++ suffix
  | [], r, h => by rw [List.nil_append, merge_of_lt key h, List.nil_merge]
  | x :: l, [], _ => by simp
  | x :: l, y :: r, h => by
    by_cases hxy : key x ≤ key y
    · rw [List.cons_append, List.cons_merge_cons_pos _ _ _ ((keyLE_eq_true key).2 hxy),
        List.cons_merge_cons_pos _ _ _ ((keyLE_eq_true key).2 hxy), merge_append_left_block h]
      rfl
    · have hneg : ¬ keyLE key x y = true := by simpa using hxy
      rw [List.cons_append, List.cons_merge_cons_neg _ _ _ hneg,
        List.cons_merge_cons_neg _ _ _ hneg, ← List.cons_append,
        merge_append_left_block fun y' hy' => h y' (List.mem_cons_of_mem y hy')]
      rfl

/-- An end of the second side whose keys are all at least the first side's stays at the end
of the merge. -/
theorem merge_append_right_block {suffix : List α} :
    ∀ {l r : List α}, (∀ x ∈ l, ∀ z ∈ suffix, key x ≤ key z) →
      l.merge (r ++ suffix) (keyLE key) = l.merge r (keyLE key) ++ suffix
  | l, [], h => by
    rw [List.nil_append, List.merge_of_le fun a b ha hb => (keyLE_eq_true key).2 (h a ha b hb),
      List.merge_right]
  | [], y :: r, _ => by simp
  | x :: l, y :: r, h => by
    by_cases hxy : key x ≤ key y
    · rw [List.cons_append, List.cons_merge_cons_pos _ _ _ ((keyLE_eq_true key).2 hxy),
        List.cons_merge_cons_pos _ _ _ ((keyLE_eq_true key).2 hxy), ← List.cons_append,
        merge_append_right_block fun x' hx' => h x' (List.mem_cons_of_mem x hx')]
      rfl
    · have hneg : ¬ keyLE key x y = true := by simpa using hxy
      rw [List.cons_append, List.cons_merge_cons_neg _ _ _ hneg,
        List.cons_merge_cons_neg _ _ _ hneg, merge_append_right_block h]
      rfl

/-! ## Bounds in a list with ascending keys -/

theorem take_length_takeWhile (p : α → Bool) :
    ∀ l : List α, l.take (l.takeWhile p).length = l.takeWhile p
  | [] => rfl
  | a :: l => by
    rw [List.takeWhile_cons]
    split
    · simp [take_length_takeWhile p l]
    · simp

theorem drop_length_takeWhile (p : α → Bool) :
    ∀ l : List α, l.drop (l.takeWhile p).length = l.dropWhile p
  | [] => rfl
  | a :: l => by
    rw [List.takeWhile_cons, List.dropWhile_cons]
    split
    · simp [drop_length_takeWhile p l]
    · simp

/-- Counted from the end, the prefix of the reversed list where a test holds is the list's end:
what comes before it is the reversed rest. -/
theorem take_reverse_takeWhile (p : α → Bool) (l : List α) :
    l.take (l.length - (l.reverse.takeWhile p).length) = (l.reverse.dropWhile p).reverse := by
  obtain ⟨A, D, hA, hD⟩ : ∃ A D, l.reverse.takeWhile p = A ∧ l.reverse.dropWhile p = D :=
    ⟨_, _, rfl, rfl⟩
  have hl : l = D.reverse ++ A.reverse := by
    rw [← hA, ← hD, ← List.reverse_append, List.takeWhile_append_dropWhile, List.reverse_reverse]
  rw [hA, hD, hl]
  simp

theorem drop_reverse_takeWhile (p : α → Bool) (l : List α) :
    l.drop (l.length - (l.reverse.takeWhile p).length) = (l.reverse.takeWhile p).reverse := by
  obtain ⟨A, D, hA, hD⟩ : ∃ A D, l.reverse.takeWhile p = A ∧ l.reverse.dropWhile p = D :=
    ⟨_, _, rfl, rfl⟩
  have hl : l = D.reverse ++ A.reverse := by
    rw [← hA, ← hD, ← List.reverse_append, List.takeWhile_append_dropWhile, List.reverse_reverse]
  rw [hA, hl]
  simp

/-- A test on elements that holds of every element with a smaller key when it holds of one. -/
def DownClosed (p : α → Bool) : Prop := ∀ a b, key a ≤ key b → p b = true → p a = true

/-- In a list with ascending keys, a test closed downwards holds exactly at the places before
the end of the prefix where it holds. -/
theorem getElem_iff_lt_length_takeWhile {p : α → Bool} (hp : DownClosed key p) :
    ∀ {l : List α}, l.Pairwise (fun a b => key a ≤ key b) →
      ∀ (m : Nat) (hm : m < l.length), p l[m] = true ↔ m < (l.takeWhile p).length
  | [], _, m, hm => absurd hm (Nat.not_lt_zero m)
  | x :: l, hs, m, hm => by
    cases hx : p x
    · -- nothing passes the test: every element has a key at least `x`'s
      have hnil : (x :: l).takeWhile p = [] := by simp [hx]
      rw [hnil, List.length_nil]
      simp only [Nat.not_lt_zero, iff_false, Bool.not_eq_true]
      cases m with
      | zero => simpa using hx
      | succ m =>
        have hm' : m < l.length := by simpa using hm
        rw [List.getElem_cons_succ]
        cases hpm : p l[m] with
        | false => rfl
        | true =>
          have hle := List.rel_of_pairwise_cons hs (List.getElem_mem hm')
          simpa [hx] using hp x _ hle hpm
    · have hcons : (x :: l).takeWhile p = x :: l.takeWhile p := by simp [hx]
      rw [hcons, List.length_cons]
      cases m with
      | zero => simpa using hx
      | succ m =>
        have hm' : m < l.length := by simpa using hm
        rw [List.getElem_cons_succ, getElem_iff_lt_length_takeWhile hp hs.of_cons m hm']
        omega

/-- In a list with ascending keys, no element after the prefix where a test closed downwards
holds passes it. -/
theorem dropWhile_not {p : α → Bool} (hp : DownClosed key p) :
    ∀ {l : List α}, l.Pairwise (fun a b => key a ≤ key b) → ∀ y ∈ l.dropWhile p, p y = false
  | [], _, y, hy => by simp at hy
  | x :: l, hs, y, hy => by
    cases hx : p x
    · rw [List.dropWhile_cons, hx] at hy
      cases hpy : p y with
      | false => rfl
      | true =>
        have hle : key x ≤ key y := by
          rcases List.mem_cons.1 hy with rfl | hy
          · exact le_rfl
          · exact List.rel_of_pairwise_cons hs hy
        simpa [hx] using hp x y hle hpy
    · rw [List.dropWhile_cons, hx] at hy
      exact dropWhile_not hp hs.of_cons y hy

end StableSort

end SqlMigration
