import SqlMigration.Sorting

/-!
# Sorting by a test that does not fail

`sortWith` stops at the first test that fails. Every test it makes is between elements of the
list it sorts, so a test that succeeds on every pair of those elements lets the sort finish
(`sortWith_ok`, `sortDescendingWith_ok`).

Each part of the sort is shown to finish, with a result made of the elements it was given: the
search for the head run, the binary insertion, the gallops, the merges from the front and from
the back, and the stack of pending runs. The elements a part may test are tracked by a predicate
`S` that holds of all of them (`Within S`).
-/

namespace SqlMigration

variable {α ε : Type}

/-- Every element of a list satisfies `S`. -/
def Within (S : α → Prop) (l : List α) : Prop := ∀ x ∈ l, S x

section Within

variable {S : α → Prop}

@[simp] theorem within_nil : Within S [] := fun _ h => nomatch h

@[simp] theorem within_cons {a : α} {l : List α} : Within S (a :: l) ↔ S a ∧ Within S l := by
  simp [Within]

@[simp] theorem within_append {l₁ l₂ : List α} :
    Within S (l₁ ++ l₂) ↔ Within S l₁ ∧ Within S l₂ := by
  simp only [Within, List.mem_append]
  exact ⟨fun h => ⟨fun x hx => h x (.inl hx), fun x hx => h x (.inr hx)⟩,
    fun h x hx => hx.elim (h.1 x) (h.2 x)⟩

@[simp] theorem within_reverse {l : List α} : Within S l.reverse ↔ Within S l := by
  simp [Within]

@[simp] theorem within_toList_toArray {l : List α} : Within S l.toArray.toList ↔ Within S l :=
  Iff.rfl

theorem Within.take {l : List α} (h : Within S l) (k : Nat) : Within S (l.take k) :=
  fun x hx => h x (List.mem_of_mem_take hx)

theorem Within.drop {l : List α} (h : Within S l) (k : Nat) : Within S (l.drop k) :=
  fun x hx => h x (List.mem_of_mem_drop hx)

/-- An element read from an array with a default is an element of the array or the default. -/
theorem Within.getD {a : Array α} (ha : Within S a.toList) {d : α} (hd : S d) (i : Nat) :
    S (a.getD i d) := by
  rw [Array.getD_eq_getD_getElem?]
  cases hi : a[i]? with
  | none => exact hd
  | some x => exact ha x (Array.mem_toList_iff.2 (Array.mem_of_getElem? hi))

end Within

@[simp] theorem except_ok_bind {β γ : Type} (a : β) (f : β → Except ε γ) :
    (Except.ok a : Except ε β) >>= f = f a := rfl

@[simp] theorem except_map_ok {β γ : Type} (f : β → γ) (a : β) :
    f <$> (Except.ok a : Except ε β) = .ok (f a) := rfl

/-- A bind finishes when its first part does, with a result the rest accepts. -/
theorem exists_bind_ok {β γ : Type} {P : β → Prop} {Q : γ → Prop} {x : Except ε β}
    {f : β → Except ε γ} (hx : ∃ b, x = .ok b ∧ P b) (hf : ∀ b, P b → ∃ r, f b = .ok r ∧ Q r) :
    ∃ r, x >>= f = .ok r ∧ Q r := by
  obtain ⟨b, rfl, hb⟩ := hx
  exact hf b hb

section Total

variable {lt : α → α → Except ε Bool} {S : α → Prop}
  (hlt : ∀ a b, S a → S b → ∃ v, lt a b = .ok v)

/-! ## Runs and insertion -/

include hlt in
theorem runTail_ok (descending : Bool) :
    ∀ (prev : α) (xs : List α), S prev → Within S xs → ∃ n, runTail lt descending prev xs = .ok n
  | _, [], _, _ => ⟨0, rfl⟩
  | prev, x :: xs, hp, hxs => by
    rw [within_cons] at hxs
    obtain ⟨v, hv⟩ := hlt x prev hxs.1 hp
    obtain ⟨n, hn⟩ := runTail_ok descending x xs hxs.1 hxs.2
    simp only [runTail, hv, except_ok_bind]
    split
    · rw [hn]
      exact ⟨n + 1, rfl⟩
    · exact ⟨0, rfl⟩

include hlt in
theorem headRun_ok {xs : List α} (hxs : Within S xs) : ∃ r, headRun lt xs = .ok r := by
  match xs, hxs with
  | a :: b :: rest, hxs =>
    simp only [within_cons] at hxs
    obtain ⟨d, hd⟩ := hlt b a hxs.2.1 hxs.1
    obtain ⟨n, hn⟩ := runTail_ok hlt d b rest hxs.2.1 hxs.2.2
    simp only [headRun, hd, hn, except_ok_bind]
    exact ⟨_, rfl⟩
  | [], _ => exact ⟨_, rfl⟩
  | [_], _ => exact ⟨_, rfl⟩

/-- A search by halving finishes when its test does. -/
theorem bisect_ok {after : Nat → Except ε Bool} (hafter : ∀ m, ∃ v, after m = .ok v) (lo hi : Nat) :
    ∃ n, bisect after lo hi = .ok n := by
  fun_induction bisect after lo hi with
  | case1 lo hi _ mid ih₁ ih₂ =>
    obtain ⟨v, hv⟩ := hafter mid
    rw [hv, except_ok_bind]
    cases v
    · exact ih₂
    · exact ih₁
  | case2 => exact ⟨_, rfl⟩

include hlt in
theorem placeOf_ok {sorted : Array α} (hs : Within S sorted.toList) {pivot : α} (hp : S pivot)
    (lo hi : Nat) : ∃ n, placeOf lt sorted pivot lo hi = .ok n := by
  refine bisect_ok (fun m => ?_) lo hi
  obtain ⟨v, hv⟩ := hlt pivot _ hp (hs.getD hp m)
  exact ⟨!v, by rw [hv]; rfl⟩

include hlt in
theorem insertEach_ok :
    ∀ (sorted : Array α) (xs : List α), Within S sorted.toList → Within S xs →
      ∃ r, insertEach lt sorted xs = .ok r ∧ Within S r.toList
  | sorted, [], hs, _ => ⟨sorted, rfl, hs⟩
  | sorted, x :: xs, hs, hxs => by
    rw [within_cons] at hxs
    obtain ⟨i, hi⟩ := placeOf_ok hlt hs hxs.1 0 sorted.size
    simp only [insertEach, hi, except_ok_bind]
    refine insertEach_ok _ xs ?_ hxs.2
    simp only [within_append, within_cons]
    exact ⟨hs.take i, hxs.1, hs.drop i⟩

/-! ## Gallops -/

/-- Widening a step finishes when its test does. -/
theorem widen_ok {more : Nat → Except ε Bool} (hmore : ∀ s, ∃ v, more s = .ok v) (limit : Nat) :
    ∀ fuel last step, ∃ r, widen more limit fuel last step = .ok r
  | 0, _, _ => ⟨_, rfl⟩
  | fuel + 1, last, step => by
    simp only [widen]
    split
    · obtain ⟨v, hv⟩ := hmore step
      rw [hv, except_ok_bind]
      cases v
      · exact ⟨_, rfl⟩
      · exact widen_ok hmore limit fuel step (2 * step + 1)
    · exact ⟨_, rfl⟩

include hlt in
theorem gallopLeft_ok {key : α} (hk : S key) {a : Array α} (ha : Within S a.toList) (hint : Nat) :
    ∃ n, gallopLeft lt key a hint = .ok n := by
  have hbelow : ∀ m, ∃ v, lt (a.getD m key) key = .ok v := fun m => hlt _ _ (ha.getD hk m) hk
  have hnot : ∀ m, ∃ v, ((! ·) <$> lt (a.getD m key) key) = .ok v := fun m => by
    obtain ⟨v, hv⟩ := hbelow m
    exact ⟨!v, by rw [hv]; rfl⟩
  obtain ⟨v, hv⟩ := hbelow hint
  simp only [gallopLeft, hv, except_ok_bind]
  cases v
  · obtain ⟨⟨last, step⟩, hw⟩ := widen_ok (fun s => hnot (hint - s)) (hint + 1) (a.size + 1) 0 1
    simp only [Bool.false_eq_true, ↓reduceIte, hw, except_ok_bind]
    exact bisect_ok hbelow _ _
  · obtain ⟨⟨last, step⟩, hw⟩ := widen_ok (fun s => hbelow (hint + s)) (a.size - hint) (a.size + 1) 0 1
    simp only [↓reduceIte, hw, except_ok_bind]
    exact bisect_ok hbelow _ _

include hlt in
theorem gallopRight_ok {key : α} (hk : S key) {a : Array α} (ha : Within S a.toList) (hint : Nat) :
    ∃ n, gallopRight lt key a hint = .ok n := by
  have habove : ∀ m, ∃ v, lt key (a.getD m key) = .ok v := fun m => hlt _ _ hk (ha.getD hk m)
  have hnot : ∀ m, ∃ v, ((! ·) <$> lt key (a.getD m key)) = .ok v := fun m => by
    obtain ⟨v, hv⟩ := habove m
    exact ⟨!v, by rw [hv]; rfl⟩
  obtain ⟨v, hv⟩ := habove hint
  simp only [gallopRight, hv, except_ok_bind]
  cases v
  · obtain ⟨⟨last, step⟩, hw⟩ := widen_ok (fun s => hnot (hint + s)) (a.size - hint) (a.size + 1) 0 1
    simp only [Bool.false_eq_true, ↓reduceIte, hw, except_ok_bind]
    exact bisect_ok hnot _ _
  · obtain ⟨⟨last, step⟩, hw⟩ := widen_ok (fun s => habove (hint - s)) (hint + 1) (a.size + 1) 0 1
    simp only [↓reduceIte, hw, except_ok_bind]
    exact bisect_ok hnot _ _

/-! ## Merges -/

include hlt in
/-- The merge from the front finishes, with the elements it was given. -/
theorem frontSteps_ok (fuel : Nat) (as bs out : List α) (aWins bWins : Nat) (galloping : Bool)
    (threshold kept : Nat) : Within S as → Within S bs → Within S out →
    ∃ r, frontSteps lt fuel as bs out aWins bWins galloping threshold kept = .ok r ∧ Within S r.1 := by
  fun_induction frontSteps lt fuel as bs out aWins bWins galloping threshold kept with
  | case1 => intro ha hb ho; exact ⟨_, rfl, by simp [*]⟩
  | case2 fuel out aWins bWins threshold kept a as' b bs' ih₄ ih₃ ih₂ ih₁ =>
    intro ha hb ho
    simp only [within_cons] at ha hb
    obtain ⟨v, hv⟩ := hlt b a hb.1 ha.1
    rw [hv, except_ok_bind]
    cases v
    · simp only [Bool.false_eq_true, ↓reduceIte]
      split
      · exact ⟨_, rfl, by simp [*]⟩
      split
      · exact ih₂ ha.2 (by simp [*]) (by simp [*])
      · exact ih₁ ha.2 (by simp [*]) (by simp [*])
    · simp only [↓reduceIte]
      split
      · exact ⟨_, rfl, by simp [*]⟩
      split
      · exact ih₄ (by simp [*]) hb.2 (by simp [*])
      · exact ih₃ (by simp [*]) hb.2 (by simp [*])
  | case3 => intro ha hb ho; exact ⟨_, rfl, by simp [*]⟩
  | case4 => intro ha hb ho; exact ⟨_, rfl, by simp [*]⟩
  | case5 fuel as out _ _ _ _ threshold x xs ih₂ ih₁ =>
    intro ha hb ho
    rw [within_cons] at hb
    obtain ⟨k, hk⟩ := gallopRight_ok hlt hb.1 (a := as.toArray) ha 0
    rw [hk, except_ok_bind]
    dsimp only
    have hta := ha.take k
    have hda := ha.drop k
    -- the first gallop's exits, then the match on what is left of the first run
    split
    · exact ⟨_, rfl, by simp [*]⟩
    split
    · exact ⟨_, rfl, by simp [*]⟩
    split
    · exact ⟨_, rfl, by simp [*]⟩
    split
    · exact ⟨_, rfl, by simp [*]⟩
    rename_i a as' hdrop
    rw [hdrop, within_cons] at hda
    obtain ⟨k', hk'⟩ := gallopLeft_ok hlt hda.1 (a := xs.toArray) hb.2 0
    rw [hk', except_ok_bind]
    have htx := hb.2.take k'
    have hdx := hb.2.drop k'
    split
    · exact ⟨_, rfl, by simp [*]⟩
    split
    · exact ⟨_, rfl, by simp [*]⟩
    split
    · exact ih₂ k a as' k' hda.2 hdx (by simp [*])
    · exact ih₁ k a as' k' hda.2 hdx (by simp [*])

include hlt in
/-- The merge from the back finishes, with the elements it was given. -/
theorem backSteps_ok (fuel : Nat) (ra rb out : List α) (aWins bWins : Nat) (galloping : Bool)
    (threshold kept : Nat) : Within S ra → Within S rb → Within S out →
    ∃ r, backSteps lt fuel ra rb out aWins bWins galloping threshold kept = .ok r ∧ Within S r.1 := by
  fun_induction backSteps lt fuel ra rb out aWins bWins galloping threshold kept with
  | case1 => intro ha hb ho; exact ⟨_, rfl, by simp [*]⟩
  | case2 fuel out aWins bWins threshold kept a ra' b rb' ih₄ ih₃ ih₂ ih₁ =>
    intro ha hb ho
    simp only [within_cons] at ha hb
    obtain ⟨v, hv⟩ := hlt b a hb.1 ha.1
    rw [hv, except_ok_bind]
    cases v
    · simp only [Bool.false_eq_true, ↓reduceIte]
      split
      · exact ⟨_, rfl, by simp [*]⟩
      split
      · exact ih₂ (by simp [*]) hb.2 (by simp [*])
      · exact ih₁ (by simp [*]) hb.2 (by simp [*])
    · simp only [↓reduceIte]
      split
      · exact ⟨_, rfl, by simp [*]⟩
      split
      · exact ih₄ ha.2 (by simp [*]) (by simp [*])
      · exact ih₃ ha.2 (by simp [*]) (by simp [*])
  | case3 => intro ha hb ho; exact ⟨_, rfl, by simp [*]⟩
  | case4 => intro ha hb ho; exact ⟨_, rfl, by simp [*]⟩
  | case5 fuel ra out _ _ _ _ threshold x xs ih₂ ih₁ =>
    intro ha hb ho
    rw [within_cons] at hb
    obtain ⟨k, hk⟩ := gallopRight_ok hlt hb.1 (a := ra.reverse.toArray) (by simpa using ha)
      (ra.length - 1)
    rw [hk, except_ok_bind]
    dsimp only
    have hta := ha.take (ra.length - k)
    have hda := ha.drop (ra.length - k)
    -- the first gallop's exits, then the match on what is left of the first run
    split
    · exact ⟨_, rfl, by simp [*]⟩
    split
    · exact ⟨_, rfl, by simp [*]⟩
    split
    · exact ⟨_, rfl, by simp [*]⟩
    rename_i a ra' hdrop
    rw [hdrop, within_cons] at hda
    obtain ⟨k', hk'⟩ := gallopLeft_ok hlt hda.1 (a := xs.reverse.toArray) (by simpa using hb.2)
      (xs.length - 1)
    rw [hk', except_ok_bind]
    have htx := hb.2.take (xs.length - k')
    have hdx := hb.2.drop (xs.length - k')
    split
    · exact ⟨_, rfl, by simp [*]⟩
    split
    · exact ⟨_, rfl, by simp [*]⟩
    split
    · exact ⟨_, rfl, by simp [*]⟩
    split
    · exact ih₂ k a ra' k' hda.2 hdx (by simp [*])
    · exact ih₁ k a ra' k' hda.2 hdx (by simp [*])

include hlt in
theorem mergeFront_ok {a b : List α} (ha : Within S a) (hb : Within S b) (threshold : Nat) :
    ∃ r, mergeFront lt a b threshold = .ok r ∧ Within S r.1 := by
  unfold mergeFront
  split
  · exact ⟨_, rfl, by simp [*]⟩
  · exact ⟨_, rfl, by simp [*]⟩
  · simp only [within_cons] at hb
    split
    · exact ⟨_, rfl, by simp [*]⟩
    split
    · exact ⟨_, rfl, by simp [*]⟩
    · exact frontSteps_ok hlt _ _ _ _ _ _ _ _ _ ha hb.2 (by simp [hb.1])

include hlt in
theorem mergeBack_ok {a b : List α} (ha : Within S a) (hb : Within S b) (threshold : Nat) :
    ∃ r, mergeBack lt a b threshold = .ok r ∧ Within S r.1 := by
  -- the merge looks at both runs from their last elements
  have hra : Within S a.reverse := by simpa using ha
  have hrb : Within S b.reverse := by simpa using hb
  unfold mergeBack
  rcases hra' : a.reverse with _ | ⟨aLast, ra⟩
  · exact ⟨_, rfl, by simp [*]⟩
  rcases hrb' : b.reverse with _ | ⟨b₁, rb⟩
  · exact ⟨_, rfl, by simp [*]⟩
  rw [hra', within_cons] at hra
  rw [hrb'] at hrb
  dsimp only
  split
  · exact ⟨_, rfl, by simp [*]⟩
  split
  · exact ⟨_, rfl, by simp [*]⟩
  · exact backSteps_ok hlt _ _ _ _ _ _ _ _ _ hra.2 hrb (by simp [hra.1])

include hlt in
/-- Merging two runs finishes, with the elements of both. -/
theorem mergeRuns_ok {a b : List α} (ha : Within S a) (hb : Within S b) (threshold : Nat) :
    ∃ r, mergeRuns lt a b threshold = .ok r ∧ Within S r.1 := by
  unfold mergeRuns
  split
  · exact ⟨_, rfl, ha⟩
  rename_i b₀ bs
  obtain ⟨k, hk⟩ := gallopRight_ok hlt (by simp at hb; exact hb.1) (a := a.toArray) ha 0
  rw [hk, except_ok_bind]
  dsimp only
  have hta := ha.take k
  have hda := ha.drop k
  split
  · exact ⟨_, rfl, by simp [*]⟩
  rename_i aLast hlast
  obtain ⟨n, hn⟩ := gallopLeft_ok hlt (hda aLast (List.mem_of_getLast? hlast)) (a := (b₀ :: bs).toArray)
    hb ((b₀ :: bs).length - 1)
  rw [hn, except_ok_bind]
  split
  · exact ⟨_, rfl, by simp [*]⟩
  -- the trimmed runs are merged from the side of the shorter one
  have htb := hb.take n
  have hdb := hb.drop n
  split
  · obtain ⟨m, hm, hmw⟩ := mergeFront_ok hlt hda htb threshold
    rw [hm, except_ok_bind]
    exact ⟨_, rfl, by simp [*]⟩
  · obtain ⟨m, hm, hmw⟩ := mergeBack_ok hlt hda htb threshold
    rw [hm, except_ok_bind]
    exact ⟨_, rfl, by simp [*]⟩

/-! ## The stack of pending runs -/

include hlt in
theorem mergePending_ok {stack : List (PendingRun α)} (hs : ∀ r ∈ stack, Within S r.items)
    (deep : Bool) (threshold : Nat) :
    ∃ r, mergePending lt stack deep threshold = .ok r ∧ ∀ p ∈ r.1, Within S p.items := by
  unfold mergePending
  split
  · rename_i b a rest
    obtain ⟨m, hm, hmw⟩ := mergeRuns_ok hlt (hs a (by simp)) (hs b (by simp)) threshold
    rw [hm, except_ok_bind]
    refine ⟨_, rfl, ?_⟩
    simp only [List.mem_cons, forall_eq_or_imp]
    exact ⟨hmw, fun p hp => hs p (by simp [hp])⟩
  · rename_i c b a rest
    obtain ⟨m, hm, hmw⟩ := mergeRuns_ok hlt (hs a (by simp)) (hs b (by simp)) threshold
    rw [hm, except_ok_bind]
    refine ⟨_, rfl, ?_⟩
    simp only [List.mem_cons, forall_eq_or_imp]
    exact ⟨hs c (by simp), hmw, fun p hp => hs p (by simp [hp])⟩
  · exact ⟨_, rfl, hs⟩

include hlt in
theorem settle_ok (power : Nat) :
    ∀ (fuel : Nat) (stack : List (PendingRun α)) (threshold : Nat), (∀ r ∈ stack, Within S r.items) →
      ∃ r, settle lt power fuel stack threshold = .ok r ∧ ∀ p ∈ r.1, Within S p.items
  | 0, _, _, hs => ⟨_, rfl, hs⟩
  | fuel + 1, stack, threshold, hs => by
    simp only [settle]
    split
    · split
      · obtain ⟨m, hm, hmw⟩ := mergePending_ok hlt hs false threshold
        rw [hm, except_ok_bind]
        exact settle_ok power fuel _ _ hmw
      · exact ⟨_, rfl, hs⟩
    · exact ⟨_, rfl, hs⟩

include hlt in
theorem collapse_ok :
    ∀ (fuel : Nat) (stack : List (PendingRun α)) (threshold : Nat), (∀ r ∈ stack, Within S r.items) →
      ∃ r, collapse lt fuel stack threshold = .ok r ∧ Within S r
  | 0, stack, _, hs => ⟨_, rfl, fun x hx => by
      obtain ⟨r, hr, hx⟩ := List.mem_flatMap.1 hx
      exact hs r (List.mem_reverse.1 hr) x hx⟩
  | _ + 1, [], _, _ => ⟨_, rfl, within_nil⟩
  | _ + 1, [r], _, hs => ⟨_, rfl, hs r (by simp)⟩
  | fuel + 1, r₁ :: r₂ :: rest, threshold, hs => by
    simp only [collapse]
    refine exists_bind_ok (mergePending_ok hlt hs _ threshold) fun m hmw => ?_
    exact collapse_ok fuel _ _ hmw

include hlt in
/-- Cutting the list into runs finishes, with every pending run made of the list's elements. -/
theorem cutRuns_ok (total least : Nat) :
    ∀ (fuel : Nat) (rest : List α) (lo : Nat) (stack : List (PendingRun α)) (threshold : Nat),
      Within S rest → (∀ r ∈ stack, Within S r.items) →
      ∃ r, cutRuns lt total least fuel rest lo stack threshold = .ok r ∧ ∀ p ∈ r.1, Within S p.items
  | 0, _, _, _, _, _, hs => ⟨_, rfl, hs⟩
  | _ + 1, [], _, _, _, _, hs => ⟨_, rfl, hs⟩
  | fuel + 1, x :: xs, lo, stack, threshold, hr, hs => by
    simp only [cutRuns]
    obtain ⟨⟨n, descending⟩, hh⟩ := headRun_ok hlt hr
    rw [hh, except_ok_bind]
    dsimp only
    -- the run at the head, made at least `least` long by inserting what follows it
    have hrun : Within S (if descending then ((x :: xs).take n).reverse else (x :: xs).take n) := by
      split <;> simp [hr.take n]
    generalize (if descending then ((x :: xs).take n).reverse else (x :: xs).take n) = run at hrun ⊢
    split
    case' isTrue =>
      obtain ⟨sorted, hsorted, hsw⟩ := insertEach_ok hlt run.toArray _ hrun ((hr.drop n).take _)
      rw [hsorted, except_ok_bind]
    -- either way a run made of the list's elements is pushed: the stack is settled by its power,
    -- and the rest of the list is cut
    all_goals
      simp only [pure_bind]
      cases stack with
      | nil => exact cutRuns_ok total least fuel _ _ _ _ (hr.drop _) (by simp [*])
      | cons top more =>
        obtain ⟨⟨st, th⟩, hset, hsetw⟩ := settle_ok hlt _ _ _ threshold hs
        dsimp only
        rw [hset, except_ok_bind]
        refine cutRuns_ok total least fuel _ _ _ _ (hr.drop _) ?_
        cases st with
        | nil => simp [*]
        | cons t rest =>
          simp only [List.mem_cons, forall_eq_or_imp] at hsetw ⊢
          exact ⟨by assumption, hsetw⟩

/-! ## Sorting -/

include hlt in
/-- A sort whose test succeeds on every pair of the list's elements finishes, with the list's
elements. -/
theorem sortWith_ok {xs : List α} (hxs : Within S xs) :
    ∃ ys, sortWith lt xs = .ok ys ∧ Within S ys := by
  unfold sortWith
  split
  · exact ⟨xs, rfl, hxs⟩
  · obtain ⟨⟨stack, threshold⟩, hc, hcw⟩ := cutRuns_ok hlt xs.length (minRun xs.length)
      (xs.length + 1) xs 0 [] gallopLength hxs (by simp)
    rw [hc, except_ok_bind]
    exact collapse_ok hlt _ _ _ hcw

include hlt in
theorem sortDescendingWith_ok {xs : List α} (hxs : Within S xs) :
    ∃ ys, sortDescendingWith lt xs = .ok ys ∧ Within S ys := by
  obtain ⟨ys, hys, hyw⟩ := sortWith_ok hlt (within_reverse.2 hxs)
  unfold sortDescendingWith
  rw [hys, except_map_ok]
  exact ⟨_, rfl, within_reverse.2 hyw⟩

end Total

end SqlMigration
