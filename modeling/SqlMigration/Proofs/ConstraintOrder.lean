import SqlMigration.Proofs.SortMerge
import SqlMigration.Proofs.ConstraintRows

/-!
# The order of the constraint scripts

Key constraints are added greatest key first and check constraints least key first. A key
constraint's key is (is foreign key, kind code, schema, table, name) and a check constraint's is
(schema, table, name); both are compared place by place, texts in code-point order. Here the keys
are values of a lexicographic order (`Constraint.orderKey`, `CheckConstraint.orderKey`), and the
comparison the scripts make on named descriptors is that order (`keyLess_eq`, `checkLess_eq`).
The stable sort's specification then describes both scripts completely:

* the key constraint script joins, one per line, the statements of the non-exclusion
  constraints, each once, keys never increasing, so foreign keys first, and constraints of one
  key in their input order (`renderConstraints_spec`);
* the check constraint script likewise, keys never decreasing (`renderChecks_spec`);
* neither text depends on the input's order when equal keys mean equal descriptors
  (`renderConstraints_perm`, `renderChecks_perm`).
-/

namespace SqlMigration

/-! ## Comparing texts and truth values -/

namespace Datum

theorem same_text (a b : String) : same (.text a) (.text b) = decide (a = b) := by
  rw [same]
  by_cases h : a = b <;> simp [h]

theorem lessThan_text (a b : String) : lessThan (.text a) (.text b) = .ok (decide (a < b)) := by
  rw [lessThan]

theorem same_bool (a b : Bool) : same (.bool a) (.bool b) = decide (a = b) := by
  cases a <;> cases b <;> rfl

theorem lessThan_bool (a b : Bool) : lessThan (.bool a) (.bool b) = .ok (decide (a < b)) := by
  cases a <;> cases b <;> rfl

/-- Lists compared place by place are compared lexicographically: when the heads compare as
`a` and `b` and the tails as `r` and `s`, the lists compare as the pairs. -/
theorem lessItems_cons_lex {β γ : Type} [LinearOrder β] [LinearOrder γ] {x y : Datum}
    {xs ys : List Datum} {a b : β} {r s : γ}
    (hsame : same x y = decide (a = b)) (hlt : lessThan x y = .ok (decide (a < b)))
    (hrest : lessItems xs ys = .ok (decide (r < s))) :
    lessItems (x :: xs) (y :: ys) = .ok (decide (toLex (a, r) < toLex (b, s))) := by
  rw [lessItems, hsame]
  by_cases hab : a = b
  · subst hab
    simp [Prod.Lex.toLex_lt_toLex, hrest]
  · simp [Prod.Lex.toLex_lt_toLex, hab, hlt]

theorem lessItems_singleton {β : Type} [LinearOrder β] {x y : Datum} {a b : β}
    (hsame : same x y = decide (a = b)) (hlt : lessThan x y = .ok (decide (a < b))) :
    lessItems [x] [y] = .ok (decide (a < b)) := by
  rw [lessItems, hsame]
  by_cases hab : a = b
  · subst hab
    simp [lessItems]
  · simp [hab, hlt]

end Datum

/-! ## The keys -/

/-- A key constraint's place in the script: whether it is a foreign key, then its kind's code,
schema, table and name. -/
def Constraint.orderKey (c : Constraint) : Bool ×ₗ String ×ₗ String ×ₗ String ×ₗ String :=
  toLex (c.isForeignKey,
    toLex (c.kind.code, toLex (c.schema.asText, toLex (c.table.asText, c.name.asText))))

/-- A check constraint's place in the script: its schema, table and name. -/
def CheckConstraint.orderKey (c : CheckConstraint) : String ×ₗ String ×ₗ String :=
  toLex (c.schema.asText, toLex (c.table.asText, c.name.asText))

/-- Foreign keys come first in descending key order: a constraint whose key is at least a
foreign key's is a foreign key. -/
theorem Constraint.isForeignKey_of_orderKey_le {a b : Constraint} (h : b.orderKey ≤ a.orderKey)
    (hb : b.isForeignKey = true) : a.isForeignKey = true := by
  have hfst : b.isForeignKey ≤ a.isForeignKey := Prod.Lex.monotone_fst _ _ h
  rw [hb] at hfst
  cases ha : a.isForeignKey
  · rw [ha] at hfst
    exact absurd hfst (by decide)
  · rfl

namespace Ddl

theorem keyLess_eq {a b : Constraint} (ha : a.Named) (hb : b.Named) :
    keyLess a b = .ok (decide (a.orderKey < b.orderKey)) := by
  obtain ⟨s, hs⟩ := ha.schema
  obtain ⟨t, ht⟩ := ha.table
  obtain ⟨n, hn⟩ := ha.name
  obtain ⟨s', hs'⟩ := hb.schema
  obtain ⟨t', ht'⟩ := hb.table
  obtain ⟨n', hn'⟩ := hb.name
  unfold keyLess Constraint.sortKey Constraint.orderKey
  rw [hs, ht, hn, hs', ht', hn']
  exact Datum.lessItems_cons_lex (Datum.same_bool _ _) (Datum.lessThan_bool _ _)
    (Datum.lessItems_cons_lex (Datum.same_text _ _) (Datum.lessThan_text _ _)
      (Datum.lessItems_cons_lex (Datum.same_text s s') (Datum.lessThan_text s s')
        (Datum.lessItems_cons_lex (Datum.same_text t t') (Datum.lessThan_text t t')
          (Datum.lessItems_singleton (Datum.same_text n n') (Datum.lessThan_text n n')))))

theorem checkLess_eq {a b : CheckConstraint} (ha : a.Named) (hb : b.Named) :
    checkLess a b = .ok (decide (a.orderKey < b.orderKey)) := by
  obtain ⟨s, hs⟩ := ha.schema
  obtain ⟨t, ht⟩ := ha.table
  obtain ⟨n, hn⟩ := ha.name
  obtain ⟨s', hs'⟩ := hb.schema
  obtain ⟨t', ht'⟩ := hb.table
  obtain ⟨n', hn'⟩ := hb.name
  unfold checkLess CheckConstraint.sortKey CheckConstraint.orderKey
  rw [hs, ht, hn, hs', ht', hn']
  exact Datum.lessItems_cons_lex (Datum.same_text s s') (Datum.lessThan_text s s')
    (Datum.lessItems_cons_lex (Datum.same_text t t') (Datum.lessThan_text t t')
      (Datum.lessItems_singleton (Datum.same_text n n') (Datum.lessThan_text n n')))

theorem comparesBy_keyLess : ComparesBy keyLess Constraint.Named Constraint.orderKey :=
  fun _ _ ha hb => keyLess_eq ha hb

theorem comparesBy_checkLess :
    ComparesBy checkLess CheckConstraint.Named CheckConstraint.orderKey :=
  fun _ _ ha hb => checkLess_eq ha hb

/-! ## The orders -/

theorem orderConstraints_eq {rs : List Constraint} (hrs : Within Constraint.Named rs) :
    orderConstraints rs = .ok (rs.reverse.mergeSort (keyLE Constraint.orderKey)).reverse :=
  sortDescendingWith_eq comparesBy_keyLess hrs

theorem orderChecks_eq {cs : List CheckConstraint} (hcs : Within CheckConstraint.Named cs) :
    orderChecks cs = .ok (cs.mergeSort (keyLE CheckConstraint.orderKey)) :=
  sortWith_eq comparesBy_checkLess hcs

/-- A traversal that succeeded pairs each element with the value its step returned. -/
theorem forall₂_of_mapM_ok {α β ε : Type} {f : α → Except ε β} :
    ∀ {l : List α} {ys : List β}, l.mapM f = .ok ys → List.Forall₂ (fun x y => f x = .ok y) l ys
  | [], ys, h => by
    rw [List.mapM_nil, except_pure] at h
    cases h
    exact .nil
  | x :: l, ys, h => by
    rw [List.mapM_cons] at h
    cases hx : f x with
    | error e =>
      rw [hx] at h
      cases h
    | ok y =>
      rw [hx, except_ok_bind] at h
      cases hl : l.mapM f with
      | error e =>
        rw [hl] at h
        cases h
      | ok ys' =>
        rw [hl, except_ok_bind, except_pure] at h
        cases h
        exact .cons hx (forall₂_of_mapM_ok hl)

/-! ## The scripts -/

/-- The key constraint script: the statements of the non-exclusion constraints, keys never
increasing, foreign keys first, each key's constraints in their input order. -/
theorem renderConstraints_spec {rs : List Constraint} (hrs : Within Constraint.Named rs)
    (ts : String) :
    ∃ kept lines, List.Forall₂ (fun c line => renderConstraint c ts = .ok line) kept lines ∧
      renderConstraints rs ts = .ok ("\n".intercalate lines) ∧
      kept.Perm (rs.filter (·.kind != .exclusion)) ∧
      kept.Pairwise (fun a b => b.orderKey ≤ a.orderKey) ∧
      kept.Pairwise (fun a b => b.isForeignKey = true → a.isForeignKey = true) ∧
      ∀ k, kept.filter (·.orderKey = k) =
        (rs.filter (·.kind != .exclusion)).filter (·.orderKey = k) := by
  let sorted := (rs.reverse.mergeSort (keyLE Constraint.orderKey)).reverse
  have hsorted : Within Constraint.Named sorted := fun c hc =>
    hrs c (List.mem_reverse.1 ((List.mergeSort_perm _ _).mem_iff.1 (List.mem_reverse.1 hc)))
  have hkept : Within Constraint.Named (sorted.filter (·.kind != .exclusion)) :=
    fun c hc => hsorted c (List.mem_filter.1 hc).1
  obtain ⟨lines, hl⟩ := mapM_except_ok (fun c hc => renderConstraint_ok hc ts) hkept
  have hdown : sorted.Pairwise (fun a b => b.orderKey ≤ a.orderKey) :=
    descending_reverse_mergeSort Constraint.orderKey rs
  refine ⟨sorted.filter (·.kind != .exclusion), lines, forall₂_of_mapM_ok hl, ?_, ?_,
    hdown.filter _, (hdown.filter _).imp fun h => Constraint.isForeignKey_of_orderKey_le h,
    fun k => ?_⟩
  · unfold renderConstraints
    rw [orderConstraints_eq hrs, except_ok_bind, hl, except_ok_bind]
    rfl
  · have hperm : sorted.Perm rs :=
      (List.reverse_perm _).trans ((List.mergeSort_perm _ _).trans (List.reverse_perm rs))
    exact hperm.filter _
  · -- filtering by kind and by key commute, and the sort keeps each key's order
    rw [List.filter_comm, filter_reverse_mergeSort, List.filter_comm]

/-- The check constraint script: the statements of the check constraints, keys never
decreasing, each key's constraints in their input order. -/
theorem renderChecks_spec {cs : List CheckConstraint} (hcs : Within CheckConstraint.Named cs)
    (ts : String) :
    ∃ sorted lines, List.Forall₂ (fun c line => renderCheck c ts = .ok line) sorted lines ∧
      renderChecks cs ts = .ok ("\n".intercalate lines) ∧
      sorted.Perm cs ∧
      sorted.Pairwise (fun a b => a.orderKey ≤ b.orderKey) ∧
      ∀ k, sorted.filter (·.orderKey = k) = cs.filter (·.orderKey = k) := by
  have hsort := sortsBy_mergeSort CheckConstraint.orderKey cs
  have hsorted : Within CheckConstraint.Named (cs.mergeSort (keyLE CheckConstraint.orderKey)) :=
    fun c hc => hcs c (hsort.perm.mem_iff.1 hc)
  obtain ⟨lines, hl⟩ := mapM_except_ok (fun c hc => renderCheck_ok hc ts) hsorted
  refine ⟨_, lines, forall₂_of_mapM_ok hl, ?_, hsort.perm, hsort.ascending, hsort.stable⟩
  unfold renderChecks
  rw [orderChecks_eq hcs, except_ok_bind, hl, except_ok_bind]
  rfl

/-- The key constraint script does not depend on the order of its constraints when equal keys
mean equal constraints. -/
theorem renderConstraints_perm {rs rs' : List Constraint} (hp : rs'.Perm rs)
    (hrs : Within Constraint.Named rs) (hkey : ∀ a ∈ rs, ∀ b ∈ rs, a.orderKey = b.orderKey → a = b)
    (ts : String) : renderConstraints rs' ts = renderConstraints rs ts := by
  have hrs' : Within Constraint.Named rs' := fun c hc => hrs c (hp.mem_iff.1 hc)
  have hsort : rs.reverse.mergeSort (keyLE Constraint.orderKey) =
      rs'.reverse.mergeSort (keyLE Constraint.orderKey) :=
    mergeSort_eq_of_perm _
      ((List.reverse_perm rs).trans (hp.symm.trans (List.reverse_perm rs').symm)) fun a ha b hb =>
      hkey a (List.mem_reverse.1 ha) b (List.mem_reverse.1 hb)
  unfold renderConstraints
  rw [orderConstraints_eq hrs', orderConstraints_eq hrs, hsort]

/-- The check constraint script does not depend on the order of its constraints when equal keys
mean equal constraints. -/
theorem renderChecks_perm {cs cs' : List CheckConstraint} (hp : cs'.Perm cs)
    (hcs : Within CheckConstraint.Named cs)
    (hkey : ∀ a ∈ cs, ∀ b ∈ cs, a.orderKey = b.orderKey → a = b) (ts : String) :
    renderChecks cs' ts = renderChecks cs ts := by
  have hcs' : Within CheckConstraint.Named cs' := fun c hc => hcs c (hp.mem_iff.1 hc)
  have hsort : cs.mergeSort (keyLE CheckConstraint.orderKey) =
      cs'.mergeSort (keyLE CheckConstraint.orderKey) :=
    mergeSort_eq_of_perm _ hp.symm hkey
  unfold renderChecks
  rw [orderChecks_eq hcs', orderChecks_eq hcs, hsort]

/-- Both constraint scripts, in full: what each holds, in which order, and that neither depends
on the order the catalog lists its constraints in. -/
theorem constraintScripts_ordered (rs : List Constraint) (cs : List CheckConstraint)
    (hrs : Within Constraint.Named rs) (hcs : Within CheckConstraint.Named cs) (ts : String) :
    (∃ kept lines, List.Forall₂ (fun c line => renderConstraint c ts = .ok line) kept lines ∧
      renderConstraints rs ts = .ok ("\n".intercalate lines) ∧
      kept.Perm (rs.filter (·.kind != .exclusion)) ∧
      kept.Pairwise (fun a b => b.orderKey ≤ a.orderKey) ∧
      kept.Pairwise (fun a b => b.isForeignKey = true → a.isForeignKey = true) ∧
      ∀ k, kept.filter (·.orderKey = k) =
        (rs.filter (·.kind != .exclusion)).filter (·.orderKey = k)) ∧
    (∃ sorted lines, List.Forall₂ (fun c line => renderCheck c ts = .ok line) sorted lines ∧
      renderChecks cs ts = .ok ("\n".intercalate lines) ∧
      sorted.Perm cs ∧
      sorted.Pairwise (fun a b => a.orderKey ≤ b.orderKey) ∧
      ∀ k, sorted.filter (·.orderKey = k) = cs.filter (·.orderKey = k)) ∧
    (∀ rs', rs'.Perm rs → (∀ a ∈ rs, ∀ b ∈ rs, a.orderKey = b.orderKey → a = b) →
      renderConstraints rs' ts = renderConstraints rs ts) ∧
    (∀ cs', cs'.Perm cs → (∀ a ∈ cs, ∀ b ∈ cs, a.orderKey = b.orderKey → a = b) →
      renderChecks cs' ts = renderChecks cs ts) :=
  ⟨renderConstraints_spec hrs ts, renderChecks_spec hcs ts,
    fun _ hp hkey => renderConstraints_perm hp hrs hkey ts,
    fun _ hp hkey => renderChecks_perm hp hcs hkey ts⟩

/-- A table's primary key and a foreign key give one script in either order. -/
theorem constraintScripts_ordered_sample :
    Within Constraint.Named
      [⟨.text "s", .text "t", .text "t_pkey", .primaryKey, .text "PRIMARY KEY (id)"⟩,
        ⟨.text "s", .text "t", .text "t_u_fkey", .foreignKey, .text "FOREIGN KEY (u) REFERENCES u"⟩] ∧
    Within CheckConstraint.Named [⟨.text "s", .text "t", .text "t_id_check", .text "(id > 0)"⟩] ∧
    renderConstraints
      [⟨.text "s", .text "t", .text "t_u_fkey", .foreignKey, .text "FOREIGN KEY (u) REFERENCES u"⟩,
        ⟨.text "s", .text "t", .text "t_pkey", .primaryKey, .text "PRIMARY KEY (id)"⟩] "dbo" =
      renderConstraints
        [⟨.text "s", .text "t", .text "t_pkey", .primaryKey, .text "PRIMARY KEY (id)"⟩,
          ⟨.text "s", .text "t", .text "t_u_fkey", .foreignKey, .text "FOREIGN KEY (u) REFERENCES u"⟩]
        "dbo" := by
  refine ⟨?hrs, ?hcs,
    (constraintScripts_ordered _ _ ?hrs ?hcs "dbo").2.2.1 _ (List.Perm.swap _ _ _) ?hkey⟩
  case hrs =>
    intro c hc
    simp only [List.mem_cons, List.not_mem_nil, or_false] at hc
    rcases hc with rfl | rfl <;> exact ⟨⟨_, rfl⟩, ⟨_, rfl⟩, ⟨_, rfl⟩⟩
  case hcs =>
    intro c hc
    simp only [List.mem_cons, List.not_mem_nil, or_false] at hc
    subst hc
    exact ⟨⟨_, rfl⟩, ⟨_, rfl⟩, ⟨_, rfl⟩⟩
  case hkey =>
    -- the two keys differ already in whether they are foreign keys
    intro a ha b hb hab
    have hfk := congrArg (fun k => (ofLex k).1) hab
    simp only [List.mem_cons, List.not_mem_nil, or_false] at ha hb
    rcases ha with rfl | rfl <;> rcases hb with rfl | rfl
    · rfl
    · exact absurd hfk (by decide)
    · exact absurd hfk (by decide)
    · rfl

end Ddl

end SqlMigration
