import SqlMigration.Load
import SqlMigration.Proofs.Utf8
import Mathlib.Data.String.Basic

/-!
# Which table a file name stands for

A table's script and data file are named by its local name with `%`, `.`, `/` and `\` written
as percent escapes, and the loader reads the table back from a data file's name: the stem,
after its last dot, with the escapes resolved. Resolving runs over the stem in runs of ASCII and
other characters and decodes each ASCII run as UTF-8 bytes; an escaped name's runs are the
name's own runs, escaped, so reading back gives the name (`Text.Percent.unescape_escape`).

An escaped name holds no dot and no slash, so with an extension that holds neither the data
file's name is one component whose stem is the escaped name (`Path.stem_single_dot`).

Main statement: `Layout.tableForFile_dataFile`, the loader reads back the local name of every
table with a non-empty local name, and two tables share a data file or a script exactly when
their local names agree.
-/

namespace SqlMigration

/-! ## Splitting a text at one character -/

/-- Splitting a text at a one-character separator, from a valid position on, splits the
characters there; `m` are the characters of the piece begun so far. -/
theorem splitOnAux_singleton (c : Char) : ∀ (r l m : List Char) (acc : List String),
    (String.ofList (l ++ m ++ r)).splitOnAux (String.singleton c) ⟨String.utf8Len l⟩
      ⟨String.utf8Len l + String.utf8Len m⟩ 0 acc =
    acc.reverse ++ (List.splitOnPPrepend (· == c) r m.reverse).map String.ofList := by
  have hsc : String.singleton c = String.ofList ([] ++ [c]) := String.singleton_eq_ofList
  have hsep : String.Pos.Raw.get (String.singleton c) 0 = c := by
    rw [hsc]
    exact String.get_of_valid [] [c]
  have hsnext : String.Pos.Raw.next (String.singleton c) 0 = ⟨c.utf8Size⟩ := by
    rw [hsc]
    simpa using String.next_of_valid [] c []
  have hsend : String.Pos.Raw.atEnd (String.singleton c) ⟨c.utf8Size⟩ = true := by
    rw [hsc]
    simpa using (String.atEnd_of_valid [c] []).2 rfl
  intro r
  induction r with
  | nil =>
    intro l m acc
    have hend : String.Pos.Raw.atEnd (String.ofList (l ++ m ++ []))
        ⟨String.utf8Len l + String.utf8Len m⟩ = true := by
      rw [← String.utf8Len_append]
      exact (String.atEnd_of_valid (l ++ m) []).2 rfl
    rw [String.splitOnAux, if_pos hend, String.extract_of_valid l m []]
    simp [List.splitOnPPrepend_nil]
  | cons x r ih =>
    intro l m acc
    have hend : ¬ String.Pos.Raw.atEnd (String.ofList (l ++ m ++ x :: r))
        ⟨String.utf8Len l + String.utf8Len m⟩ = true := by
      rw [← String.utf8Len_append, String.atEnd_of_valid (l ++ m) (x :: r)]
      simp
    have hget : String.Pos.Raw.get (String.ofList (l ++ m ++ x :: r))
        ⟨String.utf8Len l + String.utf8Len m⟩ = x := by
      rw [← String.utf8Len_append]
      exact String.get_of_valid (l ++ m) (x :: r)
    have hnext : String.Pos.Raw.next (String.ofList (l ++ m ++ x :: r))
        ⟨String.utf8Len l + String.utf8Len m⟩ = ⟨String.utf8Len l + String.utf8Len (m ++ [x])⟩ := by
      rw [← String.utf8Len_append, String.next_of_valid (l ++ m) x r]
      simp [String.utf8Len_append]
      omega
    rw [String.splitOnAux, if_neg hend, hget, hsep]
    by_cases hxc : (x == c) = true
    · -- the separator: the piece ends here and a new one begins after it
      have hx : x = c := by simpa using hxc
      subst hx
      rw [if_pos hxc]
      simp only [hnext, hsnext, hsend, if_true]
      have hpos : ({ byteIdx := String.utf8Len l + String.utf8Len (m ++ [x]) } : String.Pos.Raw).unoffsetBy
          ⟨x.utf8Size⟩ = ⟨String.utf8Len l + String.utf8Len m⟩ := by
        simp [String.Pos.Raw.unoffsetBy, String.utf8Len_append]
        omega
      have hext : String.Pos.Raw.extract (String.ofList (l ++ m ++ x :: r)) ⟨String.utf8Len l⟩
          ⟨String.utf8Len l + String.utf8Len m⟩ = String.ofList m :=
        String.extract_of_valid l m (x :: r)
      have hstr : l ++ m ++ x :: r = (l ++ m ++ [x]) ++ [] ++ r := by simp
      have hrest := ih (l ++ m ++ [x]) [] (String.ofList m :: acc)
      rw [hpos, hext, hstr]
      simp only [String.utf8Len_append, String.utf8Len_nil, Nat.add_zero,
        List.append_assoc] at hrest ⊢
      rw [hrest, List.splitOnPPrepend_cons_pos (by simp)]
      simp
    · -- any other character joins the piece
      rw [if_neg hxc]
      have hpos : ({ byteIdx := String.utf8Len l + String.utf8Len m } : String.Pos.Raw).unoffsetBy 0 =
          ⟨String.utf8Len l + String.utf8Len m⟩ := by
        simp [String.Pos.Raw.unoffsetBy]
      have hstr : l ++ m ++ x :: r = l ++ (m ++ [x]) ++ r := by simp
      rw [hpos, hnext, hstr, ih l (m ++ [x]) acc,
        List.splitOnPPrepend_cons_neg (by simpa using hxc)]
      simp

/-- Splitting a text at a character splits its characters there. -/
theorem splitOn_singleton (s : String) (c : Char) :
    s.splitOn (String.singleton c) = (s.toList.splitOn c).map String.ofList := by
  have hne : (String.singleton c == "") = false := by
    rw [String.singleton_eq_ofList]
    simp
  have h := splitOnAux_singleton c s.toList [] [] []
  simp only [List.nil_append, String.ofList_toList, List.reverse_nil] at h
  rw [String.splitOn, hne, if_neg Bool.false_ne_true, List.splitOn_eq_splitOnP,
    List.splitOnP_eq_splitOnPPrepend]
  exact h

/-- A text without the character is one piece. -/
theorem splitOn_of_not_mem {s : String} {c : Char} (h : c ∉ s.toList) :
    s.splitOn (String.singleton c) = [s] := by
  rw [splitOn_singleton, List.splitOn_eq_singleton h]
  simp

end SqlMigration

namespace SqlMigration.Text.Percent

/-! ## Runs of ASCII and other characters -/

/-- Whether a character is ASCII: the test that splits a stem into runs. -/
abbrev asciiFlag (c : Char) : Bool := decide (c.toNat < 0x80)

/-- Characters put in front of the runs of a text: they join the first run when it has their
flag. -/
def prependRun (a : Bool) (ys : List Char) : List (Bool × List Char) → List (Bool × List Char)
  | (b, r) :: rest => if b = a then (a, ys ++ r) :: rest else (a, ys) :: (b, r) :: rest
  | [] => [(a, ys)]

theorem runs_cons (c : Char) (cs : List Char) :
    runs (c :: cs) = prependRun (asciiFlag c) [c] (runs cs) := by
  simp only [runs]
  cases runs cs with
  | nil => rfl
  | cons p rest =>
    obtain ⟨b, r⟩ := p
    by_cases hb : b = asciiFlag c
    · subst hb
      simp [prependRun]
    · have hne : ¬ ((b = true) = (c.toNat < 0x80)) := by
        intro h
        apply hb
        cases b <;> simp_all
      simp [prependRun, hb, hne]

theorem prependRun_prependRun (a : Bool) (xs ys : List Char) (rs : List (Bool × List Char)) :
    prependRun a xs (prependRun a ys rs) = prependRun a (xs ++ ys) rs := by
  cases rs with
  | nil => simp [prependRun]
  | cons p rest =>
    obtain ⟨b, r⟩ := p
    by_cases hb : b = a <;> simp [prependRun, hb]

/-- Characters of one flag in front of a text join its first run when it has their flag. -/
theorem runs_append_uniform {a : Bool} {ys : List Char} (hne : ys ≠ [])
    (hys : ∀ y ∈ ys, asciiFlag y = a) (zs : List Char) :
    runs (ys ++ zs) = prependRun a ys (runs zs) := by
  induction ys with
  | nil => exact absurd rfl hne
  | cons y ys ih =>
    rw [List.cons_append, runs_cons, hys y List.mem_cons_self]
    cases ys with
    | nil => rfl
    | cons y' ys' =>
      rw [ih (List.cons_ne_nil _ _) (fun x hx => hys x (List.mem_cons_of_mem _ hx)),
        prependRun_prependRun]
      rfl

/-- The runs of a text, put back together, are the text. -/
theorem flatMap_runs (cs : List Char) : (runs cs).flatMap (·.2) = cs := by
  induction cs with
  | nil => rfl
  | cons c cs ih =>
    rw [runs_cons]
    cases hr : runs cs with
    | nil => simp_all [prependRun]
    | cons p rest =>
      obtain ⟨b, r⟩ := p
      rw [hr] at ih
      by_cases hb : b = asciiFlag c <;> simp_all [prependRun]

/-- Every character of a run has the run's flag. -/
theorem flag_of_mem_runs {cs : List Char} {p : Bool × List Char} (hp : p ∈ runs cs) :
    ∀ x ∈ p.2, asciiFlag x = p.1 := by
  induction cs generalizing p with
  | nil => simp [runs] at hp
  | cons c cs ih =>
    rw [runs_cons] at hp
    cases hr : runs cs with
    | nil =>
      rw [hr] at hp
      simp only [prependRun, List.mem_singleton] at hp
      subst hp
      simp
    | cons q rest =>
      obtain ⟨b, r⟩ := q
      rw [hr] at hp ih
      by_cases hb : b = asciiFlag c
      · -- the character joins the first run
        simp only [prependRun, hb, ↓reduceIte, List.mem_cons] at hp
        rcases hp with rfl | hp
        · intro x hx
          simp only [List.singleton_append, List.mem_cons] at hx
          rcases hx with rfl | hx
          · rfl
          · rw [ih List.mem_cons_self x hx, hb]
        · exact ih (List.mem_cons_of_mem _ hp)
      · -- the character begins a run of its own
        simp only [prependRun, hb, ↓reduceIte, List.mem_cons] at hp
        rcases hp with rfl | hp
        · simp
        · exact ih (List.mem_cons.2 hp)

/-- Mapping each character to a non-empty list of characters with its flag maps each run. -/
theorem runs_flatMap {f : Char → List Char} (hne : ∀ c, f c ≠ [])
    (hflag : ∀ c, ∀ x ∈ f c, asciiFlag x = asciiFlag c) (cs : List Char) :
    runs (cs.flatMap f) = (runs cs).map fun p => (p.1, p.2.flatMap f) := by
  induction cs with
  | nil => rfl
  | cons c cs ih =>
    rw [List.flatMap_cons, runs_append_uniform (hne c) (hflag c), ih, runs_cons]
    cases runs cs with
    | nil => simp [prependRun]
    | cons p rest =>
      obtain ⟨b, r⟩ := p
      by_cases hb : b = asciiFlag c <;> simp [prependRun, hb]

/-! ## Escaping one character -/

theorem escapeChar_ne_nil (c : Char) : escapeChar c ≠ [] := by
  unfold escapeChar
  repeat' split
  all_goals simp

/-- An escape is ASCII exactly when the character is. -/
theorem flag_of_mem_escapeChar (c : Char) : ∀ x ∈ escapeChar c, asciiFlag x = asciiFlag c := by
  unfold escapeChar
  repeat' split
  all_goals simp_all

/-- An escape holds no dot and no slash. -/
theorem dot_slash_not_mem_escapeChar (c : Char) : '.' ∉ escapeChar c ∧ '/' ∉ escapeChar c := by
  unfold escapeChar
  repeat' split
  all_goals simp_all [eq_comm]

/-- A character other than the four escaped ones stands for itself. -/
theorem escapeChar_of_plain {c : Char} (h1 : c ≠ '%') (h2 : c ≠ '.') (h3 : c ≠ '/')
    (h4 : c ≠ '\\') : escapeChar c = [c] := by
  simp [escapeChar, h1, h2, h3, h4]

/-- A character beyond ASCII stands for itself. -/
theorem escapeChar_of_not_ascii {c : Char} (h : asciiFlag c = false) : escapeChar c = [c] := by
  simp only [asciiFlag, decide_eq_false_iff_not, Nat.not_lt] at h
  refine escapeChar_of_plain ?_ ?_ ?_ ?_ <;> rintro rfl <;> simp at h

/-- Escaped characters are the only ones that bring a `%`. -/
theorem escapeChar_eq_or_percent (c : Char) : escapeChar c = [c] ∨ '%' ∈ escapeChar c := by
  unfold escapeChar
  repeat' split
  all_goals simp_all

/-! ## Reading an escaped ASCII run back -/

theorem runBytes_plain {c : Char} (hc : c ≠ '%') (rest : List Char) :
    runBytes (c :: rest) = c.toNat.toUInt8 :: runBytes rest := by
  match rest with
  | [] => simp [runBytes]
  | [a] => simp [runBytes]
  | a :: b :: rest => simp [runBytes, hc]

/-- An escaped ASCII character reads back as its one byte. -/
theorem runBytes_escapeChar {c : Char} (hc : asciiFlag c = true) (rest : List Char) :
    runBytes (escapeChar c ++ rest) = Utf8.encodeChar c ++ runBytes rest := by
  have hlt : c.toNat < 0x80 := by simpa [asciiFlag] using hc
  rw [Utf8.encodeChar_of_lt_0x80 hlt]
  unfold escapeChar
  split
  · next h => subst h; rfl
  split
  · next h => subst h; rfl
  split
  · next h => subst h; rfl
  split
  · next h => subst h; rfl
  · next h1 _ _ _ => exact runBytes_plain h1 rest

/-- An ASCII run, escaped, reads back as its bytes. -/
theorem runBytes_flatMap_escapeChar {u : List Char} (hu : ∀ x ∈ u, asciiFlag x = true) :
    runBytes (u.flatMap escapeChar) = Utf8.encodeList u := by
  induction u with
  | nil => rfl
  | cons c u ih =>
    rw [List.flatMap_cons, runBytes_escapeChar (hu c List.mem_cons_self),
      ih (fun x hx => hu x (List.mem_cons_of_mem _ hx))]
    rfl

/-- The bytes of a text decode without a replacement. -/
theorem decodeLossy_encodeList (u : List Char) : Utf8.decodeLossy (Utf8.encodeList u) = u := by
  have h := Utf8.decodeFrom_encodeList true u 0 []
  rw [List.append_nil] at h
  unfold Utf8.decodeLossy
  cases hlen : (Utf8.encodeList u).length with
  | zero =>
    -- no bytes: the text was empty
    have hu : u = [] := by
      cases u with
      | nil => rfl
      | cons c u =>
        have := Utf8.length_encodeChar_pos c
        simp only [Utf8.encodeList, List.length_append] at hlen
        omega
    subst hu
    rfl
  | succ n => simp [Utf8.decodeLossy.go, Utf8.decodeCall, h, Utf8.decodeFrom]

/-! ## The round trip -/

/-- Reading back an escaped name gives the name. -/
theorem unescape_escape (s : String) : unescape (escape s) = s := by
  unfold unescape escape
  split
  · next hpct =>
    -- no `%` at all: no character was escaped
    rw [String.contains_char_eq, String.toList_ofList, decide_eq_true_eq] at hpct
    have hid : ∀ c ∈ s.toList, escapeChar c = [c] := by
      intro c hc
      rcases escapeChar_eq_or_percent c with h | h
      · exact h
      · exact absurd (List.mem_flatMap.2 ⟨c, hc, h⟩) hpct
    rw [List.flatMap_congr hid, List.flatMap_singleton', String.ofList_toList]
  · rw [String.toList_ofList, runs_flatMap escapeChar_ne_nil flag_of_mem_escapeChar,
      List.flatMap_map]
    -- each run reads back as itself: an ASCII run through its bytes, any other untouched
    have hrun : ∀ p ∈ runs s.toList,
        (if p.1 then Utf8.decodeLossy (runBytes (p.2.flatMap escapeChar))
          else p.2.flatMap escapeChar) = p.2 := by
      intro p hp
      have hflag := flag_of_mem_runs hp
      cases hb : p.1 with
      | true =>
        rw [if_pos rfl, runBytes_flatMap_escapeChar (fun x hx => (hflag x hx).trans hb),
          decodeLossy_encodeList]
      | false =>
        rw [if_neg Bool.false_ne_true]
        exact (List.flatMap_congr fun x hx =>
          escapeChar_of_not_ascii ((hflag x hx).trans hb)).trans (List.flatMap_singleton' _)
    rw [List.flatMap_congr hrun, flatMap_runs, String.ofList_toList]

/-- Escaping keeps names apart. -/
theorem escape_inj {s t : String} : escape s = escape t ↔ s = t :=
  ⟨fun h => by rw [← unescape_escape s, h, unescape_escape], congrArg escape⟩

/-- An escaped name holds no dot and no slash. -/
theorem dot_slash_not_mem_escape (s : String) :
    '.' ∉ (escape s).toList ∧ '/' ∉ (escape s).toList := by
  simp only [escape, String.toList_ofList, List.mem_flatMap, not_exists, not_and]
  exact ⟨fun c _ => (dot_slash_not_mem_escapeChar c).1,
    fun c _ => (dot_slash_not_mem_escapeChar c).2⟩

theorem escape_ne_empty {s : String} (hs : s ≠ "") : escape s ≠ "" := by
  intro h
  apply hs
  rw [← unescape_escape s, h]
  simp [unescape, String.contains_char_eq]

end SqlMigration.Text.Percent

namespace SqlMigration.Path

/-! ## One name as a path component -/

/-- A text with no slash that is neither empty nor `.` reads as one component. -/
theorem ofString_component {x : String} (hslash : '/' ∉ x.toList) (hx : x ≠ "")
    (hdot : x ≠ ".") : ofString x = ⟨"", [x]⟩ := by
  have hsplit : x.splitOn "/" = [x] := splitOn_of_not_mem hslash
  have hlead : leadingSlashes x.toList = 0 := by
    unfold leadingSlashes
    cases hl : x.toList with
    | nil => rfl
    | cons c cs =>
      have hc : c ≠ '/' := fun h => hslash (by rw [hl, h]; exact List.mem_cons_self)
      simp [hc]
  simp [ofString, componentsOf, hsplit, hlead, hx, hdot]

/-- Joining such a text adds it as the last component. -/
theorem join_component (p : Path) {x : String} (hslash : '/' ∉ x.toList) (hx : x ≠ "")
    (hdot : x ≠ ".") : p / x = ⟨p.root, p.parts ++ [x]⟩ := by
  show join p x = _
  simp [join, ofString_component hslash hx hdot]

/-- The only dot of a name is its last one. -/
theorem lastDot_single {a b : List Char} (ha : '.' ∉ a) (hb : '.' ∉ b) :
    lastDot (a ++ '.' :: b) = some a.length := by
  unfold lastDot
  -- no character of `a` or `b` passes the filter, so the dot between them is the only one left
  rw [List.zipIdx_append, List.filter_append, List.filter_eq_nil_iff.2, List.nil_append]
  · rw [List.zipIdx_cons, List.filter_cons_of_pos (by simp), List.filter_eq_nil_iff.2]
    · simp
    · rintro ⟨c, i⟩ hci
      have := List.fst_mem_of_mem_zipIdx hci
      simp only [decide_eq_true_eq]
      rintro rfl
      exact hb this
  · rintro ⟨c, i⟩ hci
    have := List.fst_mem_of_mem_zipIdx hci
    simp only [decide_eq_true_eq]
    rintro rfl
    exact ha this

/-- A name with one dot strictly inside has the part before it as its stem. -/
theorem stem_single_dot (r : String) (ps : List String) {a e : String} (ha : '.' ∉ a.toList)
    (he : '.' ∉ e.toList) (ha0 : a ≠ "") (he0 : e ≠ "") :
    stem ⟨r, ps ++ [a ++ "." ++ e]⟩ = a := by
  have hcs : (a ++ "." ++ e).toList = a.toList ++ '.' :: e.toList := by simp
  have ha1 : 0 < a.toList.length := List.length_pos_iff.2 (by simpa using ha0)
  have he1 : 0 < e.toList.length := List.length_pos_iff.2 (by simpa using he0)
  have hsuffix : suffixOf (a ++ "." ++ e) = String.ofList ('.' :: e.toList) := by
    simp only [suffixOf, hcs, lastDot_single ha he, List.length_append, List.length_cons]
    rw [if_pos ⟨ha1, by omega⟩, List.drop_left]
  simp only [stem, name, List.getLastD_concat, hsuffix, ← String.length_toList, hcs,
    String.toList_ofList, List.length_append, List.length_cons]
  rw [show a.toList.length + (e.toList.length + 1) - (e.toList.length + 1) = a.toList.length by
    omega, List.take_left, String.ofList_toList]

end SqlMigration.Path

namespace SqlMigration.Layout

open Text.Percent

/-! ## The files of a table -/

/-- Leading dots aside, the layout keeps its extension. -/
theorem extension_make (script data : String) {e : String} (he : '.' ∉ e.toList) :
    (make script data e).extension = e := by
  have hdrop : e.toList.dropWhile (· = '.') = e.toList := by
    cases hl : e.toList with
    | nil => rfl
    | cons c cs =>
      have hc : c ≠ '.' := fun h => he (by rw [hl, h]; exact List.mem_cons_self)
      simp [hc]
  simp [make, hdrop]

/-- A table's data file is one component below the data folder, when the extension is a
non-empty text without a slash. -/
theorem dataFile_eq (l : Layout) (q : String) (he : l.extension ≠ "")
    (hslash : '/' ∉ l.extension.toList) :
    l.dataFile q = ⟨l.dataDir.root, l.dataDir.parts ++ [tableStem q ++ "." ++ l.extension]⟩ := by
  obtain ⟨hd, hs⟩ := dot_slash_not_mem_escape (localTableName q)
  have hlen : 2 ≤ (tableStem q ++ "." ++ l.extension).length := by
    have : 0 < l.extension.length := by
      rw [← String.length_toList]
      exact List.length_pos_iff.2 (by simpa using he)
    simp only [String.length_append]
    have : ".".length = 1 := rfl
    omega
  refine Path.join_component _ ?_ ?_ ?_
  · simp only [String.toList_append, List.mem_append, not_or]
    exact ⟨⟨hs, by decide⟩, hslash⟩
  · rintro h
    rw [h] at hlen
    exact absurd hlen (by decide)
  · rintro h
    rw [h] at hlen
    exact absurd hlen (by decide)

/-- A table's script is one component below the tables folder. -/
theorem tableScript_eq (l : Layout) (q : String) :
    l.tableScript q = ⟨l.tablesDir.root, l.tablesDir.parts ++ [tableStem q ++ ".sql"]⟩ := by
  obtain ⟨hd, hs⟩ := dot_slash_not_mem_escape (localTableName q)
  have hlen : 4 ≤ (tableStem q ++ ".sql").length := by
    simp only [String.length_append]
    have : ".sql".length = 4 := rfl
    omega
  refine Path.join_component _ ?_ ?_ ?_
  · simp only [String.toList_append, List.mem_append, not_or]
    exact ⟨hs, by decide⟩
  · rintro h
    rw [h] at hlen
    exact absurd hlen (by decide)
  · rintro h
    rw [h] at hlen
    exact absurd hlen (by decide)

/-- Two paths that differ only in their last component are equal exactly when that component
is. -/
theorem snoc_eq_iff {r : String} {ps : List String} {x y : String} :
    (⟨r, ps ++ [x]⟩ : Path) = ⟨r, ps ++ [y]⟩ ↔ x = y := by
  simp

/-- Two names with one ending are equal exactly when what comes before is. -/
theorem append_right_eq_iff {a b e : String} : a ++ e = b ++ e ↔ a = b := by
  constructor
  · intro h
    have h' := congrArg String.toList h
    rw [String.toList_append, String.toList_append, List.append_left_inj] at h'
    exact String.toList_inj.1 h'
  · intro h
    rw [h]

/-- Two tables share a data file exactly when their local names agree. -/
theorem dataFile_eq_iff (l : Layout) (he : l.extension ≠ "") (hslash : '/' ∉ l.extension.toList)
    (q₁ q₂ : String) : l.dataFile q₁ = l.dataFile q₂ ↔ localTableName q₁ = localTableName q₂ := by
  rw [dataFile_eq l q₁ he hslash, dataFile_eq l q₂ he hslash, snoc_eq_iff, append_right_eq_iff,
    append_right_eq_iff, tableStem, tableStem, escape_inj]

/-- Two tables share a script exactly when their local names agree. -/
theorem tableScript_eq_iff (l : Layout) (q₁ q₂ : String) :
    l.tableScript q₁ = l.tableScript q₂ ↔ localTableName q₁ = localTableName q₂ := by
  rw [tableScript_eq l q₁, tableScript_eq l q₂, snoc_eq_iff, append_right_eq_iff, tableStem,
    tableStem, escape_inj]

/-- The loader reads back the table of a data file named by a non-empty local name. -/
theorem tableForFile_dataFile_of (l : Layout) (he : l.extension ≠ "")
    (hdot : '.' ∉ l.extension.toList) (hslash : '/' ∉ l.extension.toList) {q : String}
    (hq : localTableName q ≠ "") : Load.tableForFile (l.dataFile q) = localTableName q := by
  obtain ⟨hd, -⟩ := dot_slash_not_mem_escape (localTableName q)
  have hstem := Path.stem_single_dot l.dataDir.root l.dataDir.parts hd hdot (escape_ne_empty hq) he
  have hsplit : (tableStem q).splitOn "." = [tableStem q] := splitOn_of_not_mem hd
  rw [Load.tableForFile, dataFile_eq l q he hslash, tableStem, hstem, ← tableStem, hsplit]
  exact unescape_escape _

/-- File names stand for their tables. For every extension that is a non-empty text without dot
or slash, over the layout built from it: reading back an escaped name gives the name, the loader
reads the local name of a table back from its data file when that name is not empty, and two
tables share a data file, or a script, exactly when their local names agree. -/
theorem tableForFile_dataFile (t script data e q : String) (he : e ≠ "") (hdot : '.' ∉ e.toList)
    (hslash : '/' ∉ e.toList) (hq : localTableName q ≠ "") :
    unescape (escape t) = t ∧
      Load.tableForFile ((make script data e).dataFile q) = localTableName q ∧
      (∀ q₁ q₂, (make script data e).dataFile q₁ = (make script data e).dataFile q₂ ↔
        localTableName q₁ = localTableName q₂) ∧
      (∀ q₁ q₂, (make script data e).tableScript q₁ = (make script data e).tableScript q₂ ↔
        localTableName q₁ = localTableName q₂) := by
  have hext := extension_make script data hdot
  refine ⟨unescape_escape t, ?_, ?_, tableScript_eq_iff _⟩
  · apply tableForFile_dataFile_of _ _ _ _ hq <;> rw [hext] <;> assumption
  · apply dataFile_eq_iff <;> rw [hext] <;> assumption

/-- The table `sales.my.table%` with data files ending in `csv`: its name, escaped as
`my%2Etable%25`, reads back. -/
theorem tableForFile_dataFile_sample :
    "csv" ≠ "" ∧ '.' ∉ "csv".toList ∧ '/' ∉ "csv".toList ∧ localTableName "sales.my.table%" ≠ "" ∧
      unescape (escape "x/y\\z") = "x/y\\z" ∧
      Load.tableForFile ((make "scripts" "data" "csv").dataFile "sales.my.table%") =
        localTableName "sales.my.table%" ∧
      (∀ q₁ q₂, (make "scripts" "data" "csv").dataFile q₁ = (make "scripts" "data" "csv").dataFile q₂ ↔
        localTableName q₁ = localTableName q₂) ∧
      (∀ q₁ q₂, (make "scripts" "data" "csv").tableScript q₁ =
          (make "scripts" "data" "csv").tableScript q₂ ↔ localTableName q₁ = localTableName q₂) :=
  ⟨by decide, by decide, by decide, by decide,
    tableForFile_dataFile "x/y\\z" "scripts" "data" "csv" "sales.my.table%" (by decide) (by decide)
      (by decide) (by decide)⟩

end SqlMigration.Layout
