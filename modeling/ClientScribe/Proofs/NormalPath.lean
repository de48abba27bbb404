import ClientScribe.Proofs.Client.ImportPath

/-!
Normal paths.  A relative path leads up some steps and then down along segments that name something;
what it goes down and up again in between makes no difference.  From a place below some directories
it leads where its normal form leads.
-/

namespace ClientScribe.Path

/-- Takes one more segment into a relative path, kept last segment first.  Steps up that lead above
the start stay. -/
def enterRelative (done : List (List Char)) (segment : List Char) : List (List Char) :=
  if segment = [] || segment = ['.'] then done
  else if segment = ['.', '.'] then
    match done with
    | [] => [['.', '.']]
    | last :: rest => if last = ['.', '.'] then ['.', '.'] :: last :: rest else rest
  else segment :: done

/-- The segments of a relative path; steps up are in front of all others. -/
def normal (path : List Char) : List (List Char) :=
  ((Text.splitOn '/' path).foldl enterRelative []).reverse

/-- The text of a path by its segments; the path of nothing is `.`. -/
def pathText : List (List Char) → List Char
  | [] => ['.']
  | p :: ps => textOf (p :: ps)

/-- The path in normal form. -/
def normalForm (path : List Char) : List Char := pathText (normal path)

/-- Steps up. -/
def ups (n : Nat) : List (List Char) := List.replicate n ['.', '.']

/-- Steps up in front of segments that name something. -/
def IsNormal (ps : List (List Char)) : Prop :=
  ∃ n segments, (∀ s ∈ segments, IsSegment s) ∧ ps = ups n ++ segments

/-! ### Walking along a relative path -/

theorem ups_succ (n : Nat) : ups (n + 1) = ['.', '.'] :: ups n := List.replicate_succ

theorem noSlash_of_mem_ups (n : Nat) : ∀ s ∈ ups n, '/' ∉ s := by
  intro s hs
  rw [List.eq_of_mem_replicate hs]
  decide

theorem enterRelative_skip {s : List Char} (h : s = [] ∨ s = ['.']) (done : List (List Char)) :
    enterRelative done s = done := by
  rw [enterRelative.eq_def, if_pos (by simpa using h)]

theorem enterRelative_segment {s : List Char} (h : IsSegment s) (done : List (List Char)) :
    enterRelative done s = s :: done := by
  rw [enterRelative.eq_def, if_neg (by simp [h.nonempty, h.notHere]), if_neg h.notUp]

theorem enterRelative_up {s : List Char} (h : s ≠ ['.', '.']) (done : List (List Char)) :
    enterRelative (s :: done) ['.', '.'] = done := by
  rw [enterRelative.eq_def, if_neg (by decide), if_pos rfl]
  exact if_neg h

theorem enterRelative_ups (n : Nat) : enterRelative (ups n) ['.', '.'] = ups (n + 1) := by
  cases n <;> rfl

/-- One segment more, in a relative path and below any directories. -/
theorem exists_enterRelative {segment : List Char} (hslash : '/' ∉ segment)
    {segments : List (List Char)} (hsegments : ∀ s ∈ segments, IsSegment s) (n : Nat) :
    ∃ n' segments', (∀ s ∈ segments', IsSegment s) ∧ n' ≤ n + [segment].count ['.', '.']
      ∧ enterRelative (segments ++ ups n) segment = segments' ++ ups n'
      ∧ ∀ base : List (List Char), enter (segments ++ base.drop n) segment =
        segments' ++ base.drop n' := by
  by_cases hskip : segment = [] ∨ segment = ['.']
  · refine ⟨n, segments, hsegments, Nat.le_add_right _ _, ?_, fun base => ?_⟩
    · rw [enterRelative_skip hskip]
    · rw [enter, if_pos (by simpa using hskip)]
  by_cases hup : segment = ['.', '.']
  · subst hup
    cases segments with
    | nil =>
      refine ⟨n + 1, [], List.forall_mem_nil _, Nat.le_refl _, enterRelative_ups n,
        fun base => ?_⟩
      rw [enter, if_neg (by decide), if_pos rfl, List.nil_append, List.nil_append, List.drop_drop]
    | cons s segments =>
      rw [List.forall_mem_cons] at hsegments
      exact ⟨n, segments, hsegments.2, Nat.le_add_right _ _,
        enterRelative_up hsegments.1.notUp _, fun base => rfl⟩
  · have hsegment : IsSegment segment := by
      rw [not_or] at hskip
      exact ⟨hskip.1, hslash, hskip.2, hup⟩
    exact ⟨n, segment :: segments, List.forall_mem_cons.2 ⟨hsegment, hsegments⟩,
      Nat.le_add_right _ _, enterRelative_segment hsegment _, fun base => enter_segment hsegment _⟩

/-- All segments of a path, in a relative path and below any directories. -/
theorem exists_foldl_enterRelative {path : List (List Char)} (hslash : ∀ s ∈ path, '/' ∉ s)
    {segments : List (List Char)} (hsegments : ∀ s ∈ segments, IsSegment s) (n : Nat) :
    ∃ n' segments', (∀ s ∈ segments', IsSegment s) ∧ n' ≤ n + path.count ['.', '.']
      ∧ path.foldl enterRelative (segments ++ ups n) = segments' ++ ups n'
      ∧ ∀ base : List (List Char), path.foldl enter (segments ++ base.drop n) =
        segments' ++ base.drop n' := by
  induction path generalizing segments n with
  | nil => exact ⟨n, segments, hsegments, Nat.le_add_right _ _, rfl, fun base => rfl⟩
  | cons s path ih =>
    rw [List.forall_mem_cons] at hslash
    obtain ⟨n₁, segments₁, hsegments₁, hn₁, hrelative, hbelow⟩ :=
      exists_enterRelative hslash.1 hsegments n
    obtain ⟨n₂, segments₂, hsegments₂, hn₂, hrelative₂, hbelow₂⟩ := ih hslash.2 hsegments₁ n₁
    refine ⟨n₂, segments₂, hsegments₂, ?_, ?_, fun base => ?_⟩
    · have hcount : (s :: path).count ['.', '.'] =
          [s].count ['.', '.'] + path.count ['.', '.'] := by
        rw [← List.count_append, List.singleton_append]
      omega
    · rw [List.foldl_cons, hrelative, hrelative₂]
    · rw [List.foldl_cons, hbelow, hbelow₂]

/-- What a relative path leads to, as such and below any directories. -/
theorem exists_normal_eq (path : List Char) :
    ∃ n segments, (∀ s ∈ segments, IsSegment s) ∧ normal path = ups n ++ segments
      ∧ n ≤ (Text.splitOn '/' path).count ['.', '.']
      ∧ ∀ base : List (List Char),
        (Text.splitOn '/' path).foldl enter base = segments.reverse ++ base.drop n := by
  obtain ⟨n, segments, hsegments, hn, hrelative, hbelow⟩ :=
    exists_foldl_enterRelative (fun s hs => Text.not_mem_of_mem_splitOn (s := path) hs)
      (List.forall_mem_nil IsSegment) 0
  refine ⟨n, segments.reverse, fun s hs => hsegments s (List.mem_reverse.1 hs), ?_, ?_,
    fun base => ?_⟩
  · rw [ups, List.replicate_zero, List.append_nil] at hrelative
    rw [normal, hrelative, List.reverse_append, ups, List.reverse_replicate]
  · rwa [Nat.zero_add] at hn
  · have hbase := hbelow base
    rw [List.drop_zero, List.nil_append] at hbase
    rw [hbase, List.reverse_reverse]

theorem isNormal_normal (path : List Char) : IsNormal (normal path) := by
  obtain ⟨n, segments, hsegments, hnormal, -⟩ := exists_normal_eq path
  exact ⟨n, segments, hsegments, hnormal⟩

theorem foldl_enterRelative_segments {segments : List (List Char)}
    (h : ∀ s ∈ segments, IsSegment s) (done : List (List Char)) :
    segments.foldl enterRelative done = segments.reverse ++ done := by
  induction segments generalizing done with
  | nil => rfl
  | cons s segments ih =>
    rw [List.forall_mem_cons] at h
    rw [List.foldl_cons, enterRelative_segment h.1, ih h.2, List.reverse_cons, List.append_assoc,
      List.singleton_append]

/-- Steps up take back segments and then lead above the start. -/
theorem foldl_enterRelative_ups {segments : List (List Char)} (h : ∀ s ∈ segments, IsSegment s)
    (n m : Nat) :
    (ups n).foldl enterRelative (segments ++ ups m) =
      segments.drop n ++ ups (m + (n - segments.length)) := by
  induction n generalizing segments m with
  | zero => simp [ups]
  | succ n ih =>
    rw [ups_succ, List.foldl_cons]
    cases segments with
    | nil =>
      rw [List.nil_append, enterRelative_ups, ← List.nil_append (ups (m + 1)),
        ih (List.forall_mem_nil _)]
      simp [Nat.add_comm, Nat.add_left_comm]
    | cons s segments =>
      rw [List.forall_mem_cons] at h
      rw [List.cons_append, enterRelative_up h.1.notUp, ih h.2]
      simp

theorem length_foldl_enterRelative_le (path done : List (List Char)) :
    (path.foldl enterRelative done).length ≤ done.length + path.length := by
  have hstep (done : List (List Char)) (s : List Char) :
      (enterRelative done s).length ≤ done.length + 1 := by
    rw [enterRelative.eq_def]
    split
    · exact Nat.le_succ _
    · split
      · split
        · exact Nat.le_refl _
        · split
          · exact Nat.le_refl _
          · exact Nat.le_add_right _ 2
      · exact Nat.le_refl _
  induction path generalizing done with
  | nil => exact Nat.le_refl _
  | cons s path ih =>
    have hrest := ih (enterRelative done s)
    have hfirst := hstep done s
    rw [List.foldl_cons, List.length_cons]
    omega

/-- A normal path leads along its own segments. -/
theorem IsNormal.foldl_enterRelative {ps : List (List Char)} (h : IsNormal ps) :
    ps.foldl enterRelative [] = ps.reverse := by
  obtain ⟨n, segments, hsegments, rfl⟩ := h
  have hups := foldl_enterRelative_ups (List.forall_mem_nil IsSegment) n 0
  simp only [ups, List.replicate_zero, List.append_nil, List.drop_nil, List.nil_append,
    List.length_nil, Nat.sub_zero, Nat.zero_add] at hups
  rw [List.foldl_append, ups, hups, foldl_enterRelative_segments hsegments, List.reverse_append,
    List.reverse_replicate]

/-! ### Texts of relative paths -/

theorem splitOn_append_slash_append (a b : List Char) :
    Text.splitOn '/' (a ++ '/' :: b) = Text.splitOn '/' a ++ Text.splitOn '/' b := by
  induction a with
  | nil => exact splitOn_append_slash List.not_mem_nil b
  | cons c a ih =>
    obtain ⟨p, ps, hp⟩ := List.exists_cons_of_ne_nil (Text.splitOn_ne_nil '/' a)
    rw [List.cons_append, Text.splitOn, Text.splitOn, ih, hp]
    split <;> rfl

/-- The segments of a path in another one are followed from where that leads. -/
theorem foldl_splitOn_joinChars {α : Type} {f : α → List Char → α}
    (hskip : ∀ done, f done [] = done) {a b : List Char} (hb : b.head? ≠ some '/') (start : α) :
    (Text.splitOn '/' (joinChars a b)).foldl f start =
      (Text.splitOn '/' b).foldl f ((Text.splitOn '/' a).foldl f start) := by
  rw [joinChars, if_neg hb]
  split
  · rename_i hend
    rw [Bool.or_eq_true, decide_eq_true_eq, decide_eq_true_eq] at hend
    rcases hend with rfl | hend
    · simp [Text.splitOn, hskip]
    · -- the last segment of the first path is empty and is followed by the other path
      obtain ⟨a, rfl⟩ := List.getLast?_eq_some_iff.1 hend
      have hlast : Text.splitOn '/' (a ++ ['/']) = Text.splitOn '/' a ++ [[]] :=
        splitOn_append_slash_append a []
      rw [List.append_assoc, List.singleton_append, splitOn_append_slash_append, hlast,
        List.foldl_append, List.foldl_append, List.foldl_cons, List.foldl_nil, hskip]
  · rw [splitOn_append_slash_append, List.foldl_append]

theorem normal_joinChars {a b : List Char} (hb : b.head? ≠ some '/') :
    normal (joinChars a b) =
      ((Text.splitOn '/' b).foldl enterRelative (normal a).reverse).reverse := by
  rw [normal, foldl_splitOn_joinChars (fun _ => rfl) hb, normal, List.reverse_reverse]

theorem resolve_joinChars {a b : List Char} (hb : b.head? ≠ some '/') :
    resolve (joinChars a b) = ((Text.splitOn '/' b).foldl enter (resolve a).reverse).reverse := by
  rw [resolve, foldl_splitOn_joinChars (fun _ => rfl) hb, resolve, List.reverse_reverse]

theorem pathText_of_ne_nil {ps : List (List Char)} (h : ps ≠ []) : pathText ps = textOf ps := by
  cases ps with
  | nil => exact absurd rfl h
  | cons p ps => rfl

theorem relative_eq (start target : List Char) :
    relative start target = pathText (wayTo (resolve start) (resolve target)) := by
  rw [relative]
  split
  · rename_i hway
    rw [hway]
    rfl
  · rename_i hway
    rw [pathText_of_ne_nil hway, textOf]

/-- The text of a path falls apart into its segments. -/
theorem splitOn_pathText {ps : List (List Char)} (h : ∀ p ∈ ps, '/' ∉ p) :
    Text.splitOn '/' (pathText ps) = if ps = [] then [['.']] else ps := by
  split
  · rename_i hempty
    rw [hempty]
    rfl
  · rename_i hne
    rw [pathText_of_ne_nil hne, splitOn_textOf h hne]

theorem foldl_enterRelative_splitOn_pathText {ps : List (List Char)} (h : ∀ p ∈ ps, '/' ∉ p)
    (done : List (List Char)) :
    (Text.splitOn '/' (pathText ps)).foldl enterRelative done = ps.foldl enterRelative done := by
  rw [splitOn_pathText h]
  split
  · rename_i hempty
    rw [hempty]
    rfl
  · rfl

theorem IsNormal.noSlash {ps : List (List Char)} (h : IsNormal ps) : ∀ p ∈ ps, '/' ∉ p := by
  obtain ⟨n, segments, hsegments, rfl⟩ := h
  intro p hp
  rcases List.mem_append.1 hp with hp | hp
  · exact noSlash_of_mem_ups n p hp
  · exact (hsegments p hp).noSlash

theorem IsNormal.notHere {ps : List (List Char)} (h : IsNormal ps) : ∀ p ∈ ps, p ≠ ['.'] := by
  obtain ⟨n, segments, hsegments, rfl⟩ := h
  intro p hp
  rcases List.mem_append.1 hp with hp | hp
  · rw [List.eq_of_mem_replicate hp]
    decide
  · exact (hsegments p hp).notHere

/-- A normal path is its own normal form. -/
theorem IsNormal.normal_pathText {ps : List (List Char)} (h : IsNormal ps) :
    normal (pathText ps) = ps := by
  rw [normal, foldl_enterRelative_splitOn_pathText h.noSlash, h.foldl_enterRelative,
    List.reverse_reverse]

theorem normalForm_normalForm (path : List Char) :
    normalForm (normalForm path) = normalForm path := by
  rw [normalForm, normalForm, (isNormal_normal path).normal_pathText]

/-! ### Counting steps up -/

theorem exists_splitOn_cons {c : Char} (hc : c ≠ '/') (s : List Char) :
    ∃ p ps, Text.splitOn '/' s = p :: ps ∧ Text.splitOn '/' (c :: s) = (c :: p) :: ps := by
  obtain ⟨p, ps, hp⟩ := List.exists_cons_of_ne_nil (Text.splitOn_ne_nil '/' s)
  exact ⟨p, ps, hp, by rw [Text.splitOn, if_neg hc, hp]⟩

/-- A character in front makes no step up but with a dot behind it. -/
theorem count_splitOn_cons_le {c : Char} {s : List Char}
    (h : ¬ (['.', '.'] : List Char) <+: c :: s) :
    (Text.splitOn '/' (c :: s)).count ['.', '.'] ≤ (Text.splitOn '/' s).count ['.', '.'] := by
  by_cases hc : c = '/'
  · have hcount : (Text.splitOn '/' (c :: s)).count ['.', '.'] =
        (Text.splitOn '/' s).count ['.', '.'] := by
      rw [Text.splitOn, if_pos hc, List.count_cons_of_ne (by decide)]
    exact Nat.le_of_eq hcount
  · obtain ⟨p, ps, hp, hcons⟩ := exists_splitOn_cons hc s
    have hne : (c :: p) ≠ ['.', '.'] := by
      intro heq
      obtain ⟨rfl, rfl⟩ := List.cons.inj heq
      -- the text starts with the first of its pieces
      have hs := Text.intercalate_splitOn '/' s
      rw [hp] at hs
      apply h
      rw [← hs]
      cases ps <;> simp [List.intercalate]
    rw [hp, hcons, List.count_cons_of_ne hne, List.count_cons]
    exact Nat.le_add_right _ _

theorem count_splitOn_dots_le (s : List Char) :
    (Text.splitOn '/' ('.' :: '.' :: s)).count ['.', '.'] ≤
      (Text.splitOn '/' s).count ['.', '.'] + 1 := by
  obtain ⟨p, ps, hp, hcons⟩ := exists_splitOn_cons (by decide : '.' ≠ '/') s
  obtain ⟨q, qs, hq, hcons'⟩ := exists_splitOn_cons (by decide : '.' ≠ '/') ('.' :: s)
  obtain ⟨rfl, rfl⟩ := List.cons.inj (hcons.symm.trans hq)
  have hone : (if ('.' :: '.' :: p : List Char) == ['.', '.'] then 1 else 0) ≤ 1 := by
    split <;> decide
  rw [hp, hcons', List.count_cons, List.count_cons]
  omega

/-- Every step up is counted among the pairs of dots in the text. -/
theorem count_splitOn_le (path : List Char) :
    (Text.splitOn '/' path).count ['.', '.'] ≤ Text.count ['.', '.'] path := by
  -- the search may be in the middle of a pair, whose characters are passed
  have hfrom (s : List Char) : ∀ skip piece, (Text.splitOn '/' (s.drop skip)).count ['.', '.'] + 1 ≤
      (Text.piecesFrom ['.', '.'] skip piece s).length := by
    induction s with
    | nil => intro skip piece; simp [Text.splitOn, Text.piecesFrom]
    | cons c s ih =>
      intro skip piece
      cases skip with
      | succ skip => exact ih skip piece
      | zero =>
        rw [Text.piecesFrom, List.drop_zero]
        split
        · rename_i hprefix
          obtain ⟨rest, hrest⟩ := List.isPrefixOf_iff_prefix.1 hprefix
          rw [List.cons_append, List.cons_append, List.nil_append] at hrest
          obtain ⟨rfl, rfl⟩ := List.cons.inj hrest
          exact Nat.succ_le_succ (Nat.le_trans (count_splitOn_dots_le rest) (ih 1 []))
        · rename_i hprefix
          have hcount := count_splitOn_cons_le (mt List.isPrefixOf_iff_prefix.2 hprefix)
          exact Nat.le_trans (Nat.succ_le_succ hcount) (ih 0 (c :: piece))
  have hcount := hfrom path 0 []
  rw [Text.count, Text.pieces]
  rw [List.drop_zero] at hcount
  omega

/-! ### The way between normal paths -/

/-- The way leads up from where the two part and down the rest of the target. -/
theorem exists_wayTo_eq (start target : List (List Char)) :
    ∃ common as bs, start = common ++ as ∧ target = common ++ bs
      ∧ wayTo start target = ups as.length ++ bs ∧ ∀ a ∈ as.head?, ∀ b ∈ bs.head?, a ≠ b := by
  have hups (as : List (List Char)) : (as.map fun _ => ['.', '.']) = ups as.length :=
    List.map_const'
  induction start generalizing target with
  | nil => exact ⟨[], [], target, rfl, rfl, wayTo_nil target, by simp⟩
  | cons a as ih =>
    cases target with
    | nil =>
      refine ⟨[], a :: as, [], rfl, rfl, ?_, by simp⟩
      rw [wayTo_to_nil, hups, List.append_nil]
    | cons b bs =>
      by_cases hab : a = b
      · subst hab
        obtain ⟨common, as', bs', rfl, rfl, hway, hpart⟩ := ih bs
        exact ⟨a :: common, as', bs', rfl, rfl, by rw [wayTo_cons_self, hway], hpart⟩
      · refine ⟨[], a :: as, b :: bs, rfl, rfl, ?_, by simpa using hab⟩
        rw [wayTo_cons_of_ne hab, hups]

/-- From directories that the target does not go on in, the way leads up all of them. -/
theorem wayTo_of_head?_ne {start target : List (List Char)}
    (h : ∀ a ∈ start.head?, ∀ b ∈ target.head?, a ≠ b) :
    wayTo start target = ups start.length ++ target := by
  obtain ⟨common, as, bs, rfl, rfl, hway, -⟩ := exists_wayTo_eq start target
  cases common with
  | nil => exact hway
  | cons s common => simp at h

end ClientScribe.Path
