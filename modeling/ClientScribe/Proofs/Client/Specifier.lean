import ClientScribe.Proofs.NormalPath

/-!
Imports along any relative path.  An import says that it is relative and leads from the importing
directory to the normal form of its target, less the ending `.ts`, unless the names on the way are
taken for something else: a hidden name for a step, a directory for one of those that stand for what
is above the root.
-/

namespace ClientScribe.Client

open ClientScribe.Path (IsSegment IsNormal joinChars normal normalForm pathText textOf ups wayTo
  enterRelative)

/-- The path without a final `.ts`. -/
def moduleName (path : List Char) : List Char := (Text.dropEnd? ".ts".toList path).getD path

/-- A specifier that is relative to the importing file and says so. -/
def IsExplicit (specifier : List Char) : Prop :=
  specifier = ['.'] ∨ specifier = ['.', '.'] ∨ ['.', '/'] <+: specifier
    ∨ ['.', '.', '/'] <+: specifier

instance (specifier : List Char) : Decidable (IsExplicit specifier) :=
  inferInstanceAs (Decidable (_ ∨ _ ∨ _ ∨ _))

/-- Names on the way from a directory to a target that are taken for what they are. -/
structure IsImportable (directory target : List Char) : Prop where
  /-- Above the root the target does not go on in what stands for a directory there. -/
  noDummy : (normal target).head? = some ['.', '.'] →
    ((normal target).dropWhile (· = ['.', '.'])).head? ≠ some ['_']
  /-- The name of the module still names something. -/
  kept : normalForm (moduleName (normalForm target)) = moduleName (normalForm target)
  /-- A target that the directory is in, or the directory itself, has no ending. -/
  whole : normal target <+: normal directory → moduleName (normalForm target) = normalForm target
  /-- What is named in the directory itself does not start with a dot. -/
  notHidden : normal directory <+: normal (moduleName (normalForm target)) →
    ∀ name ∈ ((normal (moduleName (normalForm target))).drop (normal directory).length).head?,
      name.head? = some '.' → name = ['.', '.']

/-! ### Names of modules -/

/-- The segments of a path with the last one as a module is named. -/
def moduleSegments (ps : List (List Char)) : List (List Char) :=
  match ps.getLast? with
  | none => []
  | some l => ps.dropLast ++ [moduleName l]

theorem moduleSegments_concat (ps : List (List Char)) (l : List Char) :
    moduleSegments (ps ++ [l]) = ps ++ [moduleName l] := by
  simp [moduleSegments]

theorem length_moduleSegments (ps : List (List Char)) :
    (moduleSegments ps).length = ps.length := by
  rcases List.eq_nil_or_concat ps with rfl | ⟨before, l, rfl⟩
  · rfl
  · rw [List.concat_eq_append, moduleSegments_concat]
    simp

/-- Steps up have no ending. -/
theorem moduleSegments_ups_append (n : Nat) (ps : List (List Char)) :
    moduleSegments (ups n ++ ps) = ups n ++ moduleSegments ps := by
  rcases List.eq_nil_or_concat ps with rfl | ⟨before, l, rfl⟩
  · cases n with
    | zero => rfl
    | succ n =>
      rw [List.append_nil, ups, List.replicate_succ', moduleSegments_concat]
      exact (List.append_nil _).symm
  · rw [List.concat_eq_append, ← List.append_assoc, moduleSegments_concat, moduleSegments_concat,
      List.append_assoc]

theorem moduleName_append_ending (s : List Char) : moduleName (s ++ ".ts".toList) = s := by
  rw [moduleName, Text.dropEnd?_append, Option.getD_some]

theorem moduleName_of_not_suffix {s : List Char} (h : ¬ ".ts".toList <:+ s) : moduleName s = s := by
  rw [moduleName, Text.dropEnd?, if_neg (by simpa using h), Option.getD_none]

theorem noSlash_moduleName {s : List Char} (h : '/' ∉ s) : '/' ∉ moduleName s := by
  by_cases hending : ".ts".toList <:+ s
  · obtain ⟨name, rfl⟩ := hending
    rw [moduleName_append_ending]
    exact fun hmem => h (List.mem_append_left _ hmem)
  · rwa [moduleName_of_not_suffix hending]

theorem noSlash_moduleSegments {ps : List (List Char)} (h : ∀ p ∈ ps, '/' ∉ p) :
    ∀ p ∈ moduleSegments ps, '/' ∉ p := by
  rcases List.eq_nil_or_concat ps with rfl | ⟨before, l, rfl⟩
  · exact List.forall_mem_nil _
  · rw [List.concat_eq_append] at h ⊢
    rw [List.forall_mem_append, List.forall_mem_singleton] at h
    rw [moduleSegments_concat, List.forall_mem_append, List.forall_mem_singleton]
    exact ⟨h.1, noSlash_moduleName h.2⟩

/-- The ending of a path is one of its last segment. -/
theorem moduleName_pathText (ps : List (List Char)) :
    moduleName (pathText ps) = pathText (moduleSegments ps) := by
  have hname (before l : List Char) :
      moduleName (before ++ '/' :: l) = before ++ '/' :: moduleName l := by
    by_cases hending : ".ts".toList <:+ l
    · obtain ⟨name, rfl⟩ := hending
      rw [← List.cons_append, ← List.append_assoc, moduleName_append_ending,
        moduleName_append_ending]
    · rw [moduleName_of_not_suffix hending, moduleName_of_not_suffix]
      intro hsuffix
      -- the ending has no slash, so it stands behind the last one
      rcases List.suffix_or_suffix_of_suffix hsuffix (List.suffix_append before ('/' :: l)) with
        hshort | hlong
      · rcases List.suffix_cons_iff.1 hshort with heq | hshort
        · exact absurd (List.cons.inj heq).1 (by decide)
        · exact hending hshort
      · exact absurd (hlong.mem List.mem_cons_self) (by decide)
  rcases List.eq_nil_or_concat ps with rfl | ⟨before, l, rfl⟩
  · rfl
  · rw [List.concat_eq_append]
    have hconcat (p : List Char) : before ++ [p] ≠ [] := by simp
    rw [moduleSegments_concat, Path.pathText_of_ne_nil (hconcat l),
      Path.pathText_of_ne_nil (hconcat _)]
    obtain ⟨front, rfl | ⟨directory, rfl⟩, htext⟩ := Path.exists_textOf_concat before
    · rw [htext, htext, List.nil_append, List.nil_append]
    · rw [htext, htext, List.append_assoc, List.append_assoc, List.singleton_append,
        List.singleton_append, hname]

theorem moduleName_pathText_ups (n : Nat) : moduleName (pathText (ups n)) = pathText (ups n) := by
  have hsegments := moduleSegments_ups_append n []
  rw [List.append_nil] at hsegments
  rw [moduleName_pathText, hsegments]
  exact congrArg pathText (List.append_nil _)

/-! ### Specifiers -/

/-- A module path with a dot in front where it has none. -/
def withDot (path : List Char) : List Char :=
  if path.head? = some '.' then path else '.' :: '/' :: path

theorem head?_withDot (path : List Char) : (withDot path).head? = some '.' := by
  rw [withDot]
  split
  · assumption
  · rfl

/-- The dot leads nowhere. -/
theorem foldl_enterRelative_withDot (path : List Char) (done : List (List Char)) :
    (Text.splitOn '/' (withDot path)).foldl enterRelative done =
      (Text.splitOn '/' path).foldl enterRelative done := by
  rw [withDot]
  split
  · rfl
  · have hsplit : Text.splitOn '/' ('.' :: '/' :: path) = ['.'] :: Text.splitOn '/' path :=
      Path.splitOn_append_slash (by decide : '/' ∉ ['.']) path
    rw [hsplit, List.foldl_cons, Path.enterRelative_skip (.inr rfl)]

/-- An explicit specifier starts with the segment `.` or with a step up. -/
theorem isExplicit_iff {s : List Char} :
    IsExplicit s ↔ (Text.splitOn '/' s).head? = some ['.']
      ∨ (Text.splitOn '/' s).head? = some ['.', '.'] := by
  have hstart {start s : List Char} (hslash : '/' ∉ start) :
      (Text.splitOn '/' s).head? = some start ↔ s = start ∨ start ++ ['/'] <+: s := by
    constructor
    · intro hhead
      obtain ⟨ps, hps⟩ := List.head?_eq_some_iff.1 hhead
      have hs := Text.intercalate_splitOn '/' s
      rw [hps] at hs
      cases ps with
      | nil =>
        rw [List.intercalate_singleton] at hs
        exact .inl hs.symm
      | cons p ps =>
        rw [List.intercalate_cons_cons] at hs
        exact .inr ⟨_, hs⟩
    · rintro (rfl | ⟨rest, rfl⟩)
      · rw [Path.splitOn_of_noSlash hslash]
        rfl
      · rw [List.append_assoc, List.singleton_append, Path.splitOn_append_slash hslash]
        rfl
  rw [hstart (by decide), hstart (by decide), IsExplicit, List.singleton_append, List.cons_append,
    List.singleton_append]
  rw [or_assoc, or_left_comm (a := ['.', '/'] <+: s)]

/-- A path with a dot in front where it has none is explicit if no name on it starts so. -/
theorem isExplicit_withDot_textOf_iff {p : List Char} {ps : List (List Char)}
    (h : ∀ q ∈ p :: ps, '/' ∉ q) :
    IsExplicit (withDot (textOf (p :: ps))) ↔
      (p.head? = some '.' → p = ['.'] ∨ p = ['.', '.']) := by
  have hsplit : Text.splitOn '/' (textOf (p :: ps)) = p :: ps :=
    Path.splitOn_textOf h (List.cons_ne_nil p ps)
  by_cases hdot : (textOf (p :: ps)).head? = some '.'
  · have hp : p.head? = some '.' := by
      cases ps with
      | nil => rwa [Path.textOf_singleton] at hdot
      | cons q qs =>
        rw [Path.textOf_cons_cons] at hdot
        cases p with
        | nil => exact absurd hdot (by simp)
        | cons c p => exact hdot
    rw [withDot, if_pos hdot, isExplicit_iff, hsplit, List.head?_cons, Option.some.injEq,
      Option.some.injEq]
    simp [hp]
  · have hp : p.head? ≠ some '.' := by
      intro hp
      obtain ⟨p, rfl⟩ := List.head?_eq_some_iff.1 hp
      cases ps with
      | nil => exact hdot (by rw [Path.textOf_singleton, List.head?_cons])
      | cons q qs => exact hdot (by rw [Path.textOf_cons_cons, List.cons_append, List.head?_cons])
    have hexplicit : IsExplicit (withDot (textOf (p :: ps))) := by
      rw [withDot, if_neg hdot]
      exact .inr (.inr (.inl ⟨_, rfl⟩))
    exact ⟨fun _ hp' => absurd hp' hp, fun _ => hexplicit⟩

/-- A specifier that starts with a step up is explicit. -/
theorem isExplicit_of_up (n : Nat) {ps : List (List Char)} (h : ∀ p ∈ ps, '/' ∉ p) :
    IsExplicit (withDot (pathText (ups (n + 1) ++ ps))) := by
  have hslash : ∀ p ∈ ['.', '.'] :: (ups n ++ ps), '/' ∉ p :=
    List.forall_mem_append.2 ⟨Path.noSlash_of_mem_ups (n + 1), h⟩
  exact (isExplicit_withDot_textOf_iff hslash).2 fun _ => .inr rfl

/-! ### The way of an import -/

/-- What stands for directories above the root is left out of the way, unless the target goes on in
it. -/
theorem wayTo_replicate_append {k : Nat} {base ts : List (List Char)}
    (hbase : ∀ s ∈ base, IsSegment s) (h : k = 0 ∨ ts.head? ≠ some ['_']) :
    wayTo (List.replicate k ['_'] ++ base) ts = wayTo base (ups k ++ ts) := by
  cases k with
  | zero => rfl
  | succ k =>
    have hts := h.resolve_left (Nat.succ_ne_zero k)
    rw [Path.wayTo_of_head?_ne, Path.wayTo_of_head?_ne, ← List.append_assoc, ups, ups, ups,
      List.replicate_append_replicate, List.length_append, List.length_replicate, Nat.add_comm]
    · intro a ha b hb
      rw [ups, List.replicate_succ, List.cons_append, List.head?_cons, Option.mem_some_iff] at hb
      rw [← hb]
      exact (hbase a (List.mem_of_mem_head? ha)).notUp
    · intro a ha b hb hab
      rw [List.replicate_succ, List.cons_append, List.head?_cons, Option.mem_some_iff] at ha
      exact hts (hb.trans (congrArg some (hab.symm.trans ha.symm)))

/-- Of what stands for directories above the root as many count as the target leads up. -/
theorem wayTo_replicate_append_replicate {n k : Nat} (hk : k ≤ n) (base ts : List (List Char)) :
    wayTo (List.replicate n ['_'] ++ base) (List.replicate (n - k) ['_'] ++ ts) =
      wayTo (List.replicate k ['_'] ++ base) ts := by
  have hsplit : List.replicate n ['_'] =
      List.replicate (n - k) ['_'] ++ List.replicate k ['_'] := by
    rw [List.replicate_append_replicate, Nat.sub_add_cancel hk]
  rw [hsplit, List.append_assoc, Path.wayTo_append_left]

theorem resolve_anchor (directory target : List Char) : Path.resolve (anchor directory target) =
    List.replicate (Text.count ['.', '.'] target + Text.count ['.', '.'] directory + 1) ['_'] := by
  rw [anchor_eq_slash_textOf, Path.resolve_slash_textOf
    (fun s hs => (isSegment_of_mem_replicate hs).noSlash) (by simp),
    Path.foldl_enter_segments fun _ => isSegment_of_mem_replicate, List.append_nil,
    List.reverse_reverse]

section

variable {directory target : List Char}

/-- The specifier is the way to the target below as many directories as the target is above the
root. -/
theorem exists_importPath_eq_withDot (hdirectory : directory.head? ≠ some '/')
    (htarget : target.head? ≠ some '/') (hbelow : ['.', '.'] ∉ normal directory) :
    (∀ s ∈ normal directory, IsSegment s) ∧ ∃ k ts, (∀ s ∈ ts, IsSegment s)
      ∧ normal target = ups k ++ ts
      ∧ (importPath (String.ofList directory) (String.ofList target)).toList =
        withDot (moduleName (pathText
          (wayTo (List.replicate k ['_'] ++ normal directory) ts))) := by
  obtain ⟨m, base, hbase, hnormal, -, hstart⟩ := Path.exists_normal_eq directory
  obtain ⟨k, ts, hts, hnormal', hk, hend⟩ := Path.exists_normal_eq target
  have hm : m = 0 := by
    cases m with
    | zero => rfl
    | succ m => exact absurd (by rw [hnormal, Path.ups_succ]; exact List.mem_cons_self) hbelow
  subst hm
  obtain rfl : normal directory = base := hnormal
  refine ⟨hbase, k, ts, hts, hnormal', ?_⟩
  have hanchor := resolve_anchor directory target
  -- there are enough directories for all steps up of the target
  have hk := Nat.le_trans hk (Path.count_splitOn_le target)
  have hfrom := Path.resolve_joinChars (a := anchor directory target) hdirectory
  have hto := Path.resolve_joinChars (a := anchor directory target) htarget
  rw [hanchor, hstart, List.drop_zero, List.reverse_append, List.reverse_reverse,
    List.reverse_reverse] at hfrom
  rw [hanchor, hend, List.reverse_replicate, List.drop_replicate, List.reverse_append,
    List.reverse_reverse, List.reverse_replicate] at hto
  rw [importPath]
  simp only [String.toList_ofList]
  rw [Path.relative_eq, hfrom, hto, wayTo_replicate_append_replicate (by omega)]
  rfl

/-- Where a specifier leads from a directory. -/
theorem normal_joinChars_withDot {ps : List (List Char)} (h : ∀ p ∈ ps, '/' ∉ p) :
    normal (joinChars directory (withDot (pathText ps))) =
      (ps.foldl enterRelative (normal directory).reverse).reverse := by
  have hhead : (withDot (pathText ps)).head? ≠ some '/' := by
    rw [head?_withDot]
    decide
  rw [Path.normal_joinChars hhead, foldl_enterRelative_withDot,
    Path.foldl_enterRelative_splitOn_pathText h]

/-- Steps up from directories that name something. -/
theorem foldl_enterRelative_ups_append {base : List (List Char)} (hbase : ∀ s ∈ base, IsSegment s)
    (n : Nat) (ps : List (List Char)) :
    (ups n ++ ps).foldl enterRelative base.reverse =
      ps.foldl enterRelative (base.reverse.drop n ++ ups (n - base.length)) := by
  have hreverse : ∀ s ∈ base.reverse, IsSegment s := fun s hs => hbase s (List.mem_reverse.1 hs)
  have hups := Path.foldl_enterRelative_ups hreverse n 0
  rw [ups, List.replicate_zero, List.append_nil, Nat.zero_add, List.length_reverse] at hups
  rw [List.foldl_append, hups]

theorem length_splitOn_pathText {ps : List (List Char)} (h : ∀ p ∈ ps, '/' ∉ p) :
    (Text.splitOn '/' (pathText ps)).length = max 1 ps.length := by
  rw [Path.splitOn_pathText h]
  split
  · rename_i hempty
    rw [hempty]
    rfl
  · rename_i hne
    have := List.length_pos_iff.2 hne
    omega

/-- A target that goes on in what stands for a directory above the root is missed: some steps up are
lost. -/
theorem normalForm_ne_of_dummy {k : Nat} {ts : List (List Char)}
    (hbase : ∀ s ∈ normal directory, IsSegment s) (hts : ∀ s ∈ ts, IsSegment s)
    (htarget : normal target = ups (k + 1) ++ ['_'] :: ts) :
    normalForm (joinChars directory (withDot (moduleName (pathText
        (wayTo (List.replicate (k + 1) ['_'] ++ normal directory) (['_'] :: ts)))))) ≠
      moduleName (normalForm target) := by
  intro heq
  obtain ⟨common, as, bs, hstart, rfl, hway, -⟩ :=
    Path.exists_wayTo_eq (List.replicate k ['_'] ++ normal directory) ts
  have hmodule : moduleName (pathText (wayTo (List.replicate (k + 1) ['_'] ++ normal directory)
      (['_'] :: (common ++ bs)))) = pathText (ups as.length ++ moduleSegments bs) := by
    rw [List.replicate_succ, List.cons_append, Path.wayTo_cons_self, hway, moduleName_pathText,
      moduleSegments_ups_append]
  have hnoSlash : ∀ p ∈ ups as.length ++ moduleSegments bs, '/' ∉ p :=
    List.forall_mem_append.2 ⟨Path.noSlash_of_mem_ups _, noSlash_moduleSegments fun s hs =>
      (hts s (List.mem_append_right _ hs)).noSlash⟩
  have htargets := noSlash_moduleSegments (Path.isNormal_normal target).noSlash
  -- the specifier leads to fewer segments than the target has
  have hlength : (Text.splitOn '/' (normalForm (joinChars directory
      (withDot (pathText (ups as.length ++ moduleSegments bs)))))).length =
        (Text.splitOn '/' (pathText (moduleSegments (normal target)))).length := by
    rw [← hmodule, heq, normalForm, moduleName_pathText]
  rw [normalForm, length_splitOn_pathText (Path.isNormal_normal _).noSlash,
    normal_joinChars_withDot hnoSlash, foldl_enterRelative_ups_append hbase, List.length_reverse,
    length_splitOn_pathText htargets, length_moduleSegments, htarget] at hlength
  have hshort := Path.length_foldl_enterRelative_le (moduleSegments bs)
    ((normal directory).reverse.drop as.length ++ ups (as.length - (normal directory).length))
  have hstart := congrArg List.length hstart
  simp only [List.length_append, List.length_drop, List.length_reverse, List.length_replicate,
    List.length_cons, length_moduleSegments, ups] at hshort hstart hlength
  omega

/-- Below any directories the steps up that take them back lead to the front of the path. -/
theorem foldl_enterRelative_ups_length {common as : List (List Char)}
    (h : ∀ s ∈ common ++ as, IsSegment s) (ps : List (List Char)) :
    (ups as.length ++ ps).foldl enterRelative (common ++ as).reverse =
      ps.foldl enterRelative common.reverse := by
  have hzero : as.length - (common ++ as).length = 0 := by
    rw [List.length_append]
    omega
  rw [foldl_enterRelative_ups_append h, hzero, List.reverse_append,
    List.drop_left' List.length_reverse, ups, List.replicate_zero, List.append_nil]

/-- A directory that the importing file is in is led to by steps up. -/
theorem points_of_directory_above {common as : List (List Char)}
    (hbase : ∀ s ∈ common ++ as, IsSegment s) (hdirectory : normal directory = common ++ as)
    (htarget : normal target = common) :
    IsExplicit (withDot (pathText (ups as.length)))
      ∧ normalForm (joinChars directory (withDot (pathText (ups as.length)))) =
        normalForm target := by
  constructor
  · cases as.length with
    | zero => exact .inl rfl
    | succ n =>
      have hups := isExplicit_of_up n (List.forall_mem_nil fun p => '/' ∉ p)
      rwa [List.append_nil] at hups
  · have hwalk := foldl_enterRelative_ups_length hbase []
    rw [List.append_nil, List.foldl_nil] at hwalk
    rw [normalForm, normal_joinChars_withDot (Path.noSlash_of_mem_ups _), hdirectory, hwalk,
      List.reverse_reverse, normalForm, htarget]

/-- Where the way only leads up, all that can go wrong is that the ending of a directory is to be
dropped. -/
theorem points_iff_of_prefix {common as : List (List Char)}
    (hbase : ∀ s ∈ common ++ as, IsSegment s) (hdirectory : normal directory = common ++ as)
    (htarget : normal target = common)
    (hnoDummy : (normal target).head? = some ['.', '.'] →
      ((normal target).dropWhile (· = ['.', '.'])).head? ≠ some ['_']) :
    (IsExplicit (withDot (pathText (ups as.length)))
        ∧ normalForm (joinChars directory (withDot (pathText (ups as.length)))) =
          moduleName (normalForm target)) ↔ IsImportable directory target := by
  obtain ⟨hexplicit, hpoints⟩ := points_of_directory_above hbase hdirectory htarget
  have habove : normal target <+: normal directory := ⟨as, by rw [htarget, hdirectory]⟩
  rw [hpoints]
  constructor
  · rintro ⟨-, hwhole⟩
    rw [eq_comm] at hwhole
    refine ⟨hnoDummy, ?_, fun _ => hwhole, ?_⟩
    · rw [hwhole, Path.normalForm_normalForm]
    · rw [hwhole, normalForm, (Path.isNormal_normal _).normal_pathText]
      intro hprefix name hname
      rw [habove.eq_of_length_le hprefix.length_le, List.drop_length] at hname
      exact absurd hname (by simp)
  · intro h
    exact ⟨hexplicit, (h.whole habove).symm⟩

/-! The target goes on below `common`, where the way to it turns down. -/

section

variable {common as bs : List (List Char)} {l : List Char}

theorem moduleName_pathText_append (before bs : List (List Char)) (l : List Char) :
    moduleName (pathText (before ++ (bs ++ [l]))) =
      pathText (before ++ (bs ++ [moduleName l])) := by
  rw [moduleName_pathText, ← List.append_assoc, moduleSegments_concat, List.append_assoc]

theorem moduleName_normalForm_eq (htarget : normal target = common ++ (bs ++ [l])) :
    moduleName (normalForm target) = pathText (common ++ (bs ++ [moduleName l])) := by
  rw [normalForm, htarget, moduleName_pathText_append]

theorem noSlash_rest (htarget : normal target = common ++ (bs ++ [l])) :
    ∀ s ∈ common ++ (bs ++ [moduleName l]), '/' ∉ s := by
  have hnoSlash := (Path.isNormal_normal target).noSlash
  rw [htarget, ← List.append_assoc] at hnoSlash
  have hmodule := noSlash_moduleSegments hnoSlash
  rwa [moduleSegments_concat, List.append_assoc] at hmodule

/-- The specifier leads to the normal form of the module's name. -/
theorem normalForm_joinChars_withDot (hbase : ∀ s ∈ common ++ as, IsSegment s)
    (hdirectory : normal directory = common ++ as)
    (htarget : normal target = common ++ (bs ++ [l])) :
    normalForm (joinChars directory (withDot (moduleName (pathText
        (ups as.length ++ (bs ++ [l])))))) = normalForm (moduleName (normalForm target)) := by
  have hrest := noSlash_rest htarget
  have hway : ∀ s ∈ ups as.length ++ (bs ++ [moduleName l]), '/' ∉ s := by
    rw [List.forall_mem_append] at hrest ⊢
    exact ⟨Path.noSlash_of_mem_ups _, hrest.2⟩
  have hcommon : common.foldl enterRelative [] = common.reverse := by
    rw [Path.foldl_enterRelative_segments fun s hs => hbase s (List.mem_append_left _ hs),
      List.append_nil]
  rw [moduleName_pathText_append, normalForm, normal_joinChars_withDot hway, hdirectory,
    foldl_enterRelative_ups_length hbase, moduleName_normalForm_eq htarget, normalForm, normal,
    Path.foldl_enterRelative_splitOn_pathText hrest, List.foldl_append (l := common), hcommon]

/-- What the name of a module that is in normal form names. -/
theorem normal_moduleName_cases (htarget : normal target = common ++ (bs ++ [l]))
    (hkept : normalForm (moduleName (normalForm target)) = moduleName (normalForm target)) :
    (normal (moduleName (normalForm target)) = []
        ∧ common ++ (bs ++ [moduleName l]) = [['.']])
      ∨ normal (moduleName (normalForm target)) = common ++ (bs ++ [moduleName l]) := by
  have hpieces : Text.splitOn '/' (normalForm (moduleName (normalForm target))) =
      Text.splitOn '/' (pathText (common ++ (bs ++ [moduleName l]))) := by
    rw [hkept, moduleName_normalForm_eq htarget]
  rw [normalForm, Path.splitOn_pathText (Path.isNormal_normal _).noSlash,
    Path.splitOn_pathText (noSlash_rest htarget),
    if_neg (by simp : ¬ common ++ (bs ++ [moduleName l]) = [])] at hpieces
  split at hpieces
  · rename_i hempty
    exact .inl ⟨hempty, hpieces.symm⟩
  · exact .inr hpieces

/-- In the directory itself the specifier is explicit just if what is named there does not start
with a dot. -/
theorem isExplicit_iff_of_inside (htarget : normal target = common ++ (bs ++ [l]))
    (hkept : normalForm (moduleName (normalForm target)) = moduleName (normalForm target)) :
    IsExplicit (withDot (pathText (bs ++ [moduleName l]))) ↔
      ∀ name ∈ ((normal (moduleName (normalForm target))).drop common.length).head?,
        name.head? = some '.' → name = ['.', '.'] := by
  have hrest := noSlash_rest htarget
  have hhere := (Path.isNormal_normal (moduleName (normalForm target))).notHere
  have hcases := normal_moduleName_cases htarget hkept
  obtain ⟨p, ps, hp⟩ := List.exists_cons_of_ne_nil (List.concat_ne_nil (moduleName l) bs)
  rw [hp] at hrest hcases ⊢
  refine (isExplicit_withDot_textOf_iff (List.forall_mem_append.1 hrest).2).trans ?_
  rcases hcases with ⟨hempty, hdot⟩ | hmodule
  · -- the name of the module is a single dot
    have hmem : p ∈ [['.']] := hdot ▸ List.mem_append_right _ List.mem_cons_self
    rw [hempty, List.drop_nil, List.mem_singleton.1 hmem]
    simp
  · rw [hmodule] at hhere ⊢
    have hp : p ≠ ['.'] := hhere p (List.mem_append_right _ List.mem_cons_self)
    simp [hp]

/-- The specifier is explicit just if what is named in the directory itself does not start with a
dot. -/
theorem isExplicit_withDot_iff (hdirectory : normal directory = common ++ as)
    (htarget : normal target = common ++ (bs ++ [l]))
    (hpart : ∀ a ∈ as.head?, ∀ b ∈ (bs ++ [l]).head?, a ≠ b)
    (hkept : normalForm (moduleName (normalForm target)) = moduleName (normalForm target)) :
    IsExplicit (withDot (moduleName (pathText (ups as.length ++ (bs ++ [l]))))) ↔
      (normal directory <+: normal (moduleName (normalForm target)) →
        ∀ name ∈ ((normal (moduleName (normalForm target))).drop (normal directory).length).head?,
          name.head? = some '.' → name = ['.', '.']) := by
  have hcases := normal_moduleName_cases htarget hkept
  rw [moduleName_pathText_append, hdirectory]
  cases as with
  | nil =>
    refine (isExplicit_iff_of_inside htarget hkept).trans ?_
    rw [List.append_nil]
    refine ⟨fun h _ => h, fun h => ?_⟩
    rcases hcases with ⟨hempty, -⟩ | hmodule
    · rw [hempty, List.drop_nil]
      simp
    · exact h (by rw [hmodule]; exact List.prefix_append _ _)
  | cons a as =>
    have hrest := (List.forall_mem_append.1 (noSlash_rest htarget)).2
    refine iff_of_true (isExplicit_of_up as.length hrest) fun hprefix => ?_
    rcases hcases with ⟨hempty, -⟩ | hmodule
    · rw [hempty, List.drop_nil]
      simp
    · rw [hmodule, List.prefix_append_right_inj] at hprefix
      rw [hmodule, List.length_append, ← List.drop_drop, List.drop_left]
      cases bs with
      | nil => simp
      | cons b bs =>
        rw [List.cons_append, List.cons_prefix_cons] at hprefix
        exact absurd hprefix.1 (hpart a rfl b rfl)

/-- Where the way leads down, the module's name has to stay in normal form and must not be hidden in
the directory itself. -/
theorem points_iff_of_way_down (hbase : ∀ s ∈ common ++ as, IsSegment s)
    (hdirectory : normal directory = common ++ as)
    (htarget : normal target = common ++ (bs ++ [l]))
    (hpart : ∀ a ∈ as.head?, ∀ b ∈ (bs ++ [l]).head?, a ≠ b)
    (hnoDummy : (normal target).head? = some ['.', '.'] →
      ((normal target).dropWhile (· = ['.', '.'])).head? ≠ some ['_']) :
    (IsExplicit (withDot (moduleName (pathText (ups as.length ++ (bs ++ [l])))))
        ∧ normalForm (joinChars directory
            (withDot (moduleName (pathText (ups as.length ++ (bs ++ [l])))))) =
          moduleName (normalForm target)) ↔ IsImportable directory target := by
  rw [normalForm_joinChars_withDot hbase hdirectory htarget]
  constructor
  · rintro ⟨hexplicit, hkept⟩
    refine ⟨hnoDummy, hkept, fun habove => ?_,
      (isExplicit_withDot_iff hdirectory htarget hpart hkept).1 hexplicit⟩
    -- the target is not above the directory
    rw [hdirectory, htarget, List.prefix_append_right_inj] at habove
    obtain ⟨rest, rfl⟩ := habove
    obtain ⟨b, tail, hb⟩ := List.exists_cons_of_ne_nil (List.concat_ne_nil l bs)
    rw [hb] at hpart
    exact absurd rfl (hpart b rfl b rfl)
  · intro h
    exact ⟨(isExplicit_withDot_iff hdirectory htarget hpart h.kept).2 h.notHidden, h.kept⟩

end

/-- Whether a target above the root goes on in what stands for a directory there. -/
theorem noDummy_iff {k : Nat} {ts : List (List Char)} (hts : ∀ s ∈ ts, IsSegment s)
    (htarget : normal target = ups k ++ ts) :
    ((normal target).head? = some ['.', '.'] →
        ((normal target).dropWhile (· = ['.', '.'])).head? ≠ some ['_']) ↔
      (k = 0 ∨ ts.head? ≠ some ['_']) := by
  have hdown (ts : List (List Char)) (hts : ∀ s ∈ ts, IsSegment s) :
      ts.head? ≠ some ['.', '.'] ∧ ts.dropWhile (· = ['.', '.']) = ts := by
    cases ts with
    | nil => exact ⟨by simp, rfl⟩
    | cons s ts =>
      have hs := (hts s List.mem_cons_self).notUp
      exact ⟨by simpa using hs, List.dropWhile_cons_of_neg (by simpa using hs)⟩
  have hups : ∀ s ∈ ups k, decide (s = ['.', '.']) = true := fun s hs =>
    decide_eq_true (List.eq_of_mem_replicate hs)
  rw [htarget, List.dropWhile_append_of_pos hups, (hdown ts hts).2]
  cases k with
  | zero => exact iff_of_true (fun hup => absurd hup (hdown ts hts).1) (.inl rfl)
  | succ k =>
    rw [Path.ups_succ, List.cons_append, List.head?_cons]
    simp

/-- An import is explicit and points at its target just if the names on the way are taken for what
they are. -/
theorem importPath_points_iff (directory target : String)
    (hdirectory : directory.toList.head? ≠ some '/') (htarget : target.toList.head? ≠ some '/')
    (hbelow : ['.', '.'] ∉ normal directory.toList) :
    (IsExplicit (importPath directory target).toList
      ∧ normalForm (joinChars directory.toList (importPath directory target).toList) =
        moduleName (normalForm target.toList)) ↔
      IsImportable directory.toList target.toList := by
  obtain ⟨hbase, k, ts, hts, hnormal, himport⟩ :=
    exists_importPath_eq_withDot hdirectory htarget hbelow
  rw [String.ofList_toList, String.ofList_toList] at himport
  have hnoDummy := noDummy_iff hts hnormal
  by_cases hmissed : ¬ (k = 0 ∨ ts.head? ≠ some ['_'])
  · refine iff_of_false ?_ fun h => hmissed (hnoDummy.1 h.noDummy)
    rw [not_or, Classical.not_not] at hmissed
    obtain ⟨k, rfl⟩ := Nat.exists_eq_succ_of_ne_zero hmissed.1
    obtain ⟨ts, rfl⟩ := List.head?_eq_some_iff.1 hmissed.2
    rintro ⟨-, hpoints⟩
    rw [himport] at hpoints
    exact normalForm_ne_of_dummy hbase (fun s hs => hts s (List.mem_cons_of_mem _ hs)) hnormal
      hpoints
  have hdummy := Classical.not_not.1 hmissed
  rw [wayTo_replicate_append hbase hdummy, ← hnormal] at himport
  obtain ⟨common, as, bs, hfrom, hto, hway, hpart⟩ :=
    Path.exists_wayTo_eq (normal directory.toList) (normal target.toList)
  rw [hway] at himport
  rw [hfrom] at hbase
  rw [himport]
  rcases List.eq_nil_or_concat bs with rfl | ⟨before, l, rfl⟩
  · rw [List.append_nil] at hto ⊢
    rw [moduleName_pathText_ups]
    exact points_iff_of_prefix hbase hfrom hto (hnoDummy.2 hdummy)
  · rw [List.concat_eq_append] at hto hpart ⊢
    exact points_iff_of_way_down hbase hfrom hto hpart (hnoDummy.2 hdummy)

/-- The import of a client above the root. -/
theorem importPath_points_rapydClient :
    IsExplicit (importPath "collect/apis" "../core/RapydClient").toList
      ∧ normalForm (joinChars "collect/apis".toList
          (importPath "collect/apis" "../core/RapydClient").toList) =
        moduleName (normalForm "../core/RapydClient".toList) :=
  (importPath_points_iff "collect/apis" "../core/RapydClient" (by decide)
    (by decide) (by decide)).2
    { noDummy := by decide, kept := by decide, whole := by decide,
      notHidden := by decide }

/-- A hidden name in the directory itself is taken for a step. -/
theorem importPath_hidden : "p/types".toList.head? ≠ some '/'
    ∧ "p/types/.NET.ts".toList.head? ≠ some '/' ∧ ['.', '.'] ∉ normal "p/types".toList
    ∧ importPath "p/types" "p/types/.NET.ts" = ".NET" ∧ ¬ IsExplicit ".NET".toList := by
  decide

/-- Another directory above the root is taken for one that stands for it. -/
example : importPath "" "../_/x.ts" = "./x" := by
  decide

end

end ClientScribe.Client
