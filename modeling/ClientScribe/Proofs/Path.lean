import ClientScribe.Path

/-!
Paths of plain segments.  Such a path falls apart into its segments again, so different segments
make different paths, and resolving it undoes each step up with the segment in front of it.
-/

namespace ClientScribe.Path

/-- A segment that names something below the directory that it stands in. -/
structure IsSegment (s : List Char) : Prop where
  nonempty : s ≠ []
  noSlash : '/' ∉ s
  notHere : s ≠ ['.']
  notUp : s ≠ ['.', '.']

instance (s : List Char) : Decidable (IsSegment s) :=
  decidable_of_iff (s ≠ [] ∧ '/' ∉ s ∧ s ≠ ['.'] ∧ s ≠ ['.', '.'])
    ⟨fun ⟨h₁, h₂, h₃, h₄⟩ => ⟨h₁, h₂, h₃, h₄⟩, fun ⟨h₁, h₂, h₃, h₄⟩ => ⟨h₁, h₂, h₃, h₄⟩⟩

/-- A file name of more than the two dots of a step up. -/
theorem IsSegment.append {s t : List Char} (hs : '/' ∉ s) (ht : '/' ∉ t) (hlength : 2 < t.length) :
    IsSegment (s ++ t) := by
  have hlong : 2 < (s ++ t).length := by
    rw [List.length_append]
    omega
  refine ⟨?_, ?_, ?_, ?_⟩
  · intro h
    simp [h] at hlong
  · intro h
    rcases List.mem_append.1 h with h | h
    · exact hs h
    · exact ht h
  · intro h
    simp [h] at hlong
  · intro h
    simp [h] at hlong

/-! ### Splitting -/

theorem splitOn_of_noSlash {s : List Char} (h : '/' ∉ s) : Text.splitOn '/' s = [s] :=
  Text.splitOn_of_not_mem h

theorem splitOn_append_slash {s : List Char} (h : '/' ∉ s) (t : List Char) :
    Text.splitOn '/' (s ++ '/' :: t) = s :: Text.splitOn '/' t :=
  Text.splitOn_append h t

/-- Splitting undoes joining. -/
theorem splitOn_intercalate {ps : List (List Char)} (hps : ∀ p ∈ ps, '/' ∉ p) (hne : ps ≠ []) :
    Text.splitOn '/' (['/'].intercalate ps) = ps := by
  induction ps with
  | nil => exact absurd rfl hne
  | cons p ps ih =>
    rw [List.forall_mem_cons] at hps
    cases ps with
    | nil =>
      rw [List.intercalate_singleton]
      exact splitOn_of_noSlash hps.1
    | cons q qs =>
      rw [List.intercalate_cons_cons, List.append_assoc, List.singleton_append,
        splitOn_append_slash hps.1, ih hps.2 (List.cons_ne_nil q qs)]

/-- A file two directories deep. -/
def threeSegments (a b c : List Char) : List Char := a ++ '/' :: (b ++ '/' :: c)

theorem splitOn_threeSegments {a b c : List Char} (ha : '/' ∉ a) (hb : '/' ∉ b) (hc : '/' ∉ c) :
    Text.splitOn '/' (threeSegments a b c) = [a, b, c] := by
  rw [threeSegments, splitOn_append_slash ha, splitOn_append_slash hb, splitOn_of_noSlash hc]

theorem threeSegments_inj {a b c a' b' c' : List Char} (ha : '/' ∉ a) (hb : '/' ∉ b) (hc : '/' ∉ c)
    (ha' : '/' ∉ a') (hb' : '/' ∉ b') (hc' : '/' ∉ c')
    (h : threeSegments a b c = threeSegments a' b' c') : a = a' ∧ b = b' ∧ c = c' := by
  have hsplit := congrArg (Text.splitOn '/') h
  rw [splitOn_threeSegments ha hb hc, splitOn_threeSegments ha' hb' hc'] at hsplit
  simpa using hsplit

/-! ### Joining -/

theorem head?_ne_slash {s : List Char} (h : '/' ∉ s) : s.head? ≠ some '/' := by
  intro hhead
  exact h (List.mem_of_head? hhead)

theorem joinChars_relative {a b : List Char} (ha : a ≠ []) (hlast : a.getLast? ≠ some '/')
    (hb : b.head? ≠ some '/') : joinChars a b = a ++ '/' :: b := by
  rw [joinChars, if_neg hb, if_neg (by simp [ha, hlast])]

theorem joinChars_segment {a b : List Char} (ha : a ≠ []) (hlast : a.getLast? ≠ some '/')
    (hb : '/' ∉ b) : joinChars a b = a ++ '/' :: b :=
  joinChars_relative ha hlast (head?_ne_slash hb)

theorem getLast?_ne_slash {s : List Char} (h : '/' ∉ s) : s.getLast? ≠ some '/' := by
  intro hlast
  exact h (List.mem_of_getLast? hlast)

theorem getLast?_append_slash {a b : List Char} (hb : IsSegment b) :
    (a ++ '/' :: b).getLast? ≠ some '/' := by
  obtain ⟨s, d, hb'⟩ := (List.eq_nil_or_concat b).resolve_left hb.nonempty
  rw [List.concat_eq_append] at hb'
  subst hb'
  have hlast : (a ++ '/' :: (s ++ [d])).getLast? = some d := by
    rw [← List.cons_append, ← List.append_assoc, List.getLast?_concat]
  rw [hlast]
  intro hd
  exact hb.noSlash (by simp [Option.some.inj hd])

theorem join_join {a b c : String} (ha : IsSegment a.toList) (hb : IsSegment b.toList)
    (hc : '/' ∉ c.toList) :
    join (join a b) c = String.ofList (threeSegments a.toList b.toList c.toList) := by
  have hab : joinChars a.toList b.toList = a.toList ++ '/' :: b.toList :=
    joinChars_segment ha.nonempty (getLast?_ne_slash ha.noSlash) hb.noSlash
  have habc : joinChars (a.toList ++ '/' :: b.toList) c.toList =
      a.toList ++ '/' :: b.toList ++ '/' :: c.toList :=
    joinChars_segment (by simp) (getLast?_append_slash hb) hc
  rw [join, join, String.toList_ofList, hab, habc, threeSegments, List.append_assoc,
    List.cons_append]

theorem joinChars_nil (b : List Char) : joinChars [] b = b := by
  rw [joinChars]
  split <;> simp

/-- A file in a directory of a place; without a place the directory comes first. -/
theorem splitOn_joinChars {a b c : List Char} (ha : '/' ∉ a) (hb : IsSegment b) (hc : '/' ∉ c) :
    Text.splitOn '/' (joinChars (joinChars a b) c) = if a = [] then [b, c] else [a, b, c] := by
  by_cases hempty : a = []
  · rw [if_pos hempty, hempty, joinChars_nil,
      joinChars_segment hb.nonempty (getLast?_ne_slash hb.noSlash) hc,
      splitOn_append_slash hb.noSlash, splitOn_of_noSlash hc]
  · rw [if_neg hempty, joinChars_segment hempty (getLast?_ne_slash ha) hb.noSlash,
      joinChars_segment (by simp) (getLast?_append_slash hb) hc, List.append_assoc,
      List.cons_append]
    exact splitOn_threeSegments ha hb.noSlash hc

/-- Such files differ unless place, directory and name are the same. -/
theorem joinChars_joinChars_inj {a b c a' b' c' : List Char} (ha : '/' ∉ a) (hb : IsSegment b)
    (hc : '/' ∉ c) (ha' : '/' ∉ a') (hb' : IsSegment b') (hc' : '/' ∉ c')
    (h : joinChars (joinChars a b) c = joinChars (joinChars a' b') c') :
    a = a' ∧ b = b' ∧ c = c' := by
  have hsplit := congrArg (Text.splitOn '/') h
  rw [splitOn_joinChars ha hb hc, splitOn_joinChars ha' hb' hc'] at hsplit
  by_cases hempty : a = [] <;> by_cases hempty' : a' = [] <;> simp_all

/-! ### Directories -/

/-- The directory of a file two directories deep. -/
theorem directory_threeSegments {a b c : List Char} (ha : IsSegment a) (hb : IsSegment b)
    (hc : '/' ∉ c) :
    directory (String.ofList (threeSegments a b c)) = String.ofList (a ++ '/' :: b) := by
  have hhead : ((threeSegments a b c).reverse.dropWhile (· ≠ '/')).reverse =
      a ++ '/' :: b ++ ['/'] := by
    have hreverse : (threeSegments a b c).reverse =
        c.reverse ++ '/' :: (a ++ '/' :: b).reverse := by
      simp [threeSegments]
    have hname : ∀ d ∈ c.reverse, decide (d ≠ '/') = true := by
      intro d hd
      refine decide_eq_true ?_
      rintro rfl
      exact hc (List.mem_reverse.1 hd)
    rw [hreverse, List.dropWhile_append_of_pos hname]
    simp
  have hdeep : (a ++ '/' :: b ++ ['/']).all (· = '/') = false := by
    obtain ⟨d, hd⟩ := List.exists_mem_of_ne_nil a ha.nonempty
    rw [List.all_eq_false]
    refine ⟨d, by simp [hd], ?_⟩
    simp only [decide_eq_true_eq]
    rintro rfl
    exact ha.noSlash hd
  have htrim : ((a ++ '/' :: b ++ ['/']).reverse.dropWhile (· = '/')).reverse = a ++ '/' :: b := by
    obtain ⟨s, d, rfl⟩ := List.eq_nil_or_concat b |>.resolve_left hb.nonempty
    have hd : d ≠ '/' := by
      rintro rfl
      exact hb.noSlash (by simp)
    simp [hd]
  rw [directory, String.toList_ofList, hhead, hdeep]
  simp only [Bool.false_eq_true, if_false]
  rw [htrim]

/-! ### Resolving -/

theorem enter_segment {s : List Char} (h : IsSegment s) (done : List (List Char)) :
    enter done s = s :: done := by
  rw [enter, if_neg (by simp [h.nonempty, h.notHere]), if_neg h.notUp]

/-- A step up from one directory and down into another. -/
theorem resolve_sibling {a b c d : List Char} (ha : IsSegment a) (hb : IsSegment b)
    (hc : IsSegment c) (hd : IsSegment d) :
    resolve ('/' :: (a ++ '/' :: b ++ '/' :: ['.', '.'] ++ '/' :: c ++ '/' :: d)) = [a, c, d] := by
  have hup : '/' ∉ ['.', '.'] := by decide
  have hsplit : Text.splitOn '/'
      ('/' :: (a ++ '/' :: b ++ '/' :: ['.', '.'] ++ '/' :: c ++ '/' :: d)) =
      [[], a, b, ['.', '.'], c, d] := by
    simp only [List.append_assoc, List.cons_append]
    rw [Text.splitOn, if_pos rfl, splitOn_append_slash ha.noSlash, splitOn_append_slash hb.noSlash]
    have hrest := splitOn_append_slash hup (c ++ '/' :: d)
    simp only [List.cons_append, List.nil_append] at hrest ⊢
    rw [hrest, splitOn_append_slash hc.noSlash, splitOn_of_noSlash hd.noSlash]
  have hback (done : List (List Char)) : enter done ['.', '.'] = done.drop 1 := rfl
  have hstart (done : List (List Char)) : enter done [] = done := rfl
  simp only [resolve, hsplit, List.foldl_cons, List.foldl_nil, hstart, hback, enter_segment ha,
    enter_segment hb, enter_segment hc, enter_segment hd, List.drop_succ_cons, List.drop_zero]
  rfl

end ClientScribe.Path
