import ClientScribe.Client.Interface
import ClientScribe.Proofs.Client.ApiModule

/-!
Relative imports.  The way from a directory to a file leads up from the one as far as their paths
differ and down to the other, so what is imported along it is the file.
-/

namespace ClientScribe

namespace Path

/-! ### Walking along segments -/

theorem foldl_enter_segments {ps : List (List Char)} (h : ∀ s ∈ ps, IsSegment s)
    (done : List (List Char)) : ps.foldl enter done = ps.reverse ++ done := by
  induction ps generalizing done with
  | nil => rfl
  | cons s ps ih =>
    rw [List.forall_mem_cons] at h
    rw [List.foldl_cons, enter_segment h.1, ih h.2, List.reverse_cons, List.append_assoc,
      List.singleton_append]

/-- Steps up take back what was entered last. -/
theorem foldl_enter_up (as done : List (List Char)) :
    (as.map fun _ => ['.', '.']).foldl enter (as.reverse ++ done) = done := by
  have hup (as done : List (List Char)) :
      (as.map fun _ => ['.', '.']).foldl enter done = done.drop as.length := by
    induction as generalizing done with
    | nil => rfl
    | cons a as ih =>
      rw [List.map_cons, List.foldl_cons, ih, List.length_cons, Nat.add_comm, ← List.drop_drop]
      rfl
  rw [hup, List.drop_left' List.length_reverse]

theorem wayTo_nil (target : List (List Char)) : wayTo [] target = target := by
  rw [wayTo, diverge.eq_def]
  rfl

theorem wayTo_to_nil (start : List (List Char)) :
    wayTo start [] = start.map fun _ => ['.', '.'] := by
  cases start with
  | nil => rfl
  | cons a as => exact List.append_nil _

theorem wayTo_cons_self (a : List Char) (as bs : List (List Char)) :
    wayTo (a :: as) (a :: bs) = wayTo as bs := by
  rw [wayTo, diverge, if_pos rfl, ← wayTo]

theorem wayTo_cons_of_ne {a b : List Char} (h : a ≠ b) (as bs : List (List Char)) :
    wayTo (a :: as) (b :: bs) = ((a :: as).map fun _ => ['.', '.']) ++ b :: bs := by
  rw [wayTo, diverge, if_neg h]

/-- The way from a directory to a file ends at the file. -/
theorem foldl_enter_wayTo (start : List (List Char)) {target : List (List Char)}
    (h : ∀ s ∈ target, IsSegment s) (done : List (List Char)) :
    (wayTo start target).foldl enter (start.reverse ++ done) = target.reverse ++ done := by
  induction start generalizing target done with
  | nil =>
    rw [wayTo_nil]
    exact foldl_enter_segments h done
  | cons a as ih =>
    cases target with
    | nil =>
      rw [wayTo_to_nil]
      exact foldl_enter_up (a :: as) done
    | cons b bs =>
      by_cases hab : a = b
      · rw [hab, wayTo_cons_self, List.reverse_cons, List.reverse_cons, List.append_assoc,
          List.append_assoc]
        exact ih (List.forall_mem_cons.1 h).2 _
      · rw [wayTo_cons_of_ne hab, List.foldl_append, foldl_enter_up, foldl_enter_segments h]

theorem wayTo_append_left (common start target : List (List Char)) :
    wayTo (common ++ start) (common ++ target) = wayTo start target := by
  induction common with
  | nil => rfl
  | cons s common ih => rw [List.cons_append, List.cons_append, wayTo_cons_self, ih]

/-- From a directory no deeper than that of the file, the way ends with the name of the file. -/
theorem exists_wayTo_eq_append {start target : List (List Char)} (name : List Char)
    (h : start.length ≤ target.length) :
    ∃ before, wayTo start (target ++ [name]) = before ++ [name] := by
  induction start generalizing target with
  | nil => exact ⟨target, wayTo_nil _⟩
  | cons a as ih =>
    cases target with
    | nil => exact absurd h (by simp)
    | cons b bs =>
      by_cases hab : a = b
      · rw [hab, List.cons_append, wayTo_cons_self]
        exact ih (Nat.le_of_succ_le_succ h)
      · rw [List.cons_append, wayTo_cons_of_ne hab, ← List.cons_append, ← List.append_assoc]
        exact ⟨_, rfl⟩

/-- The way is made of steps up and of segments of the target. -/
theorem mem_wayTo {start target : List (List Char)} {s : List Char} (h : s ∈ wayTo start target) :
    s = ['.', '.'] ∨ s ∈ target := by
  induction start generalizing target with
  | nil =>
    rw [wayTo_nil] at h
    exact .inr h
  | cons a as ih =>
    cases target with
    | nil =>
      rw [wayTo_to_nil] at h
      obtain ⟨_, -, rfl⟩ := List.mem_map.1 h
      exact .inl rfl
    | cons b bs =>
      by_cases hab : a = b
      · rw [hab, wayTo_cons_self] at h
        exact (ih h).imp_right (List.mem_cons_of_mem b)
      · rw [wayTo_cons_of_ne hab] at h
        rcases List.mem_append.1 h with h | h
        · obtain ⟨_, -, rfl⟩ := List.mem_map.1 h
          exact .inl rfl
        · exact .inr h

/-! ### Texts of segments -/

/-- The text of some segments. -/
def textOf (ps : List (List Char)) : List Char := ['/'].intercalate ps

theorem textOf_singleton (p : List Char) : textOf [p] = p := List.intercalate_singleton

theorem textOf_cons_cons (p q : List Char) (ps : List (List Char)) :
    textOf (p :: q :: ps) = p ++ '/' :: textOf (q :: ps) := by
  rw [textOf, List.intercalate_cons_cons, List.append_assoc, List.singleton_append, ← textOf]

theorem textOf_append {ps qs : List (List Char)} (hps : ps ≠ []) (hqs : qs ≠ []) :
    textOf (ps ++ qs) = textOf ps ++ '/' :: textOf qs := by
  induction ps with
  | nil => exact absurd rfl hps
  | cons p ps ih =>
    cases ps with
    | nil =>
      obtain ⟨q, qs, rfl⟩ := List.exists_cons_of_ne_nil hqs
      rw [List.singleton_append, textOf_cons_cons, textOf_singleton]
    | cons p' ps =>
      have htail : textOf (p' :: (ps ++ qs)) = textOf (p' :: ps) ++ '/' :: textOf qs :=
        ih (List.cons_ne_nil p' ps)
      rw [List.cons_append, List.cons_append, textOf_cons_cons, htail, textOf_cons_cons,
        List.append_assoc, List.cons_append]

/-- The last segment ends a text, with nothing or a slash right in front of it. -/
theorem exists_textOf_concat (before : List (List Char)) :
    ∃ front, (front = [] ∨ ∃ directory, front = directory ++ ['/'])
      ∧ ∀ s, textOf (before ++ [s]) = front ++ s := by
  by_cases hbefore : before = []
  · refine ⟨[], .inl rfl, fun s => ?_⟩
    rw [hbefore, List.nil_append, textOf_singleton, List.nil_append]
  · refine ⟨textOf before ++ ['/'], .inr ⟨_, rfl⟩, fun s => ?_⟩
    rw [textOf_append hbefore (List.cons_ne_nil s []), textOf_singleton, List.append_assoc,
      List.singleton_append]

theorem splitOn_textOf {ps : List (List Char)} (hps : ∀ p ∈ ps, '/' ∉ p) (hne : ps ≠ []) :
    Text.splitOn '/' (textOf ps) = ps :=
  splitOn_intercalate hps hne

theorem textOf_ne_nil {ps : List (List Char)} (hps : ∀ p ∈ ps, p ≠ []) (hne : ps ≠ []) :
    textOf ps ≠ [] := by
  obtain ⟨p, rest, rfl⟩ := List.exists_cons_of_ne_nil hne
  have hp := hps p List.mem_cons_self
  cases rest with
  | nil => rwa [textOf_singleton]
  | cons q rest => simp [textOf_cons_cons, hp]

theorem head?_textOf_ne_slash {ps : List (List Char)} (hps : ∀ p ∈ ps, p ≠ [] ∧ '/' ∉ p) :
    (textOf ps).head? ≠ some '/' := by
  cases ps with
  | nil => simp [textOf]
  | cons p ps =>
    obtain ⟨hne, hp⟩ := hps p List.mem_cons_self
    obtain ⟨c, cs, rfl⟩ := List.exists_cons_of_ne_nil hne
    have hc : c ≠ '/' := (List.ne_of_not_mem_cons hp).symm
    cases ps with
    | nil => simp [textOf_singleton, hc]
    | cons q qs => simp [textOf_cons_cons, hc]

theorem getLast?_textOf_ne_slash {ps : List (List Char)} (hps : ∀ p ∈ ps, IsSegment p) :
    (textOf ps).getLast? ≠ some '/' := by
  rcases List.eq_nil_or_concat ps with rfl | ⟨before, s, rfl⟩
  · simp [textOf]
  · rw [List.concat_eq_append] at hps ⊢
    have hs : IsSegment s := hps s (by simp)
    obtain ⟨front, rfl | ⟨directory, rfl⟩, htext⟩ := exists_textOf_concat before
    · rw [htext, List.nil_append]
      exact getLast?_ne_slash hs.noSlash
    · rw [htext, List.append_assoc, List.singleton_append]
      exact getLast?_append_slash hs

/-- Joining segments to others. -/
theorem joinChars_textOf {ps qs : List (List Char)} (hps : ∀ p ∈ ps, IsSegment p) (hne : ps ≠ [])
    (hqs : ∀ q ∈ qs, q ≠ [] ∧ '/' ∉ q) (hne' : qs ≠ []) :
    joinChars (textOf ps) (textOf qs) = textOf (ps ++ qs) := by
  have hnonempty : textOf ps ≠ [] := textOf_ne_nil (fun p hp => (hps p hp).nonempty) hne
  rw [joinChars, if_neg (head?_textOf_ne_slash hqs),
    if_neg (by simp [hnonempty, getLast?_textOf_ne_slash hps]), textOf_append hne hne']

/-- An absolute path falls apart into its segments. -/
theorem resolve_slash_textOf {ps : List (List Char)} (hps : ∀ p ∈ ps, '/' ∉ p) (hne : ps ≠ []) :
    resolve ('/' :: textOf ps) = (ps.foldl enter []).reverse := by
  rw [resolve, Text.splitOn, if_pos rfl, splitOn_textOf hps hne]
  rfl

theorem joinChars_slash_textOf {ps qs : List (List Char)} (hps : ∀ p ∈ ps, IsSegment p)
    (hne : ps ≠ []) (hqs : ∀ q ∈ qs, q ≠ [] ∧ '/' ∉ q) (hne' : qs ≠ []) :
    joinChars ('/' :: textOf ps) (textOf qs) = '/' :: textOf (ps ++ qs) := by
  have hlast : ('/' :: textOf ps).getLast? ≠ some '/' := by
    obtain ⟨c, cs, hcs⟩ :=
      List.exists_cons_of_ne_nil (textOf_ne_nil (fun p hp => (hps p hp).nonempty) hne)
    rw [hcs, List.getLast?_cons_cons, ← hcs]
    exact getLast?_textOf_ne_slash hps
  rw [joinChars, if_neg (head?_textOf_ne_slash hqs), if_neg (by simp [hlast]),
    textOf_append hne hne', List.cons_append]

/-- The path from one place below a common one to another is the way between them. -/
theorem relative_textOf {common start target : List (List Char)}
    (hcommon : ∀ s ∈ common, IsSegment s) (hstart : ∀ s ∈ start, IsSegment s)
    (htarget : ∀ s ∈ target, IsSegment s) (hne : common ≠ []) (hway : wayTo start target ≠ []) :
    relative ('/' :: textOf (common ++ start)) ('/' :: textOf (common ++ target)) =
      textOf (wayTo start target) := by
  have hresolve {ps : List (List Char)} (hps : ∀ s ∈ ps, IsSegment s) :
      resolve ('/' :: textOf (common ++ ps)) = common ++ ps := by
    have hall : ∀ s ∈ common ++ ps, IsSegment s := fun s hs =>
      (List.mem_append.1 hs).elim (hcommon s) (hps s)
    rw [resolve_slash_textOf (fun s hs => (hall s hs).noSlash) (by simp [hne]),
      foldl_enter_segments hall, List.append_nil, List.reverse_reverse]
  rw [relative, hresolve hstart, hresolve htarget, wayTo_append_left]
  obtain ⟨s, rest, hcons⟩ := List.exists_cons_of_ne_nil hway
  rw [hcons]
  rfl

end Path

namespace Client

open ClientScribe.Path (IsSegment textOf wayTo)

theorem anchor_eq_slash_textOf (directory target : List Char) :
    anchor directory target = '/' :: textOf (List.replicate
      (Text.count ['.', '.'] target + Text.count ['.', '.'] directory + 1) ['_']) := by
  have hanchor (n : Nat) : (List.replicate (n + 1) ['/', '_']).flatten =
      '/' :: textOf (List.replicate (n + 1) ['_']) := by
    induction n with
    | zero => rfl
    | succ n ih =>
      have htext : textOf (List.replicate (n + 1 + 1) ['_']) =
          '_' :: '/' :: textOf (List.replicate (n + 1) ['_']) :=
        Path.textOf_cons_cons ['_'] ['_'] (List.replicate n ['_'])
      rw [List.replicate_succ, List.flatten_cons, ih, htext]
      rfl
  exact hanchor _

/-- What stands for a directory above the root. -/
theorem isSegment_of_mem_replicate {n : Nat} {s : List Char} (h : s ∈ List.replicate n ['_']) :
    IsSegment s := by
  rw [List.eq_of_mem_replicate h]
  decide

theorem anchor_eq (directory target : List Char) : ∃ dummies : List (List Char), dummies ≠ []
    ∧ (∀ s ∈ dummies, IsSegment s) ∧ anchor directory target = '/' :: textOf dummies :=
  ⟨_, by simp, fun _ => isSegment_of_mem_replicate, anchor_eq_slash_textOf directory target⟩

section

variable {ds ts : List (List Char)} {name : List Char}

/-- What is imported in a directory is the way to the file without its ending, perhaps with a dot in
front. -/
theorem exists_importPath_eq (hds : ∀ s ∈ ds, IsSegment s)
    (htarget : ∀ s ∈ ts ++ [name ++ ".ts".toList], IsSegment s) (hne : ds ≠ [])
    (hlength : ds.length ≤ ts.length) :
    ∃ dot : List (List Char), (dot = [] ∨ dot = [['.']])
      ∧ (importPath (String.ofList (textOf ds))
          (String.ofList (textOf (ts ++ [name ++ ".ts".toList])))).toList ++ ".ts".toList =
        textOf (dot ++ wayTo ds (ts ++ [name ++ ".ts".toList])) := by
  have hplain {ps : List (List Char)} (hps : ∀ s ∈ ps, IsSegment s) :
      ∀ s ∈ ps, s ≠ [] ∧ '/' ∉ s := fun s hs => ⟨(hps s hs).nonempty, (hps s hs).noSlash⟩
  have hconcat (ps : List (List Char)) (p : List Char) : ps ++ [p] ≠ [] := by simp
  obtain ⟨before, hway⟩ := Path.exists_wayTo_eq_append (name ++ ".ts".toList) hlength
  obtain ⟨dummies, hdummies, hsegments, hanchor⟩ :=
    anchor_eq (textOf ds) (textOf (ts ++ [name ++ ".ts".toList]))
  have hrelative := Path.relative_textOf hsegments hds htarget hdummies (hway ▸ hconcat _ _)
  -- the ending stands at the end of the last segment, so it is cut off there
  have hending : textOf (before ++ [name ++ ".ts".toList]) =
      textOf (before ++ [name]) ++ ".ts".toList := by
    obtain ⟨front, -, htext⟩ := Path.exists_textOf_concat before
    rw [htext, htext, List.append_assoc]
  rw [hway] at hrelative ⊢
  rw [importPath]
  simp only [String.toList_ofList, hanchor]
  rw [Path.joinChars_slash_textOf hsegments hdummies (hplain hds) hne,
    Path.joinChars_slash_textOf hsegments hdummies (hplain htarget) (hconcat _ _), hrelative,
    hending, Text.dropEnd?_append, Option.getD_some]
  split
  · exact ⟨[], .inl rfl, hending.symm⟩
  · refine ⟨[['.']], .inr rfl, ?_⟩
    rw [Path.textOf_append (List.cons_ne_nil _ _) (hconcat _ _), hending, Path.textOf_singleton]
    rfl

/-- What is imported in a directory leads from there to the file. -/
theorem importedPath_importPath (hds : ∀ s ∈ ds, IsSegment s)
    (htarget : ∀ s ∈ ts ++ [name ++ ".ts".toList], IsSegment s) (hne : ds ≠ [])
    (hlength : ds.length ≤ ts.length) :
    importedPath (String.ofList (textOf ds))
        (importPath (String.ofList (textOf ds))
          (String.ofList (textOf (ts ++ [name ++ ".ts".toList])))) =
      String.ofList (textOf (ts ++ [name ++ ".ts".toList])) := by
  obtain ⟨dot, hdot, himport⟩ := exists_importPath_eq hds htarget hne hlength
  obtain ⟨before, hway⟩ := Path.exists_wayTo_eq_append (name ++ ".ts".toList) hlength
  have hsteps : ∀ s ∈ dot ++ wayTo ds (ts ++ [name ++ ".ts".toList]), s ≠ [] ∧ '/' ∉ s := by
    intro s hs
    rcases List.mem_append.1 hs with hs | hs
    · rcases hdot with rfl | rfl
      · exact absurd hs List.not_mem_nil
      · rw [List.mem_singleton.1 hs]
        decide
    · rcases Path.mem_wayTo hs with rfl | hs
      · decide
      · exact ⟨(htarget s hs).nonempty, (htarget s hs).noSlash⟩
  have hall : ∀ s ∈ ds ++ (dot ++ wayTo ds (ts ++ [name ++ ".ts".toList])), '/' ∉ s := fun s hs =>
    (List.mem_append.1 hs).elim (fun hs => (hds s hs).noSlash) fun hs => (hsteps s hs).2
  have hstepsne : dot ++ wayTo ds (ts ++ [name ++ ".ts".toList]) ≠ [] := by
    rw [hway, ← List.append_assoc]
    exact List.concat_ne_nil _ _
  have hhere (done : List (List Char)) : dot.foldl Path.enter done = done := by
    rcases hdot with rfl | rfl <;> rfl
  have hwalk := Path.foldl_enter_wayTo ds htarget []
  rw [List.append_nil, List.append_nil] at hwalk
  rw [importedPath, String.toList_append, himport, String.toList_ofList,
    Path.joinChars_textOf hds hne hsteps hstepsne,
    Path.resolve_slash_textOf hall (by simp [hne]), List.foldl_append, List.foldl_append,
    Path.foldl_enter_segments hds, List.append_nil, hhere, hwalk, List.reverse_reverse, textOf]

end

/-- The import of one reference in the file of another leads to its file. -/
theorem importedPath_referencePath {r t : Reference} (hr : r.IsPlain) (ht : t.IsPlain) :
    importedPath (Path.directory (referencePath r))
        (importPath (Path.directory (referencePath r)) (referencePath t)) = referencePath t := by
  have hkinds (u : Reference) : IsSegment (u.kind ++ "s").toList := isSegment_kinds u.content
  have htext (u : Reference) : filePath u.product (u.kind ++ "s") u.name =
      String.ofList (textOf ([u.product.toList, (u.kind ++ "s").toList]
        ++ [u.name.toList ++ ".ts".toList])) := by
    rw [filePath, Path.threeSegments, List.cons_append, List.cons_append, List.nil_append,
      Path.textOf_cons_cons, Path.textOf_cons_cons, Path.textOf_singleton]
  have hdirectory : Path.directory (referencePath r) =
      String.ofList (textOf [r.product.toList, (r.kind ++ "s").toList]) := by
    rw [referencePath_eq hr, filePath, Path.directory_threeSegments hr.product (hkinds r)
      (noSlash_fileName hr.name.noSlash), Path.textOf_cons_cons, Path.textOf_singleton]
  rw [hdirectory, referencePath_eq ht, htext]
  apply importedPath_importPath
  · intro s hs
    simp only [List.mem_cons, List.not_mem_nil, or_false] at hs
    rcases hs with rfl | rfl
    · exact hr.product
    · exact hkinds r
  · intro s hs
    simp only [List.cons_append, List.nil_append, List.mem_cons, List.not_mem_nil, or_false] at hs
    rcases hs with rfl | rfl | rfl
    · exact ht.product
    · exact hkinds t
    · exact IsSegment.append ht.name.noSlash (by decide) (by decide)
  · exact List.cons_ne_nil _ _
  · exact Nat.le_refl _

end Client

end ClientScribe
