import ClientScribe.Proofs.Json.Within
import ClientScribe.Proofs.Json.WrittenString

/-!
Reading back a written value.  Only its strings can come back changed, so what a reader makes of the
text is told by what it makes of each string.
-/

namespace ClientScribe.Json

/-- Values without numbers whose keys are storable and distinct. -/
inductive Writable : Json → Prop
  | null : Writable .null
  | bool (b : Bool) : Writable (.bool b)
  | str (s : String) : Writable (.str s)
  | arr {vs : List Json} (items : ∀ v ∈ vs, Writable v) : Writable (.arr vs)
  | obj {ms : Members} (distinct : (ms.map Prod.fst).Nodup)
    (keys : ∀ m ∈ ms, Text.isStorable m.1 = true) (values : ∀ m ∈ ms, Writable m.2) :
    Writable (.obj ms)

/-- A member with what a reader makes of its value. -/
def readMember (result : Json → Option Json) (m : String × Json) : Option (String × Json) :=
  (result m.2).map fun v => (m.1, v)

theorem readMember_of_eq_some {result : Json → Option Json} {m : String × Json} {v : Json}
    (h : result m.2 = some v) : readMember result m = some (m.1, v) := by
  rw [readMember, h, Option.map_some]

theorem readMember_of_eq_none {result : Json → Option Json} {m : String × Json}
    (h : result m.2 = none) : readMember result m = none := by
  rw [readMember, h, Option.map_none]

/-- What a reader makes of the text of a value. -/
def rereadValue? (strict : Bool) : (depth : Nat) → Json → Option Json
  | _, .str s => (rereadString? strict s).map .str
  | 0, .arr vs => if strict && vs.isEmpty then some (.arr []) else none
  | depth + 1, .arr vs => (vs.mapM (rereadValue? strict depth)).map .arr
  | 0, .obj ms => if strict && ms.isEmpty then some (.obj []) else none
  | depth + 1, .obj ms => (ms.mapM (readMember (rereadValue? strict depth))).map .obj
  | _, v => some v

/-! ### Gaps and first characters -/

theorem skipGap_cons {c : Char} (hc : isGap c = false) (s : List Char) :
    skipGap (c :: s) = c :: s := by
  simp [skipGap, hc]

/-- A text that may stand between the parts of a value. -/
def IsGap (s : List Char) : Prop := ∀ c ∈ s, isGap c = true

theorem isGap_nil : IsGap [] := fun _ hc => absurd hc List.not_mem_nil

theorem skipGap_append {g : List Char} (hg : IsGap g) (s : List Char) :
    skipGap (g ++ s) = skipGap s :=
  List.dropWhile_append_of_pos hg

theorem isGap_gap (layout : Layout) : IsGap layout.gap := by
  cases layout with
  | compact => exact isGap_nil
  | indented level =>
    refine List.forall_mem_cons.2 ⟨by decide, fun c hc => ?_⟩
    rw [List.eq_of_mem_replicate hc]
    decide

/-- The gap of a layout is skipped. -/
theorem skipGap_gap (layout : Layout) (s : List Char) : skipGap (layout.gap ++ s) = skipGap s :=
  skipGap_append (isGap_gap layout) s

/-- A written value starts with a character that is no gap and closes nothing. -/
theorem Writable.head {v : Json} (h : v.Writable) (layout : Layout) :
    ∃ c s, written layout v = c :: s ∧ isGap c = false ∧ c ≠ ']' ∧ c ≠ '\uFEFF' := by
  cases h with
  | null => exact ⟨_, _, rfl, by decide, by decide, by decide⟩
  | bool b => cases b <;> exact ⟨_, _, rfl, by decide, by decide, by decide⟩
  | str s => exact ⟨_, _, rfl, by decide, by decide, by decide⟩
  | @arr vs _ => cases vs <;> exact ⟨_, _, rfl, by decide, by decide, by decide⟩
  | @obj ms _ _ _ => cases ms <;> exact ⟨_, _, rfl, by decide, by decide, by decide⟩

theorem Writable.skipGap_written {v : Json} (h : v.Writable) (layout : Layout) (rest : List Char) :
    skipGap (written layout v ++ rest) = written layout v ++ rest := by
  obtain ⟨c, s, hs, hc, -⟩ := h.head layout
  rw [hs]
  exact skipGap_cons hc (s ++ rest)

/-! ### Items -/

/-- A step gives a value and leaves the rest, or fails, as `result` says. -/
def Step.Gives {α : Type} (step : Step α) (result : Option α) (rest : List Char) : Prop :=
  step.toOption = result.map fun a => (a, rest)

theorem Step.gives_some_iff {α : Type} {step : Step α} {a : α} {rest : List Char} :
    Step.Gives step (some a) rest ↔ step = .ok (a, rest) := by
  cases step <;> simp [Step.Gives, Except.toOption]

theorem Step.gives_none_iff {α : Type} {step : Step α} {rest : List Char} :
    Step.Gives step none rest ↔ ∃ fault, step = .error fault := by
  cases step <;> simp [Step.Gives, Except.toOption]

theorem Step.Gives.map {α β : Type} {step : Step α} {result : Option α} {rest : List Char}
    (h : Step.Gives step result rest) (f : α → β) :
    Step.Gives (Except.map (fun r => (f r.1, r.2)) step) (result.map f) rest := by
  cases result with
  | none =>
    obtain ⟨fault, rfl⟩ := gives_none_iff.1 h
    exact gives_none_iff.2 ⟨fault, rfl⟩
  | some a =>
    rw [gives_some_iff.1 h]
    rfl

theorem length_le_writtenItems (layout : Layout) (vs : List Json) :
    vs.length ≤ (writtenItems layout vs).length := by
  induction vs with
  | nil => exact Nat.zero_le _
  | cons v vs ih =>
    simp only [writtenItems, List.cons_append, List.length_cons, List.length_append]
    omega

theorem mapM_cons_of_eq_some {α β : Type} {f : α → Option β} {a : α} {b : β} {as : List α}
    (h : f a = some b) : (a :: as).mapM f = (as.mapM f).map (b :: ·) := by
  rw [List.mapM_cons, h]
  cases as.mapM f <;> rfl

theorem mapM_cons_of_eq_none {α β : Type} {f : α → Option β} {a : α} {as : List α}
    (h : f a = none) : (a :: as).mapM f = none := by
  rw [List.mapM_cons, h]
  rfl

section

variable {item : List Char → Step Json} {s t rest : List Char} {v : Json} {fault : Fault}
  (rounds : Nat) (done : List Json)

theorem items_of_error (h : item s = .error fault) :
    items item (rounds + 1) done s = .error fault := by
  rw [items, h]

/-- The item in front of the bracket is the last one. -/
theorem items_last (h : item s = .ok (v, t)) (ht : skipGap t = ']' :: rest) :
    items item (rounds + 1) done s = .ok (done.reverse ++ [v], rest) := by
  rw [items, h]
  simp only [ht, List.reverse_cons]

/-- Behind a comma the next item is read. -/
theorem items_next (h : item s = .ok (v, t)) (ht : skipGap t = ',' :: rest) :
    items item (rounds + 1) done s = items item rounds (v :: done) (skipGap rest) := by
  rw [items, h]
  simp only [ht]

end

/-- The first item that is not read back ends the reading. -/
theorem items_gives_none {item : List Char → Step Json} {result : Json → Option Json}
    {s t : List Char} {v : Json} (hv : Step.Gives (item s) (result v) t) (hnone : result v = none)
    (rounds : Nat) (done vs : List Json) (f : List Json → List Json) (rest : List Char) :
    Step.Gives (items item (rounds + 1) done s) (((v :: vs).mapM result).map f) rest := by
  rw [hnone, Step.gives_none_iff] at hv
  obtain ⟨fault, hfault⟩ := hv
  rw [mapM_cons_of_eq_none hnone, Option.map_none, Step.gives_none_iff]
  exact ⟨fault, items_of_error rounds done hfault⟩

/-- The items of an array are read back one by one. -/
theorem items_written {item : List Char → Step Json} {result : Json → Option Json}
    (layout outer : Layout) (rest : List Char) (v : Json) (vs : List Json)
    (hwritable : ∀ w ∈ v :: vs, Writable w)
    (hitem : ∀ w ∈ v :: vs, ∀ s, Step.Gives (item (written layout w ++ s)) (result w) s)
    (done : List Json) (rounds : Nat) (hrounds : vs.length < rounds) :
    Step.Gives
      (items item rounds done
        (written layout v ++ (writtenItems layout vs ++ (outer.gap ++ ']' :: rest))))
      (((v :: vs).mapM result).map fun ws => done.reverse ++ ws) rest := by
  induction vs generalizing v done rounds with
  | nil =>
    obtain ⟨rounds, rfl⟩ := Nat.exists_eq_succ_of_ne_zero (Nat.ne_of_gt hrounds)
    have hv := hitem v List.mem_cons_self (outer.gap ++ ']' :: rest)
    rw [writtenItems, List.nil_append]
    cases hresult : result v with
    | none => exact items_gives_none hv hresult rounds done _ _ rest
    | some w =>
      rw [hresult, Step.gives_some_iff] at hv
      have hclose : skipGap (outer.gap ++ ']' :: rest) = ']' :: rest := by
        rw [skipGap_gap, skipGap_cons (by decide)]
      rw [items_last rounds done hv hclose, mapM_cons_of_eq_some hresult]
      rfl
  | cons u us ih =>
    obtain ⟨rounds, rfl⟩ := Nat.exists_eq_succ_of_ne_zero (Nat.ne_zero_of_lt hrounds)
    have hv := hitem v List.mem_cons_self
      (writtenItems layout (u :: us) ++ (outer.gap ++ ']' :: rest))
    cases hresult : result v with
    | none => exact items_gives_none hv hresult rounds done _ _ rest
    | some w =>
      rw [hresult, Step.gives_some_iff] at hv
      have hu : Writable u := hwritable u (by simp)
      have hcomma : skipGap (writtenItems layout (u :: us) ++ (outer.gap ++ ']' :: rest)) =
          ',' :: (layout.gap ++ (written layout u ++
            (writtenItems layout us ++ (outer.gap ++ ']' :: rest)))) := by
        simp only [writtenItems, List.cons_append, List.append_assoc,
          skipGap_cons (c := ',') (by decide)]
      have hus := ih u (fun x hx => hwritable x (List.mem_cons_of_mem v hx))
        (fun x hx => hitem x (List.mem_cons_of_mem v hx)) (w :: done) rounds
        (Nat.lt_of_succ_lt_succ hrounds)
      rw [items_next rounds done hv hcomma, skipGap_gap, hu.skipGap_written,
        mapM_cons_of_eq_some hresult, Option.map_map]
      simpa [Function.comp_def] using hus

/-! ### Members -/

theorem put_of_not_mem {α : Type} {key : String} {value : α} {members : List (String × α)}
    (h : key ∉ members.map Prod.fst) : put key value members = members ++ [(key, value)] := by
  induction members with
  | nil => rfl
  | cons m rest ih =>
    simp only [List.map_cons, List.mem_cons, not_or] at h
    rw [put, if_neg (Ne.symm h.1), ih h.2, List.cons_append]

/-- A member with a key of its own is put behind those that are there. -/
theorem put_of_nodup {α : Type} {done ms : List (String × α)} {m : String × α}
    (h : ((done ++ m :: ms).map Prod.fst).Nodup) (value : α) :
    put m.1 value done = done ++ [(m.1, value)] := by
  apply put_of_not_mem
  intro hmem
  rw [List.map_append, List.map_cons, List.nodup_append] at h
  exact h.2.2 m.1 hmem m.1 List.mem_cons_self rfl

theorem override_eq_append {α : Type} {done ms : List (String × α)}
    (h : ((done ++ ms).map Prod.fst).Nodup) : override done ms = done ++ ms := by
  induction ms generalizing done with
  | nil => exact (List.append_nil done).symm
  | cons m ms ih =>
    have hassoc : done ++ m :: ms = (done ++ [m]) ++ ms := by simp
    have hput : put m.1 m.2 done = done ++ [m] := put_of_nodup h m.2
    rw [hassoc] at h ⊢
    rw [← ih h, ← hput]
    rfl

/-- A storable string is read back, and what follows its closing quote is left. -/
theorem string_written_of_isStorable {s : String} (strict : Bool) (hs : Text.isStorable s = true)
    (rest : List Char) :
    string strict (s.toList.flatMap writtenChar ++ '"' :: rest) = .ok (s, rest) := by
  have h := string_written strict s rest
  rw [rereadString?_of_isStorable strict hs] at h
  exact Step.gives_some_iff.1 h

theorem colon_deeper (layout : Layout) : layout.deeper.colon = layout.colon := by
  cases layout <;> rfl

/-- A key and its colon are read back, and the reader stands in front of the value. -/
theorem key_written {k : String} (strict : Bool) (layout : Layout) (hk : Text.isStorable k = true)
    {s : List Char} (hs : skipGap s = s) :
    key strict (writtenString k ++ (layout.colon ++ s)) = .ok (k, s) := by
  have hcolon : skipGap (layout.colon ++ s) = layout.colon ++ s := by
    cases layout <;> exact skipGap_cons (by decide) _
  have hquote : writtenString k ++ (layout.colon ++ s) =
      '"' :: (k.toList.flatMap writtenChar ++ '"' :: (layout.colon ++ s)) := by
    simp [writtenString]
  rw [hquote, key, string_written_of_isStorable strict hk]
  simp only [hcolon]
  cases layout with
  | compact => simp only [Layout.colon, List.cons_append, List.nil_append, hs]
  | indented level =>
    have hblank : skipGap (' ' :: s) = skipGap s := rfl
    simp only [Layout.colon, List.cons_append, List.nil_append, hblank, hs]

theorem length_le_writtenMembers (layout : Layout) (ms : Members) :
    ms.length ≤ (writtenMembers layout ms).length := by
  induction ms with
  | nil => exact Nat.zero_le _
  | cons m ms ih =>
    obtain ⟨k, v⟩ := m
    simp only [writtenMembers, List.cons_append, List.length_cons, List.length_append]
    omega

section

variable {strict : Bool} {item : List Char → Step Json} {s t u rest : List Char} {k : String}
  {v : Json} {fault : Fault} (rounds : Nat) (done : Members)

theorem members_of_error (hkey : key strict s = .ok (k, t)) (h : item t = .error fault) :
    members strict item (rounds + 1) done s = .error fault := by
  rw [members, hkey]
  simp only [h]

/-- The member in front of the brace is the last one. -/
theorem members_last (hkey : key strict s = .ok (k, t)) (h : item t = .ok (v, u))
    (hu : skipGap u = '}' :: rest) :
    members strict item (rounds + 1) done s = .ok (put k v done, rest) := by
  rw [members, hkey]
  simp only [h, hu]

/-- Behind a comma the next member is read. -/
theorem members_next (hkey : key strict s = .ok (k, t)) (h : item t = .ok (v, u))
    (hu : skipGap u = ',' :: rest) :
    members strict item (rounds + 1) done s =
      members strict item rounds (put k v done) (skipGap rest) := by
  rw [members, hkey]
  simp only [h, hu]

end

/-- The first member whose value is not read back ends the reading. -/
theorem members_gives_none {strict : Bool} {item : List Char → Step Json}
    {result : Json → Option Json} {s t u : List Char} {m : String × Json}
    (hkey : key strict s = .ok (m.1, t)) (hv : Step.Gives (item t) (result m.2) u)
    (hnone : result m.2 = none) (rounds : Nat) (done ms : Members) (f : Members → Members)
    (rest : List Char) :
    Step.Gives (members strict item (rounds + 1) done s)
      (((m :: ms).mapM (readMember result)).map f) rest := by
  rw [hnone, Step.gives_none_iff] at hv
  obtain ⟨fault, hfault⟩ := hv
  rw [mapM_cons_of_eq_none (readMember_of_eq_none hnone), Option.map_none, Step.gives_none_iff]
  exact ⟨fault, members_of_error rounds done hkey hfault⟩

/-- The members of an object are read back one by one. -/
theorem members_written {item : List Char → Step Json} {result : Json → Option Json}
    (strict : Bool) (layout outer : Layout) (rest : List Char) (m : String × Json)
    (ms : Members) (hkeys : ∀ x ∈ m :: ms, Text.isStorable x.1 = true)
    (hwritable : ∀ x ∈ m :: ms, Writable x.2)
    (hitem : ∀ x ∈ m :: ms, ∀ s, Step.Gives (item (written layout x.2 ++ s)) (result x.2) s)
    (done : Members) (hdistinct : ((done ++ m :: ms).map Prod.fst).Nodup)
    (rounds : Nat) (hrounds : ms.length < rounds) :
    Step.Gives
      (members strict item rounds done
        (writtenString m.1 ++ (layout.colon ++ (written layout m.2
          ++ (writtenMembers layout ms ++ (outer.gap ++ '}' :: rest))))))
      (((m :: ms).mapM (readMember result)).map fun xs => done ++ xs) rest := by
  have hread {x : String × Json} (hx : x ∈ m :: ms) (s : List Char) :
      key strict (writtenString x.1 ++ (layout.colon ++ (written layout x.2 ++ s))) =
        .ok (x.1, written layout x.2 ++ s) :=
    key_written strict layout (hkeys x hx) ((hwritable x hx).skipGap_written layout s)
  induction ms generalizing m done rounds with
  | nil =>
    obtain ⟨rounds, rfl⟩ := Nat.exists_eq_succ_of_ne_zero (Nat.ne_of_gt hrounds)
    have hv := hitem m List.mem_cons_self (outer.gap ++ '}' :: rest)
    have hkey := hread List.mem_cons_self (outer.gap ++ '}' :: rest)
    rw [writtenMembers, List.nil_append]
    cases hresult : result m.2 with
    | none => exact members_gives_none hkey hv hresult rounds done _ _ rest
    | some w =>
      rw [hresult, Step.gives_some_iff] at hv
      have hclose : skipGap (outer.gap ++ '}' :: rest) = '}' :: rest := by
        rw [skipGap_gap, skipGap_cons (by decide)]
      rw [members_last rounds done hkey hv hclose, put_of_nodup hdistinct,
        mapM_cons_of_eq_some (readMember_of_eq_some hresult)]
      rfl
  | cons x xs ih =>
    obtain ⟨rounds, rfl⟩ := Nat.exists_eq_succ_of_ne_zero (Nat.ne_zero_of_lt hrounds)
    have hv := hitem m List.mem_cons_self
      (writtenMembers layout (x :: xs) ++ (outer.gap ++ '}' :: rest))
    have hkey := hread List.mem_cons_self
      (writtenMembers layout (x :: xs) ++ (outer.gap ++ '}' :: rest))
    cases hresult : result m.2 with
    | none => exact members_gives_none hkey hv hresult rounds done _ _ rest
    | some w =>
      rw [hresult, Step.gives_some_iff] at hv
      have hcomma : skipGap (writtenMembers layout (x :: xs) ++ (outer.gap ++ '}' :: rest)) =
          ',' :: (layout.gap ++ (writtenString x.1 ++ (layout.colon ++ (written layout x.2 ++
            (writtenMembers layout xs ++ (outer.gap ++ '}' :: rest)))))) := by
        simp only [writtenMembers, List.cons_append, List.append_assoc,
          skipGap_cons (c := ',') (by decide)]
      have hquote (s : List Char) : skipGap (writtenString x.1 ++ s) = writtenString x.1 ++ s :=
        skipGap_cons (by decide) _
      have hxs := ih x (fun y hy => hkeys y (List.mem_cons_of_mem m hy))
        (fun y hy => hwritable y (List.mem_cons_of_mem m hy))
        (fun y hy => hitem y (List.mem_cons_of_mem m hy)) (done ++ [(m.1, w)])
        (by simpa using hdistinct) rounds (Nat.lt_of_succ_lt_succ hrounds)
        (fun hy => hread (List.mem_cons_of_mem m hy))
      rw [members_next rounds done hkey hv hcomma, skipGap_gap, hquote, put_of_nodup hdistinct,
        mapM_cons_of_eq_some (readMember_of_eq_some hresult), Option.map_map]
      simpa [Function.comp_def] using hxs

/-! ### Values -/

/-- A text that opens no bracket and no brace holds a scalar. -/
theorem value_eq_scalar (strict : Bool) (depth : Nat) {c : Char} (hc : c ≠ '[') (hc' : c ≠ '{')
    (s : List Char) : value strict depth (c :: s) = scalar strict (c :: s) := by
  cases depth with
  | zero =>
    rw [value, innermost.eq_5 strict (c :: s) (fun t h => hc (List.cons.inj h).1)
      (fun t h => hc' (List.cons.inj h).1)]
  | succ depth =>
    exact value.eq_4 strict (c :: s) depth (fun t h => hc (List.cons.inj h).1)
      (fun t h => hc' (List.cons.inj h).1)

theorem scalar_writtenString (strict : Bool) (s : String) (rest : List Char) :
    Step.Gives (scalar strict (writtenString s ++ rest)) ((rereadString? strict s).map .str)
      rest := by
  have hquote : writtenString s ++ rest = '"' :: (s.toList.flatMap writtenChar ++ '"' :: rest) := by
    simp [writtenString]
  rw [hquote, scalar]
  exact Step.Gives.map (string_written strict s rest) Json.str

/-- Reading the text of an array gives what reading its items gives. -/
theorem value_written_arr {strict : Bool} {vs : List Json} (hvs : ∀ v ∈ vs, Writable v)
    (hread : ∀ v ∈ vs, ∀ depth layout s,
      Step.Gives (value strict depth (written layout v ++ s)) (rereadValue? strict depth v) s)
    (depth : Nat) (layout : Layout) (rest : List Char) :
    Step.Gives (value strict depth (written layout (.arr vs) ++ rest))
      (rereadValue? strict depth (.arr vs)) rest := by
  have hclose (s : List Char) : skipGap (']' :: s) = ']' :: s := skipGap_cons (by decide) s
  cases vs with
  | nil =>
    simp only [written, List.cons_append, List.nil_append]
    cases depth with
    | zero =>
      cases strict <;>
        simp [value, innermost, hclose, rereadValue?, Step.Gives, Except.toOption]
    | succ depth => simp [value, hclose, rereadValue?, Step.Gives, Except.toOption]
  | cons v vs =>
    obtain ⟨c, s, hs, hc, hne, -⟩ := (hvs v List.mem_cons_self).head layout.deeper
    simp only [written, List.cons_append, List.nil_append, List.append_assoc]
    have hskip (t : List Char) :
        skipGap (layout.deeper.gap ++ (written layout.deeper v ++ t)) = c :: (s ++ t) := by
      rw [skipGap_gap, hs, List.cons_append, skipGap_cons hc]
    cases depth with
    | zero =>
      have hnone : rereadValue? strict 0 (.arr (v :: vs)) = none := by simp [rereadValue?]
      have hfull : innermost strict ('[' :: (layout.deeper.gap ++ (written layout.deeper v
          ++ (writtenItems layout.deeper vs ++ (layout.gap ++ ']' :: rest))))) =
          .error (.excess .arrayNesting) := by
        apply innermost.eq_2
        intro t _ h
        rw [hskip] at h
        exact hne (List.cons.inj h).1
      rw [value, hfull, hnone, Step.gives_none_iff]
      exact ⟨_, rfl⟩
    | succ depth =>
      rw [value, hskip]
      split
      · rename_i h
        exact absurd (List.cons.inj h).1 hne
      · have hitems := items_written layout.deeper layout rest v vs hvs
          (fun w hw t => hread w hw depth layout.deeper t) []
          ((c :: (s ++ (writtenItems layout.deeper vs ++ (layout.gap ++ ']' :: rest)))).length + 1)
          (by
            have := length_le_writtenItems layout.deeper vs
            simp only [List.length_cons, List.length_append]
            omega)
        rw [hs, List.cons_append] at hitems
        simpa [rereadValue?] using Step.Gives.map hitems Json.arr

/-- Reading the text of an object gives what reading the values of its members gives. -/
theorem value_written_obj {strict : Bool} {ms : Members} (hdistinct : (ms.map Prod.fst).Nodup)
    (hkeys : ∀ m ∈ ms, Text.isStorable m.1 = true) (hms : ∀ m ∈ ms, Writable m.2)
    (hread : ∀ m ∈ ms, ∀ depth layout s,
      Step.Gives (value strict depth (written layout m.2 ++ s)) (rereadValue? strict depth m.2) s)
    (depth : Nat) (layout : Layout) (rest : List Char) :
    Step.Gives (value strict depth (written layout (.obj ms) ++ rest))
      (rereadValue? strict depth (.obj ms)) rest := by
  have hclose (s : List Char) : skipGap ('}' :: s) = '}' :: s := skipGap_cons (by decide) s
  cases ms with
  | nil =>
    simp only [written, List.cons_append, List.nil_append]
    cases depth with
    | zero =>
      cases strict <;>
        simp [value, innermost, hclose, rereadValue?, Step.Gives, Except.toOption]
    | succ depth => simp [value, hclose, rereadValue?, Step.Gives, Except.toOption]
  | cons m ms =>
    obtain ⟨k, v⟩ := m
    simp only [written, List.cons_append, List.nil_append, List.append_assoc, ← colon_deeper layout]
    have hskip (t : List Char) :
        skipGap (layout.deeper.gap ++ (writtenString k ++ t)) = writtenString k ++ t := by
      rw [skipGap_gap]
      exact skipGap_cons (by decide) _
    cases depth with
    | zero =>
      have hnone : rereadValue? strict 0 (.obj ((k, v) :: ms)) = none := by simp [rereadValue?]
      have hfull : innermost strict ('{' :: (layout.deeper.gap ++ (writtenString k
          ++ (layout.deeper.colon ++ (written layout.deeper v
            ++ (writtenMembers layout.deeper ms ++ (layout.gap ++ '}' :: rest))))))) =
          .error (.excess .objectNesting) := by
        apply innermost.eq_4
        intro t _ h
        rw [hskip] at h
        exact absurd (List.cons.inj h).1 (by decide)
      rw [value, hfull, hnone, Step.gives_none_iff]
      exact ⟨_, rfl⟩
    | succ depth =>
      rw [value, hskip]
      split
      · rename_i h
        exact absurd (List.cons.inj h).1 (by decide)
      · have hmembers := members_written strict layout.deeper layout rest (k, v) ms hkeys hms
          (fun x hx t => hread x hx depth layout.deeper t) [] hdistinct
          ((writtenString k ++ (layout.deeper.colon ++ (written layout.deeper v
            ++ (writtenMembers layout.deeper ms ++ (layout.gap ++ '}' :: rest))))).length + 1)
          (by
            have := length_le_writtenMembers layout.deeper ms
            simp only [List.length_append]
            omega)
        simpa [rereadValue?] using Step.Gives.map hmembers Json.obj

/-- Reading the text of a value gives what `rereadValue?` says, and leaves what follows the text. -/
theorem value_written {v : Json} (hv : v.Writable) (strict : Bool) (depth : Nat) (layout : Layout)
    (rest : List Char) :
    Step.Gives (value strict depth (written layout v ++ rest)) (rereadValue? strict depth v)
      rest := by
  induction hv generalizing depth layout rest with
  | null =>
    rw [written, List.cons_append, value_eq_scalar strict depth (by decide) (by decide)]
    cases depth <;> rfl
  | bool b =>
    cases b <;> rw [written, List.cons_append, value_eq_scalar strict depth (by decide) (by decide)]
      <;> cases depth <;> rfl
  | str s =>
    have hscalar : value strict depth (writtenString s ++ rest) =
        scalar strict (writtenString s ++ rest) :=
      value_eq_scalar strict depth (by decide) (by decide) _
    have hstr : rereadValue? strict depth (.str s) = (rereadString? strict s).map .str := by
      cases depth <;> rfl
    rw [written, hscalar, hstr]
    exact scalar_writtenString strict s rest
  | arr hitems ih => exact value_written_arr hitems ih depth layout rest
  | obj hdistinct hkeys hvalues ih =>
    exact value_written_obj hdistinct hkeys hvalues ih depth layout rest

/-- A whole text is read if nothing but a gap follows the value. -/
theorem readWith_written {v : Json} (hv : v.Writable) (strict : Bool) (depth : Nat)
    (layout : Layout) {rest : List Char} (hrest : skipGap rest = []) :
    (readWith strict depth (written layout v ++ rest)).toOption = rereadValue? strict depth v := by
  obtain ⟨c, s, hs, hc, -, hmark⟩ := hv.head layout
  have hread := value_written hv strict depth layout rest
  rw [readWith, hv.skipGap_written layout rest, if_neg (by rw [hs]; simpa using hmark)]
  cases hresult : rereadValue? strict depth v with
  | none =>
    rw [hresult, Step.gives_none_iff] at hread
    obtain ⟨fault, hfault⟩ := hread
    rw [hfault]
    rfl
  | some w =>
    rw [hresult, Step.gives_some_iff] at hread
    rw [hread]
    simp [hrest, Except.toOption]

/-! ### What comes back -/

theorem mapM_eq_some_of_forall {α : Type} {f : α → Option α} {as : List α}
    (h : ∀ a ∈ as, f a = some a) : as.mapM f = some as := by
  induction as with
  | nil => rfl
  | cons a as ih =>
    rw [mapM_cons_of_eq_some (h a List.mem_cons_self),
      ih fun b hb => h b (List.mem_cons_of_mem a hb)]
    rfl

theorem exists_of_mem_mapM {α β : Type} {f : α → Option β} {as : List α} {bs : List β}
    (h : as.mapM f = some bs) {b : β} (hb : b ∈ bs) : ∃ a ∈ as, f a = some b := by
  induction as generalizing bs with
  | nil =>
    simp only [List.mapM_nil, Option.pure_def, Option.some.injEq] at h
    exact absurd (h ▸ hb) List.not_mem_nil
  | cons a as ih =>
    cases ha : f a with
    | none =>
      rw [mapM_cons_of_eq_none ha] at h
      exact absurd h (by simp)
    | some b' =>
      rw [mapM_cons_of_eq_some ha] at h
      obtain ⟨bs', hbs', rfl⟩ := Option.map_eq_some_iff.1 h
      rcases List.mem_cons.1 hb with rfl | hb
      · exact ⟨a, List.mem_cons_self, ha⟩
      · obtain ⟨a', ha', hfa'⟩ := ih hbs' hb
        exact ⟨a', List.mem_cons_of_mem a ha', hfa'⟩

/-- A strict reader gives back a value that is not too deep for it and holds storable strings. -/
theorem rereadValue?_of_within {v : Json} {depth : Nat}
    (h : v.Within (fun s => Text.isStorable s = true) depth) :
    rereadValue? true depth v = some v := by
  induction depth generalizing v with
  | zero =>
    cases v with
    | str s => simp [rereadValue?, rereadString?_of_isStorable true (within_str.1 h)]
    | arr vs =>
      have hvs : vs = [] := h
      simp [rereadValue?, hvs]
    | obj ms =>
      have hms : ms = [] := h
      simp [rereadValue?, hms]
    | _ => rfl
  | succ depth ih =>
    cases v with
    | str s => simp [rereadValue?, rereadString?_of_isStorable true (within_str.1 h)]
    | arr vs =>
      rw [rereadValue?, mapM_eq_some_of_forall fun v hv => ih (h v hv)]
      rfl
    | obj ms =>
      have hmember : ∀ m ∈ ms, readMember (rereadValue? true depth) m = some m := by
        intro m hm
        rw [readMember, ih (h m hm)]
        rfl
      rw [rereadValue?, mapM_eq_some_of_forall hmember]
      rfl
    | _ => rfl

/-- Every string that comes back is what a reader makes of a string that was written. -/
theorem hasText_of_rereadValue? {strict : Bool} {depth : Nat} {v w : Json} {t : String}
    (h : rereadValue? strict depth v = some w) (ht : w.HasText t) :
    ∃ s, v.HasText s ∧ rereadString? strict s = some t := by
  induction depth generalizing v w with
  | zero =>
    cases v with
    | str s =>
      obtain ⟨t', ht', rfl⟩ := Option.map_eq_some_iff.1 h
      cases ht
      exact ⟨s, .here, ht'⟩
    | arr vs =>
      simp only [rereadValue?, Option.ite_none_right_eq_some, Option.some.injEq] at h
      obtain ⟨-, rfl⟩ := h
      cases ht with
      | item hmem _ => exact absurd hmem List.not_mem_nil
    | obj ms =>
      simp only [rereadValue?, Option.ite_none_right_eq_some, Option.some.injEq] at h
      obtain ⟨-, rfl⟩ := h
      cases ht with
      | member hmem _ => exact absurd hmem List.not_mem_nil
    | _ =>
      obtain rfl := Option.some.inj h
      cases ht
  | succ depth ih =>
    cases v with
    | str s =>
      obtain ⟨t', ht', rfl⟩ := Option.map_eq_some_iff.1 h
      cases ht
      exact ⟨s, .here, ht'⟩
    | arr vs =>
      obtain ⟨ws, hws, rfl⟩ := Option.map_eq_some_iff.1 h
      cases ht with
      | item hmem ht =>
        obtain ⟨v, hv, hread⟩ := exists_of_mem_mapM hws hmem
        obtain ⟨s, hs, hst⟩ := ih hread ht
        exact ⟨s, .item hv hs, hst⟩
    | obj ms =>
      obtain ⟨xs, hxs, rfl⟩ := Option.map_eq_some_iff.1 h
      cases ht with
      | member hmem ht =>
        obtain ⟨m, hm, hread⟩ := exists_of_mem_mapM hxs hmem
        obtain ⟨w, hw, rfl⟩ := Option.map_eq_some_iff.1 hread
        obtain ⟨s, hs, hst⟩ := ih hw ht
        exact ⟨s, .member hm hs, hst⟩
    | _ =>
      obtain rfl := Option.some.inj h
      cases ht

end ClientScribe.Json
