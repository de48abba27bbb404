import ClientScribe.Disk.Basic

/-!
What is written is read.  A path that led to a file, or to a name that was free, leads to the same
place once a file is there, as nothing that the path passes on its way is changed.
-/

namespace ClientScribe

namespace Disk

/-! ### Storing -/

section

variable {entries : List (Location × Stored)} {l l' : Location} {s : Stored}

theorem lookup_replace_self (hl : (entries.lookup l).isSome) :
    (entries.map fun e => if e.1 = l then (l, s) else e).lookup l = some s := by
  induction entries with
  | nil => simp at hl
  | cons e entries ih =>
    rw [List.map_cons]
    by_cases he : e.1 = l
    · rw [if_pos he, List.lookup_cons, beq_self_eq_true]
    · have hne : (l == e.1) = false := beq_eq_false_iff_ne.2 (Ne.symm he)
      rw [List.lookup_cons, hne] at hl
      rw [if_neg he, List.lookup_cons, hne]
      exact ih hl

theorem lookup_replace_of_ne (h : l' ≠ l) :
    (entries.map fun e => if e.1 = l then (l, s) else e).lookup l' = entries.lookup l' := by
  have hne : (l' == l) = false := beq_eq_false_iff_ne.2 h
  induction entries with
  | nil => rfl
  | cons e entries ih =>
    rw [List.map_cons]
    by_cases he : e.1 = l
    · rw [if_pos he, List.lookup_cons, List.lookup_cons, he, hne, ih]
    · rw [if_neg he, List.lookup_cons, List.lookup_cons, ih]

end

/-- What was stored is found at its location. -/
theorem lookup_store_self (d : Disk) (l : Location) (s : Stored) :
    (d.store l s).entries.lookup l = some s := by
  rw [store]
  by_cases hl : (d.entries.lookup l).isSome
  · simp only [if_pos hl]
    exact lookup_replace_self hl
  · simp only [if_neg hl]
    rw [List.lookup_append, Option.not_isSome_iff_eq_none.1 hl, Option.none_or, List.lookup_cons,
      beq_self_eq_true]

/-- Other locations hold what they held. -/
theorem lookup_store_of_ne (d : Disk) {l l' : Location} (s : Stored) (h : l' ≠ l) :
    (d.store l s).entries.lookup l' = d.entries.lookup l' := by
  rw [store]
  by_cases hl : (d.entries.lookup l).isSome
  · simp only [if_pos hl]
    exact lookup_replace_of_ne h
  · simp only [if_neg hl]
    rw [List.lookup_append, List.lookup_cons, beq_eq_false_iff_ne.2 h, List.lookup_nil,
      Option.or_none]

end Disk

/-! ### Finding -/

/-- Whether a file can be written here: the spot is a file or a free name. -/
def Spot.IsAt (spot : Spot) (l : Location) : Prop :=
  spot = .free l ∨ ∃ content, spot = .file l content

theorem Spot.not_isAt_folder (l l' : Location) : ¬ (Spot.folder l').IsAt l := by
  rintro (h | ⟨content, h⟩) <;> exact absurd h (by simp)

theorem Spot.isFolder_or_isAt (spot : Spot) : (∃ l, spot = .folder l) ∨ ∃ l, spot.IsAt l := by
  cases spot with
  | folder l => exact .inl ⟨l, rfl⟩
  | file l content => exact .inr ⟨l, .inr ⟨content, rfl⟩⟩
  | free l => exact .inr ⟨l, .inl rfl⟩

/-- What is found where something is stored. -/
def Stored.spot (l : Location) : Stored → Spot
  | .folder => .folder l
  | .file content => .file l content

namespace Disk

/-- What is at a location. -/
def spotAt (d : Disk) (l : Location) : Spot :=
  match d.entries.lookup l with
  | some .folder => .folder l
  | some (.file content) => .file l content
  | none => .free l

variable {d : Disk} {l : Location} {stored : Stored} {content : ByteArray}

theorem spotAt_isAt_iff {l' : Location} :
    (d.spotAt l').IsAt l ↔ l' = l ∧ d.entries.lookup l' ≠ some .folder := by
  rw [spotAt, Spot.IsAt]
  cases d.entries.lookup l' with
  | none => simp
  | some stored => cases stored <;> simp

theorem spotAt_store_self : (d.store l stored).spotAt l = stored.spot l := by
  rw [spotAt, lookup_store_self]
  cases stored <;> rfl

theorem spotAt_store_of_ne {l' : Location} (h : l' ≠ l) :
    (d.store l stored).spotAt l' = d.spotAt l' := by
  rw [spotAt, lookup_store_of_ne d _ h, spotAt]

theorem step_folder (start : Location) (segment : String) :
    d.step (.folder start) segment =
      if segment = ".." then .ok (.folder start.dropLast)
      else if maxName < segment.utf8ByteSize then .error .longName
      else .ok (d.spotAt (start ++ [segment])) := by
  rw [step, spotAt]
  split
  · rfl
  · split
    · rfl
    · cases d.entries.lookup (start ++ [segment]) with
      | none => rfl
      | some stored => cases stored <;> rfl

/-- A step that leads to a folder does so still when something was stored where no folder was. -/
theorem step_store_folder (hl : d.entries.lookup l ≠ some .folder) {start next : Location}
    {segment : String} (h : d.step (.folder start) segment = .ok (.folder next)) :
    (d.store l stored).step (.folder start) segment = .ok (.folder next) := by
  rw [step_folder] at h ⊢
  split
  · rwa [if_pos ‹_›] at h
  · rw [if_neg ‹_›] at h
    split
    · rwa [if_pos ‹_›] at h
    · rw [if_neg ‹_›, Except.ok.injEq] at h
      have hne : start ++ [segment] ≠ l := by
        rintro rfl
        have hat := spotAt_isAt_iff.2 ⟨rfl, hl⟩
        rw [h] at hat
        exact Spot.not_isAt_folder _ _ hat
      rw [spotAt_store_of_ne hne, h]

/-- A step to a file or to a free name goes down into the folder. -/
theorem of_step_isAt {start : Location} {segment : String} {spot : Spot}
    (h : d.step (.folder start) segment = .ok spot) (hspot : spot.IsAt l) :
    segment ≠ ".." ∧ segment.utf8ByteSize ≤ maxName
    ∧ l = start ++ [segment] ∧ spot = d.spotAt l ∧ d.entries.lookup l ≠ some .folder := by
  rw [step_folder] at h
  split at h
  · rw [← Except.ok.inj h] at hspot
    exact absurd hspot (Spot.not_isAt_folder _ _)
  · split at h
    · exact absurd h (by simp)
    · obtain rfl := Except.ok.inj h
      obtain ⟨rfl, hfolder⟩ := spotAt_isAt_iff.1 hspot
      exact ⟨‹_›, Nat.not_lt.1 ‹_›, rfl, rfl, hfolder⟩

/-- A step to the place leads to what was stored there. -/
theorem step_store_isAt {start : Location} {segment : String} {spot : Spot}
    (h : d.step (.folder start) segment = .ok spot) (hspot : spot.IsAt l) :
    (d.store l stored).step (.folder start) segment = .ok (stored.spot l) := by
  obtain ⟨hup, hshort, rfl, -, -⟩ := of_step_isAt h hspot
  rw [step_folder, if_neg hup, if_neg (Nat.not_lt.2 hshort), spotAt_store_self]

/-- Nothing lies behind a file or a free name. -/
theorem foldlM_step_of_isAt {segments : List String} {start spot : Spot} (hstart : start.IsAt l)
    (h : segments.foldlM d.step start = .ok spot) : segments = [] := by
  cases segments with
  | nil => rfl
  | cons segment segments =>
    rw [List.foldlM_cons] at h
    rcases hstart with rfl | ⟨content, rfl⟩ <;> exact absurd h (by simp [step, bind, Except.bind])

/-- The first step on a way leads to a folder, from which the way goes on, or it is the last. -/
theorem foldlM_step_cons {segment : String} {segments : List String} {start : Location}
    {spot : Spot} (h : (segment :: segments).foldlM d.step (.folder start) = .ok spot) :
    (∃ next, d.step (.folder start) segment = .ok (.folder next)
      ∧ segments.foldlM d.step (.folder next) = .ok spot)
    ∨ segments = [] ∧ d.step (.folder start) segment = .ok spot ∧ ∃ l, spot.IsAt l := by
  rw [List.foldlM_cons] at h
  cases hstep : d.step (.folder start) segment with
  | error fault =>
    rw [hstep] at h
    exact absurd h (by simp [bind, Except.bind])
  | ok next =>
    rw [hstep] at h
    rcases next.isFolder_or_isAt with ⟨next, rfl⟩ | ⟨l, hat⟩
    · exact .inl ⟨next, rfl, h⟩
    · obtain rfl := foldlM_step_of_isAt hat h
      obtain rfl : next = spot := Except.ok.inj h
      exact .inr ⟨rfl, rfl, l, hat⟩

theorem foldlM_cons_of_step {segment : String} {start next : Spot}
    (h : d.step start segment = .ok next) (segments : List String) :
    (segment :: segments).foldlM d.step start = segments.foldlM d.step next := by
  rw [List.foldlM_cons, h]
  rfl

/-- What a way leads to besides folders is what is at its place. -/
theorem foldlM_step_isAt {segments : List String} {start : Location} {spot : Spot}
    (h : segments.foldlM d.step (.folder start) = .ok spot) (hspot : spot.IsAt l) :
    spot = d.spotAt l ∧ d.entries.lookup l ≠ some .folder := by
  induction segments generalizing start with
  | nil =>
    rw [← Except.ok.inj h] at hspot
    exact absurd hspot (Spot.not_isAt_folder _ _)
  | cons segment segments ih =>
    rcases foldlM_step_cons h with ⟨next, -, hrest⟩ | ⟨-, hlast, -⟩
    · exact ih hrest
    · exact (of_step_isAt hlast hspot).2.2.2

/-- Something is found where it was stored: the folders on the way are still there. -/
theorem foldlM_step_store {segments : List String} {start : Location} {spot : Spot}
    (h : segments.foldlM d.step (.folder start) = .ok spot) (hspot : spot.IsAt l) :
    segments.foldlM (d.store l stored).step (.folder start) = .ok (stored.spot l) := by
  have hfolder := (foldlM_step_isAt h hspot).2
  -- the steps before the last one lead to folders, which are not where it is stored
  induction segments generalizing start with
  | nil =>
    rw [← Except.ok.inj h] at hspot
    exact absurd hspot (Spot.not_isAt_folder _ _)
  | cons segment segments ih =>
    rcases foldlM_step_cons h with ⟨next, hstep, hrest⟩ | ⟨rfl, hlast, -⟩
    · rw [foldlM_cons_of_step (step_store_folder hfolder hstep)]
      exact ih hrest
    · rw [foldlM_cons_of_step (step_store_isAt hlast hspot)]
      rfl

/-! ### Reading -/

theorem find_eq_ok_iff {p : FilePath} {spot : Spot} :
    d.find p = .ok spot ↔
      p.text.toList.all Text.isNameable = true ∧ '\x00' ∉ p.text.toList
      ∧ p.text.utf8ByteSize ≤ maxPath
      ∧ p.segments.foldlM d.step (.folder (if p.root.isEmpty then d.home else [])) = .ok spot := by
  rw [find]
  by_cases hnames : p.text.toList.all Text.isNameable = true
  · by_cases hzero : '\x00' ∈ p.text.toList
    · simp [hnames, hzero]
    · by_cases hlong : maxPath < p.text.utf8ByteSize
      · simp [hnames, hzero, hlong, Nat.not_le.2 hlong]
      · simp [hnames, hzero, hlong, Nat.not_lt.1 hlong]
  · simp [hnames]

theorem find_store {p : FilePath} {spot : Spot} (h : d.find p = .ok spot) (hspot : spot.IsAt l) :
    (d.store l (.file content)).find p = .ok (.file l content) := by
  obtain ⟨hnames, hzero, hlong, hsteps⟩ := find_eq_ok_iff.1 h
  exact find_eq_ok_iff.2 ⟨hnames, hzero, hlong, foldlM_step_store hsteps hspot⟩

/-! ### Writing -/

theorem write_eq_fill [Device] {p : FilePath} {spot : Spot} (h : d.find p = .ok spot)
    (hspot : spot.IsAt l) : d.write p content = d.fill p l content := by
  rcases hspot with rfl | ⟨old, rfl⟩ <;> rw [write, h]

/-- A device with room for a content takes all of it. -/
theorem part_eq_self_of_le [Device] (h : content.size ≤ Device.taken d l content) :
    d.part l content = content := by
  ext1
  rw [part, ByteArray.data_extract, Array.extract_eq_self_iff]
  exact .inr ⟨rfl, h⟩

/-- A device that takes as many bytes as there are takes all of them. -/
theorem part_eq_self [Device] (h : content.size ≤ (d.part l content).size) :
    d.part l content = content := by
  rw [part, ByteArray.size_extract] at h
  exact part_eq_self_of_le (by omega)

theorem fill_snd_eq_none_iff [Device] {p : FilePath} :
    (d.fill p l content).2 = none ↔ content.size ≤ (d.part l content).size := by
  simp [fill]

/-- Without a fault all of a content is stored. -/
theorem eq_store_of_fill [Device] {p : FilePath} {d' : Disk}
    (h : d.fill p l content = (d', none)) : d' = d.store l (.file content) := by
  have hpart := part_eq_self (fill_snd_eq_none_iff.1 (congrArg Prod.snd h))
  rw [fill, Prod.mk.injEq] at h
  rw [← h.1, hpart]

/-- A file that was written is read. -/
theorem find_of_write [Device] {p : FilePath} {d' : Disk} (h : d.write p content = (d', none)) :
    ∃ l, d'.find p = .ok (.file l content) := by
  have hfill {spot : Spot} {l : Location} (hfind : d.find p = .ok spot) (hspot : spot.IsAt l) :
      ∃ l, d'.find p = .ok (.file l content) := by
    rw [write_eq_fill hfind hspot] at h
    rw [eq_store_of_fill h]
    exact ⟨l, find_store hfind hspot⟩
  rw [write] at h
  split at h
  · exact hfill ‹_› (.inr ⟨_, rfl⟩)
  · exact hfill ‹_› (.inl rfl)
  · exact absurd (congrArg Prod.snd h) (by simp)
  · exact absurd (congrArg Prod.snd h) (by simp)

theorem find_of_save [Device] {p : FilePath} {d' : Disk} (h : d.save p content = (d', none)) :
    ∃ l, d'.find p = .ok (.file l content) := by
  rw [save] at h
  split at h
  · exact find_of_write h
  · rename_i hfailed
    exact absurd h (hfailed d')

/-- A text that was saved is in its file. -/
theorem find_of_saveText [Device] {p : FilePath} {text : String} {d' : Disk}
    (h : d.saveText p text = (d', none)) : ∃ l, d'.find p = .ok (.file l text.toUTF8) := by
  rw [saveText] at h
  split at h
  · exact find_of_save h
  · split at h
    · exact absurd (congrArg Prod.snd h) (by simp)
    · rename_i hfailed
      exact absurd h (hfailed d')

/-- A path that leads somewhere starts with a path to a folder, if it leads anywhere. -/
theorem exists_folder_of_find {p : FilePath} {segment : String} {spot spot' : Spot}
    (h : d.find { p with segments := p.segments ++ [segment] } = .ok spot)
    (hp : d.find p = .ok spot') : ∃ l, spot' = .folder l := by
  obtain ⟨-, -, -, hsteps⟩ := find_eq_ok_iff.1 h
  obtain ⟨-, -, -, hsteps'⟩ := find_eq_ok_iff.1 hp
  rw [List.foldlM_append, hsteps'] at hsteps
  rcases spot'.isFolder_or_isAt with hfolder | ⟨l, hat⟩
  · exact hfolder
  · exact absurd (foldlM_step_of_isAt hat hsteps) (List.cons_ne_nil segment [])

end Disk

end ClientScribe
