import ClientScribe.Proofs.Disk.Writing

/-!
Writing inside a folder.  A path that never leads out of the folder where it starts reaches nothing
but places below that folder.  What is written to it changes these and, if the folder was not there,
makes the folders on the way.
-/

namespace ClientScribe

namespace FilePath

/-- Segments never lead out of a folder; they are followed from `depth` levels below it. -/
def neverLeaves (depth : Nat) : List String → Bool
  | [] => true
  | s :: ss =>
    if s = ".." then 0 < depth && neverLeaves (depth - 1) ss else neverLeaves (depth + 1) ss

/-- A relative path that names something and never leads out of a folder, followed from `depth`
levels below it. -/
structure StaysInside (depth : Nat) (p : FilePath) : Prop where
  relative : p.root = ""
  named : p.segments ≠ []
  inside : neverLeaves depth p.segments = true

instance (depth : Nat) (p : FilePath) : Decidable (p.StaysInside depth) :=
  decidable_of_iff (p.root = "" ∧ p.segments ≠ [] ∧ neverLeaves depth p.segments = true)
    ⟨fun ⟨h₁, h₂, h₃⟩ => ⟨h₁, h₂, h₃⟩, fun ⟨h₁, h₂, h₃⟩ => ⟨h₁, h₂, h₃⟩⟩

theorem neverLeaves_of_prefix {ss ts : List String} {depth : Nat} (h : ss <+: ts)
    (hts : neverLeaves depth ts = true) : neverLeaves depth ss = true := by
  induction ss generalizing ts depth with
  | nil => rfl
  | cons s ss ih =>
    obtain ⟨rest, rfl⟩ := h
    rw [List.cons_append, neverLeaves] at hts
    rw [neverLeaves]
    split
    · rw [if_pos ‹_›, Bool.and_eq_true] at hts
      rw [Bool.and_eq_true]
      exact ⟨hts.1, ih (List.prefix_append ss rest) hts.2⟩
    · rw [if_neg ‹_›] at hts
      exact ih (List.prefix_append ss rest) hts

theorem join_of_relative {output p : FilePath} (h : p.root = "") :
    output.join p = { output with segments := output.segments ++ p.segments } := by
  rw [join, h]
  rfl

end FilePath

def Spot.place : Spot → Location
  | .folder l => l
  | .file l _ => l
  | .free l => l

theorem Spot.IsAt.place_eq {spot : Spot} {l : Location} (h : spot.IsAt l) : spot.place = l := by
  rcases h with rfl | ⟨content, rfl⟩ <;> rfl

namespace Disk

/-! ### Following a path -/

theorem spotAt_eq_folder_or_isAt (d : Disk) (l : Location) :
    d.spotAt l = .folder l ∨ (d.spotAt l).IsAt l := by
  rw [spotAt]
  split
  · exact .inl rfl
  · exact .inr (.inr ⟨_, rfl⟩)
  · exact .inr (.inl rfl)

/-- Segments that never lead out of a folder lead to a place below it. -/
theorem foldlM_step_inside {d : Disk} {segments : List String} {above below : Location}
    {spot : Spot} (hinside : FilePath.neverLeaves below.length segments = true)
    (h : segments.foldlM d.step (.folder (above ++ below)) = .ok spot) : above <+: spot.place := by
  induction segments generalizing below with
  | nil =>
    rw [← Except.ok.inj h]
    exact List.prefix_append above below
  | cons segment segments ih =>
    rw [FilePath.neverLeaves] at hinside
    rw [List.foldlM_cons, step_folder] at h
    by_cases hup : segment = ".."
    · rw [if_pos hup, Bool.and_eq_true, decide_eq_true_eq, ← List.length_dropLast] at hinside
      have hne : below ≠ [] := List.ne_nil_of_length_pos hinside.1
      rw [if_pos hup, List.dropLast_append_of_ne_nil hne] at h
      exact ih hinside.2 h
    · rw [if_neg hup] at hinside h
      split at h
      · exact absurd h (by simp [bind, Except.bind])
      · rw [List.append_assoc] at h
        rcases d.spotAt_eq_folder_or_isAt (above ++ (below ++ [segment])) with hfolder | hat
        · rw [hfolder] at h
          exact ih (by rwa [List.length_append, List.length_singleton]) h
        · obtain rfl := foldlM_step_of_isAt hat h
          rw [← Except.ok.inj h, hat.place_eq]
          exact List.prefix_append above _

/-- Where a path starts. -/
def start (d : Disk) (p : FilePath) : Location := if p.root.isEmpty then d.home else []

/-- The folder that a path leads to, as long as the path may be. -/
def LeadsTo (d : Disk) (p : FilePath) (l : Location) : Prop :=
  p.segments.foldlM d.step (.folder (d.start p)) = .ok (.folder l)

section

variable {d d' : Disk} {l : Location} {stored : Stored}

theorem foldlM_step_store_folder (hl : d.entries.lookup l ≠ some .folder) {segments : List String}
    {start next : Location} (h : segments.foldlM d.step (.folder start) = .ok (.folder next)) :
    segments.foldlM (d.store l stored).step (.folder start) = .ok (.folder next) := by
  induction segments generalizing start with
  | nil => exact h
  | cons segment segments ih =>
    rcases foldlM_step_cons h with ⟨between, hstep, hrest⟩ | ⟨-, -, l', hat⟩
    · rw [foldlM_cons_of_step (step_store_folder hl hstep)]
      exact ih hrest
    · exact absurd hat (Spot.not_isAt_folder _ _)

/-- Folders stay where they are. -/
theorem LeadsTo.store {p : FilePath} {place : Location} (h : d.LeadsTo p place)
    (hl : d.entries.lookup l ≠ some .folder) : (d.store l stored).LeadsTo p place :=
  foldlM_step_store_folder hl h

/-! ### Changes -/

/-- What a disk holds otherwise than before is below the folder that the path leads to, or is a
folder on the way there. -/
def ChangedInside (output : FilePath) (d d' : Disk) : Prop :=
  ∀ l, d'.entries.lookup l ≠ d.entries.lookup l →
    (∃ place, d'.LeadsTo output place ∧ place <+: l)
    ∨ ∃ ss, ss <+: output.segments ∧ d'.LeadsTo { output with segments := ss } l

theorem ChangedInside.refl (output : FilePath) (d : Disk) : ChangedInside output d d := by
  intro l hchanged
  exact absurd rfl hchanged

theorem lookup_ne_folder_of_find {p : FilePath} {spot : Spot} (h : d.find p = .ok spot)
    (hspot : spot.IsAt l) : d.entries.lookup l ≠ some .folder :=
  (foldlM_step_isAt (find_eq_ok_iff.1 h).2.2.2 hspot).2

/-- What is found inside the folder is below it, or it is on the way there. -/
theorem leadsTo_of_find {output p : FilePath} (hp : p.StaysInside 0) {ss : List String}
    {spot : Spot} (hss : ss <+: output.segments ++ p.segments)
    (hfind : d.find { output with segments := ss } = .ok spot) (hspot : spot.IsAt l) :
    ss <+: output.segments ∨ ∃ place, d.LeadsTo output place ∧ place <+: l := by
  obtain ⟨-, -, -, hsteps⟩ := find_eq_ok_iff.1 hfind
  by_cases hway : ss <+: output.segments
  · exact .inl hway
  refine .inr ?_
  obtain ⟨rest, rfl⟩ :=
    (List.prefix_or_prefix_of_prefix hss (List.prefix_append _ _)).resolve_left hway
  rw [List.prefix_append_right_inj] at hss
  rw [List.foldlM_append] at hsteps
  cases hplace : output.segments.foldlM d.step (.folder (d.start output)) with
  | error fault =>
    rw [start] at hplace
    simp only [hplace] at hsteps
    exact absurd hsteps (by simp [bind, Except.bind])
  | ok between =>
    have hrest : rest.foldlM d.step between = .ok spot := by
      rw [start] at hplace
      simp only [hplace] at hsteps
      exact hsteps
    rcases between.isFolder_or_isAt with ⟨place, rfl⟩ | ⟨l', hat⟩
    · refine ⟨place, hplace, ?_⟩
      rw [← List.append_nil place] at hrest
      rw [← hspot.place_eq]
      have hinside : FilePath.neverLeaves ([] : Location).length rest = true :=
        FilePath.neverLeaves_of_prefix hss hp.inside
      exact foldlM_step_inside hinside hrest
    · obtain rfl := foldlM_step_of_isAt hat hrest
      exact absurd (List.append_nil _ ▸ List.prefix_rfl) hway

/-- A free name or a file that is reached inside the folder may be changed. -/
theorem ChangedInside.store {output p : FilePath} (hp : p.StaysInside 0)
    (h : ChangedInside output d d') {ss : List String} {spot : Spot}
    (hss : ss <+: output.segments ++ p.segments)
    (hfind : d'.find { output with segments := ss } = .ok spot) (hspot : spot.IsAt l)
    (hstored : stored = .folder ∨ ss = output.segments ++ p.segments) :
    ChangedInside output d (d'.store l stored) := by
  have hl := lookup_ne_folder_of_find hfind hspot
  intro l' hchanged
  by_cases hsame : l' = l
  · subst hsame
    rcases leadsTo_of_find hp hss hfind hspot with hway | ⟨place, hplace, hbelow⟩
    · refine .inr ⟨ss, hway, ?_⟩
      rcases hstored with rfl | rfl
      · exact foldlM_step_store (find_eq_ok_iff.1 hfind).2.2.2 hspot
      · have hlength := hway.length_le
        rw [List.length_append] at hlength
        have hnamed := List.length_pos_iff.2 hp.named
        omega
    · exact .inl ⟨place, hplace.store hl, hbelow⟩
  · rw [lookup_store_of_ne d' _ hsame] at hchanged
    rcases h l' hchanged with ⟨place, hplace, hbelow⟩ | ⟨ts, hts, hway⟩
    · exact .inl ⟨place, hplace.store hl, hbelow⟩
    · exact .inr ⟨ts, hts, hway.store hl⟩

end

/-! ### Saving -/

section

variable {d d' : Disk} {I : Disk → Prop}

/-- Making a folder keeps what a new folder keeps. -/
theorem attempt_ensureFolder_induct {p : FilePath} (h : I d)
    (hfolder : ∀ l, d.find p = .ok (.free l) → I (d.store l .folder)) :
    I (d.attempt (d.ensureFolder p)).1 := by
  rw [ensureFolder, makeFolder]
  cases hfind : d.find p with
  | error fault =>
    dsimp only
    split <;> exact h
  | ok spot =>
    cases spot with
    | free l => exact hfolder l hfind
    | _ =>
      dsimp only
      split <;> exact h

/-- Making all folders of a path keeps what each new folder on the way keeps. -/
theorem ensureAll_induct {root : String} {segments : List String} (h : I d)
    (hfolder : ∀ d ss l, I d → ss <+: segments.reverse → d.find ⟨root, ss⟩ = .ok (.free l) →
      I (d.store l .folder)) : I (ensureAll root segments d).1 := by
  induction segments generalizing d with
  | nil => exact attempt_ensureFolder_induct h fun l => hfolder d [] l h List.prefix_rfl
  | cons segment above ih =>
    have habove : above.reverse <+: (segment :: above).reverse := by
      rw [List.reverse_cons]
      exact List.prefix_append _ _
    have hmade := ih h fun d ss l hd hss => hfolder d ss l hd (hss.trans habove)
    have hlast {d : Disk} (hd : I d) :
        I (d.attempt (d.ensureFolder ⟨root, (segment :: above).reverse⟩)).1 :=
      attempt_ensureFolder_induct hd fun l => hfolder d _ l hd List.prefix_rfl
    rw [ensureAll]
    split
    · split
      · rename_i made heq
        rw [heq] at hmade
        exact hlast hmade
      · exact hmade
    · exact hlast h

/-- Saving a text keeps what new folders on the way and the file keep. -/
theorem saveText_induct [Device] {p : FilePath} {text : String} (h : I d)
    (hfolder : ∀ d ss l, I d → ss <+: p.segments →
      d.find { p with segments := ss } = .ok (.free l) → I (d.store l .folder))
    (hfile : ∀ d spot l content, I d → d.find p = .ok spot → spot.IsAt l →
      I (d.store l (.file content))) : I (d.saveText p text).1 := by
  have hwrite {d : Disk} (hd : I d) (content : ByteArray) : I (d.write p content).1 := by
    rw [write]
    split
    · exact hfile d _ _ _ hd ‹_› (.inr ⟨_, rfl⟩)
    · exact hfile d _ _ _ hd ‹_› (.inl rfl)
    · exact hd
    · exact hd
  have hsave (content : ByteArray) : I (d.save p content).1 := by
    have hmade : I (d.ensureFolders p.parent).1 := by
      refine ensureAll_induct h ?_
      intro d ss l hd hss
      rw [List.reverse_reverse] at hss
      exact hfolder d ss l hd (hss.trans (List.dropLast_prefix _))
    rw [save]
    split
    · rename_i made heq
      rw [heq] at hmade
      exact hwrite hmade content
    · exact hmade
  rw [saveText]
  split
  · exact hsave _
  · split
    · rename_i heq
      have hempty := hsave .empty
      rwa [heq] at hempty
    · exact hsave _

/-- A file that is saved on a path inside a folder changes nothing else. -/
theorem ChangedInside.saveText [Device] {output p : FilePath} {text : String} (hp : p.StaysInside 0)
    (h : ChangedInside output d d') :
    ChangedInside output d (d'.saveText (output.join p) text).1 := by
  rw [FilePath.join_of_relative hp.relative]
  refine saveText_induct h ?_ ?_
  · intro d' ss l hd hss hfind
    exact hd.store hp hss hfind (.inl rfl) (.inl rfl)
  · intro d' spot l content hd hfind hspot
    exact hd.store hp List.prefix_rfl hfind hspot (.inr rfl)

end

end Disk

end ClientScribe
