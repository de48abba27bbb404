import ClientScribe.Proofs.Disk.Inside

/-!
Files and what saving leaves of them.  Making folders leaves every file as it is.  A file that is
saved is changed from the moment on when it is opened: a fault that is met before leaves all files
as they were, and one that is met behind it leaves what the device took.
-/

namespace ClientScribe.Disk

variable {d d' made : Disk} {p : FilePath} {l l' : Location} {stored : Stored}
  {content : ByteArray}

/-! ### Contents -/

/-- Other files hold what they held. -/
theorem content?_store_of_ne (d : Disk) (stored : Stored) (h : l' ≠ l) :
    (d.store l stored).content? l' = d.content? l' := by
  have hne : (l' == l) = false := beq_eq_false_iff_ne.2 h
  simp only [content?, files, store]
  split
  · induction d.entries with
    | nil => rfl
    | cons e entries ih =>
      obtain ⟨place, held⟩ := e
      rw [List.map_cons, List.filterMap_cons, List.filterMap_cons]
      by_cases hplace : place = l
      · rw [if_pos hplace]
        cases held <;> cases stored <;> simpa only [hplace, List.lookup_cons, hne] using ih
      · rw [if_neg hplace]
        cases held <;> simp only [List.lookup_cons, ih]
  · cases stored <;> simp [List.filterMap_append, List.lookup_append, List.lookup_cons, hne]

/-! ### Folders -/

/-- Nothing is stored at a name that is free. -/
theorem lookup_of_find_free (h : d.find p = .ok (.free l)) : d.entries.lookup l = none := by
  have hspot := (foldlM_step_isAt (find_eq_ok_iff.1 h).2.2.2 (.inl rfl)).1
  rw [spotAt] at hspot
  split at hspot
  · exact absurd hspot (by simp)
  · exact absurd hspot (by simp)
  · assumption

theorem files_store_folder (h : d.entries.lookup l = none) :
    (d.store l .folder).files = d.files := by
  simp [files, store, h]

/-- Folders that are made leave the files as they are. -/
theorem files_ensureFolders (d : Disk) (p : FilePath) :
    (d.ensureFolders p).1.files = d.files := by
  refine ensureAll_induct (I := fun d' => d'.files = d.files) rfl ?_
  intro d' ss l hd _ hfind
  rw [files_store_folder (lookup_of_find_free hfind), hd]

/-! ### Saving -/

/-- A file can be opened at a location: the folders on the way are made, and behind them the path
leads to a file or to a free name. -/
structure Opens (d : Disk) (p : FilePath) (made : Disk) (l : Location) : Prop where
  folders : d.ensureFolders p.parent = (made, none)
  found : ∃ spot, made.find p = .ok spot ∧ spot.IsAt l

theorem Opens.files_eq (h : d.Opens p made l) : made.files = d.files := by
  rw [← files_ensureFolders d p.parent, h.folders]

variable [Device]

/-- Saving fills a file that can be opened. -/
theorem Opens.save_eq (h : d.Opens p made l) (content : ByteArray) :
    d.save p content = made.fill p l content := by
  obtain ⟨spot, hfind, hspot⟩ := h.found
  rw [save, h.folders]
  exact write_eq_fill hfind hspot

/-- What is found in a file that was opened is what the device took. -/
theorem Opens.find_fill (h : d.Opens p made l) (content : ByteArray) :
    (made.fill p l content).1.find p =
      .ok (.file l (made.part l content)) := by
  obtain ⟨spot, hfind, hspot⟩ := h.found
  exact find_store hfind hspot

theorem Opens.content?_fill_of_ne (h : d.Opens p made l) (content : ByteArray) (hne : l' ≠ l) :
    (made.fill p l content).1.content? l' = d.content? l' := by
  rw [fill, content?_store_of_ne _ _ hne, content?, h.files_eq, ← content?]

/-- A text that can be stored is saved as its bytes. -/
theorem saveText_of_isStorable {text : String} (h : Text.isStorable text = true) :
    d.saveText p text = d.save p text.toUTF8 := if_pos h

/-- Where no file can be opened a fault says so, and every file is as it was. -/
theorem files_save_of_not_opens (h : ∀ made l, ¬ d.Opens p made l) (content : ByteArray) :
    (d.save p content).1.files = d.files ∧ (d.save p content).2 ≠ none := by
  have hfolders := files_ensureFolders d p.parent
  rw [save]
  split
  · rename_i made hmade
    rw [hmade] at hfolders
    have hclosed {spot : Spot} (hfind : made.find p = .ok spot) (l : Location) :
        ¬ spot.IsAt l := fun hspot => h made l ⟨hmade, spot, hfind, hspot⟩
    rw [write]
    split
    · exact absurd (.inr ⟨_, rfl⟩) (hclosed ‹_› _)
    · exact absurd (.inl rfl) (hclosed ‹_› _)
    · exact ⟨hfolders, by simp⟩
    · exact ⟨hfolders, by simp⟩
  · rename_i hfailed
    refine ⟨hfolders, fun hnone => hfailed (d.ensureFolders p.parent).1 ?_⟩
    rw [← hnone]

end ClientScribe.Disk
