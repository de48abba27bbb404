import ClientScribe.CommandLine.Run
import ClientScribe.Proofs.Disk.Writing
import ClientScribe.Proofs.Reference.Interchange

/-!
Commands as sequences of parts.  A sequence comes to its end if each part does; what was said and
noticed before makes no difference to what follows, only what is on the disk does.
-/

namespace ClientScribe.CommandLine

/-- A part comes to its end, with a result. -/
def Work.Ends {α : Type} (w : Work α) (s : Session) (a : α) (s' : Session) : Prop :=
  w.run s = (.ok a, s')

namespace Work

variable {α β : Type} {s s' : Session}

theorem ends_pure_iff {a b : α} : Ends (pure a) s b s' ↔ b = a ∧ s' = s := by
  constructor
  · intro h
    cases h
    exact ⟨rfl, rfl⟩
  · rintro ⟨rfl, rfl⟩
    rfl

theorem ends_get : Ends get s s s := rfl

theorem run_bind_eq (w : Work α) (f : α → Work β) (s : Session) :
    (w >>= f).run s = ExceptT.bindCont f (w.run s).1 (w.run s).2 := rfl

/-- What follows a part that comes to its end goes on from there. -/
theorem Ends.run_bind {w : Work α} {a : α} (h : Ends w s a s') (f : α → Work β) :
    (w >>= f).run s = (f a).run s' := by
  rw [run_bind_eq, h]
  rfl

/-- A part that a fault ends is the last one. -/
theorem run_bind_of_error {w : Work α} {why : Stop} (h : w.run s = (.error why, s'))
    (f : α → Work β) : (w >>= f).run s = (.error why, s') := by
  rw [run_bind_eq, h]
  rfl

theorem ends_bind_iff {w : Work α} {f : α → Work β} {b : β} :
    Ends (w >>= f) s b s' ↔ ∃ a mid, Ends w s a mid ∧ Ends (f a) mid b s' := by
  constructor
  · intro h
    obtain ⟨result, mid, hw⟩ : ∃ result mid, w.run s = (result, mid) := ⟨_, _, rfl⟩
    rw [Ends, run_bind_eq, hw] at h
    cases result with
    | ok a => exact ⟨a, mid, hw, h⟩
    | error why => cases h
  · rintro ⟨a, mid, hfirst, hrest⟩
    rw [Ends, hfirst.run_bind f]
    exact hrest

theorem ends_say_iff {line : String} {u : Unit} :
    Ends (say line) s u s' ↔
      Text.isStorable line = true ∧ s' = { s with output := s.output ++ [line] } := by
  rw [say]
  split
  · rename_i hline
    constructor
    · intro h
      cases h
      exact ⟨hline, rfl⟩
    · rintro ⟨-, rfl⟩
      rfl
  · rename_i hline
    constructor
    · intro h
      cases h
    · rintro ⟨h, -⟩
      exact absurd h hline

theorem not_ends_giveUp {verb : String} {p : FilePath} {fault : PathFault} {a : α} :
    ¬ Ends (giveUp verb p fault) s a s' := by
  rw [giveUp]
  split <;> exact fun h => by cases h

theorem ends_save [Device] {p : FilePath} {text : String} {disk : Disk}
    (h : s.disk.saveText p text = (disk, none)) : Ends (save p text) s () { s with disk } := by
  rw [save]
  refine (ends_get.run_bind _).trans ?_
  rw [h]
  rfl

theorem run_save_of_fault [Device] {p : FilePath} {text : String} {disk : Disk} {fault : PathFault}
    (h : s.disk.saveText p text = (disk, some fault)) :
    (save p text).run s = (giveUp "write" p fault : Work Unit).run { s with disk } := by
  rw [save]
  refine (ends_get.run_bind _).trans ?_
  rw [h]
  rfl

theorem ends_save_iff [Device] {p : FilePath} {text : String} {u : Unit} :
    Ends (save p text) s u s' ↔
      s.disk.saveText p text = (s'.disk, none) ∧ s' = { s with disk := s'.disk } := by
  obtain ⟨disk, fault, hsave⟩ : ∃ disk fault, s.disk.saveText p text = (disk, fault) := ⟨_, _, rfl⟩
  rw [hsave]
  cases fault with
  | none =>
    rw [Ends, ends_save hsave]
    constructor
    · intro h
      cases h
      exact ⟨rfl, rfl⟩
    · rintro ⟨h, hs'⟩
      rw [Prod.mk.injEq] at h
      rw [hs', h.1]
  | some fault =>
    constructor
    · intro h
      exact absurd ((run_save_of_fault hsave).symm.trans h) not_ends_giveUp
    · rintro ⟨h, -⟩
      exact absurd (congrArg Prod.snd h) (by simp)

/-! ### What matters to a part -/

/-- A part that comes to its end does so from any session with the same disk, in the same way. -/
def MindsDisk (w : Work α) : Prop :=
  ∀ ⦃s t s' : Session⦄ ⦃a : α⦄, s.disk = t.disk → Ends w s a s' →
    ∃ t', Ends w t a t' ∧ t'.disk = s'.disk

theorem MindsDisk.pure (a : α) : MindsDisk (pure a) := by
  intro s t s' b hdisk h
  obtain ⟨rfl, rfl⟩ := ends_pure_iff.1 h
  exact ⟨t, ends_pure_iff.2 ⟨rfl, rfl⟩, hdisk.symm⟩

theorem MindsDisk.bind {w : Work α} {f : α → Work β} (hw : MindsDisk w)
    (hf : ∀ a, MindsDisk (f a)) : MindsDisk (w >>= f) := by
  intro s t s' b hdisk h
  obtain ⟨a, mid, hfirst, hrest⟩ := ends_bind_iff.1 h
  obtain ⟨mid', hfirst', hmid⟩ := hw hdisk hfirst
  obtain ⟨t', hrest', ht'⟩ := hf a hmid.symm hrest
  exact ⟨t', ends_bind_iff.2 ⟨a, mid', hfirst', hrest'⟩, ht'⟩

theorem mindsDisk_say (line : String) : MindsDisk (say line) := by
  intro s t s' u hdisk h
  obtain ⟨hline, rfl⟩ := ends_say_iff.1 h
  exact ⟨_, ends_say_iff.2 ⟨hline, rfl⟩, hdisk.symm⟩

theorem mindsDisk_save [Device] (p : FilePath) (text : String) : MindsDisk (save p text) := by
  intro s t s' u hdisk h
  obtain ⟨hsave, -⟩ := ends_save_iff.1 h
  rw [hdisk] at hsave
  exact ⟨{ t with disk := s'.disk }, ends_save_iff.2 ⟨hsave, rfl⟩, rfl⟩

theorem mindsDisk_saveFiles [Device] (output : FilePath) (files : Client.Files) :
    MindsDisk (saveFiles output files) := by
  induction files with
  | nil => exact .pure ()
  | cons file files ih =>
    exact (mindsDisk_save _ _).bind fun _ => (mindsDisk_say _).bind fun _ => ih

theorem mindsDisk_writeClient [Device] (client : Client.HttpClient) (references : List Reference)
    (output : FilePath) : MindsDisk (writeClient client references output) :=
  (mindsDisk_saveFiles _ _).bind fun _ => mindsDisk_say _

/-! ### What a part leaves -/

section

variable {I : Disk → Prop}

/-- A part leaves a property of the disk as it is, however it ends. -/
def Keeps (I : Disk → Prop) (w : Work α) : Prop := ∀ s : Session, I s.disk → I (w.run s).2.disk

theorem Keeps.pure (a : α) : Keeps I (pure a) := fun _ h => h

theorem Keeps.bind {w : Work α} {f : α → Work β} (hw : Keeps I w) (hf : ∀ a, Keeps I (f a)) :
    Keeps I (w >>= f) := by
  intro s h
  have hfirst := hw s h
  rw [run_bind_eq]
  cases hresult : (w.run s).1 with
  | ok a => exact hf a _ hfirst
  | error why => exact hfirst

theorem keeps_say (line : String) : Keeps I (say line) := by
  intro s h
  rw [say]
  split <;> exact h

theorem keeps_giveUp (verb : String) (p : FilePath) (fault : PathFault) :
    Keeps I (giveUp verb p fault : Work α) := by
  intro s h
  rw [giveUp]
  split <;> exact h

/-- Saving a text leaves on the disk what it does to the disk, whatever is made of a fault. -/
theorem disk_save [Device] (p : FilePath) (text : String) (s : Session) :
    ((save p text).run s).2.disk = (s.disk.saveText p text).1 := by
  obtain ⟨disk, fault, hsave⟩ : ∃ disk fault, s.disk.saveText p text = (disk, fault) := ⟨_, _, rfl⟩
  rw [hsave]
  cases fault with
  | none =>
    have hends : (save p text).run s = _ := ends_save hsave
    rw [hends]
  | some fault =>
    rw [run_save_of_fault hsave]
    exact keeps_giveUp (I := fun d => d = disk) "write" p fault _ rfl

theorem keeps_save [Device] {p : FilePath} {text : String}
    (h : ∀ d, I d → I (d.saveText p text).1) : Keeps I (save p text) := by
  intro s hs
  rw [disk_save]
  exact h s.disk hs

theorem keeps_saveFiles [Device] {output : FilePath} {files : Client.Files}
    (h : ∀ f ∈ files, ∀ d, I d → I (d.saveText (output.join (FilePath.ofText f.1)) f.2).1) :
    Keeps I (saveFiles output files) := by
  induction files with
  | nil => exact .pure ()
  | cons f files ih =>
    rw [List.forall_mem_cons] at h
    exact (keeps_save h.1).bind fun _ => (keeps_say _).bind fun _ => ih h.2

end

/-! ### Saved references -/

/-- References that were saved are in their file, and the path of the file can be said again. -/
theorem of_ends_saveReferences [Device] {references : List Reference} {p : FilePath} {u : Unit}
    (h : Ends (saveReferences references p) s u s') :
    (∃ l, s'.disk.find p = .ok (.file l (Reference.dump references).toUTF8))
    ∧ Text.isStorable p.text = true := by
  obtain ⟨_, mid, hfirst, hrest⟩ := ends_bind_iff.1 h
  obtain ⟨hsave, -⟩ := ends_save_iff.1 hfirst
  obtain ⟨hline, rfl⟩ := ends_say_iff.1 hrest
  exact ⟨Disk.find_of_saveText hsave, (Text.isStorable_append.1 hline).2⟩

theorem ends_readText {p : FilePath} {l : Location} {text : String}
    (hfind : s.disk.find p = .ok (.file l text.toUTF8)) (htext : '\r' ∉ text.toList) :
    Ends (readText p) s text s := by
  have hread : s.disk.read p = .ok text.toUTF8 := by rw [Disk.read, hfind]
  rw [readText]
  refine (ends_get.run_bind _).trans ?_
  simp only [hread, Text.ofBytes?_toUTF8 htext]
  rfl

/-- What is made of references that were saved. -/
theorem readReferences_run {p : FilePath} {l : Location} {references : List Reference}
    (hfind : s.disk.find p = .ok (.file l (Reference.dump references).toUTF8)) :
    (readReferences p).run s =
      (match Reference.load (Reference.dump references) with
      | .ok loaded => pure loaded
      | .rejected issues =>
        complain ⟨s!"Invalid references file {p.text}", some (Issue.summary issues)⟩ :
          Work (List Reference)).run s := by
  rw [readReferences]
  refine ((ends_readText hfind (Reference.not_return_mem_dump references)).run_bind _).trans ?_
  cases Reference.load (Reference.dump references) <;> rfl

end Work

namespace Command

open Work (Ends)

variable {web : Web} {products output target : FilePath} {fixes : Option FilePath}
  {client : Client.HttpClient} {start s : Session}

/-- A run to its end collects references, saves them, and writes the client. -/
theorem exists_of_ends_run [Interpreter] [Device]
    (h : Ends ((Command.run products output target fixes client).work web) start () s) :
    ∃ references found saved,
      Ends (collectReferences web products fixes) start references found
      ∧ Ends (saveReferences references target) found () saved
      ∧ ∃ told, Ends (writeClient client references output) told () s
        ∧ told.disk = saved.disk := by
  obtain ⟨references, found, hfound, h⟩ := Work.ends_bind_iff.1 h
  obtain ⟨_, saved, hsaved, h⟩ := Work.ends_bind_iff.1 h
  obtain ⟨_, told, htold, hwritten⟩ := Work.ends_bind_iff.1 h
  obtain ⟨-, rfl⟩ := Work.ends_say_iff.1 htold
  exact ⟨references, found, saved, hfound, hsaved, _, hwritten, rfl⟩

theorem ends_extract [Interpreter] [Device] {references : List Reference} {found saved : Session}
    (hfound : Ends (collectReferences web products fixes) start references found)
    (hsaved : Ends (saveReferences references target) found () saved) :
    Ends ((Command.extract products target fixes).work web) start () saved :=
  Work.ends_bind_iff.2 ⟨references, found, hfound, hsaved⟩

variable {references : List Reference} {found saved : Session}

/-- The command that reads saved references can say so: their path was said before. -/
theorem ends_say_reading [Device] (hsaved : Ends (saveReferences references target) found () saved)
    (u : Session) :
    ∃ told, Ends (say s!"Reading references from {target.text}...") u () told
      ∧ told.disk = u.disk := by
  obtain ⟨-, htext⟩ := Work.of_ends_saveReferences hsaved
  refine ⟨_, Work.ends_say_iff.2 ⟨?_, rfl⟩, rfl⟩
  exact Text.isStorable_append.2
    ⟨Text.isStorable_append.2 ⟨by decide, htext⟩, by decide⟩

theorem ends_say_found (count : Nat) (u : Session) :
    ∃ told, Ends (say s!"Found {count} references.") u () told ∧ told.disk = u.disk := by
  refine ⟨_, Work.ends_say_iff.2 ⟨?_, rfl⟩, rfl⟩
  exact Text.isStorable_append.2
    ⟨Text.isStorable_append.2 ⟨by decide, Text.isStorable_toString count⟩,
      by decide⟩

/-- From saved references the same client is written if what is loaded gives the same files. -/
theorem ends_generate [Interpreter] [Device]
    (hsaved : Ends (saveReferences references target) found () saved) {loaded : List Reference}
    (hload : Reference.load (Reference.dump references) = .ok loaded)
    (hfiles : Client.files client loaded = Client.files client references) {told : Session}
    (hwritten : Ends (writeClient client references output) told () s)
    (htold : told.disk = saved.disk) :
    ∃ s', Ends ((Command.generate target output client).work web) ⟨saved.disk, [], []⟩ () s'
      ∧ s'.disk = s.disk := by
  obtain ⟨⟨l, hfind⟩, -⟩ := Work.of_ends_saveReferences hsaved
  obtain ⟨s₁, hreading, hs₁⟩ := ends_say_reading hsaved ⟨saved.disk, [], []⟩
  have hread : Ends (readReferences target) s₁ loaded s₁ := by
    rw [← hs₁] at hfind
    rw [Ends, Work.readReferences_run hfind, hload]
    rfl
  obtain ⟨s₂, hcounted, hs₂⟩ := ends_say_found loaded.length s₁
  -- the files were written once from a session that differs from this one in what was said
  have hsame : writeClient client loaded output = writeClient client references output := by
    rw [writeClient, hfiles, writeClient]
  have hdisk : told.disk = s₂.disk := by rw [htold, hs₂, hs₁]
  obtain ⟨s', hs', hwritten'⟩ := Work.mindsDisk_writeClient _ _ _ hdisk hwritten
  rw [← hsame] at hs'
  refine ⟨s', ?_, hwritten'⟩
  refine Work.ends_bind_iff.2 ⟨(), s₁, hreading, ?_⟩
  refine Work.ends_bind_iff.2 ⟨loaded, s₁, hread, ?_⟩
  exact Work.ends_bind_iff.2 ⟨(), s₂, hcounted, hs'⟩

/-- References that are not loaded again end the command that reads them. -/
theorem generate_refused [Interpreter] [Device]
    (hsaved : Ends (saveReferences references target) found () saved) {issues : List Issue}
    (hload : Reference.load (Reference.dump references) = .rejected issues) :
    ∃ s', ((Command.generate target output client).work web).run ⟨saved.disk, [], []⟩ =
        (.error (.complaint ⟨s!"Invalid references file {target.text}",
          some (Issue.summary issues)⟩), s')
      ∧ s'.disk = saved.disk := by
  obtain ⟨⟨l, hfind⟩, -⟩ := Work.of_ends_saveReferences hsaved
  obtain ⟨s₁, hreading, hs₁⟩ := ends_say_reading hsaved ⟨saved.disk, [], []⟩
  rw [← hs₁] at hfind
  have hread := Work.readReferences_run hfind
  rw [hload] at hread
  exact ⟨s₁, (hreading.run_bind _).trans (Work.run_bind_of_error hread _), hs₁⟩

end Command

end ClientScribe.CommandLine
