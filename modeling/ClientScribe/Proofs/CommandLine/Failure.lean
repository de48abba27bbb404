import ClientScribe.Proofs.CommandLine.Storable
import ClientScribe.Proofs.CommandLine.TwoSteps
import ClientScribe.Proofs.Docs.Writable
import ClientScribe.Proofs.Disk.Files

/-!
Commands that fail.  Everything that can go wrong with references goes wrong before their file is
opened, so a command that fails until then leaves every file as it was and makes no new one.  Two
faults are met later: a device that is full, and a path that has no bytes, which is noticed when the
command says where the references are.  Then the file is there, with what the device took.
-/

namespace ClientScribe.CommandLine

open Work (Ends Keeps)

namespace Work

section

variable {α : Type} {I : Disk → Prop}

theorem keeps_complain (c : Complaint) : Keeps I (complain c : Work α) := fun _ h => h

theorem keeps_crash (c : Crash) : Keeps I (crash c : Work α) := fun _ h => h

theorem keeps_get : Keeps I get := fun _ h => h

theorem keeps_modify {f : Session → Session} (h : ∀ s, (f s).disk = s.disk) :
    Keeps I (modify f : Work PUnit) := by
  intro s hs
  have hdisk : ((modify f : Work PUnit).run s).2.disk = s.disk := h s
  rwa [hdisk]

theorem keeps_expect (file : FilePath) (result : Except ConfigFault α) :
    Keeps I (expect file result) := by
  rw [expect.eq_def]
  split
  · exact .pure _
  · split
    · exact keeps_complain _
    · exact keeps_crash _
    · exact keeps_crash _

theorem eq_ok_of_ends_expect {file : FilePath} {result : Except ConfigFault α} {s s' : Session}
    {a : α} (h : Ends (expect file result) s a s') : result = .ok a := by
  rw [expect.eq_def] at h
  split at h
  · rw [(ends_pure_iff.1 h).1]
  · split at h <;> cases h

/-- Collecting references touches nothing on the disk. -/
theorem keeps_collectReferences [Interpreter] (web : Web) (products : FilePath)
    (fixes : Option FilePath) :
    Keeps I (collectReferences web products fixes) := by
  refine keeps_get.bind fun s => (keeps_expect _ _).bind fun ps => (keeps_expect _ _).bind
    fun overrides => (keeps_say _).bind fun _ => ?_
  refine (keeps_modify ?_).bind fun _ => ?_
  · exact fun _ => rfl
  · split
    · exact .pure _
    · exact keeps_crash _
    · exact keeps_crash _
    · exact keeps_crash _
    · exact keeps_complain _

/-- The references that are collected can be written, so their text is no reason to fail. -/
theorem nesting_le_of_collectReferences [Interpreter] {web : Web} {products : FilePath}
    {fixes : Option FilePath} {s s' : Session} {references : List Reference}
    (h : Ends (collectReferences web products fixes) s references s') :
    ∀ r ∈ references, r.content.nesting ≤ Decode.maxNesting := by
  obtain ⟨start, _, _, h⟩ := ends_bind_iff.1 h
  obtain ⟨ps, _, _, h⟩ := ends_bind_iff.1 h
  obtain ⟨overrides, _, hoverrides, h⟩ := ends_bind_iff.1 h
  obtain ⟨_, _, _, h⟩ := ends_bind_iff.1 h
  obtain ⟨_, _, _, h⟩ := ends_bind_iff.1 h
  split at h
  · rename_i hfound
    rw [(ends_pure_iff.1 h).1]
    obtain ⟨fixes, rfl⟩ := Config.exists_of_overrides (eq_ok_of_ends_expect hoverrides)
    exact fun r hr => nesting_le_of_collect hfound hr
  all_goals cases h

theorem keeps_readReferences (p : FilePath) : Keeps I (readReferences p) := by
  have htext : Keeps I (readText p) := by
    refine keeps_get.bind fun s => ?_
    split
    · exact keeps_giveUp _ _ _
    · split
      · exact .pure _
      · exact keeps_crash _
  refine htext.bind fun text => ?_
  split
  · exact .pure _
  · exact keeps_complain _

end

variable {s s' : Session} {why : Stop}

/-- A part that does not come to its end is stopped. -/
theorem exists_error_of_not_ends {α : Type} {w : Work α} (h : ∀ a s', ¬ Ends w s a s') :
    ∃ why s', w.run s = (.error why, s') := by
  rcases hw : w.run s with ⟨result, s'⟩
  cases result with
  | ok a => exact absurd hw (h a s')
  | error why => exact ⟨why, s', rfl⟩

theorem run_bind_bind_of_error {α β γ : Type} {w : Work α} {f : α → Work β}
    (h : (w >>= f).run s = (.error why, s')) (g : α → β → Work γ) :
    (w >>= fun a => f a >>= g a).run s = (.error why, s') := by
  rcases hw : w.run s with ⟨result, mid⟩
  cases result with
  | ok a =>
    rw [Ends.run_bind hw] at h ⊢
    exact run_bind_of_error h (g a)
  | error reason =>
    rw [run_bind_of_error hw] at h ⊢
    cases h
    rfl

variable [Device] {references : List Reference} {p : FilePath}

/-- Saving references leaves on the disk what saving their text leaves, however it ends. -/
theorem disk_saveReferences (references : List Reference) (p : FilePath) (s : Session) :
    ((saveReferences references p).run s).2.disk =
      (s.disk.save p (Reference.dump references).toUTF8).1 := by
  have hsaved := disk_save p (Reference.dump references) s
  rw [Disk.saveText_of_isStorable (Reference.isStorable_dump references)] at hsaved
  rw [← hsaved, saveReferences, run_bind_eq]
  generalize (save p (Reference.dump references)).run s = left
  obtain ⟨result, stopped⟩ := left
  cases result with
  | ok u => exact keeps_say (I := fun d => d = stopped.disk) _ stopped rfl
  | error why => rfl

/-- References are saved if their text is and if their path can be said. -/
theorem exists_ends_saveReferences_iff :
    (∃ s', Ends (saveReferences references p) s () s') ↔
      (s.disk.save p (Reference.dump references).toUTF8).2 = none
        ∧ Text.isStorable p.text = true := by
  have htext := Disk.saveText_of_isStorable (d := s.disk) (p := p)
    (Reference.isStorable_dump references)
  constructor
  · rintro ⟨s', h⟩
    obtain ⟨_, mid, hfirst, -⟩ := ends_bind_iff.1 h
    obtain ⟨hsave, -⟩ := ends_save_iff.1 hfirst
    rw [← htext, hsave]
    exact ⟨rfl, (of_ends_saveReferences h).2⟩
  · rintro ⟨hsaved, hp⟩
    have hsave : s.disk.saveText p (Reference.dump references) =
        ((s.disk.save p (Reference.dump references).toUTF8).1, none) :=
      htext.trans (Prod.ext rfl hsaved)
    have hline : Text.isStorable s!"Saved {references.length} references to {p.text}" = true :=
      Text.isStorable_append.2 ⟨Text.isStorable_append.2 ⟨Text.isStorable_append.2
        ⟨by decide, Text.isStorable_toString _⟩, by decide +kernel⟩, hp⟩
    exact ⟨_, ends_bind_iff.2 ⟨(), _, ends_save hsave, ends_say_iff.2 ⟨hline, rfl⟩⟩⟩

end Work

/-- A file can be read and what it holds is valid. -/
def HoldsReferences (d : Disk) (source : FilePath) : Prop :=
  ∃ bytes text references, d.read source = .ok bytes ∧ Text.ofBytes? bytes = some text
    ∧ Reference.load text = .ok references

/-- What a command collects references from, the products and the overrides, and where it saves
them. -/
inductive Command.Saves : Command → FilePath → Option FilePath → FilePath → Prop where
  | extract (products target : FilePath) (fixes : Option FilePath) :
    Saves (.extract products target fixes) products fixes target
  | run (products output target : FilePath) (fixes : Option FilePath)
    (client : Client.HttpClient) :
    Saves (.run products output target fixes client) products fixes target

/-- References are collected and saved. -/
def SavesReferences [Interpreter] [Device] (web : Web) (d : Disk) (products target : FilePath)
    (fixes : Option FilePath) : Prop :=
  ∃ references found saved,
    Ends (collectReferences web products fixes) ⟨d, [], []⟩ references found
    ∧ Ends (saveReferences references target) found () saved

/-- A fault is met when the file of collected references is open: the device takes only a part of
their text, or nothing can be said of their path.  The file holds what the device took. -/
structure FailsLate [Interpreter] [Device] (web : Web) (d : Disk) (products target : FilePath)
    (fixes : Option FilePath) (references : List Reference) (l : Location) (held : ByteArray) :
    Prop where
  collected : ∃ found,
    Ends (collectReferences web products fixes) ⟨d, [], []⟩ references found
  opened : ∃ made, d.Opens target made l ∧ held = made.part l (Reference.dump references).toUTF8
  late : held.size < (Reference.dump references).toUTF8.size
    ∨ Text.isStorable target.text = false

theorem Work.holdsReferences_of_ends {source : FilePath} {references : List Reference}
    {s s' : Session} (h : Ends (readReferences source) s references s') :
    HoldsReferences s.disk source := by
  obtain ⟨text, mid, htext, hload⟩ := ends_bind_iff.1 h
  obtain ⟨held, reached, hget, hread⟩ := ends_bind_iff.1 htext
  cases hget
  cases hbytes : s.disk.read source with
  | error fault =>
    rw [hbytes] at hread
    exact absurd hread not_ends_giveUp
  | ok bytes =>
    rw [hbytes] at hread
    cases hof : Text.ofBytes? bytes with
    | none =>
      simp only [hof] at hread
      cases hread
    | some text' =>
      simp only [hof] at hread
      cases hread
      cases hloaded : Reference.load text with
      | ok references' => exact ⟨bytes, text, references', hbytes, hof, hloaded⟩
      | rejected issues =>
        rw [hloaded] at hload
        cases hload

namespace Command

section

variable [Interpreter] [Device] {web : Web} {d : Disk} {products output target : FilePath}
  {fixes : Option FilePath} {client : Client.HttpClient} {references : List Reference}
  {l : Location} {held : ByteArray} {why : Stop} {s : Session}

omit [Device] in
theorem disk_collectReferences (web : Web) (d : Disk) (products : FilePath)
    (fixes : Option FilePath) :
    ((collectReferences web products fixes).run ⟨d, [], []⟩).2.disk = d :=
  Work.keeps_collectReferences (I := fun d' => d' = d) web products fixes ⟨d, [], []⟩ rfl

/-- Saving to a file that is opened comes to its end unless it fails late. -/
theorem failsLate_of_not_ends {found : Session} {made : Disk}
    (hfound : Ends (collectReferences web products fixes) ⟨d, [], []⟩ references found)
    (hopens : d.Opens target made l)
    (hnot : ¬ ∃ s, Ends (saveReferences references target) found () s) :
    FailsLate web d products target fixes references l
      (made.part l (Reference.dump references).toUTF8) := by
  have hdisk := disk_collectReferences web d products fixes
  rw [hfound] at hdisk
  refine ⟨⟨found, hfound⟩, ⟨made, hopens, rfl⟩, ?_⟩
  rwa [Work.exists_ends_saveReferences_iff, hdisk, hopens.save_eq, Disk.fill_snd_eq_none_iff,
    Classical.not_and_iff_not_or_not, Nat.not_le, Bool.not_eq_true] at hnot

/-- A failed extraction leaves the files as they are unless it fails late. -/
theorem files_extract_of_error
    (hlate : ∀ references l held, ¬ FailsLate web d products target fixes references l held)
    (h : ((Command.extract products target fixes).work web).run ⟨d, [], []⟩ = (.error why, s)) :
    s.disk.files = d.files := by
  have hdisk := disk_collectReferences web d products fixes
  rcases hfound : (collectReferences web products fixes).run ⟨d, [], []⟩ with ⟨result, found⟩
  rw [hfound] at hdisk
  cases result with
  | error reason =>
    rw [Command.work, Work.run_bind_of_error hfound] at h
    cases h
    rw [hdisk]
  | ok references =>
    rw [Command.work, Ends.run_bind hfound] at h
    have hnot : ¬ ∃ s, Ends (saveReferences references target) found () s := by
      rintro ⟨s', hends⟩
      rw [hends] at h
      cases h
    have hclosed : ∀ made l, ¬ d.Opens target made l := fun made l hopens =>
      hlate references l _ (failsLate_of_not_ends hfound hopens hnot)
    have hsaved := Work.disk_saveReferences references target found
    rw [h, hdisk] at hsaved
    rw [hsaved]
    exact (Disk.files_save_of_not_opens hclosed _).1

/-- An extraction that fails late stops, and no file is changed but the one that was open. -/
theorem extract_stopped_of_failsLate
    (h : FailsLate web d products target fixes references l held) :
    ∃ why s, ((Command.extract products target fixes).work web).run ⟨d, [], []⟩ = (.error why, s)
      ∧ s.disk.find target = .ok (.file l held)
      ∧ ∀ l', l' ≠ l → s.disk.content? l' = d.content? l' := by
  obtain ⟨⟨found, hfound⟩, ⟨made, hopens, rfl⟩, hlate⟩ := h
  have hdisk := disk_collectReferences web d products fixes
  rw [hfound] at hdisk
  have hnot : ∀ u s, ¬ Ends (saveReferences references target) found u s := by
    intro u s hends
    have hsaved := Work.exists_ends_saveReferences_iff.1 ⟨s, hends⟩
    rw [hdisk, hopens.save_eq, Disk.fill_snd_eq_none_iff] at hsaved
    rcases hlate with hpart | huntold
    · exact absurd hsaved.1 (Nat.not_le.2 hpart)
    · rw [hsaved.2] at huntold
      exact absurd huntold (by simp)
  obtain ⟨why, s, hstopped⟩ := Work.exists_error_of_not_ends hnot
  have hleft := Work.disk_saveReferences references target found
  rw [hstopped, hdisk, hopens.save_eq] at hleft
  refine ⟨why, s, ?_, ?_, ?_⟩
  · rw [Command.work, Ends.run_bind hfound, hstopped]
  · rw [hleft]
    exact hopens.find_fill _
  · intro l' hl'
    rw [hleft]
    exact hopens.content?_fill_of_ne _ hl'

/-- Where no references are saved the extraction is stopped. -/
theorem exists_extract_stopped (h : ¬ SavesReferences web d products target fixes) :
    ∃ why s,
      ((Command.extract products target fixes).work web).run ⟨d, [], []⟩ = (.error why, s) := by
  refine Work.exists_error_of_not_ends fun u s hends => ?_
  obtain ⟨references, found, hfound, hsaved⟩ := Work.ends_bind_iff.1 hends
  exact h ⟨references, found, s, hfound, hsaved⟩

/-- Whatever collects and saves references is stopped where the extraction alone is. -/
theorem Saves.stopped {c : Command} (hc : c.Saves products fixes target)
    (h : ((Command.extract products target fixes).work web).run ⟨d, [], []⟩ = (.error why, s)) :
    (c.work web).run ⟨d, [], []⟩ = (.error why, s) := by
  cases hc with
  | extract => exact h
  | run => exact Work.run_bind_bind_of_error h _

end

section

variable {web : Web} {start s : Session} {source output : FilePath} {client : Client.HttpClient}

/-- References that cannot be read, or are not valid, stop the command that writes a client. -/
theorem generate_stopped [Interpreter] [Device] (h : ¬ HoldsReferences start.disk source) :
    ∃ why s, ((Command.generate source output client).work web).run start = (.error why, s)
      ∧ s.disk = start.disk := by
  rw [Command.work]
  have hsaid : ((say s!"Reading references from {source.text}...").run start).2.disk = start.disk :=
    Work.keeps_say (I := fun d => d = start.disk) _ start rfl
  rcases hsay : (say s!"Reading references from {source.text}...").run start with ⟨result, told⟩
  rw [hsay] at hsaid
  cases result with
  | error why => exact ⟨why, told, Work.run_bind_of_error hsay _, hsaid⟩
  | ok u =>
    have hnot : ∀ references s, ¬ Ends (readReferences source) told references s := by
      intro references s hends
      have hholds := Work.holdsReferences_of_ends hends
      rw [hsaid] at hholds
      exact h hholds
    obtain ⟨why, s, hstopped⟩ := Work.exists_error_of_not_ends hnot
    have hkept : ((readReferences source).run told).2.disk = start.disk :=
      Work.keeps_readReferences (I := fun d => d = start.disk) source told hsaid
    rw [hstopped] at hkept
    refine ⟨why, s, ?_, hkept⟩
    rw [Ends.run_bind hsay]
    exact Work.run_bind_of_error hstopped _

end

end Command

/-! ### The program -/

/-- A failed command changes no file. -/
structure FailsCleanly [Interpreter] [Device] (web : Web) (d : Disk) (arguments : List String) :
    Prop where
  /-- Arguments that make no command change nothing. -/
  usage : ∀ fault, Invocation.ofArguments d arguments = .error fault →
    (perform web d arguments).1.exitCode ≠ 0 ∧ (perform web d arguments).2.disk = d
  /-- An extraction that fails, for whatever reason, changes no file. -/
  extract : ∀ verbose products output fixes,
    Invocation.ofArguments d arguments = .ok (.command verbose (.extract products output fixes)) →
      (perform web d arguments).1.exitCode ≠ 0 →
        (perform web d arguments).2.disk.files = d.files
  /-- References that cannot be read or are not valid stop a generation, which changes nothing. -/
  generate : ∀ verbose source output client,
    Invocation.ofArguments d arguments = .ok (.command verbose (.generate source output client)) →
      ¬ HoldsReferences d source →
        (perform web d arguments).1.exitCode = 1 ∧ (perform web d arguments).2.disk = d
  /-- A run that does not come as far as saved references fails, and changes no file. -/
  run : ∀ verbose products output target fixes client,
    Invocation.ofArguments d arguments =
        .ok (.command verbose (.run products output target fixes client)) →
      ¬ SavesReferences web d products target fixes →
        (perform web d arguments).1.exitCode = 1
        ∧ (perform web d arguments).2.disk.files = d.files

/-- The arguments make a command that fails when the file of the references is open. -/
def StopsLate [Interpreter] [Device] (web : Web) (d : Disk) (arguments : List String)
    (target : FilePath) (l : Location) (held : ByteArray) : Prop :=
  ∃ verbose c products fixes references,
    Invocation.ofArguments d arguments = .ok (.command verbose c)
    ∧ c.Saves products fixes target
    ∧ FailsLate web d products target fixes references l held

section

variable [Interpreter] [Device] {web : Web} {d : Disk} {arguments : List String}

/-- Files are changed by a failed command only if it fails late. -/
theorem failsCleanly_of_not_stopsLate
    (hlate : ∀ target l held, ¬ StopsLate web d arguments target l held) :
    FailsCleanly web d arguments := by
  have hkept {verbose : Bool} {c : Command} {products target : FilePath} {fixes : Option FilePath}
      (hcommand : Invocation.ofArguments d arguments = .ok (.command verbose c))
      (hc : c.Saves products fixes target) {why : Stop} {s : Session}
      (hstopped : ((Command.extract products target fixes).work web).run ⟨d, [], []⟩ =
        (.error why, s)) : s.disk.files = d.files :=
    Command.files_extract_of_error (fun references l held h => hlate target l held
      ⟨verbose, c, products, fixes, references, hcommand, hc, h⟩) hstopped
  refine ⟨?usage, ?extract, ?generate, ?run⟩
  case usage =>
    intro fault h
    rw [perform, h]
    cases fault <;> exact ⟨Nat.succ_ne_zero _, rfl⟩
  case extract =>
    intro verbose products output fixes h hfailed
    rw [perform_of_ofArguments h] at hfailed ⊢
    rcases hrun : ((Command.extract products output fixes).work web).run ⟨d, [], []⟩
      with ⟨result, s⟩
    rw [hrun] at hfailed
    cases result with
    | ok u => exact absurd rfl hfailed
    | error why => exact hkept h (.extract products output fixes) hrun
  case generate =>
    intro verbose source output client h hnone
    obtain ⟨why, s, hrun, hdisk⟩ : ∃ why s,
        ((Command.generate source output client).work web).run ⟨d, [], []⟩ = (.error why, s)
          ∧ s.disk = d := Command.generate_stopped hnone
    rw [perform_of_ofArguments h, hrun]
    exact ⟨rfl, hdisk⟩
  case run =>
    intro verbose products output target fixes client h hnone
    have hsaves := Command.Saves.run products output target fixes client
    obtain ⟨why, s, hstopped⟩ := Command.exists_extract_stopped hnone
    rw [perform_of_ofArguments h, hsaves.stopped hstopped]
    exact ⟨rfl, hkept h hsaves hstopped⟩

/-- No command fails late if the arguments are in Unicode and the device has room. -/
theorem not_stopsLate (harguments : ∀ a ∈ arguments, Text.isStorable a = true)
    (hroom : ∀ d l content, content.size ≤ Device.taken d l content) (target : FilePath)
    (l : Location) (held : ByteArray) : ¬ StopsLate web d arguments target l held := by
  rintro ⟨verbose, c, products, fixes, references, hcommand, hc, -, ⟨made, -, rfl⟩, hlate⟩
  have htarget : Text.isStorable target.text = true :=
    isStorable_of_ofArguments harguments hcommand target (by cases hc <;> rfl)
  rcases hlate with hpart | huntold
  · rw [Disk.part_eq_self_of_le (hroom made l _)] at hpart
    exact absurd hpart (Nat.lt_irrefl _)
  · rw [htarget] at huntold
    cases huntold

end

/-- A failed command leaves the files alone, whatever the disk, the pages and the arguments are,
unless it fails late: then the file of the references holds what the device took, and no other file
is changed.  Arguments in Unicode, without the characters U+FD800 to U+FDFFF that stand for halves,
and a device with room leave nothing that could fail late. -/
theorem failed_command_keeps_files [Interpreter] [Device] (web : Web) (d : Disk)
    (arguments : List String) :
    ((∀ target l held, ¬ StopsLate web d arguments target l held) → FailsCleanly web d arguments)
    ∧ (∀ target l held, StopsLate web d arguments target l held →
      (perform web d arguments).1.exitCode = 1
      ∧ (perform web d arguments).2.disk.find target = .ok (.file l held)
      ∧ ∀ l', l' ≠ l → (perform web d arguments).2.disk.content? l' = d.content? l')
    ∧ ((∀ a ∈ arguments, Text.isStorable a = true) →
      (∀ d l content, content.size ≤ Device.taken d l content) →
        FailsCleanly web d arguments) := by
  refine ⟨failsCleanly_of_not_stopsLate, ?_, ?_⟩
  · rintro target l held ⟨verbose, c, products, fixes, references, hcommand, hc, hlate⟩
    obtain ⟨why, s, hstopped, hleft⟩ := Command.extract_stopped_of_failsLate hlate
    rw [perform_of_ofArguments hcommand, hc.stopped hstopped]
    exact ⟨rfl, hleft⟩
  · exact fun harguments hroom =>
      failsCleanly_of_not_stopsLate (not_stopsLate harguments hroom)

/-- The references are to be saved in a folder that the file of the products is at. -/
def blocked : Build := ⟨"p", "p", none, none, none⟩

/-- No folder can be made where a file is. -/
theorem failed_command_keeps_files_blocked :
    (∀ a ∈ blocked.extractArguments, Text.isStorable a = true)
    ∧ (perform Build.slugWeb (Build.slugDisk "a") blocked.extractArguments).1.exitCode = 1
    ∧ (perform Build.slugWeb (Build.slugDisk "a") blocked.extractArguments).2.disk.files =
      (Build.slugDisk "a").files := by
  have harguments : ∀ a ∈ blocked.extractArguments, Text.isStorable a = true := by decide
  have hexit : (perform Build.slugWeb (Build.slugDisk "a") blocked.extractArguments).1.exitCode =
      1 := by
    decide +kernel
  have hkept := (failed_command_keeps_files Build.slugWeb (Build.slugDisk "a")
    blocked.extractArguments).2.2 harguments fun _ _ _ => Nat.le_refl _
  have hcommand := Build.ofArguments_firstStep (b := blocked) (d := Build.slugDisk "a")
    (by decide) (fun path h => absurd h (by simp [blocked])) rfl
  refine ⟨harguments, hexit, hkept.extract _ _ _ _ hcommand ?_⟩
  rw [hexit]
  decide

/-- No products at all. -/
def emptyDisk : Disk := ⟨[], [(["p"], .file "[]".toUTF8)]⟩

-- a device that takes nothing leaves an empty file where the references are to be
example :
    let _ : Device := ⟨fun _ _ _ => 0⟩
    (perform Build.slugWeb emptyDisk ["extract", "p", "-o", "p"]).2.disk.content? ["p"] =
      some .empty := by
  decide +kernel

/-- A path that names a file but has no bytes to say it with. -/
def unsayable : String := "caf" ++ String.singleton (Text.ofCode 0xDCE9) ++ ".json"

/-- The references are in a new file when the command notices that it cannot say where. -/
theorem unsayable_path_leaves_file :
    (perform Build.slugWeb emptyDisk ["extract", "p", "-o", unsayable]).1.exitCode = 1
    ∧ emptyDisk.content? [unsayable] = none
    ∧ (perform Build.slugWeb emptyDisk ["extract", "p", "-o", unsayable]).2.disk.content?
      [unsayable] = some "[]\n".toUTF8 := by
  decide +kernel

end ClientScribe.CommandLine
