import ClientScribe.Proofs.CommandLine.Arguments
import ClientScribe.Proofs.Disk.FilePath

/-!
A client in one step and in two.  The command that collects references and writes a client does what
collecting them and then writing the client from their file do, as long as the file gives the same
references back; where it is refused, the second of the two steps fails.
-/

namespace ClientScribe.CommandLine

/-- What a client is built from and where: the values of the arguments. -/
structure Build where
  products : String
  output : String
  fixes : Option String
  clientName : Option String
  clientPath : Option String

namespace Build

/-- The file of the references, in the folder of the client. -/
def saved (b : Build) : FilePath :=
  (FilePath.ofText b.output).join (FilePath.ofText usualReferences)

def client (b : Build) : Client.HttpClient :=
  { name := b.clientName.getD Client.HttpClient.usual.name
    path := b.clientPath.getD Client.HttpClient.usual.path }

/-- What is set for the references besides their file. -/
def collecting (b : Build) : List (Setting × String) :=
  (b.fixes.map fun v => (Setting.fixes, v)).toList

/-- What is set for the client besides its folder. -/
def writing (b : Build) : List (Setting × String) :=
  (b.clientName.map fun v => (Setting.clientName, v)).toList
    ++ (b.clientPath.map fun v => (Setting.clientPath, v)).toList

/-- The client in one step. -/
def oneStep (b : Build) : Arguments Setting :=
  ⟨(.output, b.output) :: (b.collecting ++ b.writing), [b.products]⟩

/-- The references alone. -/
def firstStep (b : Build) : Arguments Setting :=
  ⟨(.output, b.saved.text) :: b.collecting, [b.products]⟩

/-- The client from the saved references. -/
def secondStep (b : Build) : Arguments Setting :=
  ⟨(.output, b.output) :: b.writing, [b.saved.text]⟩

def runArguments (b : Build) : List String :=
  "run" :: b.oneStep.spelled

def extractArguments (b : Build) : List String :=
  "extract" :: b.firstStep.spelled

def generateArguments (b : Build) : List String :=
  "generate" :: b.secondStep.spelled

/-- What becomes of the second step, behind the first. -/
def twoSteps [Interpreter] [Device] (b : Build) (web : Web) (d : Disk) : Ending × Session :=
  perform web (perform web d b.extractArguments).2.disk b.generateArguments

/-- The second step succeeds, and what is left on the disk is what one step leaves. -/
def StepsAgree [Interpreter] [Device] (b : Build) (web : Web) (d : Disk) : Prop :=
  (b.twoSteps web d).1.exitCode = 0
  ∧ (b.twoSteps web d).2.disk = (perform web d b.runArguments).2.disk

/-- The references that the pages of the products give, if they can be collected. -/
def collected? [Interpreter] (b : Build) (web : Web) (d : Disk) : Option (List Reference) :=
  ((collectReferences web (FilePath.ofText b.products) (b.fixes.map FilePath.ofText)).run
    ⟨d, [], []⟩).1.toOption

/-! ### Settings -/

theorem fst_of_mem_collecting {b : Build} {g : Setting × String} (h : g ∈ b.collecting) :
    g.1 = .fixes := by
  rw [collecting, Option.mem_toList, Option.map_eq_some_iff] at h
  obtain ⟨v, -, rfl⟩ := h
  rfl

theorem fst_of_mem_writing {b : Build} {g : Setting × String} (h : g ∈ b.writing) :
    g.1 = .clientName ∨ g.1 = .clientPath := by
  rw [writing, List.mem_append, Option.mem_toList, Option.mem_toList, Option.map_eq_some_iff,
    Option.map_eq_some_iff] at h
  rcases h with ⟨v, -, rfl⟩ | ⟨v, -, rfl⟩
  · exact .inl rfl
  · exact .inr rfl

theorem value?_fixes (b : Build) :
    b.oneStep.value? .fixes = b.fixes ∧ b.firstStep.value? .fixes = b.fixes := by
  obtain ⟨products, output, fixes, name, path⟩ := b
  cases fixes <;> cases name <;> cases path <;>
    simp [Arguments.value?, oneStep, firstStep, collecting, writing]

theorem value?_output (b : Build) :
    b.oneStep.value? .output = some b.output ∧ b.firstStep.value? .output = some b.saved.text
    ∧ b.secondStep.value? .output = some b.output := by
  obtain ⟨products, output, fixes, name, path⟩ := b
  cases fixes <;> cases name <;> cases path <;>
    simp [Arguments.value?, oneStep, firstStep, secondStep, collecting, writing]

theorem ofText_saved (b : Build) : FilePath.ofText b.saved.text = b.saved :=
  ((FilePath.isPlain_ofText _).join (FilePath.isPlain_ofText _)).ofText_text

/-! ### Commands -/

theorem run_oneStep (b : Build) :
    run (FilePath.ofText b.products) b.oneStep =
      .run (FilePath.ofText b.products) (FilePath.ofText b.output) b.saved
        (b.fixes.map FilePath.ofText) b.client := by
  obtain ⟨products, output, fixes, name, path⟩ := b
  cases fixes <;> cases name <;> cases path <;> rfl

theorem extract_firstStep (b : Build) :
    extract (FilePath.ofText b.products) b.firstStep =
      .extract (FilePath.ofText b.products) b.saved (b.fixes.map FilePath.ofText) := by
  rw [extract, pathOf?, pathOf?, b.value?_fixes.2, b.value?_output.2.1, Option.map_some,
    Option.getD_some, b.ofText_saved]

theorem generate_secondStep (b : Build) :
    generate (FilePath.ofText b.saved.text) b.secondStep =
      .generate b.saved (FilePath.ofText b.output) b.client := by
  rw [b.ofText_saved]
  obtain ⟨products, output, fixes, name, path⟩ := b
  cases name <;> cases path <;> rfl

theorem fst_mem_of_mem_oneStep {b : Build} {g : Setting × String} (h : g ∈ b.oneStep.settings) :
    g.1 ∈ [Setting.output, .fixes, .clientName, .clientPath] := by
  rw [oneStep, List.mem_cons, List.mem_append] at h
  rcases h with rfl | h | h
  · simp
  · simp [fst_of_mem_collecting h]
  · simpa using .inr (.inr (fst_of_mem_writing h))

theorem fst_mem_of_mem_firstStep {b : Build} {g : Setting × String}
    (h : g ∈ b.firstStep.settings) : g.1 ∈ [Setting.output, .fixes] := by
  rw [firstStep, List.mem_cons] at h
  rcases h with rfl | h
  · simp
  · simp [fst_of_mem_collecting h]

theorem fst_mem_of_mem_secondStep {b : Build} {g : Setting × String}
    (h : g ∈ b.secondStep.settings) : g.1 ∈ [Setting.output, .clientName, .clientPath] := by
  rw [secondStep, List.mem_cons] at h
  rcases h with rfl | h
  · simp
  · simpa using .inr (fst_of_mem_writing h)

section

variable {web : Web} {d : Disk} {b : Build}

/-- A build in one step checks its paths before it starts. -/
theorem of_exitCode_oneStep [Interpreter] [Device]
    (h : (perform web d b.runArguments).1.exitCode = 0) :
    Target.folder.check d b.output = .ok ()
    ∧ (∀ path, b.fixes = some path → Target.presentFile.check d path = .ok ())
    ∧ Target.presentFile.check d b.products = .ok ()
    ∧ ∃ s, Work.Ends ((Command.run (FilePath.ofText b.products) (FilePath.ofText b.output) b.saved
          (b.fixes.map FilePath.ofText) b.client).work web) ⟨d, [], []⟩ () s
        ∧ perform web d b.runArguments = (.done, s) := by
  obtain ⟨rule, hrule, hoptions, hpresent, hfolder, -, hcommand⟩ := exists_rule_run
  have hvalued : ∀ g ∈ b.oneStep.settings, g.1.IsValued rule.options := by
    rw [hoptions]
    exact fun g hg => Setting.isValued_runRules (fst_mem_of_mem_oneStep hg)
  obtain ⟨c, s, hc, hends, hperform⟩ := exists_ends_of_exitCode hrule hvalued h
  obtain ⟨hchecks, source, hsource, hproducts, -, hc⟩ := CommandRule.commandOf_eq_ok_iff.1 hc
  obtain rfl : b.products = source := List.singleton_inj.1 hsource
  rw [hpresent] at hproducts
  rw [hfolder] at hchecks
  rw [hc, hcommand, b.run_oneStep] at hends
  refine ⟨?_, ?_, hproducts, s, hends, hperform⟩
  · have houtput := hchecks .output (Arguments.mem_order_iff.2 ⟨b.output, List.mem_cons_self⟩)
    rwa [b.value?_output.1, Option.getD_some, Setting.check_output] at houtput
  · intro path hpath
    have hmem : (Setting.fixes, path) ∈ b.oneStep.settings := by simp [oneStep, collecting, hpath]
    have hfixes := hchecks .fixes (Arguments.mem_order_iff.2 ⟨path, hmem⟩)
    rwa [b.value?_fixes.1, hpath, Option.getD_some, Setting.check_fixes] at hfixes

/-- The first step starts if the references have a path that can be looked up. -/
theorem ofArguments_firstStep (hsaved : '\x00' ∉ b.saved.text.toList)
    (hfixes : ∀ path, b.fixes = some path → Target.presentFile.check d path = .ok ())
    (hproducts : Target.presentFile.check d b.products = .ok ()) :
    Invocation.ofArguments d b.extractArguments = .ok (.command false
      (.extract (FilePath.ofText b.products) b.saved (b.fixes.map FilePath.ofText))) := by
  obtain ⟨rule, hrule, hoptions, hpresent, hanything, hrequired, hcommand⟩ := exists_rule_extract
  have hvalued : ∀ g ∈ b.firstStep.settings, g.1.IsValued rule.options := by
    rw [hoptions]
    exact fun g hg => Setting.isValued_extractRules (fst_mem_of_mem_firstStep hg)
  have hchecks : ∀ setting ∈ b.firstStep.order,
      setting.check rule.output d ((b.firstStep.value? setting).getD "") = .ok () := by
    intro setting hsetting
    obtain ⟨value, hmem⟩ := Arguments.mem_order_iff.1 hsetting
    have hsetting := fst_mem_of_mem_firstStep hmem
    simp only [List.mem_cons, List.not_mem_nil, or_false] at hsetting
    rcases hsetting with rfl | rfl
    · rw [hanything, b.value?_output.2.1, Option.getD_some, Setting.check_output]
      exact Target.check_anything hsaved
    · have hpath : b.fixes = some value := by simpa [firstStep, collecting] using hmem
      rw [b.value?_fixes.2, hpath, Option.getD_some, Setting.check_fixes]
      exact hfixes value hpath
  have hc : rule.commandOf d b.firstStep =
      .ok (.extract (FilePath.ofText b.products) b.saved (b.fixes.map FilePath.ofText)) := by
    refine CommandRule.commandOf_eq_ok_iff.2 ⟨hchecks, b.products, rfl, ?_, ?_, ?_⟩
    · rw [hpresent]
      exact hproducts
    · rw [hrequired]
      exact fun h => absurd h (by simp)
    · rw [hcommand, b.extract_firstStep]
  rw [extractArguments, ofArguments_spelled hrule hvalued, hc]
  rfl

/-- The second step starts after the first if the references lie in a file. -/
theorem perform_secondStep [Interpreter] [Device] {l : Location} {content : ByteArray}
    (hsaved : d.find b.saved = .ok (.file l content)) (houtput : '\x00' ∉ b.output.toList) :
    perform web d b.generateArguments =
      Ending.ofRun (((Command.generate b.saved (FilePath.ofText b.output) b.client).work web).run
        ⟨d, [], []⟩) := by
  obtain ⟨rule, hrule, hoptions, hfile, hfolder, hrequired, hcommand⟩ := exists_rule_generate
  have hvalued : ∀ g ∈ b.secondStep.settings, g.1.IsValued rule.options := by
    rw [hoptions]
    exact fun g hg => Setting.isValued_generateRules (fst_mem_of_mem_secondStep hg)
  have hchecks : ∀ setting ∈ b.secondStep.order,
      setting.check rule.output d ((b.secondStep.value? setting).getD "") = .ok () := by
    intro setting hsetting
    obtain ⟨value, hmem⟩ := Arguments.mem_order_iff.1 hsetting
    have hsetting := fst_mem_of_mem_secondStep hmem
    simp only [List.mem_cons, List.not_mem_nil, or_false] at hsetting
    rcases hsetting with rfl | rfl | rfl
    -- the folder of the client holds the saved references, so no file is there
    · rw [hfolder, b.value?_output.2.2, Option.getD_some, Setting.check_output]
      refine Target.check_folder houtput ?_
      intro l' content' hfind
      obtain ⟨l'', hl''⟩ := Disk.exists_folder_of_find hsaved hfind
      exact absurd hl'' (by simp)
    · rfl
    · rfl
  have hc : rule.commandOf d b.secondStep =
      .ok (.generate b.saved (FilePath.ofText b.output) b.client) := by
    refine CommandRule.commandOf_eq_ok_iff.2 ⟨hchecks, b.saved.text, rfl, ?_, ?_, ?_⟩
    · rw [hfile]
      refine Target.check_file (Disk.find_eq_ok_iff.1 hsaved).2.1 ?_
      rw [b.ofText_saved, hsaved]
      exact fun l' h => absurd h (by simp)
    · intro _
      rfl
    · rw [hcommand, b.generate_secondStep]
  rw [generateArguments, perform_spelled hrule hvalued hc]

/-- Where a build in one step succeeds the first of two steps saves the references, and the second
does what their file allows. -/
theorem exists_collected [Interpreter] [Device]
    (h : (perform web d b.runArguments).1.exitCode = 0) :
    ∃ references saved, b.collected? web d = some references
      ∧ perform web d b.extractArguments = (.done, saved)
      ∧ (∀ loaded, Reference.load (Reference.dump references) = .ok loaded →
        Client.files b.client loaded = Client.files b.client references →
          ∃ s, perform web saved.disk b.generateArguments = (.done, s)
            ∧ s.disk = (perform web d b.runArguments).2.disk)
      ∧ ∀ issues, Reference.load (Reference.dump references) = .rejected issues →
        ∃ why s, perform web saved.disk b.generateArguments = (.stopped why, s)
          ∧ s.disk = saved.disk := by
  obtain ⟨houtput, hfixes, hproducts, s, hrun, hperform⟩ := of_exitCode_oneStep h
  obtain ⟨references, found, saved, hfound, hsaved, told, hwritten, htold⟩ :=
    Command.exists_of_ends_run hrun
  obtain ⟨⟨l, hfile⟩, -⟩ := Work.of_ends_saveReferences hsaved
  have hzero : '\x00' ∉ b.saved.text.toList := (Disk.find_eq_ok_iff.1 hfile).2.1
  have hsecond : perform web saved.disk b.generateArguments = _ :=
    perform_secondStep hfile (Target.noZero_of_check houtput)
  refine ⟨references, saved, ?_, ?_, ?_, ?_⟩
  · rw [collected?, hfound]
    rfl
  · rw [perform_of_ofArguments (ofArguments_firstStep hzero hfixes hproducts),
      Command.ends_extract hfound hsaved]
    rfl
  · intro loaded hload hfiles
    obtain ⟨s', hs', hdisk⟩ := Command.ends_generate hsaved hload hfiles hwritten htold
    refine ⟨s', ?_, ?_⟩
    · rw [hsecond, hs']
      rfl
    · rw [hperform, hdisk]
  · intro issues hload
    obtain ⟨s', hs', hdisk⟩ := Command.generate_refused hsaved hload
    rw [hs'] at hsecond
    exact ⟨_, s', hsecond, hdisk⟩

/-- Where a build in one step succeeds the first of two steps does, too.  If the references that are
collected are shallow and in Unicode, without the characters U+FD800 to U+FDFFF that stand for
halves, or if what their text is loaded as gives the same files, the second step succeeds and leaves
the same disk; if their text is refused, it fails. -/
theorem steps_agree [Interpreter] [Device] (h : (perform web d b.runArguments).1.exitCode = 0) :
    (perform web d b.extractArguments).1.exitCode = 0
    ∧ ∃ references, b.collected? web d = some references
      ∧ (Reference.IsShallow references ∧ Reference.IsUnicode references → b.StepsAgree web d)
      ∧ (∀ loaded, Reference.load (Reference.dump references) = .ok loaded →
        Client.files b.client loaded = Client.files b.client references → b.StepsAgree web d)
      ∧ ((∃ issues, Reference.load (Reference.dump references) = .rejected issues) →
        (b.twoSteps web d).1.exitCode = 1) := by
  obtain ⟨references, saved, hcollected, hfirst, hloaded, hrefused⟩ := exists_collected h
  have htwo : b.twoSteps web d = perform web saved.disk b.generateArguments := by
    rw [twoSteps, hfirst]
  have hagree (loaded : List Reference)
      (hload : Reference.load (Reference.dump references) = .ok loaded)
      (hfiles : Client.files b.client loaded = Client.files b.client references) :
      b.StepsAgree web d := by
    obtain ⟨s, hs, hdisk⟩ := hloaded loaded hload hfiles
    rw [StepsAgree, htwo, hs]
    exact ⟨rfl, hdisk⟩
  refine ⟨?_, references, hcollected, ?_, hagree, ?_⟩
  · rw [hfirst]
    rfl
  · rintro ⟨hshallow, hunicode⟩
    exact hagree references (Reference.load_dump hshallow hunicode) rfl
  · rintro ⟨issues, hload⟩
    obtain ⟨why, s, hs, -⟩ := hrefused issues hload
    rw [htwo, hs]
    rfl

end

/-! ### A slug that is half a character -/

/-- The page of a type without fields, by its slug as JSON writes it. -/
def slugPage (slug : String) : String :=
  "<p id=readme-data-docs data-json='[\x7b\"type\":\"basic\",\"title\":\"A Object\",\"slug\":\""
    ++ slug ++ "\",\"body\":\"[block:parameters]\x7b\\\"data\\\":\x7b\x7d\x7d[/block]\"\x7d]'>"

/-- Pages by the slugs of their types. -/
def slugWeb : Web := fun slug => .ok ⟨200, "OK", slugPage slug⟩

/-- A product with one page. -/
def slugDisk (slug : String) : Disk :=
  ⟨[], [(["p"], .file ("[\x7bid: p, urls: ['" ++ slug ++ "']\x7d]").toUTF8)]⟩

def slugBuild : Build := ⟨"p", "o", none, none, none⟩

/-- A strict reader gives up in the text of the references. -/
def isUnreadable (references : List Reference) : Bool :=
  (Json.rereadValue? true Json.strictDepth (Reference.encoded references)).isNone

/-- The references are shallow and in Unicode. -/
def isReadable (references : List Reference) : Bool :=
  decide ((Reference.encoded references).Within (fun s => Text.isStorable s = true)
    Json.strictDepth)

/-- One step succeeds, and its references cannot be read again. -/
theorem half_collected :
    (perform slugWeb (slugDisk "\\ud800") slugBuild.runArguments).1.exitCode = 0
    ∧ (slugBuild.collected? slugWeb (slugDisk "\\ud800")).any isUnreadable = true := by
  decide +kernel

theorem whole_collected :
    (perform slugWeb (slugDisk "a") slugBuild.runArguments).1.exitCode = 0
    ∧ (slugBuild.collected? slugWeb (slugDisk "a")).any isReadable = true := by
  decide +kernel

/-- Half a character is saved as an escape that is refused when the file is read. -/
theorem half_refused :
    (perform slugWeb (slugDisk "\\ud800") slugBuild.runArguments).1.exitCode = 0
    ∧ (perform slugWeb (slugDisk "\\ud800") slugBuild.extractArguments).1.exitCode = 0
    ∧ (slugBuild.twoSteps slugWeb (slugDisk "\\ud800")).1.exitCode = 1 := by
  obtain ⟨hcode, hnone⟩ := half_collected
  obtain ⟨references, saved, hcollected, hfirst, -, hrefused⟩ := exists_collected hcode
  rw [hcollected, Option.any_some, isUnreadable, Option.isNone_iff_eq_none] at hnone
  obtain ⟨issues, hload⟩ := Reference.exists_rejected_of_reread hnone
  obtain ⟨why, s, hs, -⟩ := hrefused issues hload
  refine ⟨hcode, ?_, ?_⟩
  · rw [hfirst]
    rfl
  · rw [twoSteps, hfirst, hs]
    rfl

/-- With a slug of whole characters the steps agree. -/
theorem whole_agrees :
    (perform slugWeb (slugDisk "a") slugBuild.runArguments).1.exitCode = 0
    ∧ slugBuild.StepsAgree slugWeb (slugDisk "a") := by
  obtain ⟨hcode, hreadable⟩ := whole_collected
  obtain ⟨-, references, hcollected, hagree, -⟩ := steps_agree hcode
  rw [hcollected, Option.any_some, isReadable, decide_eq_true_eq] at hreadable
  exact ⟨hcode, hagree (Json.within_iff.1 hreadable)⟩

end Build

end ClientScribe.CommandLine
