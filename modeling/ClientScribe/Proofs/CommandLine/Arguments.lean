import ClientScribe.Proofs.CommandLine.Work

/-!
Arguments and how they are spelled: each option with its value and then, behind a lone pair of
hyphens, all else.  A command reads them back, checks them, and starts.
-/

namespace ClientScribe.CommandLine

namespace Setting

def spelling : Setting → String
  | .help => "--help"
  | .verbose => "-v"
  | .output => "-o"
  | .fixes => "--fixes"
  | .workers => "--workers"
  | .references => "--references"
  | .clientName => "--client-name"
  | .clientPath => "--client-path"

/-- Among these options the setting has a value, which follows its spelling. -/
structure IsValued (rules : List (OptionRule Setting)) (setting : Setting) : Prop where
  ne_help : setting ≠ .help
  taken : ∀ (given : Arguments Setting) (value : String) (rest : List String),
    Arguments.takeOption rules given setting.spelling.toList (value :: rest) =
      .ok (given.set setting value, rest)

theorem isValued_extractRules {setting : Setting} (h : setting ∈ [.output, .fixes]) :
    setting.IsValued extractRules := by
  simp only [List.mem_cons, List.not_mem_nil, or_false] at h
  rcases h with rfl | rfl <;> exact ⟨by decide, fun _ _ _ => rfl⟩

theorem isValued_generateRules {setting : Setting}
    (h : setting ∈ [.output, .clientName, .clientPath]) : setting.IsValued generateRules := by
  simp only [List.mem_cons, List.not_mem_nil, or_false] at h
  rcases h with rfl | rfl | rfl <;> exact ⟨by decide, fun _ _ _ => rfl⟩

theorem isValued_runRules {setting : Setting}
    (h : setting ∈ [.output, .fixes, .clientName, .clientPath]) : setting.IsValued runRules := by
  simp only [List.mem_cons, List.not_mem_nil, or_false] at h
  rcases h with rfl | rfl | rfl | rfl <;> exact ⟨by decide, fun _ _ _ => rfl⟩

end Setting

namespace Arguments

/-- The options with their values, then all others behind a lone pair of hyphens. -/
def spelled (given : Arguments Setting) : List String :=
  given.settings.flatMap (fun g => [g.1.spelling, g.2]) ++ "--" :: given.others

/-- One option is read with its value. -/
theorem readFrom_spelling {rules : List (OptionRule Setting)} {setting : Setting}
    (hsetting : setting.IsValued rules) (mixed : Bool) (rounds : Nat) (given : Arguments Setting)
    (value : String) (rest : List String) :
    readFrom rules mixed (rounds + 1) given (setting.spelling :: value :: rest) =
      readFrom rules mixed rounds (given.set setting value) rest := by
  have hends : setting.spelling ≠ "--" := by cases setting <;> decide
  have hoption : (setting.spelling.startsWith "-" && setting.spelling ≠ "-") = true := by
    cases setting <;> decide +kernel
  rw [readFrom, if_neg hends, if_pos hoption, hsetting.taken given value rest]

/-- All options are read, in order, and then the others. -/
theorem readFrom_spelled {rules : List (OptionRule Setting)} {settings : List (Setting × String)}
    (hsettings : ∀ g ∈ settings, g.1.IsValued rules) (others : List String) {rounds : Nat}
    (hrounds : settings.length < rounds) (before : List (Setting × String)) :
    readFrom rules true rounds ⟨before, []⟩ (spelled ⟨settings, others⟩) =
      .ok ⟨before ++ settings, others⟩ := by
  obtain ⟨rounds, rfl⟩ : ∃ n, rounds = n + 1 := Nat.exists_eq_succ_of_ne_zero (by omega)
  induction settings generalizing rounds before with
  | nil =>
    rw [spelled, List.flatMap_nil, List.nil_append, readFrom, if_pos rfl, List.append_nil,
      List.nil_append]
  | cons g settings ih =>
    rw [List.forall_mem_cons] at hsettings
    rw [List.length_cons] at hrounds
    obtain ⟨rounds, rfl⟩ : ∃ n, rounds = n + 1 := Nat.exists_eq_succ_of_ne_zero (by omega)
    have hcons : spelled ⟨g :: settings, others⟩ =
        g.1.spelling :: g.2 :: spelled ⟨settings, others⟩ := rfl
    have hrest := ih hsettings.2 (before ++ [g]) rounds (by omega)
    rw [List.append_assoc, List.singleton_append] at hrest
    rw [hcons, readFrom_spelling hsettings.1]
    exact hrest

/-- Arguments are read back from their spelling. -/
theorem read_spelled {rules : List (OptionRule Setting)} {given : Arguments Setting}
    (hsettings : ∀ g ∈ given.settings, g.1.IsValued rules) :
    read rules true given.spelled = .ok given := by
  have hlength : given.settings.length < given.spelled.length := by
    simp only [spelled, List.length_append, List.length_flatMap, List.length_cons,
      List.length_nil, List.map_const', List.sum_replicate_nat]
    omega
  exact readFrom_spelled hsettings given.others hlength []

theorem mem_order_iff {given : Arguments Setting} {setting : Setting} :
    setting ∈ given.order ↔ ∃ value, (setting, value) ∈ given.settings := by
  rw [order, List.mem_eraseDups, List.mem_map]
  constructor
  · rintro ⟨g, hg, rfl⟩
    exact ⟨g.2, hg⟩
  · rintro ⟨value, hg⟩
    exact ⟨_, hg, rfl⟩

end Arguments

/-! ### Checks -/

namespace Target

variable {d : Disk} {path : String}

theorem noZero_of_check {target : Target} (h : target.check d path = .ok ()) :
    '\x00' ∉ path.toList := by
  intro hzero
  unfold check at h
  rw [if_pos (by simpa using hzero)] at h
  exact absurd h (by simp)

theorem find_of_existing {spot : Spot} (h : existing d path = some spot) :
    d.find (FilePath.ofText path) = .ok spot := by
  unfold existing at h
  split at h
  · exact absurd h (by simp)
  · cases hfind : d.find (FilePath.ofText path) with
    | error fault =>
      rw [hfind] at h
      exact absurd h (by simp)
    | ok found =>
      rw [hfind] at h
      cases found with
      | folder l => rw [← Option.some.inj h]
      | file l content =>
        dsimp only at h
        split at h
        · exact absurd h (by simp)
        · rw [← Option.some.inj h]
      | free l => exact absurd h (by simp)

theorem check_anything (hzero : '\x00' ∉ path.toList) : anything.check d path = .ok () := by
  unfold check
  rw [if_neg (by simpa using hzero)]

/-- A path that leads to no folder can name a file. -/
theorem check_file (hzero : '\x00' ∉ path.toList)
    (hfind : ∀ l, d.find (FilePath.ofText path) ≠ .ok (.folder l)) :
    file.check d path = .ok () := by
  unfold check
  rw [if_neg (by simpa using hzero)]
  cases hspot : existing d path with
  | none => rfl
  | some spot =>
    cases spot with
    | folder l => exact absurd (find_of_existing hspot) (hfind l)
    | file l content => rfl
    | free l => rfl

/-- A path that leads to no file can name a folder. -/
theorem check_folder (hzero : '\x00' ∉ path.toList)
    (hfind : ∀ l content, d.find (FilePath.ofText path) ≠ .ok (.file l content)) :
    folder.check d path = .ok () := by
  unfold check
  rw [if_neg (by simpa using hzero)]
  cases hspot : existing d path with
  | none => rfl
  | some spot =>
    cases spot with
    | folder l => rfl
    | file l content => exact absurd (find_of_existing hspot) (hfind l content)
    | free l => rfl

end Target

@[simp] theorem Setting.check_output (target : Target) (d : Disk) (value : String) :
    Setting.output.check target d value = target.check d value := rfl

@[simp] theorem Setting.check_fixes (target : Target) (d : Disk) (value : String) :
    Setting.fixes.check target d value = Target.presentFile.check d value := rfl

theorem forIn_eq_ok_iff {α ε : Type} {check : α → Except ε Unit} {as : List α} :
    (forIn as PUnit.unit fun a _ => do
      check a
      pure (ForInStep.yield PUnit.unit)) = .ok PUnit.unit ↔ ∀ a ∈ as, check a = .ok () := by
  induction as with
  | nil => simp [pure, Except.pure]
  | cons a as ih =>
    rw [List.forIn_cons, List.forall_mem_cons]
    cases hcheck : check a with
    | error fault => simp [bind, Except.bind]
    | ok u => simpa [bind, Except.bind, pure, Except.pure] using ih

/-- Arguments make a command if all values pass their checks, and there is one operand, which passes
its own, and the output is named where it has to be. -/
theorem CommandRule.commandOf_eq_ok_iff {rule : CommandRule} {d : Disk} {given : Arguments Setting}
    {c : Command} :
    rule.commandOf d given = .ok c ↔
      (∀ setting ∈ given.order,
        setting.check rule.output d ((given.value? setting).getD "") = .ok ())
      ∧ ∃ source, given.others = [source] ∧ rule.source.check d source = .ok ()
        ∧ (rule.outputRequired = true → given.has .output = true)
        ∧ c = rule.command (FilePath.ofText source) given := by
  have hchecks := @forIn_eq_ok_iff _ _
    (fun setting : Setting => setting.check rule.output d ((given.value? setting).getD ""))
    given.order
  rw [commandOf, ← hchecks]
  cases forIn given.order PUnit.unit (fun (setting : Setting) (_ : PUnit) => do
      setting.check rule.output d ((given.value? setting).getD "")
      pure (ForInStep.yield PUnit.unit)) with
  | error fault => simp [bind, Except.bind]
  | ok u =>
    simp only [bind, Except.bind]
    cases given.others with
    | nil => simp [throw, throwThe, MonadExceptOf.throw]
    | cons source others =>
      cases hsource : rule.source.check d source with
      | error fault => simp [hsource]
      | ok u =>
        cases hrequired : rule.outputRequired <;> cases hhas : given.has .output <;>
          cases others <;>
          simp [throw, throwThe, MonadExceptOf.throw, pure, Except.pure, hsource, eq_comm]

/-! ### Starting -/

theorem exists_rule_extract : ∃ rule, commandRules.lookup "extract" = some rule
    ∧ rule.options = Setting.extractRules ∧ rule.source = .presentFile ∧ rule.output = .anything
    ∧ rule.outputRequired = false ∧ rule.command = extract :=
  ⟨_, rfl, rfl, rfl, rfl, rfl, rfl⟩

theorem exists_rule_generate : ∃ rule, commandRules.lookup "generate" = some rule
    ∧ rule.options = Setting.generateRules ∧ rule.source = .file ∧ rule.output = .folder
    ∧ rule.outputRequired = true ∧ rule.command = generate :=
  ⟨_, rfl, rfl, rfl, rfl, rfl, rfl⟩

theorem exists_rule_run : ∃ rule, commandRules.lookup "run" = some rule
    ∧ rule.options = Setting.runRules ∧ rule.source = .presentFile ∧ rule.output = .folder
    ∧ rule.outputRequired = true ∧ rule.command = run :=
  ⟨_, rfl, rfl, rfl, rfl, rfl, rfl⟩

/-- No name of a command looks like an option. -/
theorem startsWith_of_lookup {name : String} {rule : CommandRule}
    (h : commandRules.lookup name = some rule) : name.startsWith "-" = false := by
  obtain ⟨before, after, hrules, -⟩ := List.lookup_eq_some_iff.1 h
  have hname : name ∈ commandRules.map Prod.fst := by simp [hrules]
  have hnames : commandRules.map Prod.fst = ["extract", "generate", "run"] := rfl
  rw [hnames] at hname
  simp only [List.mem_cons, List.not_mem_nil, or_false] at hname
  rcases hname with rfl | rfl | rfl <;> decide +kernel

section

variable {web : Web} {d : Disk} {name : String} {rule : CommandRule}
  {given : Arguments Setting}

/-- A command with its options and its operand is what its rule makes of them. -/
theorem ofArguments_spelled (hrule : commandRules.lookup name = some rule)
    (hsettings : ∀ g ∈ given.settings, g.1.IsValued rule.options) :
    Invocation.ofArguments d (name :: given.spelled) =
      (rule.commandOf d given).map (.command false) := by
  have hprogram : Arguments.read Setting.programRules false
      (name :: given.spelled) =
      .ok ⟨[], name :: given.spelled⟩ := by
    have hname : name ≠ "--" := by
      rintro rfl
      exact absurd (startsWith_of_lookup hrule) (by decide +kernel)
    rw [Arguments.read, List.length_cons, Arguments.readFrom, if_neg hname,
      startsWith_of_lookup hrule]
    rfl
  have hgiven : given.has .help = false := by
    rw [Arguments.has, List.any_eq_false]
    intro g hg
    simpa using (hsettings g hg).ne_help
  have hnone (others : List String) :
      (⟨[], others⟩ : Arguments Setting).has .help = false := rfl
  rw [Invocation.ofArguments, hprogram]
  simp only [bind, Except.bind, hnone, hrule, CommandRule.read,
    Arguments.read_spelled hsettings, hgiven]
  cases rule.commandOf d given <;> rfl

/-- How the program ends with a command. -/
def Ending.ofRun : Except Stop Unit × Session → Ending × Session
  | (.ok (), s) => (.done, s)
  | (.error why, s) => (.stopped why, s)

/-- A command that its arguments make runs, and the program ends as the command does. -/
theorem perform_of_ofArguments [Interpreter] [Device] {arguments : List String} {verbose : Bool}
    {c : Command} (h : Invocation.ofArguments d arguments = .ok (.command verbose c)) :
    perform web d arguments = Ending.ofRun ((c.work web).run ⟨d, [], []⟩) := by
  rw [perform, h]
  rfl

theorem perform_spelled [Interpreter] [Device] (hrule : commandRules.lookup name = some rule)
    (hsettings : ∀ g ∈ given.settings, g.1.IsValued rule.options) {c : Command}
    (hc : rule.commandOf d given = .ok c) :
    perform web d (name :: given.spelled) =
      Ending.ofRun ((c.work web).run ⟨d, [], []⟩) := by
  have hcommand : Invocation.ofArguments d (name :: given.spelled) = .ok (.command false c) := by
    rw [ofArguments_spelled hrule hsettings, hc]
    rfl
  exact perform_of_ofArguments hcommand

/-- A program that succeeds has run its command to the end. -/
theorem exists_ends_of_exitCode [Interpreter] [Device]
    (hrule : commandRules.lookup name = some rule)
    (hsettings : ∀ g ∈ given.settings, g.1.IsValued rule.options)
    (h : (perform web d (name :: given.spelled)).1.exitCode = 0) :
    ∃ c s, rule.commandOf d given = .ok c
      ∧ Work.Ends (c.work web) ⟨d, [], []⟩ () s
      ∧ perform web d (name :: given.spelled) = (.done, s) := by
  cases hc : rule.commandOf d given with
  | error fault =>
    rw [perform, ofArguments_spelled hrule hsettings, hc] at h
    cases fault <;> exact absurd h (by simp [Except.map, Ending.exitCode])
  | ok c =>
    rw [perform_spelled hrule hsettings hc] at h ⊢
    rcases hrun : (c.work web).run ⟨d, [], []⟩ with ⟨result, s⟩
    rw [hrun] at h
    cases result with
    | ok u => exact ⟨c, s, rfl, hrun, rfl⟩
    | error why => exact absurd h (by simp [Ending.ofRun, Ending.exitCode])

end

end ClientScribe.CommandLine
