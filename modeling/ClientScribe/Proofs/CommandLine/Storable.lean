import ClientScribe.Proofs.CommandLine.Arguments
import ClientScribe.Proofs.Disk.FilePath
import ClientScribe.Proofs.Json.WrittenString

/-!
Arguments that can be stored, that is, arguments in Unicode without the private characters that
stand for halves of surrogate pairs.  What is read from them is made of their characters, so the
path that a command saves its references at can be said.
-/

namespace ClientScribe

namespace Text

theorem isStorable_of_subset {s t : String} (h : s.toList ⊆ t.toList)
    (ht : isStorable t = true) : isStorable s = true :=
  isStorable_iff.2 fun c hc => isStorable_iff.1 ht c (h hc)

theorem isStorable_ofList_of_subset {s : List Char} {t : String} (h : s ⊆ t.toList)
    (ht : isStorable t = true) : isStorable (String.ofList s) = true :=
  isStorable_of_subset (by rwa [String.toList_ofList]) ht

/-- A piece is made of characters of the text. -/
theorem subset_of_mem_splitOn {sep : Char} {s p : List Char} (h : p ∈ splitOn sep s) : p ⊆ s := by
  induction s generalizing p with
  | nil =>
    rw [splitOn, List.mem_singleton] at h
    rw [h]
    exact List.nil_subset []
  | cons c s ih =>
    rw [splitOn] at h
    split at h
    · rcases List.mem_cons.1 h with rfl | h
      · exact List.nil_subset _
      · exact List.subset_cons_of_subset c (ih h)
    · split at h
      · rw [List.mem_singleton.1 h]
        exact List.cons_subset_cons c (List.nil_subset s)
      · rename_i q qs hqs
        rw [hqs] at ih
        rcases List.mem_cons.1 h with rfl | h
        · exact List.cons_subset_cons c (ih List.mem_cons_self)
        · exact List.subset_cons_of_subset c (ih (List.mem_cons_of_mem q h))

end Text

namespace FilePath

/-- Every name on the path can be stored. -/
structure IsStorable (p : FilePath) : Prop where
  root : Text.isStorable p.root = true
  segments : ∀ s ∈ p.segments, Text.isStorable s = true

theorem isStorable_ofText {path : String} (h : Text.isStorable path = true) :
    (ofText path).IsStorable := by
  refine ⟨?_, ?_⟩
  · show Text.isStorable (rootOf path.toList) = true
    rw [rootOf]
    split <;> decide
  · intro s hs
    obtain ⟨piece, hpiece, rfl⟩ := List.mem_map.1 hs
    exact Text.isStorable_ofList_of_subset
      (Text.subset_of_mem_splitOn (List.mem_filter.1 hpiece).1) h

theorem IsStorable.join {a b : FilePath} (ha : a.IsStorable) (hb : b.IsStorable) :
    (a.join b).IsStorable := by
  rw [FilePath.join]
  split
  · refine ⟨ha.root, ?_⟩
    intro s hs
    exact (List.mem_append.1 hs).elim (ha.segments s) (hb.segments s)
  · exact hb

/-- What stands between texts is all that joining them adds. -/
theorem isStorable_intercalate {sep : String} (hsep : Text.isStorable sep = true)
    {parts : List String} (h : ∀ s ∈ parts, Text.isStorable s = true) :
    Text.isStorable (sep.intercalate parts) = true := by
  induction parts with
  | nil => rfl
  | cons s parts ih =>
    rw [List.forall_mem_cons] at h
    cases parts with
    | nil =>
      rw [String.intercalate_singleton]
      exact h.1
    | cons t parts =>
      rw [String.intercalate_cons_of_ne_nil (List.cons_ne_nil t parts)]
      exact Text.isStorable_append.2 ⟨Text.isStorable_append.2 ⟨h.1, hsep⟩, ih h.2⟩

theorem IsStorable.text {p : FilePath} (h : p.IsStorable) : Text.isStorable p.text = true := by
  rw [FilePath.text]
  split
  · decide
  · exact Text.isStorable_append.2 ⟨h.root, isStorable_intercalate (by decide) h.segments⟩

end FilePath

namespace CommandLine

namespace Arguments

/-- Every value and every other argument can be stored. -/
structure IsStorable {σ : Type} (given : Arguments σ) : Prop where
  values : ∀ g ∈ given.settings, Text.isStorable g.2 = true
  others : ∀ a ∈ given.others, Text.isStorable a = true

section

variable {σ : Type} {given : Arguments σ} {rules : List (OptionRule σ)} {rest : List String}

theorem IsStorable.set (h : given.IsStorable) (setting : σ) {value : String}
    (hvalue : Text.isStorable value = true) : (given.set setting value).IsStorable := by
  refine ⟨?_, h.others⟩
  rw [Arguments.set, List.forall_mem_append, List.forall_mem_singleton]
  exact ⟨h.values, hvalue⟩

theorem IsStorable.append (h : given.IsStorable) {others : List String}
    (hothers : ∀ a ∈ others, Text.isStorable a = true) :
    IsStorable { given with others := given.others ++ others } :=
  ⟨h.values, List.forall_mem_append.2 ⟨h.others, hothers⟩⟩

/-- What an option takes, and what it leaves for later, can be stored. -/
def TakesStorable (taken : Except UsageFault (Arguments σ × List String)) : Prop :=
  ∀ given rest, taken = .ok (given, rest) →
    given.IsStorable ∧ ∀ a ∈ rest, Text.isStorable a = true

theorem TakesStorable.ok (h : given.IsStorable) (hrest : ∀ a ∈ rest, Text.isStorable a = true) :
    TakesStorable (.ok (given, rest)) := by
  intro given' rest' heq
  cases heq
  exact ⟨h, hrest⟩

theorem TakesStorable.error (fault : UsageFault) :
    TakesStorable (.error fault : Except UsageFault (Arguments σ × List String)) := by
  intro given rest heq
  cases heq

theorem takesStorable_takeNext (h : given.IsStorable) (rule : OptionRule σ) (name : String)
    (hrest : ∀ a ∈ rest, Text.isStorable a = true) :
    TakesStorable (given.takeNext rule name rest) := by
  cases rest with
  | nil => exact .error _
  | cons value rest =>
    rw [List.forall_mem_cons] at hrest
    exact .ok (h.set rule.sets hrest.1) hrest.2

theorem takesStorable_takeShort {cs : List Char} {argument : String} (hcs : cs ⊆ argument.toList)
    (hargument : Text.isStorable argument = true) (h : given.IsStorable)
    (hrest : ∀ a ∈ rest, Text.isStorable a = true) :
    TakesStorable (takeShort rules rest given cs) := by
  induction cs generalizing given with
  | nil => exact .ok h hrest
  | cons c cs ih =>
    have hbehind : cs ⊆ argument.toList := (List.cons_subset.1 hcs).2
    rw [takeShort]
    split
    · exact .error _
    · rename_i rule _
      split
      · exact ih hbehind (h.set rule.sets (by decide))
      · split
        · exact takesStorable_takeNext h rule _ hrest
        · exact .ok (h.set rule.sets (Text.isStorable_ofList_of_subset hbehind hargument)) hrest

theorem takesStorable_takeLong (h : given.IsStorable) (name : String) {value : Option String}
    (hvalue : ∀ v ∈ value, Text.isStorable v = true)
    (hrest : ∀ a ∈ rest, Text.isStorable a = true) :
    TakesStorable (takeLong rules given name value rest) := by
  unfold takeLong
  split
  · exact .error _
  · rename_i rule v _
    split
    · exact .ok (h.set rule.sets (hvalue v rfl)) hrest
    · exact .error _
  · rename_i rule _
    split
    · exact takesStorable_takeNext h rule name hrest
    · exact .ok (h.set rule.sets (by decide)) hrest

/-- The value behind an equals sign is the end of the argument. -/
theorem isStorable_splitValue {argument : String} (hargument : Text.isStorable argument = true) :
    ∀ v ∈ (splitValue argument.toList).2, Text.isStorable v = true := by
  intro v hv
  rw [splitValue] at hv
  split at hv
  · exact absurd hv (Option.not_mem_none v)
  · rename_i c value hdrop
    obtain rfl := Option.some.inj hv
    have hsuffix : c :: value <:+ argument.toList := by
      rw [← hdrop]
      exact List.dropWhile_suffix _
    exact Text.isStorable_ofList_of_subset
      (fun x hx => hsuffix.subset (List.mem_cons_of_mem c hx)) hargument

theorem takesStorable_takeOption {argument : String} (hargument : Text.isStorable argument = true)
    (h : given.IsStorable) (hrest : ∀ a ∈ rest, Text.isStorable a = true) :
    TakesStorable (takeOption rules given argument.toList rest) := by
  unfold takeOption
  split
  · exact takesStorable_takeLong h _ (isStorable_splitValue hargument) hrest
  · exact takesStorable_takeShort (List.drop_subset 1 _) hargument h hrest

theorem isStorable_readFrom {mixed : Bool} {rounds : Nat} {arguments : List String}
    {read : Arguments σ} (h : given.IsStorable)
    (harguments : ∀ a ∈ arguments, Text.isStorable a = true)
    (hread : readFrom rules mixed rounds given arguments = .ok read) : read.IsStorable := by
  induction rounds generalizing given arguments with
  | zero =>
    rw [readFrom] at hread
    rw [← Except.ok.inj hread]
    exact h.append harguments
  | succ rounds ih =>
    cases arguments with
    | nil =>
      rw [readFrom] at hread
      · rw [← Except.ok.inj hread]
        exact h.append harguments
      · exact Nat.succ_ne_zero rounds
    | cons a rest =>
      rw [List.forall_mem_cons] at harguments
      rw [readFrom] at hread
      split at hread
      · rw [← Except.ok.inj hread]
        exact h.append harguments.2
      · split at hread
        · split at hread
          · rename_i taken rest' htaken
            obtain ⟨htaken, hrest'⟩ :=
              takesStorable_takeOption harguments.1 h harguments.2 _ _ htaken
            exact ih htaken hrest' hread
          · exact absurd hread (by simp)
        · split at hread
          · exact ih (h.append (List.forall_mem_singleton.2 harguments.1)) harguments.2 hread
          · rw [← Except.ok.inj hread]
            exact h.append (List.forall_mem_cons.2 harguments)

theorem isStorable_read {mixed : Bool} {arguments : List String} {given : Arguments σ}
    (harguments : ∀ a ∈ arguments, Text.isStorable a = true)
    (h : read rules mixed arguments = .ok given) : given.IsStorable :=
  isStorable_readFrom ⟨by simp, by simp⟩ harguments h

/-- The value of a setting was given. -/
theorem IsStorable.value [DecidableEq σ] (h : given.IsStorable) {setting : σ} {value : String}
    (hvalue : given.value? setting = some value) : Text.isStorable value = true := by
  obtain ⟨g, hg, rfl⟩ := Option.map_eq_some_iff.1 hvalue
  exact h.values g (List.mem_filter.1 (List.mem_of_getLast? hg)).1

end

end Arguments

/-! ### Commands -/

/-- Where a command saves references. -/
def Command.saved? : Command → Option FilePath
  | .extract _ output _ => some output
  | .generate _ _ _ => none
  | .run _ _ target _ _ => some target

/-- A path that is given or else the usual one. -/
theorem isStorable_pathOf {given : Arguments Setting} (h : given.IsStorable) (setting : Setting)
    {usual : FilePath} (husual : usual.IsStorable) :
    ((pathOf? given setting).getD usual).IsStorable := by
  rw [pathOf?]
  cases hvalue : given.value? setting with
  | none => exact husual
  | some value => exact FilePath.isStorable_ofText (h.value hvalue)

theorem isStorable_usualReferences : (FilePath.ofText usualReferences).IsStorable :=
  FilePath.isStorable_ofText (by decide)

theorem isStorable_saved {given : Arguments Setting} (h : given.IsStorable) {name : String}
    {rule : CommandRule} (hrule : commandRules.lookup name = some rule) (source : FilePath) :
    ∀ p ∈ (rule.command source given).saved?, p.IsStorable := by
  obtain ⟨before, after, hrules, -⟩ := List.lookup_eq_some_iff.1 hrule
  have hmem : rule.command ∈ commandRules.map fun r => r.2.command :=
    List.mem_map.2 ⟨(name, rule), by simp [hrules], rfl⟩
  have hcommands : (commandRules.map fun r => r.2.command) = [extract, generate, run] := rfl
  rw [hcommands] at hmem
  simp only [List.mem_cons, List.not_mem_nil, or_false] at hmem
  have hfolder : (outputFolder given).IsStorable :=
    isStorable_pathOf h .output (FilePath.isStorable_ofText (by decide))
  rcases hmem with hcommand | hcommand | hcommand <;> rw [hcommand] <;> intro p hp
  · obtain rfl := Option.some.inj hp
    exact isStorable_pathOf h .output isStorable_usualReferences
  · exact absurd hp (Option.not_mem_none p)
  · obtain rfl := Option.some.inj hp
    exact isStorable_pathOf h .references (hfolder.join isStorable_usualReferences)

theorem exists_of_bind_eq_ok {α β : Type} {x : Except UsageFault α} {f : α → Except UsageFault β}
    {b : β} (h : (x >>= f) = .ok b) : ∃ a, x = .ok a ∧ f a = .ok b := by
  cases x with
  | error fault => exact absurd h (by simp [bind, Except.bind])
  | ok a => exact ⟨a, rfl, h⟩

/-- What a rule reads as a command is the command of the rule. -/
theorem CommandRule.exists_of_read {rule : CommandRule} {d : Disk} {told verbose : Bool}
    {arguments : List String} {c : Command}
    (h : rule.read d told arguments = .ok (.command verbose c)) :
    ∃ given source, Arguments.read rule.options true arguments = .ok given
      ∧ c = rule.command (FilePath.ofText source) given := by
  obtain ⟨given, hgiven, h⟩ := exists_of_bind_eq_ok h
  split at h
  · exact absurd (Except.ok.inj h) (by simp)
  · obtain ⟨made, hmade, h⟩ := exists_of_bind_eq_ok h
    obtain ⟨-, source, -, -, -, rfl⟩ := CommandRule.commandOf_eq_ok_iff.1 hmade
    cases h
    exact ⟨given, source, hgiven, rfl⟩

theorem unknownCommand_ne {name : String} {arguments : List String} {verbose : Bool}
    {c : Command} : unknownCommand name arguments ≠ .ok (.command verbose c) := by
  intro h
  obtain ⟨given, -, h⟩ := exists_of_bind_eq_ok h
  split at h
  · exact absurd (Except.ok.inj h) (by simp)
  · exact absurd h (by simp)

/-- A command is one of those that there are, made from arguments that were given. -/
theorem exists_of_ofArguments {d : Disk} {arguments : List String} {verbose : Bool} {c : Command}
    (h : Invocation.ofArguments d arguments = .ok (.command verbose c)) :
    ∃ before given name rest rule source,
      Arguments.read Setting.programRules false arguments = .ok before
      ∧ before.others = name :: rest ∧ commandRules.lookup name = some rule
      ∧ Arguments.read rule.options true rest = .ok given
      ∧ c = rule.command (FilePath.ofText source) given := by
  obtain ⟨before, hbefore, h⟩ := exists_of_bind_eq_ok h
  split at h
  · exact absurd (Except.ok.inj h) (by simp)
  · split at h
    · exact absurd h (by simp)
    · rename_i name rest hothers
      split at h
      · rename_i rule hrule
        obtain ⟨given, source, hgiven, hc⟩ := CommandRule.exists_of_read h
        exact ⟨before, given, name, rest, rule, source, hbefore, hothers, hrule, hgiven, hc⟩
      · exact absurd h unknownCommand_ne

/-- The path of the references can be said if the arguments can be stored. -/
theorem isStorable_of_ofArguments {d : Disk} {arguments : List String} {verbose : Bool}
    {c : Command} (harguments : ∀ a ∈ arguments, Text.isStorable a = true)
    (h : Invocation.ofArguments d arguments = .ok (.command verbose c)) :
    ∀ p ∈ c.saved?, Text.isStorable p.text = true := by
  obtain ⟨before, given, name, rest, rule, source, hbefore, hothers, hrule, hgiven, rfl⟩ :=
    exists_of_ofArguments h
  have hrest := (Arguments.isStorable_read harguments hbefore).others
  rw [hothers, List.forall_mem_cons] at hrest
  intro p hp
  exact (isStorable_saved (Arguments.isStorable_read hrest.2 hgiven) hrule _ p hp).text

end CommandLine

end ClientScribe
