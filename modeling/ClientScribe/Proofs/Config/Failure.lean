import ClientScribe.CommandLine.Run
import ClientScribe.Proofs.Yaml.Compose
import ClientScribe.Proofs.Yaml.Construct
import ClientScribe.Proofs.Yaml.Values

/-!
Faults in configuration files of which nothing is told.  Whatever breaks the rules of the notation
or has the wrong shape is told; bytes that are no text are not, and neither are values that the
notation admits and that do not exist.  What stands in a file that has such a value can be named.
-/

namespace ClientScribe

namespace Yaml

/-- Why a text in which every line end is one character has no document. -/
inductive DocumentFault [Interpreter] (text : List Char) : Fault → Prop
  | cut {fault : Fault} (blame : CutFault text fault) : DocumentFault text fault
  | nesting (deep : Interpreter.documentDepth ≤ (tokens text).length) : DocumentFault text .endless
  | construct {fault : Fault} {g : Graph} {root : Nat}
    (graph : Graph.ofTokens (tokens text) = .ok (g, some root)) (blame : ConstructFault g fault) :
    DocumentFault text fault

theorem documentFault_of_ofLines [Interpreter] {text : List Char} {fault : Fault}
    (h : Document.ofLines text = .error fault) : DocumentFault text fault := by
  rw [Document.ofLines] at h
  split at h
  · cases htokens : Graph.ofTokens (tokens text) with
    | error f =>
      rw [htokens] at h
      cases h
      cases composeFault_of_ofTokens htokens with
      | malformed => exact .cut .malformed
      | token hmem hbroken => exact .cut (cutFault_of_mem_tokens hmem hbroken)
      | nesting hdeep => exact .nesting hdeep
    | ok q =>
      obtain ⟨g, root⟩ := q
      rw [htokens] at h
      cases root with
      | none => cases h
      | some root => exact .construct htokens (constructFault_of_ofGraph h)
  · cases h
    exact .cut .malformed

/-- The keys of the mappings in a document that is read are atoms. -/
theorem Document.isSome_atom?_of_read [Interpreter] {text : String} {d : Document} {i : Nat}
    {es : List (Nat × Nat)} {e : Nat × Nat} (h : Document.read text = .ok d)
    (hi : d.entries? i = some es) (he : e ∈ es) : (d.atom? e.1).isSome = true := by
  rw [Document.read, Document.ofLines] at h
  split at h
  · cases htokens : Graph.ofTokens (tokens (Text.unifyLineEnds text.toList)) with
    | error f =>
      rw [htokens] at h
      cases h
    | ok q =>
      obtain ⟨g, root⟩ := q
      rw [htokens] at h
      cases root with
      | none =>
        cases h
        have hnone : Document.null.entries? i = none := by
          unfold entries? null
          rcases i with _ | i <;> rfl
        exact absurd (hnone.symm.trans hi) (by simp)
      | some root => exact isSome_atom?_of_entries? h hi he
  · cases h

end Yaml

/-- A fault of which nothing is told, whatever the file is called. -/
def ConfigFault.IsUnexpected (fault : ConfigFault) : Prop := ∀ file, fault.complaint? file = none

theorem ConfigFault.isUnexpected_iff {fault : ConfigFault} : fault.IsUnexpected ↔
    fault = .notText ∨ ∃ f, f ≠ .malformed ∧ fault = .document f := by
  constructor
  · intro h
    cases fault with
    | notText => exact .inl rfl
    | document f =>
      refine .inr ⟨f, ?_, rfl⟩
      rintro rfl
      exact absurd (h "") (by simp [complaint?])
    | _ => exact absurd (h "") (by simp [complaint?])
  · rintro (rfl | ⟨f, hf, rfl⟩) file
    · rfl
    · cases f with
      | malformed => exact absurd rfl hf
      | _ => rfl

theorem ConfigFault.isUnexpected_iff_complaint? {fault : ConfigFault} (file : String) :
    fault.IsUnexpected ↔ fault.complaint? file = none := by
  refine ⟨fun h => h file, fun h => isUnexpected_iff.2 ?_⟩
  unfold complaint? at h
  split at h
  · exact absurd h (by simp)
  · exact .inl rfl
  · exact absurd h (by simp)
  · exact .inr ⟨_, ‹_›, rfl⟩
  · exact absurd h (by simp)
  · exact absurd h (by simp)
  · exact absurd h (by simp)
  · exact absurd h (by simp)

instance (fault : ConfigFault) : Decidable fault.IsUnexpected :=
  decidable_of_iff _ (ConfigFault.isUnexpected_iff_complaint? "").symm

namespace Config

variable {α : Type}

/-- What is read of a file is neither a value nor a fault that is told. -/
def Escapes : Except ConfigFault α → Prop
  | .ok _ => False
  | .error fault => fault.IsUnexpected

instance : (result : Except ConfigFault α) → Decidable (Escapes result)
  | .ok _ => inferInstanceAs (Decidable False)
  | .error fault => inferInstanceAs (Decidable fault.IsUnexpected)

/-- What is read of a file is a value, or a fault that is told. -/
def IsClean (result : Except ConfigFault α) : Prop :=
  ∀ fault, result = .error fault → ∀ file, (fault.complaint? file).isSome = true

theorem isClean_iff_not_escapes {result : Except ConfigFault α} :
    IsClean result ↔ ¬ Escapes result := by
  cases result with
  | ok a => exact iff_of_true (by rintro _ ⟨⟩) id
  | error fault =>
    constructor
    · intro h hescapes
      have hsome := h fault rfl ""
      rw [hescapes ""] at hsome
      cases hsome
    · intro h other hother file
      obtain rfl := Except.error.inj hother
      rw [← Option.ne_none_iff_isSome]
      exact fun hnone => h ((ConfigFault.isUnexpected_iff_complaint? file).2 hnone)

/-- A file whose bytes are no text, or hold a document that has no value though it keeps the
rules. -/
inductive IsStray [Interpreter] : Source → Prop
  | bytes {bytes : ByteArray} (bad : Text.ofBytes? bytes = none) : IsStray (.ok bytes)
  | value {bytes : ByteArray} {text : String} {fault : Yaml.Fault}
    (holds : Text.ofBytes? bytes = some text) (read : Yaml.Document.read text = .error fault)
    (kept : fault ≠ .malformed) : IsStray (.ok bytes)

theorem escapes_document_iff [Interpreter] (source : Source) :
    Escapes (document source) ↔ IsStray source := by
  rcases source with fault | bytes
  · exact iff_of_false (fun h => absurd (h "") (by simp [ConfigFault.complaint?])) (by rintro ⟨⟩)
  · cases htext : Text.ofBytes? bytes with
    | none =>
      refine iff_of_true ?_ (.bytes htext)
      simp only [document, htext]
      exact fun _ => rfl
    | some text =>
      simp only [document, htext]
      cases hread : Yaml.Document.read text with
      | ok d =>
        refine iff_of_false id ?_
        rintro (hbad | ⟨hholds, hfault, -⟩)
        · exact absurd (htext.symm.trans hbad) (by simp)
        · obtain rfl := Option.some.inj (htext.symm.trans hholds)
          exact absurd (hread.symm.trans hfault) (by simp)
      | error fault =>
        refine ConfigFault.isUnexpected_iff.trans ⟨?_, ?_⟩
        · rintro (h | ⟨f, hf, h⟩)
          · cases h
          · cases h
            exact .value htext hread hf
        · rintro (hbad | ⟨hholds, hfault, hkept⟩)
          · exact absurd (htext.symm.trans hbad) (by simp)
          · obtain rfl := Option.some.inj (htext.symm.trans hholds)
            obtain rfl := Except.error.inj (hread.symm.trans hfault)
            exact .inr ⟨fault, hkept, rfl⟩

/-- What is made of a document escapes as the document does, if all its own faults are told. -/
theorem escapes_bind_iff [Interpreter] {source : Source} {f : Yaml.Document → Except ConfigFault α}
    (hf : ∀ d, ¬ Escapes (f d)) : Escapes (document source >>= f) ↔ IsStray source := by
  rw [← escapes_document_iff]
  cases document source with
  | error fault => exact Iff.rfl
  | ok d => exact iff_of_false (hf d) id

theorem not_escapes_product (item : Yaml.Item) : ¬ Escapes (product item) := by
  unfold product
  split
  · exact (fun h => absurd (h "") (by simp [ConfigFault.complaint?]))
  · split
    · exact id
    · exact (fun h => absurd (h "") (by simp [ConfigFault.complaint?]))

theorem not_escapes_mapM {β : Type} {f : β → Except ConfigFault α} (hf : ∀ b, ¬ Escapes (f b))
    (bs : List β) : ¬ Escapes (bs.mapM f) := by
  induction bs with
  | nil => exact id
  | cons b bs ih =>
    rw [List.mapM_cons]
    cases hb : f b with
    | error fault =>
      have hnot := hf b
      rw [hb] at hnot
      exact hnot
    | ok a =>
      cases hbs : bs.mapM f with
      | error fault =>
        rw [hbs] at ih
        exact ih
      | ok as => exact id

theorem escapes_products_iff [Interpreter] (source : Source) :
    Escapes (products source) ↔ IsStray source :=
  escapes_bind_iff fun d => by
    split
    · exact not_escapes_mapM not_escapes_product _
    · exact (fun h => absurd (h "") (by simp [ConfigFault.complaint?]))

theorem escapes_patches_iff [Interpreter] (source : Source) :
    Escapes (patches (some source)) ↔ IsStray source :=
  escapes_bind_iff fun d => by
    split
    · exact id
    · exact (fun h => absurd (h "") (by simp [ConfigFault.complaint?]))

theorem escapes_overrides_iff [Interpreter] (source : Source) :
    Escapes (overrides (some source)) ↔ IsStray source := by
  rw [← escapes_patches_iff, overrides]
  cases patches (some source) <;> exact Iff.rfl

/-- The patches that are read have atoms for their keys, and are mappings. -/
theorem isMapping_of_patches [Interpreter] {source : Source} {ps : Patches}
    (h : patches (some source) = .ok ps) {e : Nat × Nat} (he : e ∈ ps.entries) :
    (ps.document.atom? e.1).isSome = true ∧ (ps.document.entries? e.2).isSome = true := by
  rw [patches] at h
  cases hdocument : document source with
  | error fault =>
    rw [hdocument] at h
    cases h
  | ok d =>
    rw [hdocument] at h
    simp only [bind, Except.bind] at h
    split at h
    · rename_i held hheld
      cases h
      unfold patches? at hheld
      split at hheld
      · cases hheld
        exact absurd he List.not_mem_nil
      · rename_i es hes
        split at hheld
        · rename_i hall
          cases hheld
          refine ⟨?_, List.all_eq_true.1 hall e he⟩
          have hentries : d.entries? d.root = some es := by rw [Yaml.Document.entries?, hes]
          unfold document at hdocument
          split at hdocument
          · cases hdocument
          · split at hdocument
            · cases hdocument
            · rename_i text _
              cases hread : Yaml.Document.read text with
              | error fault =>
                rw [hread] at hdocument
                cases hdocument
              | ok _ =>
                rw [hread] at hdocument
                cases hdocument
                exact Yaml.Document.isSome_atom?_of_read hread hentries he
        · cases hheld
      · cases hheld
    · cases h

end Config

namespace CommandLine

open Config (Escapes)

/-- A command ends with more than a complaint exactly if what it reads of a file escapes. -/
theorem crashes_expect_iff {α : Type} (file : FilePath) (result : Except ConfigFault α)
    (s : Session) : (∃ c s', (expect file result).run s = (.error (.crash c), s'))
      ↔ Escapes result := by
  cases result with
  | ok a => exact iff_of_false (by rintro ⟨c, s', ⟨⟩⟩) id
  | error fault =>
    refine Iff.trans ?_ (ConfigFault.isUnexpected_iff_complaint? file.text).symm
    cases hcomplaint : fault.complaint? file.text with
    | some c =>
      have hrun : expect file (.error fault : Except ConfigFault α) = complain c := by
        simp only [expect, hcomplaint]
      rw [hrun]
      exact iff_of_false (by rintro ⟨_, _, ⟨⟩⟩) (by simp)
    | none =>
      have hrun : ∃ c, expect file (.error fault : Except ConfigFault α) = crash c := by
        cases fault <;> simp only [expect, hcomplaint] <;> exact ⟨_, rfl⟩
      obtain ⟨c, hc⟩ := hrun
      rw [hc]
      exact iff_of_true ⟨_, _, rfl⟩ rfl

end CommandLine

namespace Config

open CommandLine (expect)

/-- Products and overrides are read, or the user is told why not, unless the bytes of the file are
no text or its document, which keeps the rules of the notation, has no value; and then something in
the text is to blame.  The command line is clean in the same cases. -/
theorem isClean_iff [Interpreter] (source : Source) :
    (IsClean (products source) ↔ ¬ IsStray source)
      ∧ (IsClean (patches (some source)) ↔ ¬ IsStray source)
      ∧ (∀ ps, patches (some source) = .ok ps → ∀ e ∈ ps.entries,
          (ps.document.atom? e.1).isSome = true ∧ (ps.document.entries? e.2).isSome = true)
      ∧ patches none = .ok ⟨.null, []⟩
      ∧ (∀ file s, (∃ c s', (expect file (products source)).run s = (.error (.crash c), s'))
          ↔ IsStray source)
      ∧ (∀ file s, (∃ c s', (expect file (overrides (some source))).run s = (.error (.crash c), s'))
          ↔ IsStray source)
      ∧ ∀ bytes text fault, source = .ok bytes → Text.ofBytes? bytes = some text →
          Yaml.Document.read text = .error fault →
          Yaml.DocumentFault (Text.unifyLineEnds text.toList) fault := by
  refine ⟨?_, ?_, ?_, rfl, ?_, ?_, ?_⟩
  · rw [isClean_iff_not_escapes, escapes_products_iff]
  · rw [isClean_iff_not_escapes, escapes_patches_iff]
  · exact fun ps h e he => isMapping_of_patches h he
  · exact fun file s =>
      (CommandLine.crashes_expect_iff file _ s).trans (escapes_products_iff source)
  · exact fun file s =>
      (CommandLine.crashes_expect_iff file _ s).trans (escapes_overrides_iff source)
  · exact fun _ _ _ _ _ h => Yaml.documentFault_of_ofLines h

/-- Neither bytes that are no text nor the thirtieth of February is told. -/
theorem stray_untold : Escapes (products (.ok ⟨#[0xFF]⟩))
    ∧ Escapes (patches (some (.ok ⟨#[0xFF]⟩)))
    ∧ Escapes (products (.ok "- id: 2024-02-30\n".toUTF8))
    ∧ Escapes (patches (some (.ok "a: 2024-02-30\n".toUTF8))) := by
  decide +kernel

end Config

end ClientScribe
