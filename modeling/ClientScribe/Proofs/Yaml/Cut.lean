import ClientScribe.Yaml.Layout
import Mathlib.Algebra.Group.Nat.Defs

/-!
What can go wrong when a text is cut into tokens.  Apart from texts that break the rules of the
notation, there are escapes for codes beyond the last character, and directives with a number of
too many digits.
-/

namespace ClientScribe.Yaml

open Text (isHex hexNumber maxDigits)

/-- Why a text cannot be cut, and what in it is to blame. -/
inductive CutFault (text : List Char) : Fault → Prop
  | malformed : CutFault text .malformed
  /-- An escape is written for a code beyond the last character. -/
  | character {digits : List Char} (escape : '\\' :: 'U' :: digits <:+: text)
    (width : digits.length = 8) (hex : ∀ d ∈ digits, isHex d = true)
    (beyond : 0x10FFFF < hexNumber digits) : CutFault text (.noCharacter (hexNumber digits))
  /-- A number in a directive is too long. -/
  | version {digits : List Char} (directive : '%' ∈ text) (number : digits <:+: text)
    (decimal : ∀ d ∈ digits, d.isDigit = true) (long : maxDigits < digits.length) :
    CutFault text (.tooManyDigits digits.length)

/-! ### Ends of computations -/

section

variable {α β : Type} {P P' : Fault → Prop} {Q Q' : α → Prop} {R : β → Prop}

/-- A computation ends in a fault of which `P` holds, or with a value of which `Q` holds. -/
def Ends (P : Fault → Prop) (Q : α → Prop) : Except Fault α → Prop
  | .error fault => P fault
  | .ok a => Q a

theorem Ends.imp {x : Except Fault α} (h : Ends P Q x) (hP : ∀ fault, P fault → P' fault)
    (hQ : ∀ a, Q a → Q' a) : Ends P' Q' x := by
  cases x with
  | error fault => exact hP fault h
  | ok a => exact hQ a h

theorem Ends.bind {x : Except Fault α} {f : α → Except Fault β} (hx : Ends P Q x)
    (hf : ∀ a, Q a → Ends P R (f a)) : Ends P R (x >>= f) := by
  cases x with
  | error fault => exact hx
  | ok a => exact hf a hx

theorem Ends.map {x : Except Fault α} {f : α → β} (hx : Ends P Q x) (hf : ∀ a, Q a → R (f a)) :
    Ends P R (x.map f) := by
  cases x with
  | error fault => exact hx
  | ok a => exact hf a hx

theorem Ends.ite {c : Prop} [Decidable c] {x y : Except Fault α} (hx : c → Ends P Q x)
    (hy : Ends P Q y) : Ends P Q (if c then x else y) := by
  split
  · exact hx ‹_›
  · exact hy

theorem Ends.fault {x : Except Fault α} (hx : Ends P Q x) {fault : Fault}
    (h : x = .error fault) : P fault := by
  subst h
  exact hx

theorem Ends.value {x : Except Fault α} (hx : Ends P Q x) {a : α} (h : x = .ok a) : Q a := by
  subst h
  exact hx

end

/-! ### Places -/

theorem Cursor.rest_next_suffix (c : Cursor) : c.next.rest <:+ c.rest := by
  rw [rest_next]
  exact List.tail_suffix _

theorem Cursor.rest_skip_suffix (c : Cursor) (n : Nat) : (c.skip n).rest <:+ c.rest := by
  rw [rest_skip]
  exact List.drop_suffix _ _

theorem Cursor.rest_moveTo_suffix (c : Cursor) (rest : List Char) :
    (c.moveTo rest).rest <:+ c.rest := c.rest_skip_suffix _

theorem Lines.rest_read_suffix (pad : Char → Bool) (lineStart : Bool) (s : List Char) :
    (Lines.read pad lineStart s).rest <:+ s := by
  fun_induction Lines.read pad lineStart s with
  | case1 => exact List.suffix_refl _
  | case2 => exact List.suffix_refl _
  | case3 _ _ _ _ _ _ ih => exact ih.trans (List.suffix_cons _ _)
  | case4 _ _ _ _ _ _ ih => exact ih.trans (List.suffix_cons _ _)
  | case5 => exact List.suffix_refl _

variable {s text : List Char}

theorem ends_lineEnd (hs : s <:+ text) : Ends (CutFault text) (· <:+ text) (lineEnd s) := by
  have hspaces := (List.dropWhile_suffix (· = ' ') (l := s)).trans hs
  have hend (s : List Char) (h : s <:+ text) : Ends (CutFault text) (· <:+ text)
      (if atBreak s then .ok (s.drop 1) else .error .malformed) := by
    split
    · exact (List.drop_suffix _ _).trans h
    · exact CutFault.malformed
  unfold lineEnd
  dsimp only
  split
  · exact hend _ ((List.dropWhile_suffix _).trans hspaces)
  · exact hend _ hspaces

/-! ### Quoted scalars -/

theorem hexNumber_lt {ds : List Char} (h : ∀ d ∈ ds, isHex d = true) :
    hexNumber ds < 16 ^ ds.length := by
  have hfold (n : Nat) : ds.foldl (fun n c => 16 * n + (Text.hexValue? c).getD 0) n
      < 16 ^ ds.length * (n + 1) := by
    induction ds generalizing n with
    | nil =>
      rw [List.foldl_nil, List.length_nil, Nat.pow_zero, Nat.one_mul]
      exact Nat.lt_succ_self n
    | cons d ds ih =>
      rw [List.forall_mem_cons] at h
      obtain ⟨k, hk⟩ := Option.isSome_iff_exists.1 h.1
      have hlt := Text.hexValue?_lt hk
      have := ih h.2 (16 * n + k)
      rw [List.foldl_cons, hk, Option.getD_some, List.length_cons, Nat.pow_succ]
      calc _ < 16 ^ ds.length * (16 * n + k + 1) := this
        _ ≤ 16 ^ ds.length * (16 * (n + 1)) := Nat.mul_le_mul_left _ (by omega)
        _ = _ := by rw [Nat.mul_assoc]
  have hzero := hfold 0
  rwa [Nat.zero_add, Nat.mul_one] at hzero

theorem ends_codeEscape {c : Char} {width : Nat} (hwidth : escapeWidth? c = some width)
    (hs : '\\' :: c :: s <:+ text) :
    Ends (CutFault text) (fun p => p.2 <:+ text) (codeEscape width s) := by
  rw [codeEscape]
  split
  · exact .malformed
  · rename_i hdigits
    rw [Bool.or_eq_true, not_or, decide_eq_true_eq, Bool.not_eq_true', Bool.not_eq_false,
      List.all_eq_true] at hdigits
    obtain ⟨hlength, hhex⟩ := hdigits
    have hlength : (s.take width).length = width :=
      Nat.le_antisymm (List.length_take_le _ _) (Nat.le_of_not_lt hlength)
    split
    · rename_i hbeyond
      have hlt := hexNumber_lt hhex
      -- only eight digits write a number that large
      obtain ⟨rfl, rfl⟩ : c = 'U' ∧ width = 8 := by
        unfold escapeWidth? at hwidth
        split at hwidth
        · obtain rfl := Option.some.inj hwidth
          rw [hlength] at hlt
          omega
        · obtain rfl := Option.some.inj hwidth
          rw [hlength] at hlt
          omega
        · exact ⟨rfl, (Option.some.inj hwidth).symm⟩
        · exact absurd hwidth (by simp)
      refine .character ?_ hlength hhex hbeyond
      have hprefix : '\\' :: 'U' :: s.take 8 <+: '\\' :: 'U' :: s :=
        ⟨s.drop 8, by simp⟩
      exact hprefix.isInfix.trans hs.isInfix
    · exact ((List.drop_suffix _ _).trans
        ((List.suffix_cons _ _).trans (List.suffix_cons _ _))).trans hs

theorem ends_escape (hs : '\\' :: s <:+ text) :
    Ends (CutFault text) (fun p => p.2 <:+ text) (escape s) := by
  have hbehind (c : Char) (s : List Char) (hs : '\\' :: c :: s <:+ text) : s <:+ text :=
    ((List.suffix_cons _ _).trans (List.suffix_cons _ _)).trans hs
  unfold escape
  split
  · exact .malformed
  · split
    · exact hbehind _ _ hs
    · rename_i hwidth
      exact (ends_codeEscape hwidth hs).map fun _ h => h
    · split
      · dsimp only
        split
        · exact .malformed
        · exact (Lines.rest_read_suffix _ _ _).trans (hbehind _ _ hs)
      · exact .malformed

theorem ends_quotedGap (hs : s <:+ text) :
    Ends (CutFault text) (fun p => p.2 <:+ text) (quotedGap s) := by
  have hdrop := (List.dropWhile_suffix isPad (l := s)).trans hs
  unfold quotedGap
  split
  · exact .malformed
  · rename_i c rest heq
    rw [heq] at hdrop
    split
    · dsimp only
      split
      · exact .malformed
      · exact (Lines.rest_read_suffix _ _ _).trans ((List.suffix_cons _ _).trans hdrop)
    · exact hdrop

theorem ends_quotedText (double : Bool) (rounds : Nat) (done : List Char) (hs : s <:+ text) :
    Ends (CutFault text) (fun p => p.2 <:+ text) (quotedText double rounds done s) := by
  induction rounds generalizing done s with
  | zero => exact .malformed
  | succ rounds ih =>
    cases s with
    | nil => exact .malformed
    | cons c s =>
      have hbehind := (List.suffix_cons c s).trans hs
      unfold quotedText
      split
      · exact hbehind
      · split
        · split
          · exact ih _ ((List.suffix_cons _ _).trans hbehind)
          · exact hbehind
        · split
          · rename_i hbackslash
            rw [Bool.and_eq_true, decide_eq_true_eq] at hbackslash
            obtain ⟨-, rfl⟩ := hbackslash
            have hescape := ends_escape hs
            split
            · exact hescape.fault ‹_›
            · exact ih _ (hescape.value ‹_›)
          · split
            · have hgap := ends_quotedGap hs
              split
              · exact hgap.fault ‹_›
              · exact ih _ (hgap.value ‹_›)
            · exact ih _ hbehind

theorem ends_quoted (double : Bool) (hs : s <:+ text) :
    Ends (CutFault text) (fun p => p.2 <:+ text) (Scalar.quoted double s) :=
  (ends_quotedText double _ _ hs).map fun _ h => h

/-! ### Directives and properties -/

theorem ends_number (hdirective : '%' ∈ text) (hs : s <:+ text) :
    Ends (CutFault text) (fun p => p.2 <:+ text) (Directive.number s) := by
  rw [Directive.number]
  split
  · exact CutFault.malformed
  · split
    · rename_i hlong
      refine .version hdirective ((List.takeWhile_prefix _).isInfix.trans hs.isInfix) ?_ hlong
      exact List.all_eq_true.1 List.all_takeWhile
    · exact (List.dropWhile_suffix _).trans hs

theorem ends_readVersion (hdirective : '%' ∈ text) (hs : s <:+ text) :
    Ends (CutFault text) (fun p => p.2 <:+ text) (Directive.readVersion s) := by
  have hmajor := ends_number hdirective hs
  unfold Directive.readVersion
  split
  · exact hmajor.fault ‹_›
  · have hminor := ends_number hdirective
      ((List.suffix_cons _ _).trans (hmajor.value ‹_›))
    split
    · split
      · exact hminor.value ‹_›
      · exact CutFault.malformed
    · exact hminor.fault ‹_›
  · exact CutFault.malformed

theorem ends_namedHandle (text s : List Char) :
    Ends (CutFault text) (fun p => p.2 <:+ s) (namedHandle s) := by
  unfold namedHandle
  split
  · rename_i heq
    exact (heq ▸ List.suffix_cons _ _).trans (List.dropWhile_suffix isNameChar)
  · exact CutFault.malformed

theorem ends_uriBytes (text s : List Char) :
    Ends (CutFault text) (fun p => p.2 <:+ s) (uriBytes s) := by
  fun_induction uriBytes s with
  | case1 a b s _ ih => exact ih.map fun p hp => hp.trans ⟨['%', a, b], rfl⟩
  | case2 => exact CutFault.malformed
  | case3 => exact CutFault.malformed
  | case4 c s _ _ _ ih => exact ih.map fun p hp => hp.trans (List.suffix_cons _ _)
  | case5 => exact List.suffix_refl _
  | case6 => exact List.suffix_refl _

theorem ends_uri (text s : List Char) : Ends (CutFault text) (fun p => p.2 <:+ s) (uri s) := by
  have hbytes := ends_uriBytes text s
  unfold uri
  split
  · exact hbytes.fault ‹_›
  · split
    · split
      · exact CutFault.malformed
      · exact hbytes.value ‹_›
    · exact CutFault.malformed

theorem ends_declaredHandle (text s : List Char) :
    Ends (CutFault text) (fun p => p.2 <:+ s) (Directive.declaredHandle s) := by
  unfold Directive.declaredHandle
  split
  · exact List.suffix_cons _ _
  · exact (ends_namedHandle _ _).imp (fun _ h => h) fun _ h => h.trans (List.suffix_cons _ _)
  · exact CutFault.malformed

theorem ends_readHandle (hs : s <:+ text) :
    Ends (CutFault text) (fun p => p.2 <:+ text) (Directive.readHandle s) := by
  have hhandle := ends_declaredHandle text s
  unfold Directive.readHandle
  split
  · rename_i name rest heq
    have hrest : rest.dropWhile (· = ' ') <:+ text := (List.dropWhile_suffix _).trans
      ((List.suffix_cons _ _).trans ((hhandle.value heq).trans hs))
    have huri := ends_uri text (rest.dropWhile (· = ' '))
    split
    · split
      · exact (huri.value ‹_›).trans hrest
      · exact CutFault.malformed
    · exact huri.fault ‹_›
  · exact CutFault.malformed

theorem ends_directive (hs : '%' :: s <:+ text) :
    Ends (CutFault text) (fun _ => True) (Directive.read s) := by
  have hdirective : '%' ∈ text := hs.subset List.mem_cons_self
  have hs := (List.suffix_cons _ _).trans hs
  have hrest := (List.dropWhile_suffix isNameChar (l := s)).trans hs
  have hstart := (List.dropWhile_suffix (· = ' ')).trans hrest
  unfold Directive.read
  dsimp only
  split
  · exact CutFault.malformed
  · have hread : Ends (CutFault text) (fun p => p.2 <:+ text)
        (if s.takeWhile isNameChar = ['Y', 'A', 'M', 'L'] then
          Directive.readVersion ((s.dropWhile isNameChar).dropWhile (· = ' '))
        else if s.takeWhile isNameChar = ['T', 'A', 'G'] then
          Directive.readHandle ((s.dropWhile isNameChar).dropWhile (· = ' '))
        else .ok (.other, (s.dropWhile isNameChar).dropWhile fun c => !isBreak c)) := by
      split
      · exact ends_readVersion hdirective hstart
      · split
        · exact ends_readHandle hstart
        · exact (List.dropWhile_suffix _).trans hrest
    split
    · exact hread.fault ‹_›
    · have hend := ends_lineEnd (hread.value ‹_›)
      exact hend.map fun _ _ => trivial

theorem ends_anchorName (text s : List Char) :
    Ends (CutFault text) (fun _ => True) (anchorName s) := by
  unfold anchorName
  dsimp only
  split
  · exact CutFault.malformed
  · trivial

theorem ends_short (text : List Char) (handle : String) (s : List Char) :
    Ends (CutFault text) (fun _ => True) (TagName.short handle s) :=
  (ends_uri _ s).map fun _ _ => trivial

theorem ends_full (text s : List Char) : Ends (CutFault text) (fun _ => True) (TagName.full s) := by
  unfold TagName.full
  split
  · trivial
  · exact CutFault.malformed

theorem ends_tagName (text s : List Char) :
    Ends (CutFault text) (fun _ => True) (TagName.read s) := by
  have htag : Ends (CutFault text) (fun _ => True)
      (if s.head? = some '<' then TagName.full (s.drop 1)
      else if atGap s then .ok (⟨none, "!"⟩, s)
      else if (s.takeWhile fun c => c ≠ ' ' && !isBreak c).contains '!' then
        (namedHandle s).bind fun p => TagName.short p.1 p.2
      else TagName.short "!" s) := by
    split
    · exact ends_full _ _
    · split
      · trivial
      · split
        · exact (ends_namedHandle _ s).bind (fun _ _ => ends_short _ _ _)
        · exact ends_short _ _ _
  unfold TagName.read
  dsimp only
  split
  · exact htag.fault ‹_›
  · split
    · trivial
    · exact CutFault.malformed

/-! ### Plain scalars and blocks -/

theorem PlainGap.rest_read_suffix (c : Cursor) : (PlainGap.read c).cursor.rest <:+ c.rest := by
  unfold PlainGap.read
  dsimp only
  have hskip := c.rest_skip_suffix (c.rest.takeWhile (· = ' ')).length
  split
  · exact hskip
  · split
    · exact (Cursor.rest_moveTo_suffix _ _).trans hskip
    · exact hskip

theorem rest_plainRuns_suffix (flow : Bool) (least rounds : Nat) (pieces : List (List Char))
    (gap : PlainGap) :
    (plainRuns flow least rounds pieces gap).cursor.rest <:+ gap.cursor.rest := by
  induction rounds generalizing pieces gap with
  | zero => exact List.suffix_refl _
  | succ rounds ih =>
    have hnext := (PlainGap.rest_read_suffix
      (gap.cursor.skip (plainRun flow gap.cursor.rest).length)).trans (Cursor.rest_skip_suffix _ _)
    unfold plainRuns
    dsimp only
    split
    · exact List.suffix_refl _
    · split
      · exact hnext
      · exact (ih _ _).trans hnext

theorem rest_leadingLines_suffix (rounds deepest : Nat) (c : Cursor) :
    (leadingLines rounds deepest c).2.2.rest <:+ c.rest := by
  fun_induction leadingLines rounds deepest c with
  | case1 _ c _ _ _ ih => exact ih.trans c.rest_next_suffix
  | case2 _ c _ _ _ _ _ _ _ _ _ heq ih =>
    rw [heq] at ih
    exact ih.trans c.rest_next_suffix
  | case3 => exact List.suffix_refl _
  | case4 => exact List.suffix_refl _

theorem rest_emptyLines_suffix (rounds column : Nat) (c : Cursor) :
    (emptyLines rounds column c).2.rest <:+ c.rest := by
  fun_induction emptyLines rounds column c with
  | case1 c _ _ _ _ _ ih => exact ih.trans c.rest_next_suffix
  | case2 c _ _ _ _ _ _ _ _ heq ih =>
    rw [heq] at ih
    exact ih.trans c.rest_next_suffix
  | case3 => exact List.suffix_refl _
  | case4 => exact List.suffix_refl _

theorem rest_blockLines_suffix (fold : Bool) (column rounds : Nat) (b : BlockText) :
    (blockLines fold column rounds b).cursor.rest <:+ b.cursor.rest := by
  induction rounds generalizing b with
  | zero => exact List.suffix_refl _
  | succ rounds ih =>
    unfold blockLines
    split
    · dsimp only
      have hline := b.cursor.rest_skip_suffix (b.cursor.rest.takeWhile fun c => !isBreak c).length
      have hnext (rounds : Nat) := (rest_emptyLines_suffix rounds column _).trans
        ((Cursor.rest_next_suffix _).trans hline)
      split
      · exact (ih _).trans (hnext _)
      · exact hnext _
    · exact List.suffix_refl _

theorem ends_depth? (text s : List Char) :
    Ends (CutFault text) (fun p => p.2 <:+ s) (depth? s) := by
  unfold depth?
  split
  · exact List.suffix_refl _
  · split
    · exact CutFault.malformed
    · split
      · exact List.suffix_cons _ _
      · exact List.suffix_refl _

theorem suffix_of_chomping? {chomping : Chomping} {rest : List Char}
    (h : chomping? s = some (chomping, rest)) : rest <:+ s := by
  unfold chomping? at h
  split at h
  · obtain ⟨-, rfl⟩ := Prod.mk.inj (Option.some.inj h)
    exact List.suffix_cons _ _
  · obtain ⟨-, rfl⟩ := Prod.mk.inj (Option.some.inj h)
    exact List.suffix_cons _ _
  · exact absurd h (by simp)

theorem ends_signs (text s : List Char) :
    Ends (CutFault text) (fun p => p.2 <:+ s) (BlockHeader.signs s) := by
  unfold BlockHeader.signs
  split
  · rename_i hchomping
    exact (ends_depth? _ _).map fun p hp => hp.trans (suffix_of_chomping? hchomping)
  · refine (ends_depth? _ s).map fun p hp => ?_
    dsimp only
    split
    · exact (suffix_of_chomping? ‹_›).trans hp
    · exact hp

theorem ends_header (hs : s <:+ text) :
    Ends (CutFault text) (fun _ => True) (BlockHeader.read s) := by
  have hsigns := ends_signs text s
  unfold BlockHeader.read
  split
  · exact hsigns.fault ‹_›
  · split
    · have hend := ends_lineEnd ((hsigns.value ‹_›).trans hs)
      exact hend.map fun _ _ => trivial
    · exact CutFault.malformed

theorem ends_block (fold : Bool) (least : Nat) {c : Cursor} (hc : c.rest <:+ text) :
    Ends (CutFault text) (fun p => p.2.rest <:+ text) (Scalar.block fold least c) := by
  refine (ends_header hc).map fun p _ => ?_
  obtain ⟨header, rest⟩ := p
  have hstart := (c.rest_moveTo_suffix rest).trans hc
  dsimp only
  split
  · exact (rest_blockLines_suffix _ _ _ _).trans ((rest_emptyLines_suffix _ _ _).trans hstart)
  · exact (rest_blockLines_suffix _ _ _ _).trans ((rest_leadingLines_suffix _ _ _).trans hstart)

/-! ### Cutting -/

/-- The fault that a token stands for. -/
def Token.fault? : Token → Option Fault
  | .broken fault => some fault
  | _ => none

/-- A text that has been cut so far without a fault. -/
structure Layout.IsSound (text : List Char) (l : Layout) : Prop where
  rest : l.cursor.rest <:+ text
  tokens : ∀ t ∈ l.tokens, t.fault? = none

namespace Layout

variable {l : Layout}

theorem IsSound.next (h : l.IsSound text) : l.next.IsSound text :=
  ⟨l.cursor.rest_next_suffix.trans h.rest, h.tokens⟩

theorem IsSound.moveTo (h : l.IsSound text) (rest : List Char) : (l.moveTo rest).IsSound text :=
  ⟨(l.cursor.rest_moveTo_suffix rest).trans h.rest, h.tokens⟩

theorem IsSound.push (h : l.IsSound text) {t : Token} (ht : t.fault? = none) :
    (l.push t).IsSound text := ⟨h.rest, List.forall_mem_cons.2 ⟨ht, h.tokens⟩⟩

theorem IsSound.sign (h : l.IsSound text) {t : Token} (ht : t.fault? = none) :
    (l.sign t).IsSound text := h.next.push ht

theorem IsSound.skipMark (h : l.IsSound text) : l.skipMark.IsSound text := by
  rw [Layout.skipMark]
  split
  · exact h.next
  · exact h

theorem IsSound.skipGap (h : l.IsSound text) : l.skipGap.IsSound text :=
  ⟨(Cursor.rest_skip_suffix _ _).trans h.skipMark.rest, h.skipMark.tokens⟩

theorem IsSound.closeBlocks (h : l.IsSound text) (deeper : Nat → Bool) :
    (l.closeBlocks deeper).IsSound text := by
  rw [Layout.closeBlocks]
  split
  · exact h
  · refine ⟨h.rest, fun t ht => ?_⟩
    rcases List.mem_append.1 ht with ht | ht
    · obtain ⟨_, -, rfl⟩ := List.mem_map.1 ht
      rfl
    · exact h.tokens t ht

theorem IsSound.openBlock (h : l.IsSound text) {t : Token} (ht : t.fault? = none) (column : Nat) :
    (l.openBlock t column).IsSound text := by
  rw [Layout.openBlock]
  split
  · exact ⟨h.rest, (h.push ht).tokens⟩
  · exact h

theorem IsSound.insert (h : l.IsSound text) (count : Nat) {new : List Token}
    (hnew : ∀ t ∈ new, t.fault? = none) : (l.insert count new).IsSound text := by
  refine ⟨h.rest, fun t ht => ?_⟩
  rcases List.mem_append.1 ht with ht | ht
  · rcases List.mem_append.1 ht with ht | ht
    · exact h.tokens t (List.mem_of_mem_take ht)
    · exact hnew t (List.mem_reverse.1 ht)
  · exact h.tokens t (List.mem_of_mem_drop ht)

theorem IsSound.announce (h : l.IsSound text) (k : Candidate) : (l.announce k).IsSound text := by
  rw [Layout.announce]
  split
  · exact ⟨h.rest, (h.insert k.count (by decide)).tokens⟩
  · exact h.insert k.count (by decide)

/-! A token is read, or the text shows a fault. -/

theorem ends_reject (text : List Char) (candidate : Option Candidate) :
    Ends (CutFault text) (fun _ => True) (reject candidate) := by
  unfold reject
  split
  · split
    · exact CutFault.malformed
    · trivial
  · trivial

theorem IsSound.forget (h : l.IsSound text) :
    Ends (CutFault text) (fun l' => l'.IsSound text ∧ l'.cursor = l.cursor) l.forget :=
  (ends_reject _ _).map fun _ _ => ⟨⟨h.rest, h.tokens⟩, rfl⟩

theorem ends_freshen (text : List Char) (c : Cursor) (candidate : Option Candidate) :
    Ends (CutFault text) (fun _ => True) (freshen c candidate) := by
  unfold freshen
  split
  · have hreject := ends_reject text candidate
    exact hreject.map fun _ _ => trivial
  · trivial

theorem ends_mapM {α β : Type} {P : Fault → Prop} {f : α → Except Fault β} (as : List α)
    (h : ∀ a ∈ as, Ends P (fun _ => True) (f a)) : Ends P (fun _ => True) (as.mapM f) := by
  induction as with
  | nil => trivial
  | cons a as ih =>
    rw [List.forall_mem_cons] at h
    rw [List.mapM_cons]
    exact h.1.bind fun _ _ => (ih h.2).bind fun _ _ => trivial

theorem IsSound.dropStale (h : l.IsSound text) :
    Ends (CutFault text) (fun l => l.IsSound text) l.dropStale := by
  have houter := ends_mapM l.outer fun c _ => ends_freshen text l.cursor c
  exact (ends_freshen _ _ _).bind fun _ _ => houter.bind fun _ _ => ⟨h.rest, h.tokens⟩

theorem IsSound.offer (h : l.IsSound text) :
    Ends (CutFault text) (fun l => l.IsSound text) l.offer := by
  rw [Layout.offer]
  split
  · exact (ends_reject _ _).map fun _ _ => ⟨h.rest, h.tokens⟩
  · exact h

theorem IsSound.part {α : Type} {read : List Char → Except Fault (α × List Char)}
    {token : α → Token} (h : l.IsSound text)
    (hread : ∀ s, s <:+ text → Ends (CutFault text) (fun _ => True) (read s))
    (htoken : ∀ a, (token a).fault? = none) :
    Ends (CutFault text) (fun l => l.IsSound text) (l.part read token) := by
  refine h.offer.bind fun l hl => ?_
  refine (hread _ ((List.drop_suffix _ _).trans hl.rest)).bind fun p _ => ?_
  have hpush := (hl.moveTo p.2).push (htoken p.1)
  exact ⟨hpush.rest, hpush.tokens⟩

theorem IsSound.openFlow (h : l.IsSound text) {start : Token} (hstart : start.fault? = none) :
    Ends (CutFault text) (fun l => l.IsSound text) (l.openFlow start) :=
  h.offer.map fun _ hl => ⟨(hl.sign hstart).rest, (hl.sign hstart).tokens⟩

theorem IsSound.closeFlow (h : l.IsSound text) {finish : Token} (hfinish : finish.fault? = none) :
    Ends (CutFault text) (fun l => l.IsSound text) (l.closeFlow finish) := by
  refine h.forget.bind fun l hl => ?_
  have hsign := hl.1.sign hfinish
  split
  · exact CutFault.malformed
  · exact ⟨hsign.rest, hsign.tokens⟩

theorem IsSound.comma (h : l.IsSound text) :
    Ends (CutFault text) (fun l => l.IsSound text) l.comma := by
  refine h.forget.map fun l hl => ?_
  have hsign := hl.1.sign (t := .comma) rfl
  exact ⟨hsign.rest, hsign.tokens⟩

theorem IsSound.entry (h : l.IsSound text) :
    Ends (CutFault text) (fun l => l.IsSound text) l.entry := by
  have hopen := h.openBlock (t := .blockSequence) rfl l.cursor.column
  rw [Layout.entry]
  split
  · exact CutFault.malformed
  · refine hopen.forget.map fun l hl => ?_
    have hsign := hl.1.sign (t := .entry) rfl
    exact ⟨hsign.rest, hsign.tokens⟩

theorem IsSound.explicitKey (h : l.IsSound text) :
    Ends (CutFault text) (fun l => l.IsSound text) l.explicitKey := by
  have hopen := h.openBlock (t := .blockMapping) rfl l.cursor.column
  have hsign (l : Layout) (hl : l.IsSound text) := hl.sign (t := .key) rfl
  rw [Layout.explicitKey]
  split
  · exact h.forget.map fun l hl => ⟨(hsign l hl.1).rest, (hsign l hl.1).tokens⟩
  · split
    · exact hopen.forget.map fun l hl => ⟨(hsign l hl.1).rest, (hsign l hl.1).tokens⟩
    · exact CutFault.malformed

theorem IsSound.colon (h : l.IsSound text) :
    Ends (CutFault text) (fun l => l.IsSound text) l.colon := by
  have hopen := h.openBlock (t := .blockMapping) rfl l.cursor.column
  have hsign (l : Layout) (hl : l.IsSound text) := hl.sign (t := .value) rfl
  rw [Layout.colon]
  split
  · rename_i k _
    have hkey : ({ l with candidate := none } : Layout).IsSound text := ⟨h.rest, h.tokens⟩
    have hannounced := hsign _ (hkey.announce k)
    exact ⟨hannounced.rest, hannounced.tokens⟩
  · split
    · exact ⟨(hsign l h).rest, (hsign l h).tokens⟩
    · split
      · exact ⟨(hsign _ hopen).rest, (hsign _ hopen).tokens⟩
      · exact CutFault.malformed

theorem IsSound.plain (h : l.IsSound text) :
    Ends (CutFault text) (fun l => l.IsSound text) l.plain := by
  refine h.offer.map fun l hl => ?_
  have hpush (s : Scalar) := hl.push (t := .scalar s) rfl
  exact ⟨(rest_plainRuns_suffix _ _ _ _ _).trans hl.rest, (hpush _).tokens⟩

theorem IsSound.block (h : l.IsSound text) (fold : Bool) :
    Ends (CutFault text) (fun l => l.IsSound text) (l.block fold) := by
  refine h.forget.bind fun l hl => ?_
  have hread := ends_block fold (max l.least 1) (l.cursor.rest_next_suffix.trans hl.1.rest)
  have hpush (s : Scalar) := hl.1.push (t := .scalar s) rfl
  exact hread.bind fun p hp => ⟨hp, (hpush _).tokens⟩

theorem IsSound.endBlocks (h : l.IsSound text) :
    Ends (CutFault text) (fun l' => l'.IsSound text ∧ l'.cursor = l.cursor) l.endBlocks := by
  refine (h.closeBlocks _).forget.map fun l' hl => ⟨⟨hl.1.rest, hl.1.tokens⟩, hl.2.trans ?_⟩
  rw [Layout.closeBlocks]
  split <;> rfl

theorem IsSound.directive {s : List Char} (h : l.IsSound text) (hs : l.cursor.rest = '%' :: s) :
    Ends (CutFault text) (fun l => l.IsSound text) l.directive := by
  refine h.endBlocks.bind fun l' hl => ?_
  obtain ⟨hl, hcursor⟩ := hl
  rw [hcursor, hs, List.drop_one, List.tail_cons]
  refine (ends_directive (hs ▸ h.rest)).bind fun p _ => ?_
  exact (hl.moveTo p.2).push rfl

theorem IsSound.marker (h : l.IsSound text) {t : Token} (ht : t.fault? = none) :
    Ends (CutFault text) (fun l => l.IsSound text) (l.marker t) :=
  h.endBlocks.map fun _ hl => (hl.1.moveTo _).push ht

theorem IsSound.token (h : l.IsSound text) {c : Char} {s : List Char}
    (hs : l.cursor.rest = c :: s) :
    Ends (CutFault text) (fun l => l.IsSound text) (l.token c s) := by
  have hpercent (hc : (l.cursor.column = 0 && c = '%') = true) : l.cursor.rest = '%' :: s := by
    rw [Bool.and_eq_true, decide_eq_true_eq, decide_eq_true_eq] at hc
    exact hc.2 ▸ hs
  have hquoted (double : Bool) (s : List Char) (hs : s <:+ text) :
      Ends (CutFault text) (fun _ => True) (Scalar.quoted double s) :=
    (ends_quoted double hs).imp (fun _ h => h) fun _ _ => trivial
  unfold Layout.token
  refine .ite (fun hc => h.directive (hpercent hc)) ?_
  refine .ite (fun _ => h.marker (by split <;> rfl)) ?_
  refine .ite (fun _ => h.openFlow rfl) ?_
  refine .ite (fun _ => h.openFlow rfl) ?_
  refine .ite (fun _ => h.closeFlow rfl) ?_
  refine .ite (fun _ => h.closeFlow rfl) ?_
  refine .ite (fun _ => h.comma) ?_
  refine .ite (fun _ => h.entry) ?_
  refine .ite (fun _ => h.explicitKey) ?_
  refine .ite (fun _ => h.colon) ?_
  refine .ite (fun _ => h.part (fun s _ => ends_anchorName _ s) fun _ => rfl) ?_
  refine .ite (fun _ => h.part (fun s _ => ends_anchorName _ s) fun _ => rfl) ?_
  refine .ite (fun _ => h.part (fun s _ => ends_tagName _ s) fun _ => rfl) ?_
  refine .ite (fun _ => h.block _) ?_
  refine .ite (fun _ => h.part (hquoted _) fun _ => rfl) ?_
  exact .ite (fun _ => h.plain) CutFault.malformed

theorem IsSound.advance (h : l.IsSound text) :
    Ends (CutFault text) (fun p => p.1.IsSound text) l.advance := by
  refine h.skipGap.dropStale.bind fun l hl => ?_
  dsimp only
  have hclosed := hl.closeBlocks fun column => l.cursor.column < column
  split
  · exact hclosed.endBlocks.bind fun _ hl => hl.1
  · exact (hclosed.token ‹_›).bind fun _ hl => hl

theorem fault_of_mem_finish {rounds : Nat} (h : l.IsSound text) {t : Token} {fault : Fault}
    (ht : t ∈ finish rounds l) (hfault : t.fault? = some fault) : CutFault text fault := by
  have hsound {l : Layout} (hl : l.IsSound text) (ht : t ∈ l.tokens) : CutFault text fault :=
    absurd (hfault.symm.trans (hl.tokens t ht)) (by simp)
  have hupTo {l : Layout} (hl : l.IsSound text) {broken : Fault} (hbroken : CutFault text broken)
      (ht : t ∈ l.tokens.reverse.take l.settled ++ [.broken broken]) : CutFault text fault := by
    rcases List.mem_append.1 ht with ht | ht
    · exact hsound hl (List.mem_reverse.1 (List.mem_of_mem_take ht))
    · obtain rfl := List.mem_singleton.1 ht
      exact Option.some.inj hfault ▸ hbroken
  induction rounds generalizing l with
  | zero => exact hupTo h .malformed ht
  | succ rounds ih =>
    have hadvance := h.advance
    unfold finish at ht
    dsimp only at ht
    split at ht
    · exact hupTo h (hadvance.fault ‹_›) ht
    · exact ih (hadvance.value ‹_›) ht
    · exact hsound (hadvance.value ‹_›) (List.mem_reverse.1 ht)

end Layout

/-- What a text is cut into tells of no fault but those that the text shows. -/
theorem cutFault_of_mem_tokens {t : Token} {fault : Fault} (ht : t ∈ tokens text)
    (hfault : t.fault? = some fault) : CutFault text fault :=
  Layout.fault_of_mem_finish ⟨List.suffix_refl _, List.forall_mem_nil _⟩ ht hfault

end ClientScribe.Yaml
