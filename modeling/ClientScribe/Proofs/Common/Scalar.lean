import ClientScribe.Proofs.Common.Number
import ClientScribe.Yaml.Reading

/-!
Scalars of documents that are JSON values.  A number that is none is the same whatever its spelling,
so the value that stands for it is the one there is.
-/

namespace ClientScribe

namespace Yaml

open Float.Model (UnpackedFloat Format)
open Float.Model.UnpackedFloat (unpackExponent unpackMantissa)

/-- The JSON value that an atom is. -/
def Atom.json? : Atom → Option Json
  | .null => some .null
  | .bool b => some (.bool b)
  | .int n => some (.int n)
  | .float x => some (.float x)
  | .notNumber _ => some (.float (0 / 0))
  | .text s => some (.str s)
  | .bytes _ => none
  | .moment _ => none

/-- The bits of what is no number: the exponent is the largest and the mantissa is not zero. -/
theorem unpack_of_isNaN {spec : Format} {b : BitVec spec.numBits}
    (h : (UnpackedFloat.unpack spec b).isNaN = true) :
    unpackExponent b = -BitVec.ofNat spec.exponentBits 1 ∧
      unpackMantissa b ≠ BitVec.ofNat spec.mantissaBitsWithoutImplicit 0 := by
  unfold UnpackedFloat.unpack at h
  dsimp only at h
  by_cases hexp : unpackExponent b = -BitVec.ofNat spec.exponentBits 1
  · rw [if_pos hexp] at h
    refine ⟨hexp, fun hmant => ?_⟩
    rw [if_pos hmant] at h
    cases h
  · rw [if_neg hexp] at h
    by_cases hzero : unpackExponent b = BitVec.ofNat spec.exponentBits 0
    · rw [if_pos hzero] at h
      by_cases hmant : unpackMantissa b = BitVec.ofNat spec.mantissaBitsWithoutImplicit 0
      · rw [dif_pos hmant] at h
        cases h
      · rw [dif_neg hmant] at h
        cases h
    · rw [if_neg hzero] at h
      cases h

/-- There is one pattern of bits for what is no number. -/
theorem toBits_of_isNaN {x : Float} (h : x.isNaN = true) :
    x.toModel.toBits.toBitVec = UnpackedFloat.packedNaN Format.binary64 := by
  obtain ⟨hexp, hmant⟩ := unpack_of_isNaN h
  exact x.toModel.valid.eq_packedNaN hexp hmant

theorem eq_of_isNaN {x y : Float} (hx : x.isNaN = true) (hy : y.isNaN = true) : x = y := by
  have hbits := UInt64.toBitVec_inj.1 ((toBits_of_isNaN hx).trans (toBits_of_isNaN hy).symm)
  obtain ⟨⟨bits, _⟩⟩ := x
  obtain ⟨⟨bits', _⟩⟩ := y
  cases hbits
  rfl

theorem number_json? {node : Nat} {s : List Char} {x : Float} (h : floatValue s = .ok x) :
    ∃ a, Atom.number node s = .ok a ∧ a.json? = some (.float x) := by
  rw [Atom.number, h]
  refine ⟨_, rfl, ?_⟩
  dsimp only
  by_cases hnan : x.isNaN = true
  · rw [if_pos hnan, eq_of_isNaN hnan (show (0 / 0 : Float).isNaN = true by decide)]
    rfl
  · rw [if_neg hnan]
    rfl

/-- A scalar without properties is a JSON value. -/
def Scalar.Denotes (s : Scalar) (v : Json) : Prop :=
  ∀ i, ∃ a, Atom.read i (Properties.scalarTag ⟨none, none⟩ s) s.text = .ok a ∧ a.json? = some v

end Yaml

namespace Common

open Yaml (Scalar)

theorem scalarTag_plain (s : List Char) :
    Yaml.Properties.scalarTag ⟨none, none⟩ ⟨s, true⟩ = Yaml.Tag.ofPlain s := rfl

theorem denotes_name {s : List Char} {v : Json} (h : (s, v) ∈ names) :
    Scalar.Denotes ⟨s, true⟩ v := by
  intro i
  simp only [names, List.mem_cons, Prod.mk.injEq, List.not_mem_nil, or_false] at h
  rcases h with ⟨rfl, rfl⟩ | ⟨rfl, rfl⟩ | ⟨rfl, rfl⟩
  · exact ⟨.null, rfl, rfl⟩
  · exact ⟨.bool true, rfl, rfl⟩
  · exact ⟨.bool false, rfl, rfl⟩

theorem denotes_number {s : List Char} {v : Json} (h : number s v) :
    Scalar.Denotes ⟨s, true⟩ v := by
  have hunsigned {negative : Bool} {s : List Char} {v : Json} (h : SpellsUnsigned negative s v) :
      Scalar.Denotes ⟨minus negative ++ s, true⟩ v := by
    intro i
    cases h with
    | whole hds hzero hlong =>
      rw [scalarTag_plain, ofPlain_whole negative hds hzero, Yaml.Atom.read,
        intValue_whole negative hds hzero hlong]
      exact ⟨_, rfl, rfl⟩
    | fraction hds hzero hfs hx =>
      rw [scalarTag_plain, ofPlain_fraction negative hds hfs hx, numberOf_fraction negative hfs]
      exact Yaml.number_json? (floatValue_fraction negative hds hfs hx)
  cases h with
  | positive h => exact hunsigned h
  | negative h => exact hunsigned h

/-- A string is a text. -/
theorem read_string (t : String) (i : Nat) : Yaml.Atom.read i
    (Yaml.Properties.scalarTag ⟨none, none⟩ (.ofText t.toList)) t.toList = .ok (.text t) := by
  change Except.ok (Yaml.Atom.text (String.ofList t.toList)) = _
  rw [String.ofList_toList]

theorem denotes_string (t : String) : Scalar.Denotes (.ofText t.toList) (.str t) := fun i =>
  ⟨_, read_string t i, rfl⟩

end Common

end ClientScribe
