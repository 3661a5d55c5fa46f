import FrameworkFfi.Thermal
import Mathlib.Data.List.Forall2

/-!
# The names of the sensors

A sensor name is mapped by its ASCII letters and digits, in lower case. This is a
normal form: two names have the same one exactly if their letters and digits are
the same up to case, and every value but `generic` and `dgpuTemp` comes from one.
-/

namespace FrameworkFfi

/-! ### Spellings -/

def IsLetterOrDigit (c : Char) : Prop :=
  ('A' ≤ c ∧ c ≤ 'Z') ∨ ('a' ≤ c ∧ c ≤ 'z') ∨ ('0' ≤ c ∧ c ≤ '9')

instance (c : Char) : Decidable (IsLetterOrDigit c) :=
  inferInstanceAs (Decidable (_ ∨ _ ∨ _))

/-- The two forms of an ASCII letter. -/
def IsCapitalOf (upper lower : Char) : Prop :=
  'A' ≤ upper ∧ upper ≤ 'Z' ∧ lower.toNat = upper.toNat + 32

/-- The same character, or the two forms of a letter. -/
def SameUpToCase (c d : Char) : Prop := c = d ∨ IsCapitalOf c d ∨ IsCapitalOf d c

/-- What a name says besides its separators. -/
def lettersAndDigits (name : String) : List Char :=
  name.toList.filter fun c => IsLetterOrDigit c

def SameSpelling (a b : String) : Prop :=
  List.Forall₂ SameUpToCase (lettersAndDigits a) (lettersAndDigits b)

section Characters

variable {c d : Char}

theorem inRange_iff {low high : Char} :
    (decide (low ≤ c) && decide (c ≤ high)) = true ↔ low ≤ c ∧ c ≤ high := by
  rw [Bool.and_eq_true, decide_eq_true_iff, decide_eq_true_iff]

theorem isUpper_iff : c.isUpper ↔ 'A' ≤ c ∧ c ≤ 'Z' := decide_eq_true_iff

theorem isLower_iff : c.isLower ↔ 'a' ≤ c ∧ c ≤ 'z' := inRange_iff

theorem isDigit_iff : c.isDigit ↔ '0' ≤ c ∧ c ≤ '9' := inRange_iff

theorem isAlphanum_iff : c.isAlphanum ↔ IsLetterOrDigit c := by
  show (c.isUpper || c.isLower || c.isDigit) = true ↔ _
  rw [Bool.or_eq_true, Bool.or_eq_true, isUpper_iff, isLower_iff, isDigit_iff, or_assoc]
  exact Iff.rfl

theorem toLower_of_not_isUpper (hupper : ¬ c.isUpper) : c.toLower = c :=
  dif_neg fun h => hupper (isUpper_iff.mpr h)

theorem toNat_toLower (hupper : c.isUpper) : c.toLower.toNat = c.toNat + 32 := by
  have hle : c.toNat ≤ 90 := (isUpper_iff.mp hupper).2
  have hlower : c.toLower.val = c.val + 32 :=
    congrArg Char.val (dif_pos (isUpper_iff.mp hupper))
  have hmod : (c.val + 32).toNat = (c.toNat + 32) % 2 ^ 32 := UInt32.toNat_add c.val 32
  rw [Char.toNat, hlower, hmod]
  omega

/-- A letter in lower case is a letter, and none in upper case. -/
theorem isLower_toLower (hupper : c.isUpper) : c.toLower.isLower ∧ ¬ c.toLower.isUpper := by
  have hbounds : 65 ≤ c.toNat ∧ c.toNat ≤ 90 := isUpper_iff.mp hupper
  have hlower := toNat_toLower hupper
  constructor
  · rw [isLower_iff]
    exact ⟨UInt32.le_iff_toNat_le.mpr (show 97 ≤ c.toLower.toNat by omega),
      UInt32.le_iff_toNat_le.mpr (show c.toLower.toNat ≤ 122 by omega)⟩
  · intro h
    have hle : c.toLower.toNat ≤ 90 := (isUpper_iff.mp h).2
    omega

theorem toLower_toLower (c : Char) : c.toLower.toLower = c.toLower := by
  by_cases hupper : c.isUpper
  · exact toLower_of_not_isUpper (isLower_toLower hupper).2
  · rw [toLower_of_not_isUpper hupper, toLower_of_not_isUpper hupper]

theorem isAlphanum_toLower : c.toLower.isAlphanum = c.isAlphanum := by
  by_cases hupper : c.isUpper
  · have hlower : IsLetterOrDigit c.toLower :=
      .inr (.inl (isLower_iff.mp (isLower_toLower hupper).1))
    rw [isAlphanum_iff.mpr hlower, isAlphanum_iff.mpr (.inl (isUpper_iff.mp hupper))]
  · rw [toLower_of_not_isUpper hupper]

theorem isCapitalOf_iff : IsCapitalOf c d ↔ c.isUpper ∧ d = c.toLower := by
  rw [IsCapitalOf, ← and_assoc, ← isUpper_iff]
  refine and_congr_right fun hupper => ?_
  rw [← toNat_toLower hupper]
  exact Char.toNat_inj

theorem sameUpToCase_iff : SameUpToCase c d ↔ c.toLower = d.toLower := by
  constructor
  · rintro (rfl | hcapital | hcapital)
    · rfl
    · rw [(isCapitalOf_iff.mp hcapital).2, toLower_toLower]
    · rw [(isCapitalOf_iff.mp hcapital).2, toLower_toLower]
  · intro h
    by_cases hc : c.isUpper <;> by_cases hd : d.isUpper
    · have hcode : c.toNat + 32 = d.toNat + 32 := by
        rw [← toNat_toLower hc, ← toNat_toLower hd, h]
      exact .inl (Char.toNat_inj.mp (Nat.add_right_cancel hcode))
    · rw [toLower_of_not_isUpper hd] at h
      exact .inr (.inl (isCapitalOf_iff.mpr ⟨hc, h.symm⟩))
    · rw [toLower_of_not_isUpper hc] at h
      exact .inr (.inr (isCapitalOf_iff.mpr ⟨hd, h⟩))
    · rw [toLower_of_not_isUpper hc, toLower_of_not_isUpper hd] at h
      exact .inl h

end Characters

/-! ### The normal form -/

theorem normalizedSensorName_eq (name : String) :
    normalizedSensorName name = String.ofList ((lettersAndDigits name).map Char.toLower) := by
  have hfilter : name.toList.filter Char.isAlphanum = lettersAndDigits name :=
    List.filter_congr fun c _ => Bool.eq_iff_iff.mpr (by simp [isAlphanum_iff])
  rw [normalizedSensorName, hfilter]

/-- Two names have one normal form exactly if they are spellings of one name. -/
theorem normalizedSensorName_eq_iff {a b : String} :
    normalizedSensorName a = normalizedSensorName b ↔ SameSpelling a b := by
  have hsame : ∀ c d, c.toLower = d.toLower ↔ SameUpToCase c d := fun c d =>
    sameUpToCase_iff.symm
  rw [normalizedSensorName_eq, normalizedSensorName_eq, String.ofList_inj, SameSpelling,
    ← List.forall₂_eq_eq_eq, List.forall₂_map_left_iff, List.forall₂_map_right_iff]
  simp only [hsame]

theorem normalizedSensorName_idem (name : String) :
    normalizedSensorName (normalizedSensorName name) = normalizedSensorName name := by
  have hletters : lettersAndDigits (normalizedSensorName name) =
      (lettersAndDigits name).map Char.toLower := by
    rw [normalizedSensorName_eq, lettersAndDigits, String.toList_ofList, List.filter_eq_self]
    intro c hc
    obtain ⟨d, hd, rfl⟩ := List.mem_map.mp hc
    have hd' : IsLetterOrDigit d := of_decide_eq_true (List.mem_filter.mp hd).2
    rw [decide_eq_true_iff, ← isAlphanum_iff, isAlphanum_toLower]
    exact isAlphanum_iff.mpr hd'
  have hlower : ∀ c : Char, (Char.toLower ∘ Char.toLower) c = c.toLower := fun c =>
    toLower_toLower c
  rw [normalizedSensorName_eq, hletters, List.map_map, funext hlower, ← normalizedSensorName_eq]

/-! ### The mapping -/

/-- The normal form that is mapped to a value. Nothing is mapped to `unknown`, two normal
forms are mapped to `dgpuTemp` and all the others to `generic`. -/
def sensorKey (value : FrameworkSensorName) : String :=
  match value with
  | .unknown | .generic => ""
  | .f75303Local => "f75303local"
  | .f75303Cpu => "f75303cpu"
  | .f75303Ddr => "f75303ddr"
  | .f75303Skin => "f75303skin"
  | .f75303Apu => "f75303apu"
  | .f75303Amb => "f75303amb"
  | .f57397VccGt => "f57397vccgt"
  | .battery => "battery"
  | .peci => "peci"
  | .chargerIc => "chargeric"
  | .apu => "apu"
  | .dgpuVr => "dgpuvr"
  | .dgpuVram => "dgpuvram"
  | .dgpuAmb => "dgpuamb"
  | .dgpuTemp => "dgpu"
  | .virtual => "virtual"

theorem mapSensorName_of_normalized_eq {a b : String}
    (h : normalizedSensorName a = normalizedSensorName b) :
    mapSensorName a = mapSensorName b := by
  rw [mapSensorName, mapSensorName, h]

theorem mapSensorName_ne_unknown (name : String) : mapSensorName name ≠ .unknown := by
  unfold mapSensorName
  split <;> exact FrameworkSensorName.noConfusion

/-- A value other than these two is reached from its own normal form only. -/
theorem normalizedSensorName_of_map {name : String} {value : FrameworkSensorName}
    (h : mapSensorName name = value) (hgeneric : value ≠ .generic) (hdgpu : value ≠ .dgpuTemp) :
    normalizedSensorName name = sensorKey value := by
  unfold mapSensorName at h
  split at h <;> subst h <;>
    first | exact (hgeneric rfl).elim | exact (hdgpu rfl).elim | assumption

/-- Every key is in normal form, so no value but `unknown` is out of reach. -/
theorem mapSensorName_sensorKey {value : FrameworkSensorName} (h : value ≠ .unknown) :
    mapSensorName (sensorKey value) = value := by
  cases value with
  | unknown => exact (h rfl).elim
  | _ => decide

/-- The mapping of a name depends on its normal form only, it tells these apart, and every
value but `unknown` is mapped to. -/
theorem mapSensorName_normalForm :
    (∀ a b, SameSpelling a b → mapSensorName a = mapSensorName b) ∧
      (∀ name, mapSensorName (normalizedSensorName name) = mapSensorName name ∧
        normalizedSensorName (normalizedSensorName name) = normalizedSensorName name) ∧
      (∀ name, mapSensorName name ≠ .unknown) ∧
      (∀ value, value ≠ .unknown → mapSensorName (sensorKey value) = value) ∧
      ∀ a b, mapSensorName a = mapSensorName b → mapSensorName a ≠ .generic →
        mapSensorName a ≠ .dgpuTemp → normalizedSensorName a = normalizedSensorName b := by
  refine ⟨fun a b hsame => ?_, fun name => ⟨?_, normalizedSensorName_idem name⟩,
    mapSensorName_ne_unknown, fun value => mapSensorName_sensorKey,
    fun a b hmap hgeneric hdgpu => ?_⟩
  · exact mapSensorName_of_normalized_eq (normalizedSensorName_eq_iff.mpr hsame)
  · exact mapSensorName_of_normalized_eq (normalizedSensorName_idem name)
  · have hkey := normalizedSensorName_of_map rfl hgeneric hdgpu
    exact hkey.trans (normalizedSensorName_of_map hmap.symm hgeneric hdgpu).symm

end FrameworkFfi
