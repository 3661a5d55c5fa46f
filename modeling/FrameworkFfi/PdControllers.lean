import FrameworkFfi.Exports.Versions
import FrameworkFfi.Host.Silent
import Mathlib.Data.Fintype.Basic
import Mathlib.Tactic.FinCases

/-!
# PD controllers in their slots

Upstream probes three controllers and returns the ones that answer in one of
three shapes, which drop the positions. `PdVersions.ofProbed` is that shape. The
slots of the ABI record stand for the positions, and they are right exactly when
no controller answers after one that does not.
-/

namespace FrameworkFfi

open Effect

/-- What upstream returns for the controllers that answer, in the order Right01,
Left23, Back. -/
def PdVersions.ofProbed (probed : FixedArray 3 (Option ControllerFirmwares)) : PdVersions :=
  match probed 0, probed 1, probed 2 with
  | none, none, some back => .single back
  | some right, some left, none => .rightLeft right left
  | right, left, back => .many ([right, left, back].filterMap id)

/-- A reported image has the base version and the application version of the firmware. -/
structure ReportsImage (reported : FrameworkPdControllerVersion) (version : ControllerVersion) :
    Prop where
  baseMajor : reported.base.major = version.base.major
  baseMinor : reported.base.minor = version.base.minor
  basePatch : reported.base.patch = version.base.patch
  baseBuildNumber : reported.base.buildNumber = version.base.buildNumber
  application : reported.app.application =
    match version.app.application with
    | .notebook => .notebook
    | .monitor => .monitor
    | .aa => .aa
    | .invalid => .invalid
  appMajor : reported.app.major = version.app.major
  appMinor : reported.app.minor = version.app.minor
  appCircuit : reported.app.circuit = version.app.circuit

/-- A slot reports a controller: its mode and its three images, or nothing. -/
structure ReportsController (slot : FrameworkPdControllerFirmwares)
    (firmware : Option ControllerFirmwares) : Prop where
  present : slot.present = 1 ↔ firmware.isSome
  activeFw : ∀ f, firmware = some f → slot.activeFw =
    match f.activeFw with
    | .bootLoader => .bootLoader
    | .backupFw => .backupFw
    | .mainFw => .mainFw
  images : ∀ f, firmware = some f → ReportsImage slot.bootloader f.bootloader ∧
    ReportsImage slot.backupFw f.backupFw ∧ ReportsImage slot.mainFw f.mainFw
  absent : firmware = none → slot = defaultPdControllerFirmwares

/-- Every slot of a record reports the controller of its position, and the count
is the number of slots in use. -/
structure KeepsPositions (record : PdControllerVersions)
    (probed : FixedArray 3 (Option ControllerFirmwares)) : Prop where
  slots : ∀ k, ReportsController (record.controller k) (probed k)
  count : record.controllerCount.toNat =
    (List.finRange 3).countP fun k => (record.controller k).present = 1

/-- The controllers that answer are the first ones in the order of the probes. -/
def AnswersFirst (probed : FixedArray 3 (Option ControllerFirmwares)) : Prop :=
  ((probed 1).isSome → (probed 0).isSome) ∧ ((probed 2).isSome → (probed 1).isSome)

instance (probed : FixedArray 3 (Option ControllerFirmwares)) : Decidable (AnswersFirst probed) :=
  inferInstanceAs (Decidable (_ ∧ _))

theorem present_pdControllerRecord (set : FixedArray 3 (Option ControllerFirmwares))
    (k : Fin 3) :
    ((pdControllerRecord set).controller k).present = 1 ↔ (set k).isSome := by
  cases h : set k with
  | none => simp [pdControllerRecord, h, defaultPdControllerFirmwares]
  | some firmware => simp [pdControllerRecord, h, pdControllerFirmwares]

theorem reportsImage_intoPdControllerVersion (version : ControllerVersion) :
    ReportsImage (intoPdControllerVersion version) version := by
  refine ⟨rfl, rfl, rfl, rfl, ?_, rfl, rfl, rfl⟩
  show pdApplication (applicationNumber version.app.application) = _
  cases version.app.application <;> rfl

/-- A record keeps the positions of the set it is made of. -/
theorem keepsPositions_pdControllerRecord (set : FixedArray 3 (Option ControllerFirmwares)) :
    KeepsPositions (pdControllerRecord set) set where
  slots k :=
    { present := present_pdControllerRecord set k
      activeFw := by
        intro f hf
        simp only [pdControllerRecord, hf, Option.map_some, Option.getD_some,
          pdControllerFirmwares]
        cases f.activeFw <;> rfl
      images := by
        intro f hf
        simp only [pdControllerRecord, hf, Option.map_some, Option.getD_some,
          pdControllerFirmwares]
        exact ⟨reportsImage_intoPdControllerVersion _, reportsImage_intoPdControllerVersion _,
          reportsImage_intoPdControllerVersion _⟩
      absent := by
        intro hnone
        simp [pdControllerRecord, hnone] }
  count := by
    have hle : (List.finRange 3).countP (fun i => (set i).isSome) ≤ 3 := List.countP_le_length
    have hlt : (List.finRange 3).countP (fun i => (set i).isSome) < 2 ^ 8 := by omega
    simp only [present_pdControllerRecord, Bool.decide_eq_true]
    rw [pdControllerRecord, UInt8.toNat_ofNat_of_lt' hlt]

/-- Flattening the shape gives the controllers their positions back exactly when
they are the first ones. -/
theorem pdControllerSet_ofProbed {probed : FixedArray 3 (Option ControllerFirmwares)}
    (h : AnswersFirst probed) : pdControllerSet (.ofProbed probed) = probed := by
  obtain ⟨h₁, h₂⟩ := h
  funext k
  unfold PdVersions.ofProbed
  cases hright : probed 0 with
  | none =>
      have hleft : probed 1 = none := by simpa [hright] using h₁
      have hback : probed 2 = none := by simpa [hleft] using h₂
      fin_cases k <;> simp [hleft, hback, hright, pdControllerSet]
  | some right =>
      cases hleft : probed 1 with
      | none =>
          have hback : probed 2 = none := by simpa [hleft] using h₂
          fin_cases k <;> simp [hleft, hback, hright, pdControllerSet]
      | some left =>
          cases hback : probed 2 with
          | none => fin_cases k <;> simp [hleft, hback, hright, pdControllerSet]
          | some back => fin_cases k <;> simp [hleft, hback, hright, pdControllerSet]

/-- A controller that answers after one that does not is moved to the front. -/
theorem exists_isSome_ne_ofProbed {probed : FixedArray 3 (Option ControllerFirmwares)}
    (h : ¬ AnswersFirst probed) :
    ∃ k, (pdControllerSet (.ofProbed probed) k).isSome ≠ (probed k).isSome := by
  unfold AnswersFirst at h
  unfold PdVersions.ofProbed
  cases hright : probed 0 with
  | none =>
      -- whoever answers, the first slot is taken
      refine ⟨0, ?_⟩
      cases hleft : probed 1 with
      | none =>
          cases hback : probed 2 with
          | none => simp [hright, hleft, hback] at h
          | some back => simp [hright, pdControllerSet]
      | some left => simp [hright, pdControllerSet]
  | some right =>
      cases hleft : probed 1 with
      | none =>
          cases hback : probed 2 with
          | none => simp [hright, hleft, hback] at h
          | some back => exact ⟨1, by simp [hleft, pdControllerSet]⟩
      | some left => simp [hright, hleft] at h

/-- The record of what upstream returns keeps the positions exactly then. -/
theorem keepsPositions_ofProbed_iff {probed : FixedArray 3 (Option ControllerFirmwares)} :
    KeepsPositions (pdControllerRecord (pdControllerSet (.ofProbed probed))) probed ↔
      AnswersFirst probed := by
  constructor
  · intro h
    by_contra hnot
    obtain ⟨k, hk⟩ := exists_isSome_ne_ofProbed hnot
    have hpresent := (present_pdControllerRecord (pdControllerSet (.ofProbed probed)) k).symm.trans
      (h.slots k).present
    exact hk (Bool.eq_iff_iff.mpr hpresent)
  · intro h
    rw [pdControllerSet_ofProbed h]
    exact keepsPositions_pdControllerRecord probed

/-- The exported function reports every controller in its slot if and only if the
controllers that answer are the first ones in the order of the probes. -/
theorem pdControllers_keepPositions_iff (probed : FixedArray 3 (Option ControllerFirmwares))
    {m : Machine} {w : World} (handle : FrameworkEcHandle)
    (hprobed : m.answer .getPdControllerVersions (w.asked .getPdControllerVersions) =
      .ok (.ofProbed probed)) :
    ∃ record, Returns (frameworkEcGetPdControllerVersions (some handle)) m w
        ⟨.success, record⟩ (w.record .getPdControllerVersions) ∧
      (KeepsPositions record probed ↔ AnswersFirst probed) := by
  refine ⟨_, ?_, keepsPositions_ofProbed_iff⟩
  have hset : Returns pdControllerVersions m w (.ok (pdControllerSet (.ofProbed probed)))
      (w.record .getPdControllerVersions) := by
    refine returns_bind.mpr ⟨_, _, returns_ask_self, ?_⟩
    rw [hprobed]
    exact returns_pure_self
  refine returns_bind.mpr ⟨.ok _, _, ?_, returns_pure_self⟩
  refine returns_bind.mpr ⟨_, _, hset, ?_⟩
  exact (returns_andThen_of_ok (returns_pure_self)).mpr (returns_pure_self)

def someFirmware : ControllerFirmwares :=
  ⟨.mainFw, ⟨⟨1, 2, 3, 4⟩, ⟨.notebook, 1, 2, 3⟩⟩, ⟨⟨1, 2, 3, 4⟩, ⟨.notebook, 1, 2, 3⟩⟩,
    ⟨⟨1, 2, 3, 5⟩, ⟨.notebook, 1, 2, 3⟩⟩⟩

/-- A Desktop, where only the controller at the back answers. -/
def backOnly : FixedArray 3 (Option ControllerFirmwares) := ![none, none, some someFirmware]

/-- A laptop, where the controllers on the right and on the left answer. -/
def rightAndLeft : FixedArray 3 (Option ControllerFirmwares) :=
  ![some someFirmware, some someFirmware, none]

theorem pdControllers_keepPositions_iff_laptop :
    ∃ record, Returns (frameworkEcGetPdControllerVersions (some ⟨.crosEc⟩))
        (Machine.silent.answering .getPdControllerVersions (.ok (.ofProbed rightAndLeft)))
        .fresh ⟨.success, record⟩ (World.fresh.record .getPdControllerVersions) ∧
      KeepsPositions record rightAndLeft := by
  obtain ⟨record, hr, hkeeps⟩ := pdControllers_keepPositions_iff rightAndLeft ⟨.crosEc⟩
    (Machine.answer_answering_self Machine.silent .getPdControllerVersions
      (.ok (.ofProbed rightAndLeft)) (World.fresh.asked .getPdControllerVersions))
  exact ⟨record, hr, hkeeps.mpr (by decide)⟩

/-- On a Desktop slot `0` is in use and slot `2` is empty. -/
theorem backOnly_misplaced :
    ∃ record w', Returns (frameworkEcGetPdControllerVersions (some ⟨.crosEc⟩))
        (Machine.silent.answering .getPdControllerVersions (.ok (.ofProbed backOnly)))
        .fresh ⟨.success, record⟩ w' ∧
      (record.controller 0).present = 1 ∧ (record.controller 2).present = 0 ∧
        ¬ KeepsPositions record backOnly := by
  refine ⟨_, _, rfl, by decide, by decide, fun h => ?_⟩
  have hsome := (h.slots 0).present.mp (by decide)
  exact absurd hsome (by decide)

end FrameworkFfi
