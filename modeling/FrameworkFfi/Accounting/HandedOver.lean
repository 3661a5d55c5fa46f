import FrameworkFfi.Accounting.Accounts
import FrameworkFfi.Exports.Operation

/-!
# The buffers the records are made of

Each record that carries buffers hands over exactly these, in the order of its
fields.
-/

namespace FrameworkFfi

open Effect

/-- A record whose only buffer is the vector that is handed over. -/
theorem handsOver_single {β : Type} (bytes : ByteVec) {record : FrameworkByteBuffer → β}
    {made : β → List FrameworkByteBuffer} (h : ∀ buffer, made (record buffer) = [buffer]) :
    HandsOver [] (do let buffer ← FrameworkByteBuffer.fromVec bytes; pure (record buffer)) made :=
  HandsOver.afterVec fun buffer => handsOver_pure (by rw [h buffer, List.nil_append])

theorem handsOver_buffer (bytes : ByteVec) :
    HandsOver [] (FrameworkByteBuffer.fromVec bytes) List.singleton :=
  handsOver_fromVec bytes

theorem handsOver_flashVersions (reply : OwnedString × OwnedString × EcCurrentImage) :
    HandsOver [] (flashVersions reply) FrameworkEcFlashVersions.buffers :=
  HandsOver.afterVec fun _ => HandsOver.afterVec fun _ => handsOver_pure rfl

theorem handsOver_powerSnapshot (powerInfo : PowerInfo) :
    HandsOver [] (powerSnapshot powerInfo) FrameworkPowerSnapshot.buffers := by
  unfold powerSnapshot
  cases powerInfo.battery with
  | none => exact handsOver_pure rfl
  | some battery =>
      have hbattery : HandsOver [] (batterySnapshot battery) fun snapshot =>
          [snapshot.manufacturer, snapshot.modelNumber, snapshot.serialNumber,
            snapshot.batteryType] :=
        HandsOver.afterVec fun _ => HandsOver.afterVec fun _ => HandsOver.afterVec fun _ =>
          HandsOver.afterVec fun _ => handsOver_pure rfl
      exact hbattery.bind fun _ => handsOver_pure rfl

theorem handsOver_retimerRecord (version : Option ByteVec) :
    HandsOver [] (retimerRecord version) RetimerVersion.buffers := by
  cases version with
  | none => exact handsOver_pure rfl
  | some version => exact handsOver_single version fun _ => rfl

theorem handsOver_nvmeRecord (info : NvmeInfo) :
    HandsOver [] (nvmeRecord info) NvmeRecord.buffers :=
  HandsOver.afterVec fun _ => HandsOver.afterVec fun _ => handsOver_pure rfl

theorem handsOver_intoFfi (data : BatteryData) :
    HandsOver [] (FrameworkSmartBatteryData.intoFfi data) FrameworkSmartBatteryData.buffers := by
  unfold FrameworkSmartBatteryData.intoFfi
  iterate 10 refine HandsOver.afterVec fun _ => ?_
  exact handsOver_pure rfl

/-! ### The peripherals -/

/-- Filling a slot from which on all slots are empty appends its buffers. -/
theorem flatMap_update {ι τ : Type} [DecidableEq ι] {done rest : List ι} {i : ι}
    (hnodup : (done ++ i :: rest).Nodup) {f : ι → List τ} (hempty : ∀ j ∈ i :: rest, f j = [])
    (entries : List τ) :
    (done ++ i :: rest).flatMap (Function.update f i entries) =
      (done ++ i :: rest).flatMap f ++ entries := by
  have hdone : ∀ j ∈ done, Function.update f i entries j = f j := by
    intro j hj
    refine Function.update_of_ne ?_ _ _
    rintro rfl
    exact (List.nodup_append.mp hnodup).2.2 j hj j List.mem_cons_self rfl
  have hrest : ∀ j ∈ rest, Function.update f i entries j = [] := by
    intro j hj
    have hne : j ≠ i := by
      rintro rfl
      exact (List.nodup_cons.mp (List.nodup_append.mp hnodup).2.1).1 hj
    rw [Function.update_of_ne hne]
    exact hempty j (List.mem_cons_of_mem i hj)
  have hlast : (i :: rest).flatMap f = [] := List.flatMap_eq_nil_iff.mpr hempty
  rw [List.flatMap_append, List.flatMap_append, hlast, List.append_nil, List.flatMap_cons,
    Function.update_self, List.flatMap_eq_nil_iff.mpr hrest, List.append_nil,
    List.flatMap_congr hdone]

theorem ownedBy_peripherals (versions : PeripheralVersions) :
    ownedBy versions.buffers =
      (List.finRange 8).flatMap fun i => (versions.peripheral i).productName.owned :=
  List.flatMap_map _ _ _

/-- Filling an empty slot whose successors are empty appends the buffer of its name. -/
theorem ownedBy_update_peripheral {done rest : List (Fin 8)} {i : Fin 8}
    (hslots : List.finRange 8 = done ++ i :: rest) {versions filled : PeripheralVersions}
    {entry : FrameworkPeripheralVersion} {productName : FrameworkByteBuffer}
    (hfilled : filled.peripheral = Function.update versions.peripheral i entry)
    (hname : entry.productName = productName)
    (hempty : ∀ j ∈ i :: rest, (versions.peripheral j).productName.owned = []) :
    ownedBy filled.buffers = ownedBy versions.buffers ++ productName.owned := by
  have hnodup : (done ++ i :: rest).Nodup := hslots ▸ List.nodup_finRange 8
  rw [ownedBy_peripherals, ownedBy_peripherals, hslots, ← flatMap_update hnodup hempty, hfilled]
  refine List.flatMap_congr fun j _ => ?_
  by_cases hj : j = i
  · subst hj
    rw [Function.update_self, Function.update_self, hname]
  · rw [Function.update_of_ne hj, Function.update_of_ne hj]

/-- Names go into the slots from front to back, so the ledger lists them in the
order of the slots. `done` are the slots that are filled already. -/
theorem handsOver_fillPeripheralSlots {done rest : List (Fin 8)}
    (hslots : List.finRange 8 = done ++ rest) (found : List PeripheralVersion)
    {versions : PeripheralVersions}
    (hempty : ∀ i ∈ rest, (versions.peripheral i).productName.owned = []) :
    HandsOver versions.buffers ((rest.zip found).foldlM fillPeripheralSlot versions)
      PeripheralVersions.buffers := by
  induction rest generalizing done found versions with
  | nil => exact handsOver_pure rfl
  | cons i rest ih =>
      cases found with
      | nil => exact handsOver_pure rfl
      | cons peripheral found =>
          rw [List.zip_cons_cons, List.foldlM_cons]
          unfold fillPeripheralSlot
          rw [bind_assoc]
          refine HandsOver.afterVec fun buffer => ?_
          rw [pure_bind]
          have hslots' : List.finRange 8 = (done ++ [i]) ++ rest := by
            rw [hslots, List.append_assoc, List.singleton_append]
          have hnotin : i ∉ rest :=
            (List.nodup_cons.mp (List.nodup_append.mp (hslots ▸ List.nodup_finRange 8)).2.1).1
          refine (ih hslots' found ?_).ofOwned ?_
          · intro j hj
            have hne : j ≠ i := ne_of_mem_of_not_mem hj hnotin
            simp only [Function.update_of_ne hne]
            exact hempty j (List.mem_cons_of_mem i hj)
          · rw [ownedBy_append, ownedBy_singleton]
            exact ownedBy_update_peripheral hslots rfl rfl hempty

theorem handsOver_peripheralSlots (found : List PeripheralVersion) :
    HandsOver [] (peripheralSlots found) PeripheralVersions.buffers := by
  have hall : List.finRange 8 = [] ++ List.finRange 8 := (List.nil_append _).symm
  have hempty : ∀ i ∈ List.finRange 8,
      (emptyPeripheralVersions.peripheral i).productName.owned = [] := fun _ _ => rfl
  exact (handsOver_fillPeripheralSlots hall found hempty).ofOwned rfl

end FrameworkFfi
