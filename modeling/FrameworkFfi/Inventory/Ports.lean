import FrameworkFfi.Inventory.UsbSlots
import Mathlib.Tactic.SplitIfs

/-!
# What the first loop leaves

The loop over the ports asks each port once, so its net effect is pointwise:
slot and state of port `i` come from the answer for port `i` alone.
-/

namespace FrameworkFfi

open Effect

/-- The requests of the first loop for `n` ports. -/
def portRequests (n : ℕ) : List HostRequest :=
  (List.range n).map fun i => .getPdPortState (UInt8.ofNat i)

/-- The PD states the first loop records. -/
def portStates (n : ℕ) (pd : FixedArray 6 FrameworkEcPdPortState) : PdStates :=
  fun i => if i.val < n then some (pd i) else none

/-- The slots the first loop leaves. -/
def portSlots (n : ℕ) (pd : FixedArray 6 FrameworkEcPdPortState) (usbSlots : UsbSlots) :
    UsbSlots :=
  fun i => if i.val < n then portSlot i (pd i) (usbSlots i) else usbSlots i

/-- The states of the six ports the machine would report now. -/
def Machine.pdPortStates (m : Machine) (w : World) : FixedArray 6 FrameworkEcPdPortState :=
  fun i => m.pdPortState w (UInt8.ofNat i)

theorem portStates_succ {n : ℕ} (hn : n < 6) (pd : FixedArray 6 FrameworkEcPdPortState) :
    portStates (n + 1) pd = Function.update (portStates n pd) ⟨n, hn⟩ (some (pd ⟨n, hn⟩)) := by
  funext i
  by_cases hi : i = ⟨n, hn⟩
  · subst hi
    simp [portStates]
  · have hne : i.val ≠ n := fun h => hi (Fin.ext h)
    have hiff : i.val < n + 1 ↔ i.val < n := by omega
    simp only [Function.update_of_ne hi, portStates, hiff]

theorem portSlots_succ {n : ℕ} (hn : n < 6) (pd : FixedArray 6 FrameworkEcPdPortState)
    (usbSlots : UsbSlots) :
    portSlots (n + 1) pd usbSlots =
      Function.update (portSlots n pd usbSlots) ⟨n, hn⟩
        (portSlot n (pd ⟨n, hn⟩) (usbSlots ⟨n, hn⟩)) := by
  funext i
  by_cases hi : i = ⟨n, hn⟩
  · subst hi
    simp [portSlots]
  · have hne : i.val ≠ n := fun h => hi (Fin.ext h)
    have hiff : i.val < n + 1 ↔ i.val < n := by omega
    simp only [Function.update_of_ne hi, portSlots, hiff]

theorem portRequests_succ (n : ℕ) :
    portRequests (n + 1) = portRequests n ++ [.getPdPortState (UInt8.ofNat n)] := by
  rw [portRequests, portRequests, List.range_succ, List.map_append, List.map_cons,
    List.map_nil]

theorem getPdPortState_notMem_portRequests {n : ℕ} (hn : n < 6) :
    HostRequest.getPdPortState (UInt8.ofNat n) ∉ portRequests n := by
  intro h
  obtain ⟨i, hi, heq⟩ := List.mem_map.mp h
  have hi : i < n := List.mem_range.mp hi
  have hbyte : UInt8.ofNat i = UInt8.ofNat n := HostRequest.getPdPortState.inj heq
  have hnat := congrArg UInt8.toNat hbyte
  rw [UInt8.toNat_ofNat_of_lt' (by omega : i < 2 ^ 8),
    UInt8.toNat_ofNat_of_lt' (by omega : n < 2 ^ 8)] at hnat
  omega

theorem returns_readPort {index : ℕ} (h : index < 6) (state : UsbSlots × PdStates)
    {m : Machine} {w : World} :
    Returns (readPort state index) m w
      (Function.update state.1 ⟨index, h⟩
          (portSlot index (m.pdPortState w (UInt8.ofNat index)) (state.1 ⟨index, h⟩)),
        Function.update state.2 ⟨index, h⟩ (some (m.pdPortState w (UInt8.ofNat index))))
      (w.record (.getPdPortState (UInt8.ofNat index))) := by
  unfold readPort
  rw [(returns_queryPdPortState.mpr ⟨rfl, rfl⟩).bind_iff, checkIndex_of_lt h,
    (returns_pure_self).bind_iff, returns_pure]
  exact ⟨rfl, rfl⟩

theorem returns_foldlM_readPort {n : ℕ} (hn : n ≤ 6) (usbSlots : UsbSlots) (m : Machine)
    (w : World) :
    Returns ((List.range n).foldlM readPort (usbSlots, fun _ => none)) m w
      (portSlots n (m.pdPortStates w) usbSlots, portStates n (m.pdPortStates w))
      (w.recordAll (portRequests n)) := by
  induction n with
  | zero => exact returns_pure_self
  | succ n ih =>
      have hlt : n < 6 := by omega
      have hpd : m.pdPortState (w.recordAll (portRequests n)) (UInt8.ofNat n) =
          m.pdPortStates w ⟨n, hlt⟩ := by
        rw [Machine.pdPortStates, Machine.pdPortState, Machine.pdPortState,
          World.asked_recordAll_of_notMem w (getPdPortState_notMem_portRequests hlt)]
      have hround := returns_readPort hlt
        (portSlots n (m.pdPortStates w) usbSlots, portStates n (m.pdPortStates w))
        (m := m) (w := w.recordAll (portRequests n))
      rw [List.range_succ, List.foldlM_append, (ih (by omega)).bind_iff, List.foldlM_cons,
        returns_bind]
      refine ⟨_, _, hround, returns_pure.mpr ⟨?_, ?_⟩⟩
      · have hslot : portSlots n (m.pdPortStates w) usbSlots ⟨n, hlt⟩ = usbSlots ⟨n, hlt⟩ :=
          if_neg (Nat.lt_irrefl n)
        rw [portSlots_succ hlt, portStates_succ hlt, hpd]
        dsimp only
        rw [hslot]
      · rw [portRequests_succ, World.recordAll_concat]

theorem returns_readPorts {usbCSlotCount : UInt8} (hn : usbCSlotCount.toNat ≤ 6)
    (usbSlots : UsbSlots) (m : Machine) (w : World) :
    Returns (readPorts usbCSlotCount usbSlots) m w
      (portSlots usbCSlotCount.toNat (m.pdPortStates w) usbSlots,
        portStates usbCSlotCount.toNat (m.pdPortStates w))
      (w.recordAll (portRequests usbCSlotCount.toNat)) :=
  returns_foldlM_readPort hn usbSlots m w

end FrameworkFfi
