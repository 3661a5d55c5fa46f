import FrameworkFfi.Runtime

/-!
# Diagnostics

Switches, protocol information, system information, the saved panic of the
controller and the history of POST codes. Upstream prints some of these only, so
this crate sends the commands itself.
-/

namespace FrameworkFfi

open Effect

/-- `HELLO_DEFAULT_IN_DATA`. -/
def helloDefaultInData : UInt32 := 0xA0B0C0D0

/-- `HELLO_OFFSET`. -/
def helloOffset : UInt32 := 0x01020304

/-- `EC_MEMMAP_SWITCHES`. -/
def ecMemmapSwitches : UInt16 := 0x30

structure Switches where
  raw : UInt8
  lidOpen : Bool
  powerButtonPressed : Bool
  writeProtectDisabled : Bool
  dedicatedRecovery : Bool

def Switches.ofRaw (raw : UInt8) : Switches :=
  { raw
    lidOpen := raw &&& 0x01 ≠ 0
    powerButtonPressed := raw &&& 0x02 ≠ 0
    writeProtectDisabled := raw &&& 0x04 ≠ 0
    dedicatedRecovery := raw &&& 0x10 ≠ 0 }

/-- `get_switches`. -/
def getSwitches : Ffi (Option Switches) := do
  let memory ← ask (.readMemory ecMemmapSwitches 1)
  pure ((memory.bind List.head?).map Switches.ofRaw)

/-- `get_protocol_info`. -/
def getProtocolInfo : Ffi (EcResult EcResponseGetProtocolInfo) := ask .getProtocolInfo

/-- `get_sysinfo`. -/
def getSysinfo : Ffi (EcResult EcResponseSysinfo) := ask .sysinfo

structure PanicInfo where
  data : ByteVec
  arch : UInt8
  structVersion : UInt8
  flags : UInt8
  structSize : UInt32
  magic : UInt32
  isValid : Bool

/-- `PANIC_HEADER_SIZE`. -/
def panicHeaderSize : ℕ := 4

/-- `PANIC_TRAILER_SIZE`. -/
def panicTrailerSize : ℕ := 8

/-- An index into a slice, checked as the source's indexing is. -/
def byteAt (data : List UInt8) (index : ℕ) : Ffi UInt8 :=
  match data[index]? with
  | some byte => pure byte
  | none => abort .indexOutOfBounds

theorem returns_byteAt {data : List UInt8} {index : ℕ} {byte : UInt8} {m : Machine} {w : World}
    (h : data[index]? = some byte) : Returns (byteAt data index) m w byte w := by
  rw [byteAt, h]
  exact returns_pure_self

/-- `u32_at`. -/
def u32At (data : List UInt8) (offset : ℕ) : Ffi UInt32 := do
  let b0 ← byteAt data offset
  let b1 ← byteAt data (offset + 1)
  let b2 ← byteAt data (offset + 2)
  let b3 ← byteAt data (offset + 3)
  pure (b0.toUInt32 ||| b1.toUInt32 <<< 8 ||| b2.toUInt32 <<< 16 ||| b3.toUInt32 <<< 24)

/-- The fields of saved panic data that is long enough to have them. -/
def parsePanicInfo (data : ByteVec) : Ffi PanicInfo := do
  let upstream ← view Machine.upstream
  let structSize ← u32At data.bytes (data.length - 8)
  let magic ← u32At data.bytes (data.length - 4)
  let arch ← byteAt data.bytes 0
  let structVersion ← byteAt data.bytes 1
  let flags ← byteAt data.bytes 2
  pure
    { data, arch, structVersion, flags, structSize, magic
      isValid := magic = upstream.panicDataMagic ∧ structSize.toNat = data.length }

/-- `get_panic_info`. -/
def getPanicInfo : Ffi (EcResult PanicInfo) :=
  andThen (ask .getPanicInfo) fun data =>
    if data.length < panicHeaderSize + panicTrailerSize then
      pure (.ok
        { data
          arch := 0
          structVersion := 0
          flags := 0
          structSize := 0
          magic := 0
          isValid := false })
    else do
      let info ← parsePanicInfo data
      pure (.ok info)

structure Port80History where
  writes : UInt32
  historySize : UInt32
  codes : ByteVec

def port80ShortResponse (numEntries : UInt32) (length : ℕ) : EcError :=
  .deviceError s!"Expected {numEntries} entries, got {length} bytes"

/-- What a round keeps of a response: the bytes of its entries. A longer one is
padded by the driver, a shorter one is a failure. -/
def port80Entries (numEntries : UInt32) (data : List UInt8) : EcResult (List UInt8) :=
  let expected := 2 * numEntries.toNat
  if data.length < expected then .error (port80ShortResponse numEntries data.length)
  else .ok (data.take expected)

/-- One request of `port80_read` for entries. -/
def port80ReadEntries (offset numEntries : UInt32) : Ffi (EcResult (List UInt8)) := do
  let response ← ask (.port80ReadBuffer offset numEntries)
  pure (response.bind (port80Entries numEntries))

section NextOffset

variable (size : UInt32) {historySize offset : UInt32}

theorem toNat_min (a b : UInt32) : (min a b).toNat = min a.toNat b.toNat := by
  by_cases h : a ≤ b
  · have hmin : min a b = a := if_pos h
    have hle : a.toNat ≤ b.toNat := h
    rw [hmin, Nat.min_eq_left hle]
  · have hmin : min a b = b := if_neg h
    have hle : b.toNat ≤ a.toNat := Nat.le_of_lt (Nat.not_le.mp h)
    rw [hmin, Nat.min_eq_right hle]

theorem toNat_numEntries (h : offset < historySize) :
    (min size (historySize - offset)).toNat =
      min size.toNat (historySize.toNat - offset.toNat) := by
  rw [toNat_min, UInt32.toNat_sub_of_le _ _ (UInt32.le_of_lt h)]

/-- A round does not go past the end, so the next offset is a `u32`. -/
theorem toNat_nextOffset (h : offset < historySize) :
    (offset + min size (historySize - offset)).toNat =
      offset.toNat + min size.toNat (historySize.toNat - offset.toNat) := by
  have hlt : offset.toNat < historySize.toNat := h
  have hmax := historySize.toNat_lt
  rw [UInt32.toNat_add, toNat_numEntries size h, Nat.mod_eq_of_lt (by omega)]

end NextOffset

/-- The loop of `port80_read`. Every round asks for at least one entry, because
`EC_PORT80_SIZE_MAX` is positive. -/
def port80Loop (historySize offset : UInt32) (codes : ByteVec) : Ffi (EcResult ByteVec) :=
  if _ : offset < historySize then do
    let upstream ← view Machine.upstream
    let numEntries := min upstream.ecPort80SizeMax (historySize - offset)
    andThen (port80ReadEntries offset numEntries) fun entries => do
      let codes ← view fun m => m.extendFromSlice codes entries
      checkArithmetic (offset.toNat + numEntries.toNat < 2 ^ 32)
      port80Loop historySize (offset + numEntries) codes
  else pure (.ok codes)
termination_by historySize.toNat - offset.toNat
decreasing_by
  have hlt : offset.toNat < historySize.toNat := ‹_›
  have hpos : 0 < upstream.ecPort80SizeMax.toNat := upstream.ecPort80SizeMax_pos
  rw [toNat_nextOffset _ ‹_›]
  omega

/-- `port80_read`. -/
def port80Read : Ffi (EcResult Port80History) :=
  andThen (ask .port80GetInfo) fun info => do
    let codes ← view fun m => m.vecWithCapacity (info.historySize.toNat * 2)
    andThen (port80Loop info.historySize 0 codes) fun codes =>
      pure (.ok { writes := info.writes, historySize := info.historySize, codes })

end FrameworkFfi
