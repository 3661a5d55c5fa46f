import Mathlib.Data.List.Basic
import Mathlib.Data.Nat.Bitwise
import Mathlib.Data.Nat.Digits.Defs

/-!
# Little-endian words

A word of `n` bytes is the list of its base-256 digits, the lowest first. Its
value and its bytes determine each other, and a word put together with shifts and
disjunctions has the value of its bytes.
-/

namespace LittleEndian

def leValue (bytes : List UInt8) : ℕ := Nat.ofDigits 256 (bytes.map UInt8.toNat)

/-- The `n` bytes of a value. Its higher bytes are dropped. -/
def leBytes : ℕ → ℕ → List UInt8
  | 0, _ => []
  | n + 1, value => UInt8.ofNat value :: leBytes n (value / 256)

@[simp] theorem leValue_nil : leValue [] = 0 := rfl

@[simp] theorem leValue_cons (byte : UInt8) (bytes : List UInt8) :
    leValue (byte :: bytes) = byte.toNat + 256 * leValue bytes := by
  rw [leValue, List.map_cons, Nat.ofDigits_cons, leValue]

@[simp] theorem length_leBytes (n value : ℕ) : (leBytes n value).length = n := by
  induction n generalizing value with
  | zero => rfl
  | succ n ih => rw [leBytes, List.length_cons, ih]

theorem leValue_leBytes (n value : ℕ) : leValue (leBytes n value) = value % 256 ^ n := by
  induction n generalizing value with
  | zero => rw [leBytes, leValue_nil, pow_zero, Nat.mod_one]
  | succ n ih =>
      have hbyte : (UInt8.ofNat value).toNat = value % 256 := UInt8.toNat_ofNat'
      rw [leBytes, leValue_cons, ih, hbyte, pow_succ', Nat.mod_mul]

theorem leValue_leBytes_of_lt {n value : ℕ} (h : value < 256 ^ n) :
    leValue (leBytes n value) = value := by
  rw [leValue_leBytes, Nat.mod_eq_of_lt h]

theorem leValue_lt (bytes : List UInt8) : leValue bytes < 256 ^ bytes.length := by
  have hdigits : ∀ digit ∈ bytes.map UInt8.toNat, digit < 256 := by
    intro digit hdigit
    obtain ⟨byte, -, rfl⟩ := List.mem_map.mp hdigit
    exact byte.toNat_lt
  have h := Nat.ofDigits_lt_base_pow_length (by decide) hdigits
  rwa [List.length_map] at h

theorem leValue_inj {bytes bytes' : List UInt8} (hlength : bytes.length = bytes'.length)
    (h : leValue bytes = leValue bytes') : bytes = bytes' := by
  have hdigits : ∀ bytes : List UInt8, ∀ digit ∈ bytes.map UInt8.toNat, digit < 256 := by
    intro bytes digit hdigit
    obtain ⟨byte, -, rfl⟩ := List.mem_map.mp hdigit
    exact byte.toNat_lt
  have hmap : bytes.map UInt8.toNat = bytes'.map UInt8.toNat := by
    refine Nat.ofDigits_inj_of_len_eq (by decide) ?_ (hdigits bytes) (hdigits bytes') h
    rw [List.length_map, List.length_map, hlength]
  exact List.map_injective_iff.mpr (fun _ _ => UInt8.toNat_inj.mp) hmap

theorem leBytes_leValue (bytes : List UInt8) :
    leBytes bytes.length (leValue bytes) = bytes :=
  leValue_inj (length_leBytes _ _) (leValue_leBytes_of_lt (leValue_lt bytes))

/-- A disjunction with bits that lie above is a sum. -/
theorem or_shiftLeft_of_lt {low i : ℕ} (h : low < 2 ^ i) (high : ℕ) :
    low ||| high <<< i = low + 2 ^ i * high := by
  rw [Nat.or_comm, ← Nat.shiftLeft_add_eq_or_of_lt h, Nat.shiftLeft_eq, Nat.add_comm,
    Nat.mul_comm]

end LittleEndian
