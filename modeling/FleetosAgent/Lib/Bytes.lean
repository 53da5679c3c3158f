import Mathlib.Algebra.Order.Ring.Nat

/-! # Byte strings

Numbers written in `w` bytes, least significant first, and read back; payloads with their length in front; the windows of a
string. -/

namespace Lib

def leBytes : Nat → Nat → List UInt8
  | 0, _ => []
  | w + 1, n => UInt8.ofNat n :: leBytes w (n / 256)

def ofLeBytes : List UInt8 → Nat
  | [] => 0
  | b :: bytes => b.toNat + 256 * ofLeBytes bytes

@[simp] theorem length_leBytes (w n : Nat) : (leBytes w n).length = w := by
  induction w generalizing n with
  | zero => rfl
  | succ w ih => rw [leBytes, List.length_cons, ih]

theorem ofLeBytes_leBytes {w n : Nat} (h : n < 256 ^ w) : ofLeBytes (leBytes w n) = n := by
  induction w generalizing n with
  | zero => exact (Nat.lt_one_iff.mp h).symm
  | succ w ih =>
    have digit : (UInt8.ofNat n).toNat = n % 256 := UInt8.toNat_ofNat'
    rw [leBytes, ofLeBytes, ih (by rw [Nat.pow_succ] at h; omega), digit]
    omega

theorem leBytes_injective {w m n : Nat} (hm : m < 256 ^ w) (hn : n < 256 ^ w) (h : leBytes w m = leBytes w n) : m = n := by
  rw [← ofLeBytes_leBytes hm, h, ofLeBytes_leBytes hn]

theorem leBytes_ofLeBytes (bytes : List UInt8) : leBytes bytes.length (ofLeBytes bytes) = bytes := by
  induction bytes with
  | nil => rfl
  | cons b bytes ih =>
    have bound := b.toNat_lt
    have digit : UInt8.ofNat (b.toNat + 256 * ofLeBytes bytes) = b := UInt8.toNat_inj.mp (by rw [UInt8.toNat_ofNat']; omega)
    have carry : (b.toNat + 256 * ofLeBytes bytes) / 256 = ofLeBytes bytes := by omega
    rw [List.length_cons, ofLeBytes, leBytes, digit, carry, ih]

/-- A 64-bit number in eight bytes. -/
def toLeBytes (n : UInt64) : List UInt8 := leBytes 8 n.toNat

theorem toLeBytes_injective {m n : UInt64} (h : toLeBytes m = toLeBytes n) : m = n :=
  UInt64.toNat_inj.mp (leBytes_injective m.toNat_lt n.toNat_lt h)

/-! ### Length prefixes -/

def withLength (w : Nat) (payload : List UInt8) : List UInt8 := leBytes w payload.length ++ payload

/-- A reader that takes `w` bytes for the length and then as many as they say finds the payload, and only there. -/
theorem withLength_prefix_iff {w : Nat} {payload input : List UInt8} (fits : payload.length < 256 ^ w) :
    withLength w payload <+: input ↔
      w ≤ input.length ∧ ofLeBytes (input.take w) = payload.length ∧ payload.length ≤ (input.drop w).length ∧
        (input.drop w).take payload.length = payload := by
  constructor
  · rintro ⟨rest, rfl⟩
    have front : (withLength w payload ++ rest).take w = leBytes w payload.length := by
      rw [withLength, List.append_assoc, List.take_left' (length_leBytes _ _)]
    have back : (withLength w payload ++ rest).drop w = payload ++ rest := by
      rw [withLength, List.append_assoc, List.drop_left' (length_leBytes _ _)]
    rw [front, back, ofLeBytes_leBytes fits]
    exact ⟨by simp [withLength], rfl, by simp, List.take_left⟩
  · rintro ⟨long, length, -, taken⟩
    have front : input.take w = leBytes w payload.length := by
      rw [← length]
      exact (leBytes_ofLeBytes (input.take w)).symm.trans (by rw [List.length_take_of_le long])
    refine ⟨(input.drop w).drop payload.length, ?_⟩
    calc withLength w payload ++ (input.drop w).drop payload.length
        = input.take w ++ ((input.drop w).take payload.length ++ (input.drop w).drop payload.length) := by
          rw [front, taken, withLength, List.append_assoc]
      _ = input := by rw [List.take_append_drop, List.take_append_drop]

/-! ### Windows -/

/-- The contiguous parts of a given length, from the front. -/
def windows {α : Type*} (size : Nat) (l : List α) : List (List α) :=
  (List.range (l.length + 1 - size)).map fun i => (l.drop i).take size

theorem mem_windows {α : Type*} {size : Nat} {l w : List α} : w ∈ windows size l ↔ w.length = size ∧ w <:+: l := by
  simp only [windows, List.mem_map, List.mem_range]
  constructor
  · rintro ⟨i, inside, rfl⟩
    refine ⟨?_, (List.take_prefix _ _).isInfix.trans (List.drop_suffix _ _).isInfix⟩
    rw [List.length_take, List.length_drop]
    omega
  · rintro ⟨rfl, before, after, rfl⟩
    refine ⟨before.length, ?_, ?_⟩
    · simp only [List.length_append]
      omega
    · rw [List.append_assoc, List.drop_left, List.take_left]

end Lib
