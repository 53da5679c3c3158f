import Mathlib.Data.Nat.Basic
import Mathlib.Tactic.Common

/-! # Base64

An engine writes bytes in the standard alphabet and reads them back. The one at hand makes four digits of six bits each of
three bytes; what is missing of the last group is padded. -/

namespace Lib.Base64

/-- A character of the standard alphabet, or padding. -/
def Standard (ch : Char) : Prop := ch.isAlphanum ∨ ch = '+' ∨ ch = '/' ∨ ch = '='

instance (ch : Char) : Decidable (Standard ch) := inferInstanceAs (Decidable (_ ∨ _ ∨ _ ∨ _))

structure Engine where
  encode : List UInt8 → List Char
  decode? : List Char → Option (List UInt8)
  decode?_encode : ∀ bytes, decode? (encode bytes) = some bytes
  alphabet : ∀ bytes, ∀ ch ∈ encode bytes, Standard ch

theorem Engine.ne_of_mem_encode (engine : Engine) {bytes : List UInt8} {ch : Char} (h : ch ∈ engine.encode bytes) :
    ch ≠ '-' ∧ ch ≠ '\n' := by
  have standard := engine.alphabet bytes ch h
  refine ⟨?_, ?_⟩ <;>
  · rintro rfl
    exact absurd standard (by decide)

/-- The digit of a number below 64. -/
def digit (n : Nat) : Char :=
  if n < 26 then .ofNat (n + 65)
  else if n < 52 then .ofNat (n + 71)
  else if n < 62 then .ofNat (n - 4)
  else if n = 62 then '+'
  else '/'

def digitValue? (c : Char) : Option Nat :=
  if 65 ≤ c.toNat ∧ c.toNat ≤ 90 then some (c.toNat - 65)
  else if 97 ≤ c.toNat ∧ c.toNat ≤ 122 then some (c.toNat - 71)
  else if 48 ≤ c.toNat ∧ c.toNat ≤ 57 then some (c.toNat + 4)
  else if c = '+' then some 62
  else if c = '/' then some 63
  else none

/-! ### Three bytes and four numbers of six bits -/

def six₁ (a : UInt8) : Nat := a.toNat / 4
def six₂ (a b : UInt8) : Nat := a.toNat % 4 * 16 + b.toNat / 16
def six₃ (b c : UInt8) : Nat := b.toNat % 16 * 4 + c.toNat / 64
def six₄ (c : UInt8) : Nat := c.toNat % 64

def byte₁ (p q : Nat) : UInt8 := .ofNat (p * 4 + q / 16)
def byte₂ (q r : Nat) : UInt8 := .ofNat (q % 16 * 16 + r / 4)
def byte₃ (r s : Nat) : UInt8 := .ofNat (r % 4 * 64 + s)

theorem byte₁_six (a b : UInt8) : byte₁ (six₁ a) (six₂ a b) = a := by
  have ha := a.toNat_lt
  have hb := b.toNat_lt
  rw [← UInt8.toNat_inj, byte₁, UInt8.toNat_ofNat', six₁, six₂]
  omega

theorem byte₂_six (a b c : UInt8) : byte₂ (six₂ a b) (six₃ b c) = b := by
  have hb := b.toNat_lt
  have hc := c.toNat_lt
  rw [← UInt8.toNat_inj, byte₂, UInt8.toNat_ofNat', six₂, six₃]
  omega

theorem byte₃_six (b c : UInt8) : byte₃ (six₃ b c) (six₄ c) = c := by
  have hc := c.toNat_lt
  rw [← UInt8.toNat_inj, byte₃, UInt8.toNat_ofNat', six₃, six₄]
  omega

theorem six₁_lt (a : UInt8) : six₁ a < 64 := by
  have ha := a.toNat_lt
  rw [six₁]
  omega

theorem six₂_lt (a b : UInt8) : six₂ a b < 64 := by
  have hb := b.toNat_lt
  rw [six₂]
  omega

theorem six₃_lt (b c : UInt8) : six₃ b c < 64 := by
  have hc := c.toNat_lt
  rw [six₃]
  omega

theorem six₄_lt (c : UInt8) : six₄ c < 64 := Nat.mod_lt _ (by omega)

/-! ### The encoding -/

def encode : List UInt8 → List Char
  | [] => []
  | [a] => [digit (six₁ a), digit (six₂ a 0), '=', '=']
  | [a, b] => [digit (six₁ a), digit (six₂ a b), digit (six₃ b 0), '=']
  | a :: b :: c :: rest => digit (six₁ a) :: digit (six₂ a b) :: digit (six₃ b c) :: digit (six₄ c) :: encode rest

/-- Padding stands only at the end. -/
def decode? : List Char → Option (List UInt8)
  | [] => some []
  | c :: d :: e :: f :: rest =>
    match digitValue? c, digitValue? d, digitValue? e, digitValue? f with
    | some p, some q, some r, some s => (decode? rest).map ([byte₁ p q, byte₂ q r, byte₃ r s] ++ ·)
    | some p, some q, some r, none => if f = '=' ∧ rest = [] then some [byte₁ p q, byte₂ q r] else none
    | some p, some q, none, none => if e = '=' ∧ f = '=' ∧ rest = [] then some [byte₁ p q] else none
    | _, _, _, _ => none
  | _ => none

theorem digitValue?_digit {n : Nat} (h : n < 64) : digitValue? (digit n) = some n := by
  have table : ∀ n : Fin 64, digitValue? (digit n) = some n.val := by decide
  exact table ⟨n, h⟩

theorem digitValue?_pad : digitValue? '=' = none := by decide

theorem decode?_encode (bytes : List UInt8) : decode? (encode bytes) = some bytes := by
  fun_induction encode bytes with
  | case1 => rfl
  | case2 a =>
    rw [decode?, digitValue?_digit (six₁_lt a), digitValue?_digit (six₂_lt a 0), digitValue?_pad]
    simp [byte₁_six]
  | case3 a b =>
    rw [decode?, digitValue?_digit (six₁_lt a), digitValue?_digit (six₂_lt a b), digitValue?_digit (six₃_lt b 0),
      digitValue?_pad]
    simp [byte₁_six, byte₂_six]
  | case4 a b c rest ih =>
    rw [decode?, digitValue?_digit (six₁_lt a), digitValue?_digit (six₂_lt a b), digitValue?_digit (six₃_lt b c),
      digitValue?_digit (six₄_lt c), ih]
    simp [byte₁_six, byte₂_six, byte₃_six]

theorem standard_digit {n : Nat} (h : n < 64) : Standard (digit n) := by
  have table : ∀ n : Fin 64, Standard (digit n) := by decide
  exact table ⟨n, h⟩

theorem standard_pad : Standard '=' := by decide

theorem standard_of_mem_encode {bytes : List UInt8} {ch : Char} (h : ch ∈ encode bytes) : Standard ch := by
  fun_induction encode bytes with
  | case1 => cases h
  | case2 a =>
    simp only [List.mem_cons, List.not_mem_nil, or_false] at h
    rcases h with rfl | rfl | rfl | rfl
    · exact standard_digit (six₁_lt a)
    · exact standard_digit (six₂_lt a 0)
    · exact standard_pad
    · exact standard_pad
  | case3 a b =>
    simp only [List.mem_cons, List.not_mem_nil, or_false] at h
    rcases h with rfl | rfl | rfl | rfl
    · exact standard_digit (six₁_lt a)
    · exact standard_digit (six₂_lt a b)
    · exact standard_digit (six₃_lt b 0)
    · exact standard_pad
  | case4 a b c rest ih =>
    simp only [List.mem_cons] at h
    rcases h with rfl | rfl | rfl | rfl | h
    · exact standard_digit (six₁_lt a)
    · exact standard_digit (six₂_lt a b)
    · exact standard_digit (six₃_lt b c)
    · exact standard_digit (six₄_lt c)
    · exact ih h

def standard : Engine where
  encode := encode
  decode? := decode?
  decode?_encode := decode?_encode
  alphabet _ _ := standard_of_mem_encode

end Lib.Base64
