import Mathlib.Data.List.DropRight
import Mathlib.Tactic.Common

/-! # Sets of numbers as text

A bitmap is written as its maximal runs in ascending order, `lo-hi` or a single number, with commas between them. Beside it
what a reader needs: numbers in decimal, cutting at a separator, and trimming. -/

namespace Lib.RangeText

/-! ### Reading -/

/-- The characters with the property White_Space. -/
def isWhitespace (c : Char) : Bool :=
  let n := c.toNat
  (9 ≤ n && n ≤ 13) || n == 0x20 || n == 0x85 || n == 0xA0 || n == 0x1680 || (0x2000 ≤ n && n ≤ 0x200A) || n == 0x2028 ||
    n == 0x2029 || n == 0x202F || n == 0x205F || n == 0x3000

def trim (text : List Char) : List Char := (text.dropWhile isWhitespace).rdropWhile isWhitespace

/-- Cut at the first separator, if there is one. -/
def splitOnce (separator : Char) : List Char → Option (List Char × List Char)
  | [] => none
  | c :: text => if c = separator then some ([], text) else (splitOnce separator text).map fun cut => (c :: cut.1, cut.2)

/-- A number below the bound: digits, after a plus sign if there is one. -/
def parseBelow (bound : Nat) (text : List Char) : Option Nat :=
  let digits := if text.head? = some '+' then text.tail else text
  if digits ≠ [] ∧ digits.all Char.isDigit ∧ Nat.ofDigitChars 10 digits 0 < bound then
    some (Nat.ofDigitChars 10 digits 0)
  else none

theorem trim_of_plain {text : List Char} (plain : ∀ c ∈ text, isWhitespace c = false) : trim (text ++ ['\n']) = text := by
  cases text with
  | nil => decide
  | cons c text =>
    have head : ¬ isWhitespace c = true := by simp [plain c (by simp)]
    rw [trim, List.cons_append, List.dropWhile_cons_of_neg head, ← List.cons_append,
      List.rdropWhile_concat_pos _ _ _ (by decide),
      List.rdropWhile_eq_self_iff]
    intro hne
    simp [plain _ (List.getLast_mem hne)]

theorem splitOnce_eq_none {separator : Char} {text : List Char} (h : separator ∉ text) :
    splitOnce separator text = none := by
  induction text with
  | nil => rfl
  | cons c text ih =>
    rw [List.mem_cons, not_or] at h
    rw [splitOnce, if_neg (Ne.symm h.1), ih h.2]
    rfl

theorem splitOnce_append {separator : Char} {text rest : List Char} (h : separator ∉ text) :
    splitOnce separator (text ++ separator :: rest) = some (text, rest) := by
  induction text with
  | nil => exact if_pos rfl
  | cons c text ih =>
    rw [List.mem_cons, not_or] at h
    rw [List.cons_append, splitOnce, if_neg (Ne.symm h.1), ih h.2]
    rfl

section Digits
variable {n : ℕ} {c : Char}

theorem isDigit_of_mem (h : c ∈ Nat.toDigits 10 n) : c.isDigit = true :=
  Nat.isDigit_of_mem_toDigits (by decide) (by decide) h

theorem notMem_toDigits (h : c.isDigit = false) : c ∉ Nat.toDigits 10 n := by
  intro hc
  rw [isDigit_of_mem hc] at h
  cases h

theorem isWhitespace_of_isDigit (h : c.isDigit = true) : isWhitespace c = false := by
  simp only [Char.isDigit, Bool.and_eq_true, decide_eq_true_eq, UInt32.le_iff_toNat_le] at h
  have low : 48 ≤ c.toNat := h.1
  have high : c.toNat ≤ 57 := h.2
  simp only [isWhitespace, Bool.or_eq_false_iff, Bool.and_eq_false_imp, decide_eq_true_eq, decide_eq_false_iff_not,
    beq_eq_false_iff_ne]
  omega

theorem parseBelow_toDigits {bound : ℕ} (h : n < bound) : parseBelow bound (Nat.toDigits 10 n) = some n := by
  have unsigned : (Nat.toDigits 10 n).head? ≠ some '+' := fun hplus =>
    notMem_toDigits (c := '+') (by decide) (List.mem_of_head? hplus)
  have value : Nat.ofDigitChars 10 (Nat.toDigits 10 n) 0 = n := Nat.ofDigitChars_toDigits (by decide) (by decide)
  simp only [parseBelow, if_neg unsigned, value]
  exact if_pos ⟨Nat.toDigits_ne_nil, List.all_eq_true.mpr fun c hc => isDigit_of_mem hc, h⟩

end Digits

/-! ### Runs -/

/-- A set bit in front of the runs behind it. -/
def push (i : ℕ) : List (ℕ × ℕ) → List (ℕ × ℕ)
  | [] => [(i, i)]
  | (lo, hi) :: runs => if lo = i + 1 then (i, hi) :: runs else (i, i) :: (lo, hi) :: runs

/-- The maximal runs of set bits, the first bit being number `i`. -/
def runs (i : ℕ) : List Bool → List (ℕ × ℕ)
  | [] => []
  | false :: bits => runs (i + 1) bits
  | true :: bits => push i (runs (i + 1) bits)

/-- A run of the list has the number. -/
def Covers (l : List (ℕ × ℕ)) (j : ℕ) : Prop := ∃ run ∈ l, run.1 ≤ j ∧ j ≤ run.2

variable {i j : ℕ} {l : List (ℕ × ℕ)} {bits : List Bool}

theorem ordered_push (h : ∀ run ∈ l, run.1 ≤ run.2) : ∀ run ∈ push i l, run.1 ≤ run.2 := by
  rcases l with _ | ⟨⟨lo, hi⟩, l⟩
  · simp [push]
  · have first : lo ≤ hi := h _ List.mem_cons_self
    have rest : ∀ run ∈ l, run.1 ≤ run.2 := fun run hrun => h run (List.mem_cons_of_mem _ hrun)
    rw [push]
    split
    · rintro run (_ | ⟨_, hrun⟩)
      · dsimp only; omega
      · exact rest run hrun
    · rintro run (_ | ⟨_, _ | ⟨_, hrun⟩⟩)
      · exact Nat.le_refl i
      · exact first
      · exact rest run hrun

theorem ordered_runs : ∀ run ∈ runs i bits, run.1 ≤ run.2 := by
  induction bits generalizing i with
  | nil => intro run hrun; cases hrun
  | cons bit bits ih =>
    cases bit with
    | false => exact ih
    | true => exact ordered_push ih

theorem covers_cons {run : ℕ × ℕ} : Covers (run :: l) j ↔ (run.1 ≤ j ∧ j ≤ run.2) ∨ Covers l j := by simp [Covers]

theorem covers_push (h : ∀ run ∈ l, run.1 ≤ run.2) : Covers (push i l) j ↔ j = i ∨ Covers l j := by
  rcases l with _ | ⟨⟨lo, hi⟩, l⟩
  · simp only [push, covers_cons]
    exact or_congr_left (by omega)
  · have first : lo ≤ hi := h _ List.mem_cons_self
    rw [push]
    split
    · simp only [covers_cons, ← or_assoc]
      exact or_congr_left (by omega)
    · simp only [covers_cons]
      exact or_congr_left (by omega)

/-- The runs have the numbers of the set bits. -/
theorem covers_runs : Covers (runs i bits) j ↔ ∃ k, j = i + k ∧ bits[k]? = some true := by
  induction bits generalizing i with
  | nil => simp [runs, Covers]
  | cons bit bits ih =>
    have shift : (∃ k, j = i + 1 + k ∧ bits[k]? = some true) ↔
        ∃ k, j = i + (k + 1) ∧ (bit :: bits)[k + 1]? = some true := by
      simp only [List.getElem?_cons_succ]
      exact exists_congr fun k => and_congr_left fun _ => by omega
    cases bit with
    | false =>
      rw [runs, ih, shift]
      constructor
      · rintro ⟨k, hk⟩
        exact ⟨k + 1, hk⟩
      · rintro ⟨_ | k, hj, hbit⟩
        · cases hbit
        · exact ⟨k, hj, hbit⟩
    | true =>
      rw [runs, covers_push ordered_runs, ih, shift]
      constructor
      · rintro (rfl | ⟨k, hk⟩)
        · exact ⟨0, rfl, rfl⟩
        · exact ⟨k + 1, hk⟩
      · rintro ⟨_ | k, hj, hbit⟩
        · exact Or.inl hj
        · exact Or.inr ⟨k, hj, hbit⟩

theorem runs_ne_nil (h : true ∈ bits) : runs 0 bits ≠ [] := by
  obtain ⟨k, hk⟩ := List.mem_iff_getElem?.mp h
  obtain ⟨run, hrun, -⟩ := covers_runs.mpr ⟨k, (Nat.zero_add k).symm, hk⟩
  exact List.ne_nil_of_mem hrun

/-- The highest upper end of the runs, or `start` if they are all below it. -/
def highest (start : ℕ) (l : List (ℕ × ℕ)) : ℕ := l.foldl (fun high run => max high run.2) start

theorem highest_spec {start : ℕ} : start ≤ highest start l ∧ (∀ run ∈ l, run.2 ≤ highest start l) ∧
    (highest start l = start ∨ ∃ run ∈ l, run.2 = highest start l) := by
  induction l generalizing start with
  | nil => exact ⟨Nat.le_refl start, by simp, Or.inl rfl⟩
  | cons run l ih =>
    obtain ⟨above, bound, attained⟩ := @ih (max start run.2)
    refine ⟨(Nat.le_max_left ..).trans above, ?_, ?_⟩
    · rintro run' (_ | ⟨_, hrun⟩)
      · exact (Nat.le_max_right ..).trans above
      · exact bound run' hrun
    · rcases attained with last | ⟨run', hrun, last⟩
      · rcases Nat.le_total run.2 start with low | high
        · exact Or.inl (last.trans (Nat.max_eq_left low))
        · exact Or.inr ⟨run, List.mem_cons_self, (last.trans (Nat.max_eq_right high)).symm⟩
      · exact Or.inr ⟨run', List.mem_cons_of_mem _ hrun, last⟩

/-- The highest upper end of the runs is the last set bit. -/
theorem highest_runs (h : true ∈ bits) : bits[highest 0 (runs 0 bits)]? = some true ∧
    ∀ k, bits[k]? = some true → k ≤ highest 0 (runs 0 bits) := by
  obtain ⟨-, bound, attained⟩ := @highest_spec (runs 0 bits) 0
  have upper : ∃ run ∈ runs 0 bits, run.2 = highest 0 (runs 0 bits) := by
    rcases attained with zero | attained
    · obtain ⟨run, hrun⟩ := List.exists_mem_of_ne_nil _ (runs_ne_nil h)
      exact ⟨run, hrun, by have := bound run hrun; omega⟩
    · exact attained
  constructor
  · obtain ⟨run, hrun, last⟩ := upper
    obtain ⟨k, hk, hbit⟩ := covers_runs.mp ⟨run, hrun, ordered_runs run hrun, Nat.le_refl run.2⟩
    rwa [← last, hk, Nat.zero_add]
  · intro k hbit
    obtain ⟨run, hrun, -, le⟩ := covers_runs.mpr ⟨k, (Nat.zero_add k).symm, hbit⟩
    exact le.trans (bound run hrun)

/-- The set bits are the first ones. -/
def Gapless (bits : List Bool) : Prop := ∀ k last : ℕ, k ≤ last → bits[last]? = some true → bits[k]? = some true

section Last
variable {last : ℕ} (le_last : ∀ k : ℕ, bits[k]? = some true → k ≤ last)
include le_last

/-- No set bit is behind the last one. -/
theorem count_take_last : (bits.take (last + 1)).count true = bits.count true := by
  have behind : (bits.drop (last + 1)).count true = 0 := by
    rw [List.count_eq_zero]
    intro hmem
    obtain ⟨k, hk⟩ := List.mem_iff_getElem?.mp hmem
    rw [List.getElem?_drop] at hk
    have := le_last _ hk
    omega
  calc (bits.take (last + 1)).count true
    _ = (bits.take (last + 1)).count true + (bits.drop (last + 1)).count true := by simp only [behind, Nat.add_zero]
    _ = bits.count true := by rw [← List.count_append, List.take_append_drop]

/-- There is no gap if all bits up to the last one are set. -/
theorem gapless_iff_take_last (hlast : bits[last]? = some true) : Gapless bits ↔ ∀ b ∈ bits.take (last + 1), true = b := by
  obtain ⟨hlength, -⟩ := List.getElem?_eq_some_iff.mp hlast
  constructor
  · intro gapless b hb
    obtain ⟨k, hk⟩ := List.mem_iff_getElem?.mp hb
    obtain ⟨lt, -⟩ := List.getElem?_eq_some_iff.mp hk
    have hk' : k < last + 1 := lt.trans_le (List.length_take_le _ _)
    rw [List.getElem?_take_of_lt hk', gapless k last (by omega) hlast] at hk
    exact Option.some.inj hk
  · intro all k last' hk hset
    have hk' : k < last + 1 := by
      have := le_last last' hset
      omega
    have hb : bits[k]? = some bits[k] := List.getElem?_eq_getElem (by omega)
    have mem : bits[k] ∈ bits.take (last + 1) := List.mem_iff_getElem?.mpr ⟨k, by rw [List.getElem?_take_of_lt hk', hb]⟩
    rw [hb, ← all bits[k] mem]

end Last

/-- The last set bit tells how many there are exactly if there is no gap before it. -/
theorem count_eq_highest_iff (h : true ∈ bits) : highest 0 (runs 0 bits) + 1 = bits.count true ↔ Gapless bits := by
  obtain ⟨hlast, le_last⟩ := highest_runs h
  generalize highest 0 (runs 0 bits) = last at hlast le_last
  obtain ⟨hlength, -⟩ := List.getElem?_eq_some_iff.mp hlast
  have length : (bits.take (last + 1)).length = last + 1 := by
    rw [List.length_take]
    omega
  rw [gapless_iff_take_last le_last hlast, ← List.count_eq_length, count_take_last le_last, length, eq_comm]

/-! ### Text -/

def runText (run : ℕ × ℕ) : List Char :=
  if run.1 = run.2 then Nat.toDigits 10 run.1 else Nat.toDigits 10 run.1 ++ '-' :: Nat.toDigits 10 run.2

/-- The text of a bitmap. -/
def write (bits : List Bool) : List Char := [','].intercalate ((runs 0 bits).map runText)

theorem mem_runText {run : ℕ × ℕ} {c : Char} (h : c ∈ runText run) : c.isDigit = true ∨ c = '-' := by
  unfold runText at h
  split at h
  · exact Or.inl (isDigit_of_mem h)
  · rcases List.mem_append.mp h with h | _ | ⟨_, h⟩
    · exact Or.inl (isDigit_of_mem h)
    · exact Or.inr rfl
    · exact Or.inl (isDigit_of_mem h)

theorem comma_notMem_runText {run : ℕ × ℕ} : ',' ∉ runText run := by
  intro h
  rcases mem_runText h with h | h <;> simp at h

theorem mem_intercalate {separator c : Char} {texts : List (List Char)} (h : c ∈ [separator].intercalate texts) :
    c = separator ∨ ∃ text ∈ texts, c ∈ text := by
  induction texts with
  | nil => cases h
  | cons text texts ih =>
    rcases eq_or_ne texts [] with rfl | hne
    · exact Or.inr ⟨text, List.mem_singleton_self text, by rwa [List.intercalate_singleton] at h⟩
    · rw [List.intercalate_cons_of_ne_nil hne, List.mem_append, List.mem_append] at h
      rcases h with (h | h) | h
      · exact Or.inr ⟨text, List.mem_cons_self, h⟩
      · exact Or.inl (List.mem_singleton.mp h)
      · rcases ih h with rfl | ⟨text', htext, hc⟩
        · exact Or.inl rfl
        · exact Or.inr ⟨text', List.mem_cons_of_mem _ htext, hc⟩

theorem isWhitespace_write {c : Char} (h : c ∈ write bits) : isWhitespace c = false := by
  rcases mem_intercalate h with rfl | ⟨text, htext, hc⟩
  · decide
  · obtain ⟨run, -, rfl⟩ := List.mem_map.mp htext
    rcases mem_runText hc with digit | rfl
    · exact isWhitespace_of_isDigit digit
    · decide

theorem splitOn_write (h : runs 0 bits ≠ []) : (write bits).splitOn ',' = (runs 0 bits).map runText :=
  List.splitOn_intercalate ',' (fun text htext => by
    obtain ⟨run, -, rfl⟩ := List.mem_map.mp htext
    exact comma_notMem_runText) (by simpa using h)

end Lib.RangeText
