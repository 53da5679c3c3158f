import FleetosAgent.Lib.Paths
import Mathlib.Algebra.Group.Nat.Defs

/-! # Paths as the system has them

A path is a string of bytes, which need not be UTF-8. As text it is what its bytes say, with U+FFFD in the place of what
says nothing; so the text of a path is another path exactly if the path is not UTF-8. -/

namespace Lib

structure OsPath where
  bytes : ByteArray

namespace OsPath

def ofString (text : String) : OsPath := ⟨text.toByteArray⟩

def IsUtf8 (p : OsPath) : Prop := p.bytes.IsValidUTF8

/-! ### Text -/

/-- How many bytes should follow a first byte, and the bounds of the first of them; `none` for a byte that begins nothing.
    -/
def sequenceOf (b : UInt8) : Option (Nat × UInt8 × UInt8) :=
  if b < 0x80 then some (0, 0x80, 0xBF)
  else if b < 0xC2 then none
  else if b < 0xE0 then some (1, 0x80, 0xBF)
  else if b < 0xF0 then some (2, if b = 0xE0 then 0xA0 else 0x80, if b = 0xED then 0x9F else 0xBF)
  else if b < 0xF5 then some (3, if b = 0xF0 then 0x90 else 0x80, if b = 0xF4 then 0x8F else 0xBF)
  else none

/-- The bytes that do follow, at most `n` of them. -/
def continuation : Nat → UInt8 → UInt8 → List UInt8 → List UInt8
  | n + 1, low, high, b :: rest => if low ≤ b ∧ b ≤ high then b :: continuation n 0x80 0xBF rest else []
  | _, _, _, _ => []

/-- `String::from_utf8_lossy`, where the bytes are not UTF-8: one U+FFFD for each first byte and what follows it, as far
    as it is well formed. -/
def lossyChars : List UInt8 → List Char
  | [] => []
  | b :: rest =>
    match sequenceOf b with
    | none => '�' :: lossyChars rest
    | some (n, low, high) =>
      let following := continuation n low high rest
      let char := if following.length = n then
          .ofNat (following.foldl (fun value b => value * 64 + b.toNat % 64)
            (if n = 0 then b.toNat else b.toNat % 2 ^ (6 - n)))
        else '�'
      char :: lossyChars (rest.drop following.length)
termination_by bytes => bytes.length
decreasing_by
  · simp
  · simp only [List.length_drop, List.length_cons]
    omega

/-- `Path::to_string_lossy`. -/
def toStringLossy (p : OsPath) : String := (String.fromUTF8? p.bytes).getD (.ofList (lossyChars p.bytes.toList))

theorem ofString_injective {s t : String} (h : ofString s = ofString t) : s = t :=
  String.toByteArray_inj.mp (OsPath.mk.inj h)

theorem isUtf8_ofString (text : String) : (ofString text).IsUtf8 := text.isValidUTF8

/-- The text leads back to the path exactly if no byte was replaced. -/
theorem ofString_toStringLossy_iff {p : OsPath} : ofString p.toStringLossy = p ↔ p.IsUtf8 := by
  constructor
  · intro h
    rw [← h]
    exact isUtf8_ofString _
  · intro h
    have text : String.fromUTF8? p.bytes = some (.fromUTF8 p.bytes h) := dif_pos h
    rw [toStringLossy, text]
    rfl

/-! ### Joins -/

/-- `Path::join`. -/
def join (p : OsPath) (path : String) : OsPath :=
  joinOnto ofString (fun p text => ⟨p.bytes ++ text.toByteArray⟩)
    (fun p => p.bytes.size = 0 ∨ p.bytes.toList.getLast? = some 0x2F) p path

/-- What stands before text is UTF-8 if the whole is. -/
theorem isValidUTF8_of_append {b : ByteArray} {text : String} (h : (b ++ text.toByteArray).IsValidUTF8) :
    b.IsValidUTF8 := by
  let whole : String := ⟨b ++ text.toByteArray, h⟩
  have size : whole.utf8ByteSize = b.size + text.toByteArray.size := by
    rw [← String.size_toByteArray]
    exact ByteArray.size_append
  have valid : (String.Pos.Raw.mk b.size).IsValid whole := by
    refine String.Pos.Raw.isValid_iff_isValidUTF8_extract_utf8ByteSize.mpr ⟨?_, ?_⟩
    · rw [String.Pos.Raw.le_iff, String.byteIdx_rawEndPos, size]
      exact Nat.le_add_right ..
    · rw [size]
      show ((b ++ text.toByteArray).extract b.size (b.size + text.toByteArray.size)).IsValidUTF8
      rw [ByteArray.extract_append_eq_right rfl rfl]
      exact text.isValidUTF8
  have front := valid.isValidUTF8_extract_zero
  have back : whole.toByteArray.extract 0 b.size = b := ByteArray.extract_append_eq_left rfl
  rwa [back] at front

theorem isUtf8_join {p : OsPath} {path : String} (h : path.startsWith "/" = false) : (p.join path).IsUtf8 ↔ p.IsUtf8 := by
  rw [join, joinOnto, h, if_neg Bool.false_ne_true]
  split
  · exact ⟨isValidUTF8_of_append, fun hp => hp.append path.isValidUTF8⟩
  · exact ⟨isValidUTF8_of_append, fun hp => hp.append (String.isValidUTF8 _)⟩

end OsPath

end Lib
