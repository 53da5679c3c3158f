import FleetosAgent.Identity.Sequences
import FleetosAgent.Lib.Run

/-! # The replay table refines a map of watermarks

The byte-keyed store is read through the key encoding, which is injective: the target may hold any bytes, the separator and
the version after it have a fixed length. So the store is a map from pairs to watermarks, and every call does to the one
what the abstract table does to the other. -/

namespace FleetosAgent.Identity
open Lib

/-! ### Keys and values -/

theorem utf8_injective {s t : String} (h : utf8 s = utf8 t) : s = t :=
  String.toByteArray_inj.mp (ByteArray.ext (Array.toList_inj.mp h))

theorem sequenceKey_injective {target target' : String} {version version' : UInt64}
    (h : sequenceKey target version = sequenceKey target' version') : target = target' ∧ version = version' := by
  have suffix : (0x00 :: toLeBytes version).length = (0x00 :: toLeBytes version').length := by simp [toLeBytes]
  obtain ⟨htarget, hversion⟩ := List.append_inj' h suffix
  exact ⟨utf8_injective htarget, toLeBytes_injective (List.cons.inj hversion).2⟩

@[simp] theorem storedSequence_toLeBytes (n : UInt64) : storedSequence (toLeBytes n) = some n := by
  have length : (toLeBytes n).length = 8 := length_leBytes 8 n.toNat
  rw [storedSequence, if_pos length.ge, List.take_of_length_le length.le, toLeBytes, ofLeBytes_leBytes n.toNat_lt,
    UInt64.ofNat_toNat]

/-! ### The abstract table -/

/-- The watermark of each (target, svid_version) pair. -/
abbrev Watermarks := String × UInt64 → Option UInt64

/-- The sequence is valid and above the watermark. -/
def Watermarks.Passes (marks : Watermarks) (pair : String × UInt64) (sequence : UInt64) : Prop :=
  0 < sequence ∧ ∀ mark ∈ marks pair, mark < sequence

/-- The sequence passes, and the storage lets it be recorded. -/
def Watermarks.Records (marks : Watermarks) (pair : String × UInt64) (sequence : UInt64) (env : StorageEnv) : Prop :=
  marks.Passes pair sequence ∧ env.get = none ∧ env.insert = none

open Classical in
/-- The answer to a check; a storage error ends one that comes to read or to write. -/
noncomputable def Watermarks.verdict (marks : Watermarks) (pair : String × UInt64) (sequence : UInt64) (env : StorageEnv) :
    Except AgentError Bool :=
  if sequence = 0 then .ok false
  else match env.get with
    | some e => .error (.storage e)
    | none =>
      if marks.Passes pair sequence then
        match env.insert with
        | some e => .error (.storage e)
        | none => .ok true
      else .ok false

open Classical in
noncomputable def watermarkStep (marks : Watermarks) : SequenceCall → Watermarks
  | .checkAndRecord target version sequence env =>
    if marks.Records (target, version) sequence env then Function.update marks (target, version) (some sequence) else marks
  | .lastSeen .. => marks

noncomputable def watermarkAnswer (marks : Watermarks) : SequenceCall → SequenceAnswer
  | .checkAndRecord target version sequence env => .checked (marks.verdict (target, version) sequence env)
  | .lastSeen target version env => .seen <|
    match env.get with
    | some e => .error (.storage e)
    | none => .ok (marks (target, version))

theorem Watermarks.verdict_eq_ok_true {marks : Watermarks} {pair : String × UInt64} {sequence : UInt64} {env : StorageEnv} :
    marks.verdict pair sequence env = .ok true ↔ marks.Records pair sequence env := by
  unfold verdict Records
  by_cases hzero : sequence = 0
  · have fails : ¬marks.Passes pair sequence := fun h => UInt64.pos_iff_ne_zero.mp h.1 hzero
    simp [hzero, hzero ▸ fails]
  · cases env.get with
    | some e => simp [hzero]
    | none =>
      by_cases hpass : marks.Passes pair sequence
      · cases env.insert <;> simp [hzero, hpass]
      · simp [hzero, hpass]

/-! ### Reading the store -/

section Refine
variable {store : SequenceStore} {target : String} {version sequence : UInt64} {env : StorageEnv}

/-- The table that a store holds. -/
def watermarks (store : SequenceStore) : Watermarks :=
  fun pair => (store.get (sequenceKey pair.1 pair.2)).bind storedSequence

theorem watermarks_insert : watermarks (store.insert (sequenceKey target version) (toLeBytes sequence)) =
    Function.update (watermarks store) (target, version) (some sequence) := by
  funext pair
  obtain ⟨target', version'⟩ := pair
  by_cases hpair : (target', version') = (target, version)
  · obtain ⟨rfl, rfl⟩ := Prod.mk.inj hpair
    rw [Function.update_self, watermarks, FinMap.get_insert, if_pos rfl]
    exact storedSequence_toLeBytes sequence
  · have hkey : sequenceKey target' version' ≠ sequenceKey target version := fun h => by
      obtain ⟨rfl, rfl⟩ := sequenceKey_injective h
      exact hpair rfl
    rw [Function.update_of_ne hpair, watermarks, FinMap.get_insert_ne _ _ hkey]
    rfl

theorem passes_iff (hseq : sequence ≠ 0) : (watermarks store).Passes (target, version) sequence ↔
    ¬sequence ≤ ((store.get (sequenceKey target version)).bind storedSequence).getD 0 := by
  have hpos : 0 < sequence := UInt64.pos_iff_ne_zero.mpr hseq
  rw [Watermarks.Passes, UInt64.not_le, and_iff_right hpos, watermarks]
  cases (store.get (sequenceKey target version)).bind storedSequence with
  | none => simpa using hpos
  | some mark => simp

open Classical in
/-- `checkAndRecord` in terms of the table. -/
theorem checkAndRecord_eq : checkAndRecord env store target version sequence =
    ((watermarks store).verdict (target, version) sequence env,
      if (watermarks store).Records (target, version) sequence env then
        store.insert (sequenceKey target version) (toLeBytes sequence)
      else store) := by
  unfold checkAndRecord Watermarks.verdict Watermarks.Records
  by_cases hzero : sequence = 0
  · have fails : ¬(watermarks store).Passes (target, version) sequence := fun h => UInt64.pos_iff_ne_zero.mp h.1 hzero
    simp [hzero, hzero ▸ fails]
  · cases env.get with
    | some e => simp [hzero]
    | none =>
      by_cases hpass : (watermarks store).Passes (target, version) sequence
      · have newer := (passes_iff hzero).mp hpass
        cases env.insert <;> simp [hzero, newer, hpass]
      · have older := not_not.mp (mt (passes_iff hzero).mpr hpass)
        simp [hzero, older, hpass]

theorem answer_refines (store : SequenceStore) (call : SequenceCall) :
    sequenceAnswer store call = watermarkAnswer (watermarks store) call := by
  cases call with
  | checkAndRecord target version sequence env => rw [sequenceAnswer, watermarkAnswer, checkAndRecord_eq]
  | lastSeen target version env => rfl

theorem step_refines (store : SequenceStore) (call : SequenceCall) :
    watermarks (sequenceStep store call) = watermarkStep (watermarks store) call := by
  cases call with
  | checkAndRecord target version sequence env =>
    rw [sequenceStep, watermarkStep, checkAndRecord_eq, apply_ite watermarks, watermarks_insert]
  | lastSeen target version env => rfl

end Refine

/-! ### What was accepted -/

section History

/-- The pair and the sequence that the call accepts. -/
def accepts (store : SequenceStore) : SequenceCall → Option ((String × UInt64) × UInt64)
  | .checkAndRecord target version sequence env =>
    match (checkAndRecord env store target version sequence).1 with
    | .ok true => some ((target, version), sequence)
    | _ => none
  | .lastSeen .. => none

/-- The sequences that a run from the empty store accepts for a pair. -/
def acceptedFor (calls : List SequenceCall) (pair : String × UInt64) : List UInt64 :=
  (emitted sequenceStep accepts ∅ calls).filterMap fun a => if a.1 = pair then some a.2 else none

/-- The largest of the accepted sequences, if there is one. -/
def IsWatermark (accepted : List UInt64) : Option UInt64 → Prop
  | none => accepted = []
  | some mark => mark ∈ accepted ∧ ∀ sequence ∈ accepted, sequence ≤ mark

theorem IsWatermark.passes_iff {accepted : List UInt64} {mark : Option UInt64} {sequence : UInt64}
    (h : IsWatermark accepted mark) : (∀ m ∈ mark, m < sequence) ↔ ∀ s ∈ accepted, s < sequence := by
  cases mark with
  | none =>
    rw [show accepted = [] from h]
    simp
  | some mark =>
    obtain ⟨hmem, hmax⟩ := h
    constructor
    · intro hlt s hs
      exact Std.lt_of_le_of_lt (hmax s hs) (hlt mark rfl)
    · rintro hall m ⟨⟩
      exact hall _ hmem

/-- A call accepts what passes and moves the watermark there, or it changes nothing. -/
theorem accepts_cases (store : SequenceStore) (call : SequenceCall) :
    (accepts store call = none ∧ sequenceStep store call = store) ∨
      ∃ pair sequence, accepts store call = some (pair, sequence) ∧ (watermarks store).Passes pair sequence ∧
        watermarks (sequenceStep store call) = Function.update (watermarks store) pair (some sequence) := by
  cases call with
  | lastSeen target version env => exact Or.inl ⟨rfl, rfl⟩
  | checkAndRecord target version sequence env =>
    by_cases hrec : (watermarks store).Records (target, version) sequence env
    · have verdict := Watermarks.verdict_eq_ok_true.mpr hrec
      refine Or.inr ⟨(target, version), sequence, ?_, hrec.1, ?_⟩
      · rw [accepts, checkAndRecord_eq, verdict]
      · rw [step_refines, watermarkStep, if_pos hrec]
    · have verdict := mt Watermarks.verdict_eq_ok_true.mp hrec
      refine Or.inl ⟨?_, by rw [sequenceStep, checkAndRecord_eq, if_neg hrec]⟩
      rw [accepts, checkAndRecord_eq]
      split
      · next htrue => exact absurd htrue verdict
      · rfl

theorem acceptedFor_concat (calls : List SequenceCall) (call : SequenceCall) (pair : String × UInt64) :
    acceptedFor (calls ++ [call]) pair = acceptedFor calls pair ++
      (accepts (calls.foldl sequenceStep ∅) call).toList.filterMap fun a => if a.1 = pair then some a.2 else none := by
  rw [acceptedFor, emitted_concat, List.filterMap_append, acceptedFor]

/-- The store holds the largest accepted sequence of every pair. -/
theorem isWatermark_run (calls : List SequenceCall) (pair : String × UInt64) :
    IsWatermark (acceptedFor calls pair) (watermarks (calls.foldl sequenceStep ∅) pair) := by
  induction calls using List.reverseRecOn with
  | nil => rfl
  | append_singleton calls call ih =>
    rw [acceptedFor_concat, List.foldl_concat]
    rcases accepts_cases (calls.foldl sequenceStep ∅) call with ⟨hnone, hsame⟩ | ⟨pair', sequence, hacc, hpass, hmarks⟩
    · rw [hnone, hsame, Option.toList_none, List.filterMap_nil, List.append_nil]
      exact ih
    · rw [hacc, hmarks, Option.toList_some]
      by_cases hpair : pair' = pair
      · subst hpair
        have newest : ∀ s ∈ acceptedFor calls pair', s < sequence := ih.passes_iff.mp hpass.2
        rw [Function.update_self]
        refine ⟨by simp, fun s hs => ?_⟩
        rcases List.mem_append.mp hs with hs | hs
        · exact UInt64.le_of_lt (newest s hs)
        · simp only [List.filterMap_cons, if_true, List.filterMap_nil, List.mem_singleton] at hs
          rw [hs]
          exact UInt64.le_refl _
      · rw [Function.update_of_ne (Ne.symm hpair)]
        simpa [hpair] using ih

/-! ### The refinement -/

/-- After `calls` the store is a table of watermarks: every answer was the table's, and the next call is answered by the
    sequences that were accepted for its pair. -/
structure BehavesAsTable (calls : List SequenceCall) : Prop where
  answers : emitted sequenceStep (fun store call => some (sequenceAnswer store call)) ∅ calls =
    emitted watermarkStep (fun marks call => some (watermarkAnswer marks call)) (fun _ => none) calls
  table : watermarks (calls.foldl sequenceStep ∅) = calls.foldl watermarkStep fun _ => none
  check : ∀ target version sequence env, env.get = none → env.insert = none →
    ∃ accepted, (checkAndRecord env (calls.foldl sequenceStep ∅) target version sequence).1 = .ok accepted ∧
      (accepted = true ↔ 1 ≤ sequence ∧ ∀ s ∈ acceptedFor calls (target, version), s < sequence)
  rejected : ∀ call, accepts (calls.foldl sequenceStep ∅) call = none →
    sequenceStep (calls.foldl sequenceStep ∅) call = calls.foldl sequenceStep ∅
  others : ∀ target version sequence env pair, pair ≠ (target, version) →
    watermarks (sequenceStep (calls.foldl sequenceStep ∅) (.checkAndRecord target version sequence env)) pair =
      watermarks (calls.foldl sequenceStep ∅) pair
  last_seen : ∀ target version env, env.get = none →
    ∃ mark, lastSeen env (calls.foldl sequenceStep ∅) target version = .ok mark ∧
      IsWatermark (acceptedFor calls (target, version)) mark

theorem run_refines (store : SequenceStore) (calls : List SequenceCall) :
    emitted sequenceStep (fun store call => some (sequenceAnswer store call)) store calls =
        emitted watermarkStep (fun marks call => some (watermarkAnswer marks call)) (watermarks store) calls ∧
      watermarks (calls.foldl sequenceStep store) = calls.foldl watermarkStep (watermarks store) := by
  induction calls generalizing store with
  | nil => exact ⟨rfl, rfl⟩
  | cons call calls ih =>
    obtain ⟨answers, table⟩ := ih (sequenceStep store call)
    rw [emitted, emitted, List.foldl_cons, List.foldl_cons, answers, table, answer_refines, step_refines]
    exact ⟨rfl, rfl⟩

/-- The replay table behaves like a map from pairs to watermarks over every sequence of calls. -/
theorem sequences_behave_as_table (calls : List SequenceCall) : BehavesAsTable calls where
  answers := (run_refines ∅ calls).1
  table := (run_refines ∅ calls).2
  check target version sequence env hget hinsert := by
    have valid : 0 < sequence ↔ 1 ≤ sequence := by
      rw [UInt64.lt_iff_toNat_lt, UInt64.le_iff_toNat_le]
      exact Iff.rfl
    have passes : (watermarks (calls.foldl sequenceStep ∅)).Passes (target, version) sequence ↔
        1 ≤ sequence ∧ ∀ s ∈ acceptedFor calls (target, version), s < sequence :=
      and_congr valid (isWatermark_run calls (target, version)).passes_iff
    rw [checkAndRecord_eq]
    by_cases h : 1 ≤ sequence ∧ ∀ s ∈ acceptedFor calls (target, version), s < sequence
    · exact ⟨true, Watermarks.verdict_eq_ok_true.mpr ⟨passes.mpr h, hget, hinsert⟩, iff_of_true rfl h⟩
    · refine ⟨false, ?_, iff_of_false Bool.false_ne_true h⟩
      rw [Watermarks.verdict, hget, if_neg (mt passes.mp h)]
      exact ite_self _
  rejected call hnone := by
    rcases accepts_cases (calls.foldl sequenceStep ∅) call with ⟨-, hsame⟩ | ⟨pair, sequence, hacc, -⟩
    · exact hsame
    · rw [hnone] at hacc
      cases hacc
  others target version sequence env pair hpair := by
    rw [step_refines, watermarkStep]
    split
    · exact Function.update_of_ne hpair _ _
    · rfl
  last_seen target version env hget :=
    ⟨watermarks (calls.foldl sequenceStep ∅) (target, version), by rw [lastSeen, hget]; rfl,
      isWatermark_run calls (target, version)⟩

end History

end FleetosAgent.Identity
