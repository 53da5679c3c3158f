import Mathlib.Data.List.Chain

/-! # Runs of a step function

A run feeds a list of inputs to a step function. `Along` says that something holds at every step of a run,
of the state before the step and its input; the rules turn a fact about one step into one about runs. -/

namespace Lib

variable {σ α : Type} {step : σ → α → σ} {P C : σ → α → Prop} {I : σ → Prop} {s : σ} {a : α} {l : List α}

/-- `P` holds at every step of the run of `l` from `s`. -/
def Along (step : σ → α → σ) (P : σ → α → Prop) (s : σ) (l : List α) : Prop :=
  ∀ pre a post, l = pre ++ a :: post → P (pre.foldl step s) a

theorem along_nil : Along step P s [] := fun pre a post h => by simp at h

theorem along_cons : Along step P s (a :: l) ↔ P s a ∧ Along step P (step s a) l := by
  constructor
  · intro h
    exact ⟨h [] a l rfl, fun pre b post hl => h (a :: pre) b post (by rw [hl]; rfl)⟩
  · rintro ⟨h, t⟩ pre b post hl
    cases pre with
    | nil =>
      obtain ⟨rfl, -⟩ := List.cons.inj hl
      exact h
    | cons c pre =>
      obtain ⟨rfl, hl'⟩ := List.cons.inj hl
      exact t pre b post hl'

theorem along_append {l' : List α} :
    Along step P s (l ++ l') ↔ Along step P s l ∧ Along step P (l.foldl step s) l' := by
  induction l generalizing s with
  | nil => exact ⟨fun h => ⟨along_nil, h⟩, And.right⟩
  | cons a l ih =>
    rw [List.cons_append, along_cons, along_cons, ih, and_assoc]
    rfl

theorem along_concat : Along step P s (l ++ [a]) ↔ Along step P s l ∧ P (l.foldl step s) a := by
  rw [along_append, along_cons]
  exact and_congr_right fun _ => and_iff_left along_nil

theorem Along.mono (h : Along step C s l) (hCP : ∀ s a, C s a → P s a) : Along step P s l :=
  fun pre a post hl => hCP _ _ (h pre a post hl)

theorem along_congr (h : ∀ s a, P s a ↔ C s a) : Along step P s l ↔ Along step C s l :=
  ⟨fun k => k.mono fun s a => (h s a).mp, fun k => k.mono fun s a => (h s a).mpr⟩

/-- The invariant rule: where each step meets the condition `C`, a step from a state with `I` keeps `I`. -/
theorem Along.inv (hstep : ∀ s a, I s → C s a → I (step s a)) (h : Along step C s l) (hs : I s) :
    I (l.foldl step s) := by
  induction l generalizing s with
  | nil => exact hs
  | cons a l ih =>
    obtain ⟨ha, ht⟩ := along_cons.mp h
    exact ih ht (hstep s a hs ha)

/-- What an invariant gives at one step holds at every step. -/
theorem Along.of_inv (hstep : ∀ s a, I s → C s a → I (step s a)) (hP : ∀ s a, I s → C s a → P s a)
    (h : Along step C s l) (hs : I s) : Along step P s l := by
  intro pre a post hl
  have hpre : Along step C s pre := fun pre' b post' hl' => h pre' b (post' ++ a :: post) (by rw [hl, hl']; simp)
  exact hP _ a (hpre.inv hstep hs) (h pre a post hl)

/-- Where `P` keeps an invariant under which it is the same as `C`, a run meets the one exactly if it meets the other. -/
theorem along_iff_of_inv {A : α → Prop} (hl : ∀ a ∈ l, A a) (hs : I s) (hiff : ∀ s a, I s → A a → (P s a ↔ C s a))
    (hkeep : ∀ s a, I s → A a → P s a → I (step s a)) : Along step P s l ↔ Along step C s l := by
  induction l generalizing s with
  | nil => exact ⟨fun _ => along_nil, fun _ => along_nil⟩
  | cons a l ih =>
    obtain ⟨ha, hrest⟩ := List.forall_mem_cons.mp hl
    rw [along_cons, along_cons, ← hiff s a hs ha]
    exact and_congr_right fun hP => ih hrest (hkeep s a hs ha hP)

/-- Inputs that do nothing can be left out of a run. -/
theorem Along.foldl_filter {p : α → Bool} (h : Along step (fun s a => p a = false → step s a = s) s l) :
    (l.filter p).foldl step s = l.foldl step s := by
  induction l generalizing s with
  | nil => rfl
  | cons a l ih =>
    obtain ⟨idle, rest⟩ := along_cons.mp h
    cases ha : p a with
    | true => rw [List.filter_cons_of_pos ha, List.foldl_cons, List.foldl_cons, ih rest]
    | false =>
      rw [idle ha] at rest
      rw [List.filter_cons_of_neg (by simp [ha]), List.foldl_cons, idle ha, ih rest]

/-- `P` holds of each element of a list and what stands before it. -/
def Throughout (P : List α → α → Prop) (l : List α) : Prop := ∀ pre a post, l = pre ++ a :: post → P pre a

theorem throughout_nil {P : List α → α → Prop} : Throughout P [] := fun pre a post h => by simp at h

theorem throughout_concat {P : List α → α → Prop} : Throughout P (l ++ [a]) ↔ Throughout P l ∧ P l a := by
  have whole : ∀ pre : List α, pre.foldl (fun l a => l ++ [a]) [] = pre := by
    intro pre
    induction pre using List.reverseRecOn with
    | nil => rfl
    | append_singleton pre a ih => rw [List.foldl_concat, ih]
  have along : ∀ l, Throughout P l ↔ Along (fun l a => l ++ [a]) P [] l :=
    fun l => forall_congr' fun pre => by rw [whole pre]
  rw [along, along, along_concat, whole]

/-! ### What a run emits -/

section Emitted
variable {β : Type} {out : σ → α → Option β}

/-- What the steps of a run emit, in order: `out s a` is what the step from `s` with `a` emits. -/
def emitted (step : σ → α → σ) (out : σ → α → Option β) : σ → List α → List β
  | _, [] => []
  | s, a :: l => (out s a).toList ++ emitted step out (step s a) l

@[simp] theorem emitted_nil : emitted step out s [] = [] := rfl

theorem emitted_append {l' : List α} :
    emitted step out s (l ++ l') = emitted step out s l ++ emitted step out (l.foldl step s) l' := by
  induction l generalizing s with
  | nil => rfl
  | cons a l ih => simp [emitted, ih]

theorem emitted_concat : emitted step out s (l ++ [a]) = emitted step out s l ++ (out (l.foldl step s) a).toList := by
  rw [emitted_append]
  simp [emitted]

theorem emitted_concat_of_none (h : out (l.foldl step s) a = none) :
    emitted step out s (l ++ [a]) = emitted step out s l := by
  rw [emitted_concat, h, Option.toList_none, List.append_nil]

theorem emitted_concat_of_some {b : β} (h : out (l.foldl step s) a = some b) :
    emitted step out s (l ++ [a]) = emitted step out s l ++ [b] := by
  rw [emitted_concat, h, Option.toList_some]

theorem mem_emitted {b : β} (h : b ∈ emitted step out s l) : ∃ a ∈ l, ∃ s', out s' a = some b := by
  induction l generalizing s with
  | nil => cases h
  | cons a l ih =>
    rcases List.mem_append.mp h with h | h
    · exact ⟨a, List.mem_cons_self, s, Option.mem_toList.mp h⟩
    · obtain ⟨a', hmem, hout⟩ := ih h
      exact ⟨a', List.mem_cons_of_mem _ hmem, hout⟩

theorem getLast?_emitted_concat : (emitted step out s (l ++ [a])).getLast? =
    (out (l.foldl step s) a).or (emitted step out s l).getLast? := by
  rw [emitted_concat]
  cases out (l.foldl step s) a <;> simp

end Emitted

/-! ### Feeds of full-state frames -/

section Feed
variable {ν δ : Type} {accept : ν → α → Option (ν × δ)} {V : σ → ν} {H G : δ → σ → Prop} {R : δ → δ → Prop}
  {A : α → Prop} {p : δ}

/-- What the accepted frames of a feed say, in order: at version `v` a frame is dropped or accepted with a new version. -/
def accepted (accept : ν → α → Option (ν × δ)) : ν → List α → List δ
  | _, [] => []
  | v, a :: l =>
    match accept v a with
    | none => accepted accept v l
    | some (v', d) => d :: accepted accept v' l

/-- Where an accepted frame `d` after `p` is good exactly if `R p d`, every accepted frame of a run is good exactly if
    `R` holds from each accepted frame to the next. `H p s` says that `s` is what a good `p` left. -/
theorem along_each_iff_isChain {G : σ → α → δ → Prop} (hskip : ∀ s a, accept (V s) a = none → step s a = s)
    (hgood : ∀ p s a v d, H p s → A a → accept (V s) a = some (v, d) → (G s a d ↔ R p d))
    (hhold : ∀ p s a v d, H p s → A a → accept (V s) a = some (v, d) → G s a d → H d (step s a) ∧ V (step s a) = v)
    (hl : ∀ a ∈ l, A a) (hs : H p s) :
    Along step (fun s a => ∀ v d, accept (V s) a = some (v, d) → G s a d) s l ↔
      (p :: accepted accept (V s) l).IsChain R := by
  induction l generalizing s p with
  | nil => exact ⟨fun _ => .singleton _, fun _ => along_nil⟩
  | cons a l ih =>
    obtain ⟨ha, hrest⟩ := List.forall_mem_cons.mp hl
    rw [along_cons, accepted]
    cases hacc : accept (V s) a with
    | none =>
      rw [hskip s a hacc]
      exact (and_iff_right (by rintro v d ⟨⟩)).trans (ih hrest hs)
    | some vd =>
      obtain ⟨v, d⟩ := vd
      have one : (∀ v' d', some (v, d) = some (v', d') → G s a d') ↔ G s a d :=
        ⟨fun h => h v d rfl, by rintro h v' d' ⟨⟩; exact h⟩
      rw [one, List.isChain_cons_cons, ← hgood p s a v d hs ha hacc]
      refine and_congr_right fun hd => ?_
      obtain ⟨held, version⟩ := hhold p s a v d hs ha hacc hd
      rw [← version]
      exact ih hrest held

/-- The same where good is said of the state that the frame leaves, and every accepted frame is heard. -/
theorem along_good_iff_isChain (hskip : ∀ s a, accept (V s) a = none → step s a = s)
    (hversion : ∀ p s a v d, H p s → A a → accept (V s) a = some (v, d) → V (step s a) = v)
    (hgood : ∀ p s a v d, H p s → A a → accept (V s) a = some (v, d) → (G d (step s a) ↔ R p d))
    (hhold : ∀ p s a v d, H p s → A a → accept (V s) a = some (v, d) → G d (step s a) → H d (step s a))
    (hl : ∀ a ∈ l, A a) (hs : H p s) :
    Along step (fun s a => ∀ v d, accept (V s) a = some (v, d) → G d (step s a)) s l ↔
      (p :: accepted accept (V s) l).IsChain R :=
  along_each_iff_isChain hskip hgood
    (fun p s a v d hp ha hacc hd => ⟨hhold p s a v d hp ha hacc hd, hversion p s a v d hp ha hacc⟩) hl hs

end Feed

end Lib
