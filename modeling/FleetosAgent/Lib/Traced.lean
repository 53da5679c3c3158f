import FleetosAgent.Lib.Run

/-! # Programs that pass through states

A stateful program that may fail, with every state it writes on its way recorded, so that something can be said of
every moment of a run and not only of its end. `wp I m Q E s` says of `m` run from `s`: every state it passes through
has `I`, if it returns `a` it ends in `Q a`, and if it fails with `e` it ends in `E e`. -/

namespace Lib

/-- How a program ended, and the states it wrote, in order. -/
structure Outcome (σ ε α : Type) where
  result : Except ε α
  final : σ
  passed : List σ

def Traced (σ ε α : Type) : Type := σ → Outcome σ ε α

namespace Traced

variable {σ ε α β : Type}

instance : Monad (Traced σ ε) where
  pure a s := ⟨.ok a, s, []⟩
  bind m f s :=
    match (m s).result with
    | .error e => ⟨.error e, (m s).final, (m s).passed⟩
    | .ok a => ⟨(f a (m s).final).result, (f a (m s).final).final, (m s).passed ++ (f a (m s).final).passed⟩

def fail (e : ε) : Traced σ ε α := fun s => ⟨.error e, s, []⟩

def get : Traced σ ε σ := fun s => ⟨.ok s, s, []⟩

def modify (f : σ → σ) : Traced σ ε Unit := fun s => ⟨.ok (), f s, [f s]⟩

def ofExcept (x : Except ε α) : Traced σ ε α := fun s => ⟨x, s, []⟩

def when (c : Bool) (m : Traced σ ε Unit) : Traced σ ε Unit := if c then m else pure ()

/-- Run `m` and hand its result on, an error included. -/
def attempt (m : Traced σ ε α) : Traced σ ε (Except ε α) := fun s => ⟨.ok (m s).result, (m s).final, (m s).passed⟩

/-- Run the body for each element; an error ends only its own turn. -/
def runAll (body : α → Traced σ ε β) : List α → Traced σ ε Unit
  | [] => pure ()
  | a :: l => attempt (body a) >>= fun _ => runAll body l

/-- Run a program on a part of a larger state. -/
def zoom {τ : Type} (view : τ → σ) (put : σ → τ → τ) (m : Traced σ ε α) : Traced τ ε α := fun t =>
  ⟨(m (view t)).result, put (m (view t)).final t, (m (view t)).passed.map (put · t)⟩

/-! ### Sequences -/

section Sequences
variable {γ : Type} {m : Traced σ ε α} {f : α → Traced σ ε β} {s : σ}

theorem bind_of_ok {a : α} (h : (m s).result = .ok a) : (m >>= f) s =
    ⟨(f a (m s).final).result, (f a (m s).final).final, (m s).passed ++ (f a (m s).final).passed⟩ := by
  show (match (m s).result with | .error e => _ | .ok a => _ : Outcome σ ε β) = _
  rw [h]

theorem bind_of_error {e : ε} (h : (m s).result = .error e) : (m >>= f) s = ⟨.error e, (m s).final, (m s).passed⟩ := by
  show (match (m s).result with | .error e => _ | .ok a => _ : Outcome σ ε β) = _
  rw [h]

theorem pure_bind {a : α} : (pure a : Traced σ ε α) >>= f = f a := rfl

theorem bind_assoc {g : β → Traced σ ε γ} : m >>= f >>= g = m >>= fun a => f a >>= g := by
  funext s
  cases hm : (m s).result with
  | error e => rw [bind_of_error hm, bind_of_error (by rw [bind_of_error hm]), bind_of_error hm]
  | ok a =>
    rw [bind_of_ok hm]
    cases hf : (f a (m s).final).result with
    | error e => rw [bind_of_error (by rw [bind_of_ok hm, hf]), bind_of_error hf, bind_of_ok hm]
    | ok b => rw [bind_of_ok (by rw [bind_of_ok hm, hf]), bind_of_ok hf, bind_of_ok hm, List.append_assoc]

end Sequences

/-! ### Rules -/

def wp (I : σ → Prop) (m : Traced σ ε α) (Q : α → σ → Prop) (E : ε → σ → Prop) (s : σ) : Prop :=
  (∀ t ∈ (m s).passed, I t) ∧
    match (m s).result with
    | .ok a => Q a (m s).final
    | .error e => E e (m s).final

section Rules
variable {I : σ → Prop} {Q : α → σ → Prop} {E : ε → σ → Prop} {s : σ}

@[simp] theorem wp_pure {a : α} : wp I (pure a : Traced σ ε α) Q E s ↔ Q a s :=
  ⟨fun h => h.2, fun h => ⟨by rintro t ⟨⟩, h⟩⟩

@[simp] theorem wp_fail {e : ε} : wp I (fail e : Traced σ ε α) Q E s ↔ E e s :=
  ⟨fun h => h.2, fun h => ⟨by rintro t ⟨⟩, h⟩⟩

@[simp] theorem wp_get {Q : σ → σ → Prop} : wp I (get : Traced σ ε σ) Q E s ↔ Q s s :=
  ⟨fun h => h.2, fun h => ⟨by rintro t ⟨⟩, h⟩⟩

@[simp] theorem wp_modify {f : σ → σ} {Q : Unit → σ → Prop} :
    wp I (modify f : Traced σ ε Unit) Q E s ↔ I (f s) ∧ Q () (f s) :=
  ⟨fun h => ⟨h.1 _ (List.mem_singleton_self _), h.2⟩, fun h => ⟨fun _ ht => List.mem_singleton.mp ht ▸ h.1, h.2⟩⟩

theorem wp_when {c : Bool} {m : Traced σ ε Unit} {Q : Unit → σ → Prop} (hdo : c = true → wp I m Q E s)
    (hskip : c = false → Q () s) : wp I (when c m) Q E s := by
  cases c
  · exact wp_pure.mpr (hskip rfl)
  · exact hdo rfl

theorem wp_ofExcept {x : Except ε α} (hok : ∀ a, x = .ok a → Q a s) (herr : ∀ e, x = .error e → E e s) :
    wp I (ofExcept x : Traced σ ε α) Q E s := by
  refine ⟨by rintro t ⟨⟩, ?_⟩
  cases x with
  | ok a => exact hok a rfl
  | error e => exact herr e rfl

@[simp] theorem wp_bind {m : Traced σ ε α} {f : α → Traced σ ε β} {Q : β → σ → Prop} :
    wp I (m >>= f) Q E s ↔ wp I m (fun a => wp I (f a) Q E) E s := by
  show wp I (fun s => match (m s).result with | .error e => _ | .ok a => _ : Traced σ ε β) Q E s ↔ _
  unfold wp
  dsimp only
  cases (m s).result with
  | error e => exact Iff.rfl
  | ok a =>
    dsimp only
    rw [List.forall_mem_append, and_assoc]

@[simp] theorem wp_attempt {m : Traced σ ε α} {Q : Except ε α → σ → Prop} :
    wp I (attempt m) Q E s ↔ wp I m (fun a => Q (.ok a)) (fun e => Q (.error e)) s := by
  unfold wp attempt
  dsimp only
  cases (m s).result <;> exact Iff.rfl

@[simp] theorem wp_zoom {τ : Type} {view : τ → σ} {put : σ → τ → τ} {m : Traced σ ε α} {I : τ → Prop} {Q : α → τ → Prop}
    {E : ε → τ → Prop} {t : τ} : wp I (zoom view put m) Q E t ↔
      wp (fun s => I (put s t)) m (fun a s => Q a (put s t)) (fun e s => E e (put s t)) (view t) := by
  unfold wp zoom
  dsimp only
  rw [List.forall_mem_map]

theorem wp.mono {m : Traced σ ε α} {J : σ → Prop} {Q' : α → σ → Prop} {E' : ε → σ → Prop} (h : wp I m Q E s)
    (hI : ∀ t, I t → J t) (hQ : ∀ a t, Q a t → Q' a t) (hE : ∀ e t, E e t → E' e t) : wp J m Q' E' s := by
  obtain ⟨passed, post⟩ := h
  refine ⟨fun t ht => hI t (passed t ht), ?_⟩
  cases hr : (m s).result with
  | ok a =>
    rw [hr] at post
    exact hQ a _ post
  | error e =>
    rw [hr] at post
    exact hE e _ post

theorem wp.and {m : Traced σ ε α} {J : σ → Prop} {Q' : α → σ → Prop} {E' : ε → σ → Prop} (h : wp I m Q E s)
    (h' : wp J m Q' E' s) :
    wp (fun t => I t ∧ J t) m (fun a t => Q a t ∧ Q' a t) (fun e t => E e t ∧ E' e t) s := by
  obtain ⟨passed, post⟩ := h
  obtain ⟨passed', post'⟩ := h'
  refine ⟨fun t ht => ⟨passed t ht, passed' t ht⟩, ?_⟩
  cases hr : (m s).result with
  | ok a =>
    rw [hr] at post post'
    exact ⟨post, post'⟩
  | error e =>
    rw [hr] at post post'
    exact ⟨post, post'⟩

theorem wp.final {m : Traced σ ε α} {P : σ → Prop} (h : wp I m (fun _ => P) (fun _ => P) s) : P (m s).final := by
  have post := h.2
  cases hr : (m s).result <;> rw [hr] at post <;> exact post

theorem wp.of_ok {m : Traced σ ε α} {a : α} (h : wp I m Q E s) (hok : (m s).result = .ok a) : Q a (m s).final := by
  have post := h.2
  rw [hok] at post
  exact post

/-- What a program returns may be used in what is said of it. -/
theorem wp.with_result {m : Traced σ ε α} (h : wp I m Q E s) :
    wp I m (fun a t => Q a t ∧ (m s).result = .ok a) (fun e t => E e t ∧ (m s).result = .error e) s := by
  obtain ⟨passed, post⟩ := h
  refine ⟨passed, ?_⟩
  cases hr : (m s).result with
  | ok a =>
    rw [hr] at post
    exact ⟨post, rfl⟩
  | error e =>
    rw [hr] at post
    exact ⟨post, rfl⟩

theorem wp.cases {m : Traced σ ε α} (h : wp I m Q E s) :
    (∃ a, (m s).result = .ok a ∧ Q a (m s).final) ∨ ∃ e, (m s).result = .error e ∧ E e (m s).final := by
  have post := h.2
  cases hr : (m s).result with
  | ok a =>
    rw [hr] at post
    exact Or.inl ⟨a, rfl, post⟩
  | error e =>
    rw [hr] at post
    exact Or.inr ⟨e, rfl, post⟩

theorem wp.returns {m : Traced σ ε α} (h : wp I m Q (fun _ _ => False) s) : ∃ a, (m s).result = .ok a := by
  obtain ⟨a, ha, -⟩ | ⟨e, -, never⟩ := h.cases
  · exact ⟨a, ha⟩
  · exact never.elim

theorem wp.passed {m : Traced σ ε α} (h : wp I m Q E s) : ∀ t ∈ (m s).passed, I t := h.1

end Rules

/-! ### Preservation -/

/-- Run from a state with `I`, the program passes through such states only and ends in one, however it ends. -/
def Preserves (I : σ → Prop) (m : Traced σ ε α) : Prop := ∀ s, I s → wp I m (fun _ => I) (fun _ => I) s

namespace Preserves
variable {I : σ → Prop}

theorem pure {a : α} : Preserves I (Pure.pure a : Traced σ ε α) := fun _ hs => wp_pure.mpr hs

theorem fail {e : ε} : Preserves I (Traced.fail e : Traced σ ε α) := fun _ hs => wp_fail.mpr hs

theorem get : Preserves I (Traced.get : Traced σ ε σ) := fun _ hs => wp_get.mpr hs

theorem ofExcept {x : Except ε α} : Preserves I (Traced.ofExcept x) := fun _ hs => wp_ofExcept (fun _ _ => hs) fun _ _ => hs

theorem modify {f : σ → σ} (h : ∀ s, I s → I (f s)) : Preserves I (Traced.modify f : Traced σ ε Unit) :=
  fun s hs => wp_modify.mpr ⟨h s hs, h s hs⟩

theorem when {c : Bool} {m : Traced σ ε Unit} (h : Preserves I m) : Preserves I (Traced.when c m) :=
  fun s hs => wp_when (fun _ => h s hs) fun _ => hs

theorem attempt {m : Traced σ ε α} (h : Preserves I m) : Preserves I (Traced.attempt m) :=
  fun s hs => wp_attempt.mpr (h s hs)

theorem bind {m : Traced σ ε α} {f : α → Traced σ ε β} (h : Preserves I m) (hf : ∀ a, Preserves I (f a)) :
    Preserves I (m >>= f) :=
  fun s hs => wp_bind.mpr ((h s hs).mono (fun _ ht => ht) (fun a t ht => hf a t ht) fun _ _ ht => ht)

theorem ofExcept_bind {x : Except ε α} {f : α → Traced σ ε β} (hf : ∀ a, x = .ok a → Preserves I (f a)) :
    Preserves I (Traced.ofExcept x >>= f) :=
  fun s hs => wp_bind.mpr (wp_ofExcept (fun a ha => hf a ha s hs) fun _ _ => hs)

/-- What does not depend on the state. -/
theorem const {p : Prop} {m : Traced σ ε α} : Preserves (fun _ => p) m := by
  intro s hs
  refine ⟨fun _ _ => hs, ?_⟩
  split <;> exact hs

/-- A program on a part of the state, where the rest stays as it is. -/
theorem zoom {τ : Type} {view : τ → σ} {put : σ → τ → τ} {m : Traced σ ε α} {I : τ → Prop} (hview : ∀ t, put (view t) t = t)
    (h : ∀ t, Preserves (fun s => I (put s t)) m) : Preserves I (Traced.zoom view put m) := by
  intro t ht
  have whole : I (put (view t) t) := by rwa [hview t]
  exact wp_zoom.mpr (h t (view t) whole)

theorem runAll {body : α → Traced σ ε β} {l : List α} (h : ∀ a ∈ l, Preserves I (body a)) :
    Preserves I (Traced.runAll body l) := by
  induction l with
  | nil => exact .pure
  | cons a l ih =>
    obtain ⟨first, rest⟩ := List.forall_mem_cons.mp h
    exact .bind first.attempt fun _ => ih rest

end Preserves

/-! ### Turning points -/

/-- Run from `s`, the program stays in `A`, or goes over from `A` to `B` and ends there. -/
def Turns (A B : σ → Prop) (m : Traced σ ε α) (s : σ) : Prop :=
  wp A m (fun _ => A) (fun _ => A) s ∨ wp (fun t => A t ∨ B t) m (fun _ => B) (fun _ => B) s

namespace Turns
variable {A B : σ → Prop} {s : σ}

/-- What does not turn itself leaves it to the rest. -/
theorem of_rest {m : Traced σ ε α} {f : α → Traced σ ε β} (h : wp A m (fun a => Turns A B (f a)) (fun _ => A) s) :
    Turns A B (m >>= f) s := by
  obtain ⟨passed, post⟩ := h
  -- Whether the rest turns depends on what `m` returns.
  cases hr : (m s).result with
  | error e =>
    rw [hr] at post
    exact Or.inl (wp_bind.mpr ⟨passed, by rw [hr]; exact post⟩)
  | ok a =>
    rw [hr] at post
    rcases post with rest | rest
    · exact Or.inl (wp_bind.mpr ⟨passed, by rw [hr]; exact rest⟩)
    · exact Or.inr (wp_bind.mpr ⟨fun t ht => Or.inl (passed t ht), by rw [hr]; exact rest⟩)

/-- What runs once the turning point is passed. -/
theorem turned {m : Traced σ ε α} (h : Preserves B m) (hs : B s) : wp (fun t => A t ∨ B t) m (fun _ => B) (fun _ => B) s :=
  (h s hs).mono (fun _ => Or.inr) (fun _ _ => id) fun _ _ => id

theorem bind {m : Traced σ ε α} {f : α → Traced σ ε β} (h : Turns A B m s) (hA : ∀ a t, A t → Turns A B (f a) t)
    (hB : ∀ a, Preserves B (f a)) : Turns A B (m >>= f) s := by
  rcases h with stays | turns
  · exact of_rest (stays.mono (fun _ => id) hA fun _ _ => id)
  · exact Or.inr (wp_bind.mpr (turns.mono (fun _ => id) (fun a _ => turned (hB a)) fun _ _ => id))

theorem attempt {m : Traced σ ε α} (h : Turns A B m s) : Turns A B (Traced.attempt m) s :=
  h.imp wp_attempt.mpr wp_attempt.mpr

theorem of_preserves {m : Traced σ ε α} (h : Preserves A m) (hs : A s) : Turns A B m s := Or.inl (h s hs)

/-- Where the program ends tells whether it has turned. -/
theorem cases {m : Traced σ ε α} (h : Turns A B m s) :
    ((∀ t ∈ (m s).passed, A t) ∧ A (m s).final) ∨ ((∀ t ∈ (m s).passed, A t ∨ B t) ∧ B (m s).final) :=
  h.imp (fun stays => ⟨stays.passed, stays.final⟩) fun turns => ⟨turns.passed, turns.final⟩

end Turns

/-! ### Loops -/

section Loops
variable {body : α → Traced σ ε β} {I : σ → Prop} {s : σ} {l : List α}

/-- The state in which one turn of the loop ends. -/
def turn (body : α → Traced σ ε β) (s : σ) (a : α) : σ := (body a s).final

theorem runAll_final : (runAll body l s).final = l.foldl (turn body) s := by
  induction l generalizing s with
  | nil => rfl
  | cons a l ih => exact ih

theorem runAll_passed :
    (∀ t ∈ (runAll body l s).passed, I t) ↔ Along (turn body) (fun s a => ∀ t ∈ (body a s).passed, I t) s l := by
  induction l generalizing s with
  | nil => exact ⟨fun _ => along_nil, by rintro - t ⟨⟩⟩
  | cons a l ih =>
    rw [along_cons, ← ih]
    exact List.forall_mem_append

end Loops

end Traced

end Lib
