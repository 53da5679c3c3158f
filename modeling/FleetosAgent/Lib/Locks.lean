import Mathlib.Data.Set.Insert
import Mathlib.Tactic.Common

/-! # Readers-writer locks and deadlock

Tasks that hold locks and wait for locks. A task waits for another one that holds what it wants in a mode that excludes
it; a deadlock is a set of tasks each of which waits for another of the set. There is none where every task takes its
locks in ascending order. -/

namespace Lib

inductive LockMode where
  | read
  | write
  deriving DecidableEq, Repr

/-- Two readers can hold a lock together. -/
def LockMode.Excludes (a b : LockMode) : Prop := a = .write ∨ b = .write

instance (a b : LockMode) : Decidable (a.Excludes b) := inferInstanceAs (Decidable (_ ∨ _))

theorem LockMode.Excludes.symm {a b : LockMode} (h : a.Excludes b) : b.Excludes a := Or.symm h

/-- What each task holds, and what it is waiting to get. -/
structure Locking (ι Lock : Type) where
  held : ι → List (Lock × LockMode)
  wanted : ι → Option (Lock × LockMode)

namespace Locking
variable {ι Lock : Type} (locking : Locking ι Lock)

def WaitsFor (i j : ι) : Prop :=
  i ≠ j ∧ ∃ want ∈ (locking.wanted i).toList, ∃ hold ∈ locking.held j, hold.1 = want.1 ∧ hold.2.Excludes want.2

instance [DecidableEq ι] [DecidableEq Lock] (i j : ι) : Decidable (locking.WaitsFor i j) :=
  inferInstanceAs (Decidable (_ ∧ _))

/-- Nobody keeps the task from what it wants. -/
def Free (i : ι) : Prop := ∀ j, ¬ locking.WaitsFor i j

def Deadlock (tasks : Set ι) : Prop := tasks.Nonempty ∧ ∀ i ∈ tasks, ∃ j ∈ tasks, locking.WaitsFor i j

variable {locking}

/-- Whoever keeps a task from its lock can only wait for a lock further up. So from no member of a deadlock could one go
    on for ever. -/
theorem not_deadlock_of_ascending (rank : Lock → ℕ) (bound : ℕ) (bounded : ∀ lock, rank lock < bound)
    (ascending : ∀ i want, locking.wanted i = some want → ∀ hold ∈ locking.held i, rank hold.1 < rank want.1)
    (tasks : Set ι) : ¬ locking.Deadlock tasks := by
  rintro ⟨⟨first, hfirst⟩, waits⟩
  -- The induction is on how far the wanted lock is from the top.
  have none : ∀ n, ∀ i ∈ tasks, ∀ want, locking.wanted i = some want → bound - rank want.1 ≠ n := by
    intro n
    induction n using Nat.strong_induction_on with
    | _ n ih =>
      rintro i hi want hwant rfl
      obtain ⟨j, hj, -, want', hwant', hold, hhold, hlock, -⟩ := waits i hi
      rw [Option.mem_toList, hwant] at hwant'
      obtain rfl := Option.some.inj hwant'
      obtain ⟨-, -, -, next, hnext, -⟩ := waits j hj
      have above := ascending j next (Option.mem_toList.mp hnext) hold hhold
      have below := bounded next.1
      rw [hlock] at above
      exact ih _ (by omega) j hj next (Option.mem_toList.mp hnext) rfl
  obtain ⟨-, -, -, want, hwant, -⟩ := waits first hfirst
  exact none _ first hfirst want (Option.mem_toList.mp hwant) rfl

theorem deadlock_pair {i j : ι} (hij : locking.WaitsFor i j) (hji : locking.WaitsFor j i) : locking.Deadlock {i, j} := by
  refine ⟨⟨i, Set.mem_insert i _⟩, ?_⟩
  rintro k (rfl | rfl)
  · exact ⟨j, Set.mem_insert_of_mem _ rfl, hij⟩
  · exact ⟨i, Set.mem_insert i _, hji⟩

/-! ### Exclusion -/

variable (locking) in
/-- No two tasks hold a lock in modes that exclude each other. -/
def Exclusive : Prop := ∀ i j, i ≠ j → ∀ a ∈ locking.held i, ∀ b ∈ locking.held j, a.1 = b.1 → ¬ a.2.Excludes b.2

/-- A task that nobody keeps from its lock may take it, and may let go of others. -/
theorem Exclusive.grant [DecidableEq ι] {i : ι} {held : List (Lock × LockMode)} {wanted : ι → Option (Lock × LockMode)}
    (h : locking.Exclusive) (free : locking.Free i)
    (granted : ∀ a ∈ held, a ∈ locking.held i ∨ locking.wanted i = some a) :
    Exclusive ⟨Function.update locking.held i held, wanted⟩ := by
  have apart : ∀ k, i ≠ k → ∀ a ∈ held, ∀ b ∈ locking.held k, a.1 = b.1 → ¬ a.2.Excludes b.2 := by
    intro k hne a ha b hb hlock excludes
    rcases granted a ha with kept | taken
    · exact h i k hne a kept b hb hlock excludes
    · exact free k ⟨hne, a, Option.mem_toList.mpr taken, b, hb, hlock.symm, excludes.symm⟩
  intro j k hne a ha b hb hlock excludes
  dsimp only at ha hb
  by_cases hj : j = i
  · subst hj
    rw [Function.update_self] at ha
    rw [Function.update_of_ne hne.symm] at hb
    exact apart k hne a ha b hb hlock excludes
  rw [Function.update_of_ne hj] at ha
  by_cases hk : k = i
  · subst hk
    rw [Function.update_self] at hb
    exact apart j hne.symm b hb a ha hlock.symm excludes.symm
  · rw [Function.update_of_ne hk] at hb
    exact h j k hne a ha b hb hlock excludes

/-- Whoever writes is alone. -/
theorem Exclusive.eq_of_write {i j : ι} {lock : Lock} {mode : LockMode} (h : locking.Exclusive)
    (hi : (lock, .write) ∈ locking.held i) (hj : (lock, mode) ∈ locking.held j) : i = j := by
  by_contra hne
  exact h i j hne _ hi _ hj rfl (Or.inl rfl)

/-- A task that may take a lock for writing finds nobody with it. -/
theorem Free.notMem_held {i j : ι} {lock : Lock} {mode : LockMode} (free : locking.Free i) (hne : i ≠ j)
    (hwant : locking.wanted i = some (lock, .write)) : (lock, mode) ∉ locking.held j :=
  fun hold => free j ⟨hne, _, Option.mem_toList.mpr hwant, _, hold, rfl, Or.inr rfl⟩

end Locking

end Lib
