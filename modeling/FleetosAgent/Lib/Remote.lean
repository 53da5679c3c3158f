import FleetosAgent.Lib.Traced

/-! # Calls to other programs

A call to a program with a state of its own. What it does to that state is up to the other program, whether or not the call
succeeds for the caller. -/

namespace Lib

/-- The error of a failed call. -/
def errorOf {ε α : Type} : Except ε α → Option ε
  | .ok _ => none
  | .error e => some e

namespace Traced
variable {σ ε α : Type}

def invoke (op : σ → Except ε α × σ) : Traced σ ε α := fun s => ⟨(op s).1, (op s).2, [(op s).2]⟩

section Rules
variable {op : σ → Except ε α × σ} {I : σ → Prop} {Q : α → σ → Prop} {E : ε → σ → Prop} {s : σ}

theorem wp_invoke (hI : I (op s).2) (hok : ∀ a, (op s).1 = .ok a → Q a (op s).2)
    (herr : ∀ e, (op s).1 = .error e → E e (op s).2) : wp I (invoke op) Q E s := by
  refine ⟨fun t ht => List.mem_singleton.mp ht ▸ hI, ?_⟩
  unfold invoke
  cases hr : (op s).1 with
  | ok a => exact hok a hr
  | error e => exact herr e hr

/-- What the other program keeps, a call keeps. -/
theorem Preserves.invoke (h : ∀ s, I s → I (op s).2) : Preserves I (Traced.invoke op) :=
  fun s hs => wp_invoke (h s hs) (fun _ _ => h s hs) fun _ _ => h s hs

end Rules

end Traced

end Lib
