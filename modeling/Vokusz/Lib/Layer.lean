import Mathlib.Data.List.Forall2
import Mathlib.Data.Set.Basic

namespace Vokusz.Lib

variable {α : Type}

structure Layer (α : Type) where
  allow : Set α
  deny : Set α

namespace Layer

def apply (l : Layer α) (s : Set α) : Set α := l.allow ∪ (s \ l.deny)

def stack (ls : List (Layer α)) (s : Set α) : Set α := ls.foldl (fun s l => l.apply s) s

variable {l : Layer α} {s : Set α} {p : α}

theorem mem_apply : p ∈ l.apply s ↔ p ∈ l.allow ∨ (p ∉ l.deny ∧ p ∈ s) := by
  simp [apply, and_comm]

theorem apply_of_empty (hallow : p ∉ l.allow) (hdeny : p ∉ l.deny) :
    p ∈ l.apply s ↔ p ∈ s := by
  simp [mem_apply, hallow, hdeny]

@[simp] theorem stack_nil (s : Set α) : stack [] s = s := rfl

@[simp] theorem stack_cons (l : Layer α) (ls : List (Layer α)) (s : Set α) :
    stack (l :: ls) s = stack ls (l.apply s) := rfl

end Layer

end Vokusz.Lib
