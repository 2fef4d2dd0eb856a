import Mathlib.Logic.Function.Basic
import Mathlib.Tactic.Lemma
import Mathlib.Tactic.TypeStar

/-!
# Heaps

A heap gives the object at each of its addresses, if there is one.  An object is put at an address
or taken from it, or the object that is there is changed.
-/

namespace OpenMcc

namespace Heap

variable {ι α β : Type*} [DecidableEq ι] {heap : ι → Option α} {i j : ι} {a b : α}

/-- What is found where an object was put, and elsewhere. -/
lemma put_eq_some (h : Function.update heap i (some a) j = some b) :
    j = i ∧ b = a ∨ j ≠ i ∧ heap j = some b := by
  by_cases hj : j = i
  · rw [hj, Function.update_self, Option.some.injEq] at h
    exact .inl ⟨hj, h.symm⟩
  · rw [Function.update_of_ne hj] at h
    exact .inr ⟨hj, h⟩

/-- Where an object was put there is one, and elsewhere none is lost. -/
lemma exists_put (h : j ≠ i → ∃ b, heap j = some b) :
    ∃ b, Function.update heap i (some a) j = some b := by
  by_cases hj : j = i
  · exact ⟨a, by rw [hj, Function.update_self]⟩
  · rw [Function.update_of_ne hj]
    exact h hj

/-- What is found after an object was taken was there before. -/
lemma take_eq_some (h : Function.update heap i none j = some b) : j ≠ i ∧ heap j = some b := by
  by_cases hj : j = i
  · rw [hj, Function.update_self] at h
    cases h
  · rw [Function.update_of_ne hj] at h
    exact ⟨hj, h⟩

/-- What is found where an object has changed, and elsewhere. -/
lemma change_eq_some {f : α → α} :
    Function.update heap i ((heap i).map f) j = some b ↔
      ∃ a, heap j = some a ∧ (if j = i then f a else a) = b := by
  rw [Function.update_apply]
  by_cases hj : j = i
  · subst hj
    simp
  · simp [hj]

/-- The change of one object leaves what `g` reads of each, if it leaves it of that one. -/
lemma map_change (g : α → β) (heap : ι → Option α) (i j : ι) {f : α → α}
    (hf : ∀ a, g (f a) = g a) :
    (Function.update heap i ((heap i).map f) j).map g = (heap j).map g := by
  rw [Function.update_apply]
  by_cases hj : j = i
  · subst hj
    rw [if_pos rfl, Option.map_map]
    exact congrArg (fun h => (heap j).map h) (funext hf)
  · rw [if_neg hj]

/-- A change of one object that `g` does not see, of the heap as a whole. -/
lemma map_comp_change (g : α → β) (heap : ι → Option α) (i : ι) {f : α → α}
    (hf : ∀ a, g (f a) = g a) :
    Option.map g ∘ Function.update heap i ((heap i).map f) = Option.map g ∘ heap :=
  funext fun j => map_change g heap i j hf

end Heap

end OpenMcc
