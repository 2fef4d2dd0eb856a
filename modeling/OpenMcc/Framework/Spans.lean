import Mathlib.Algebra.BigOperators.Group.List.Basic
import Mathlib.Algebra.Order.Group.Int
import Mathlib.Tactic.Lemma
import Mathlib.Tactic.Ring

/-!
# Spans of time, and what rounding their parts costs

Half-open spans of whole units.  Spans that are disjoint and cover a window share it out
(`sum_overlap`), and windows that follow each other share out each span (`sum_overlap_windows`).

A length rounded to whole thousands, halves up, is off by its `surplus`, which depends on its
remainder alone.  So sums of rounded parts are right exactly where the surpluses cancel.
-/

namespace OpenMcc

/-- The units from `start` up to `stop`, which is not in it. -/
structure Span where
  start : Int
  stop : Int
  deriving DecidableEq, Repr

namespace Span

/-- The unit lies in the span. -/
def Contains (a : Span) (t : Int) : Prop := a.start ≤ t ∧ t < a.stop

instance (a : Span) (t : Int) : Decidable (a.Contains t) := instDecidableAnd

/-- No unit lies in both spans. -/
def Disjoint (a b : Span) : Prop := ∀ t, a.Contains t → ¬b.Contains t

/-- How many units lie in both spans. -/
def overlap (window a : Span) : Int := max 0 (min a.stop window.stop - max a.start window.start)

/-- Every unit of the window lies in one of the spans. -/
def CoveredBy (window : Span) (spans : List Span) : Prop :=
  ∀ t, window.Contains t → ∃ a ∈ spans, a.Contains t

/-- The windows between one edge and the next ones, in their order. -/
def windows : Int → List Int → List Span
  | _, [] => []
  | start, stop :: edges => ⟨start, stop⟩ :: windows stop edges

lemma overlap_empty (t : Int) (a : Span) : overlap ⟨t, t⟩ a = 0 := by
  simp only [overlap]
  omega

/-- A window cut in two. -/
lemma overlap_cut {first cut last : Int} (h : first ≤ cut) (h' : cut ≤ last) (a : Span) :
    overlap ⟨first, last⟩ a = overlap ⟨first, cut⟩ a + overlap ⟨cut, last⟩ a := by
  simp only [overlap]
  omega

/-- The overlap with one unit. -/
lemma overlap_unit (t : Int) (a : Span) :
    overlap ⟨t, t + 1⟩ a = if a.Contains t then 1 else 0 := by
  by_cases h : a.Contains t
  · rw [if_pos h]
    unfold Contains at h
    simp only [overlap]
    omega
  · rw [if_neg h]
    unfold Contains at h
    simp only [overlap]
    omega

/-- Of disjoint spans, no more than one has a given unit. -/
lemma sum_contains_le {spans : List Span} (h : spans.Pairwise Disjoint) (t : Int) :
    (spans.map fun a => if a.Contains t then (1 : Int) else 0).sum =
      if ∃ a ∈ spans, a.Contains t then 1 else 0 := by
  induction h with
  | nil => simp
  | @cons a spans hfirst _ ih =>
    rw [List.map_cons, List.sum_cons, ih]
    by_cases ha : a.Contains t
    · have hrest : ¬∃ b ∈ spans, b.Contains t := by
        rintro ⟨b, hb, hcontains⟩
        exact hfirst b hb t ha hcontains
      have hall : ∃ b ∈ a :: spans, b.Contains t := ⟨a, List.mem_cons_self, ha⟩
      rw [if_pos ha, if_neg hrest, if_pos hall]
      rfl
    · rw [if_neg ha, Int.zero_add]
      have hiff : (∃ b ∈ a :: spans, b.Contains t) ↔ ∃ b ∈ spans, b.Contains t := by
        simp [ha]
      simp only [hiff]

/-- **Disjoint spans that cover a window share it out.** -/
lemma sum_overlap {spans : List Span} (hdisjoint : spans.Pairwise Disjoint) {start : Int}
    (length : Nat) (hcovered : CoveredBy ⟨start, start + length⟩ spans) :
    (spans.map (overlap ⟨start, start + length⟩)).sum = length := by
  induction length with
  | zero =>
    have hzero : overlap ⟨start, start + (0 : Nat)⟩ = fun _ => 0 := by
      funext a
      rw [Int.natCast_zero, Int.add_zero]
      exact overlap_empty start a
    rw [hzero]
    simp
  | succ length ih =>
    have hstop : start + ((length + 1 : Nat) : Int) = start + length + 1 := by omega
    have hcut : ∀ a, overlap ⟨start, start + (length + 1 : Nat)⟩ a =
        overlap ⟨start, start + length⟩ a + if a.Contains (start + length) then 1 else 0 := by
      intro a
      rw [hstop, overlap_cut (by omega : start ≤ start + length) (by omega), overlap_unit]
    have hearlier : CoveredBy ⟨start, start + length⟩ spans := by
      intro t ht
      refine hcovered t ⟨ht.1, ?_⟩
      have hlt := ht.2
      simp only at hlt ⊢
      omega
    have hlast : ∃ a ∈ spans, a.Contains (start + length) := by
      refine hcovered _ ⟨?_, ?_⟩
      · simp only
        omega
      · simp only
        omega
    have hfun : overlap ⟨start, start + (length + 1 : Nat)⟩ = fun a =>
        overlap ⟨start, start + length⟩ a + if a.Contains (start + length) then 1 else 0 :=
      funext hcut
    rw [hfun, List.sum_map_add, ih hearlier, sum_contains_le hdisjoint, if_pos hlast]
    omega

/-- The last of the edges. -/
def lastEdge : Int → List Int → Int
  | start, [] => start
  | _, edge :: edges => lastEdge edge edges

/-- Edges in order do not end before they start. -/
lemma le_lastEdge {start : Int} {edges : List Int} (h : (start :: edges).IsChain (· ≤ ·)) :
    start ≤ lastEdge start edges := by
  induction edges generalizing start with
  | nil => exact Int.le_refl _
  | cons edge edges ih =>
    obtain ⟨hfirst, hrest⟩ := List.isChain_cons_cons.1 h
    exact Int.le_trans hfirst (ih hrest)

/-- **Windows that follow each other share out each span.** -/
lemma sum_overlap_windows {start : Int} {edges : List Int}
    (h : (start :: edges).IsChain (· ≤ ·)) (a : Span) :
    ((windows start edges).map fun window => window.overlap a).sum =
      overlap ⟨start, lastEdge start edges⟩ a := by
  induction edges generalizing start with
  | nil =>
    simp only [windows, List.map_nil, List.sum_nil, lastEdge]
    exact (overlap_empty start a).symm
  | cons edge edges ih =>
    obtain ⟨hfirst, hrest⟩ := List.isChain_cons_cons.1 h
    rw [windows, List.map_cons, List.sum_cons, ih hrest]
    exact (overlap_cut hfirst (le_lastEdge hrest) a).symm

/-- Windows start and stop at the edges. -/
lemma mem_windows {start : Int} {edges : List Int} {window : Span}
    (h : window ∈ windows start edges) : window.start ∈ start :: edges ∧ window.stop ∈ edges := by
  induction edges generalizing start with
  | nil => exact absurd h List.not_mem_nil
  | cons edge edges ih =>
    obtain rfl | h := List.mem_cons.1 h
    · exact ⟨List.mem_cons_self, List.mem_cons_self⟩
    · obtain ⟨hstart, hstop⟩ := ih h
      exact ⟨List.mem_cons_of_mem _ hstart, List.mem_cons_of_mem _ hstop⟩

/-- Sums over windows and spans may be taken in either order. -/
lemma sum_comm {ι κ : Type*} (f : ι → κ → Int) (is : List ι) (ks : List κ) :
    (is.map fun i => (ks.map (f i)).sum).sum =
      (ks.map fun k => (is.map fun i => f i k).sum).sum := by
  induction is with
  | nil => simp
  | cons i is ih =>
    simp only [List.map_cons, List.sum_cons, ih, List.sum_map_add]

end Span

/-! ## Rounding to thousands -/

/-- The number of whole thousands nearest to a length, halves up. -/
def thousands (length : Int) : Int := (length + 500) / 1000

/-- What rounding to whole thousands adds to a length: by its remainder. -/
def surplus (length : Int) : Int :=
  if length % 1000 < 500 then -(length % 1000) else 1000 - length % 1000

lemma thousands_mul (length : Int) : thousands length * 1000 = length + surplus length := by
  unfold thousands surplus
  split
  · omega
  · omega

/-- Between whole thousands nothing is rounded. -/
lemma surplus_overlap_of_whole {window a : Span}
    (hwindow : window.start % 1000 = 0 ∧ window.stop % 1000 = 0)
    (ha : a.start % 1000 = 0 ∧ a.stop % 1000 = 0) : surplus (window.overlap a) = 0 := by
  unfold surplus Span.overlap
  omega

lemma sum_thousands_mul {ι : Type*} (f : ι → Int) (is : List ι) :
    (is.map fun i => thousands (f i)).sum * 1000 =
      (is.map f).sum + (is.map fun i => surplus (f i)).sum := by
  induction is with
  | nil => rfl
  | cons i is ih =>
    have hfirst := thousands_mul (f i)
    simp only [List.map_cons, List.sum_cons]
    omega

end OpenMcc
