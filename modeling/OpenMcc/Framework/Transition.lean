import Mathlib.Logic.Relation
import Mathlib.Order.Basic
import Mathlib.Logic.Function.Basic
import Mathlib.Tactic.Lemma

/-!
# Transition systems and guarded runs

A concurrent component is given here as a labelled transition system whose labels resolve all of
its nondeterminism: `step s e` is the state after the event `e`, and `none` when `e` cannot happen
in `s`.  The steps stay executable, so a concrete run can be evaluated (`exec`), while the
theorems range over every run (`Path`, `Reachable`).

A run carries a *guard*, a predicate on the state before a step and the event taken.  `free` is
the guard of the unrestricted runs.  A stronger guard cuts the runs down to those all of whose
steps meet a condition, which is how a result that needs one is stated.

The rules are the usual ones: an invariant that a step keeps holds along every path
(`Path.invariant`), an invariant may be assumed at every state of a path when another one is
proved (`Path.strengthen`), and runs compose (`Path.trans`).
-/

namespace OpenMcc

universe u v

/-- A labelled transition system with deterministic labels. -/
structure TransitionSystem (σ : Type u) (ε : Type v) where
  /-- The states a run may start in. -/
  init : σ → Prop
  /-- The state after an event, and `none` when the event is not enabled. -/
  step : σ → ε → Option σ

namespace TransitionSystem

variable {σ : Type u} {ε : Type v} (S : TransitionSystem σ ε)

/-- The guard every step meets. -/
def free : σ → ε → Prop := fun _ _ => True

/-- The guard a decidable condition on a step stands for. -/
def meets (C : σ → ε → Bool) : σ → ε → Prop := fun s e => C s e = true

/-- The state after a list of events, if each of them is enabled and meets the condition in its
turn. -/
def execUnder (C : σ → ε → Bool) : σ → List ε → Option σ
  | s, [] => some s
  | s, e :: es => if C s e then (S.step s e).bind fun t => execUnder C t es else none

/-- The state after a list of events, if each of them is enabled in its turn. -/
def exec : σ → List ε → Option σ := S.execUnder fun _ _ => true

/-- `S.Path G s es t`: the events `es` lead from `s` to `t`, and each of them meets the guard `G`
at the state it is taken in. -/
inductive Path (G : σ → ε → Prop) (s : σ) : List ε → σ → Prop
  | refl : Path G s [] s
  | snoc {t u : σ} {es : List ε} {e : ε} :
      Path G s es t → G t e → S.step t e = some u → Path G s (es ++ [e]) u

/-- The states some guarded run from an initial state ends in. -/
def Reachable (G : σ → ε → Prop) (t : σ) : Prop :=
  ∃ s es, S.init s ∧ S.Path G s es t

variable {S} {G H : σ → ε → Prop} {s t u : σ} {es fs : List ε} {e : ε}

lemma Path.single (hG : G s e) (h : S.step s e = some t) : S.Path G s [e] t := by
  simpa using Path.snoc Path.refl hG h

lemma Path.trans (h₁ : S.Path G s es t) (h₂ : S.Path G t fs u) : S.Path G s (es ++ fs) u := by
  induction h₂ with
  | refl => simpa using h₁
  | snoc _ hG hstep ih =>
      rw [← List.append_assoc]
      exact Path.snoc ih hG hstep

/-- A run under a guard is a run under every weaker one. -/
lemma Path.mono (hGH : ∀ t e, G t e → H t e) (h : S.Path G s es t) : S.Path H s es t := by
  induction h with
  | refl => exact Path.refl
  | snoc _ hG hstep ih => exact Path.snoc ih (hGH _ _ hG) hstep

/-- **The invariant rule.**  What holds at the start of a path and is kept by each guarded step
holds at its end. -/
lemma Path.invariant {I : σ → Prop} (hs : I s)
    (hstep : ∀ t e u, I t → G t e → S.step t e = some u → I u)
    (h : S.Path G s es t) : I t := by
  induction h with
  | refl => exact hs
  | snoc _ hG hu ih => exact hstep _ _ _ ih hG hu

/-- **The history rule.**  The invariant may speak about the events of the run so far. -/
lemma Path.history {I : List ε → σ → Prop} (hs : I [] s)
    (hstep : ∀ es t e u, I es t → G t e → S.step t e = some u → I (es ++ [e]) u)
    (h : S.Path G s es t) : I es t := by
  induction h with
  | refl => exact hs
  | snoc _ hG hu ih => exact hstep _ _ _ _ ih hG hu

/-- What a run shows of itself, where the event `e` in the state `s` shows `shown s e`. -/
def log {α : Type*} (S : TransitionSystem σ ε) (shown : σ → ε → List α) : σ → List ε → List α
  | _, [] => []
  | s, e :: es => shown s e ++ ((S.step s e).elim [] fun t => S.log shown t es)

lemma Path.log_append {α : Type*} (shown : σ → ε → List α) (h : S.Path G s es t)
    (fs : List ε) : S.log shown s (es ++ fs) = S.log shown s es ++ S.log shown t fs := by
  induction h generalizing fs with
  | refl => rfl
  | @snoc t u es e _ _ hu ih =>
    have hlast : ∀ gs, S.log shown t (e :: gs) = shown t e ++ S.log shown u gs := by
      intro gs
      rw [log, hu]
      rfl
    rw [List.append_assoc, ih, ih, List.singleton_append, hlast, hlast, log, List.append_nil,
      List.append_assoc]

/-- **The log rule.**  The invariant may speak about what the run has shown so far. -/
lemma Path.logged {α : Type*} {shown : σ → ε → List α} {I : List α → σ → Prop} (hs : I [] s)
    (hstep : ∀ l t e u, I l t → G t e → S.step t e = some u → I (l ++ shown t e) u)
    (h : S.Path G s es t) : I (S.log shown s es) t := by
  induction h with
  | refl => exact hs
  | @snoc t u es e hp hG hu ih =>
    have hlast : S.log shown t [e] = shown t e := by
      rw [log, hu]
      exact List.append_nil _
    rw [hp.log_append, hlast]
    exact hstep _ _ _ _ ih hG hu

/-- An invariant of the path joins its guard, so that a later induction may assume it. -/
lemma Path.strengthen {I : σ → Prop} (hs : I s)
    (hstep : ∀ t e u, I t → G t e → S.step t e = some u → I u)
    (h : S.Path G s es t) : S.Path (fun t e => G t e ∧ I t) s es t := by
  induction h with
  | refl => exact Path.refl
  | snoc hp hG hu ih => exact Path.snoc ih ⟨hG, hp.invariant hs hstep⟩ hu

/-- What every event of a path meets joins its guard. -/
lemma Path.of_events {P : ε → Prop} (hP : ∀ e ∈ es, P e) (h : S.Path G s es t) :
    S.Path (fun t e => G t e ∧ P e) s es t := by
  induction h with
  | refl => exact Path.refl
  | snoc _ hG hu ih =>
    have hlast := hP _ (List.mem_append_right _ (List.mem_singleton_self _))
    exact Path.snoc (ih fun e he => hP e (List.mem_append_left _ he)) ⟨hG, hlast⟩ hu

/-- What `execUnder` computes is a guarded run. -/
lemma path_of_execUnder {C : σ → ε → Bool} :
    ∀ {es : List ε} {s t : σ}, S.execUnder C s es = some t → S.Path (meets C) s es t
  | [], s, t, h => by
      rw [execUnder, Option.some.injEq] at h
      exact h ▸ Path.refl
  | e :: es, s, t, h => by
      rw [execUnder, Option.ite_none_right_eq_some, Option.bind_eq_some_iff] at h
      obtain ⟨hC, r, hr, hrest⟩ := h
      have hfirst : S.Path (meets C) s [e] r := Path.single hC hr
      exact hfirst.trans (path_of_execUnder hrest)

/-- What `exec` computes is a run. -/
lemma path_of_exec (h : S.exec s es = some t) : S.Path free s es t :=
  (path_of_execUnder h).mono fun _ _ _ => trivial

lemma Reachable.of_init (h : S.init s) : S.Reachable G s := ⟨s, [], h, Path.refl⟩

lemma Reachable.path (h : S.Reachable G s) (hp : S.Path G s es t) : S.Reachable G t := by
  obtain ⟨s₀, es₀, hinit, hpath⟩ := h
  exact ⟨s₀, es₀ ++ es, hinit, hpath.trans hp⟩

lemma Reachable.step (h : S.Reachable G s) (hG : G s e) (hstep : S.step s e = some t) :
    S.Reachable G t :=
  h.path (Path.single hG hstep)

lemma Reachable.of_execUnder {C : σ → ε → Bool} (hinit : S.init s)
    (h : S.execUnder C s es = some t) : S.Reachable (meets C) t :=
  ⟨s, es, hinit, path_of_execUnder h⟩

lemma Reachable.of_exec (hinit : S.init s) (h : S.exec s es = some t) : S.Reachable free t :=
  ⟨s, es, hinit, path_of_exec h⟩

lemma Reachable.mono (hGH : ∀ t e, G t e → H t e) (h : S.Reachable G s) : S.Reachable H s := by
  obtain ⟨s₀, es, hinit, hpath⟩ := h
  exact ⟨s₀, es, hinit, hpath.mono hGH⟩

/-- **The invariant rule for reachable states.** -/
lemma Reachable.invariant {I : σ → Prop} (hinit : ∀ s, S.init s → I s)
    (hstep : ∀ t e u, I t → G t e → S.step t e = some u → I u)
    (h : S.Reachable G s) : I s := by
  obtain ⟨s₀, es, h₀, hpath⟩ := h
  exact hpath.invariant (hinit s₀ h₀) hstep

/-! ## Simulation -/

/-- What a step of a relation keeps, a chain of its steps keeps. -/
lemma invariant_of_chain {ρ : Type*} {R : ρ → ρ → Prop} {I : ρ → Prop} {a b : ρ}
    (hI : ∀ a b, I a → R a b → I b) (h : Relation.ReflTransGen R a b) (ha : I a) : I b := by
  induction h with
  | refl => exact ha
  | tail _ hR ih => exact hI _ _ ih hR

/-- **The simulation rule.**  Where each step of a run is a chain of `R`-steps on what `f` keeps
of the state, so is the run.  An invariant of the `R`-steps may be assumed at every step. -/
lemma Path.simulates {ρ : Type*} {R : ρ → ρ → Prop} {f : σ → ρ} {I : ρ → Prop}
    (hI : ∀ a b, I a → R a b → I b) (hs : I (f s))
    (hstep : ∀ t e u, I (f t) → G t e → S.step t e = some u →
      Relation.ReflTransGen R (f t) (f u))
    (h : S.Path G s es t) : Relation.ReflTransGen R (f s) (f t) := by
  induction h with
  | refl => exact .refl
  | snoc _ hG hu ih => exact ih.trans (hstep _ _ _ (invariant_of_chain hI ih hs) hG hu)

end TransitionSystem

end OpenMcc
