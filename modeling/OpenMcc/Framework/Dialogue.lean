import OpenMcc.Framework.Transition

/-!
# Programs in dialogue with an outside that answers as it likes

A program is a tree: it asks something and goes on with the answer.  The other side is given by
what may happen there of itself (`turn`) and by how it may answer (`answer`).  A run interleaves
the two, so a program is exposed to whatever happens between an ask and its answer.

Reasoning goes over a *view*, the part of the outside that the program alone changes.  `Effect`
says what an ask does to the view, and `wp` computes from it when every state the program reaches
is safe and its result meets a postcondition.  `Outside.Views.sound` takes a computed `wp` to the
runs.  Programs with local variables and exits are `Routine`s, with rules of their own.
-/

namespace OpenMcc

/-- A program that asks, and goes on with the answer. -/
inductive Dialogue (Ask : Type) (Answer : Ask → Type) (α : Type) : Type
  | done (a : α)
  | ask (q : Ask) (next : Answer q → Dialogue Ask Answer α)

namespace Dialogue

variable {Ask : Type} {Answer : Ask → Type} {α β : Type}

/-- One program after the other. -/
def bind : Dialogue Ask Answer α → (α → Dialogue Ask Answer β) → Dialogue Ask Answer β
  | done a, f => f a
  | ask q next, f => ask q fun a => (next a).bind f

instance : Monad (Dialogue Ask Answer) where
  pure := done
  bind := bind

/-- The program of a single ask. -/
def send (q : Ask) : Dialogue Ask Answer (Answer q) := ask q done

/-- The result of a program that has ended. -/
def result : Dialogue Ask Answer α → Option α
  | done a => some a
  | ask _ _ => none

lemma eq_done_of_result {d : Dialogue Ask Answer α} {a : α} (h : d.result = some a) :
    d = done a := by
  cases d with
  | done b => rw [Option.some.inj h]
  | ask q next => cases h

/-- What an ask may do to a view of the outside. -/
abbrev Effect (Ask : Type) (Answer : Ask → Type) (V : Type) : Type :=
  V → (q : Ask) → Answer q → V → Prop

variable {V : Type} (E : Effect Ask Answer V) (safe : V → Prop)

/-- From this view on, the program passes safe views only and ends as the postcondition says. -/
def wp (post : α → V → Prop) : Dialogue Ask Answer α → V → Prop
  | done a, v => safe v ∧ post a v
  | ask q next, v => safe v ∧ ∀ a v', E v q a v' → wp post (next a) v'

variable {E safe} {post post' : α → V → Prop} {v : V}

lemma wp_safe {d : Dialogue Ask Answer α} (h : wp E safe post d v) : safe v := by
  cases d with
  | done a => exact h.1
  | ask q next => exact h.1

lemma wp_pure {a : α} : wp E safe post (pure a) v ↔ safe v ∧ post a v := Iff.rfl

/-- **The sequence rule.** -/
lemma wp_bind {post : β → V → Prop} {d : Dialogue Ask Answer α}
    {f : α → Dialogue Ask Answer β} :
    wp E safe post (d >>= f) v ↔ wp E safe (fun a v' => wp E safe post (f a) v') d v := by
  show wp E safe post (d.bind f) v ↔ _
  induction d generalizing v with
  | done a =>
    show wp E safe post (f a) v ↔ safe v ∧ wp E safe post (f a) v
    exact ⟨fun h => ⟨wp_safe h, h⟩, fun h => h.2⟩
  | ask q next ih =>
    show (safe v ∧ ∀ a v', E v q a v' → wp E safe post ((next a).bind f) v') ↔
      (safe v ∧ ∀ a v', E v q a v' → wp E safe _ (next a) v')
    constructor
    · rintro ⟨hsafe, hnext⟩
      exact ⟨hsafe, fun a v' hE => (ih a).mp (hnext a v' hE)⟩
    · rintro ⟨hsafe, hnext⟩
      exact ⟨hsafe, fun a v' hE => (ih a).mpr (hnext a v' hE)⟩

/-- **The rule of a single ask.** -/
lemma wp_send {q : Ask} {post : Answer q → V → Prop} :
    wp E safe post (send q) v ↔
      safe v ∧ ∀ a v', E v q a v' → safe v' ∧ post a v' := Iff.rfl

/-- The rule of an ask with more to follow. -/
lemma wp_send_bind {q : Ask} {f : Answer q → Dialogue Ask Answer α} {post : α → V → Prop} :
    wp E safe post (send q >>= f) v ↔
      safe v ∧ ∀ a v', E v q a v' → safe v' ∧ wp E safe post (f a) v' := by
  rw [wp_bind]
  exact wp_send

/-- **The rule of consequence.** -/
lemma wp_mono {d : Dialogue Ask Answer α} (himp : ∀ a v', safe v' → post a v' → post' a v')
    (h : wp E safe post d v) : wp E safe post' d v := by
  induction d generalizing v with
  | done a => exact ⟨h.1, himp _ _ h.1 h.2⟩
  | ask q next ih => exact ⟨h.1, fun a v' hE => ih a (h.2 a v' hE)⟩

/-- What is safe may be weakened. -/
lemma wp_weaken {safe' : V → Prop} {d : Dialogue Ask Answer α} (hsafe : ∀ v, safe v → safe' v)
    (h : wp E safe post d v) : wp E safe' post d v := by
  induction d generalizing v with
  | done a => exact ⟨hsafe v h.1, h.2⟩
  | ask q next ih => exact ⟨hsafe v h.1, fun a v' hE => ih a (h.2 a v' hE)⟩

/-- Every ask the program may come to is of a kind. -/
def AsksOnly (P : Ask → Prop) : Dialogue Ask Answer α → Prop
  | done _ => True
  | ask q next => P q ∧ ∀ a, AsksOnly P (next a)

lemma AsksOnly.bind {P : Ask → Prop} {d : Dialogue Ask Answer α}
    {f : α → Dialogue Ask Answer β} (hd : d.AsksOnly P) (hf : ∀ a, (f a).AsksOnly P) :
    (d >>= f).AsksOnly P := by
  show (d.bind f).AsksOnly P
  induction d with
  | done a => exact hf a
  | ask q next ih => exact ⟨hd.1, fun a => ih a (hd.2 a)⟩

/-- **The frame rule.**  What no ask of the kind changes, a program of such asks keeps. -/
lemma wp_of_asksOnly {P : Ask → Prop} {d : Dialogue Ask Answer α} (hd : d.AsksOnly P)
    (hkeeps : ∀ {v q a v'}, P q → safe v → E v q a v' → safe v') (hv : safe v) :
    wp E safe (fun _ v' => safe v') d v := by
  induction d generalizing v with
  | done a => exact ⟨hv, hv⟩
  | ask q next ih => exact ⟨hv, fun a v' hE => ih a (hd.2 a) (hkeeps hd.1 hv hE)⟩

end Dialogue

/-! ## The other side -/

/-- The other side of a dialogue: what happens there of itself, and how it may answer.  The
labels `τ` and `ρ` name its choices. -/
structure Outside (Ask : Type) (Answer : Ask → Type) (ω τ ρ : Type) where
  /-- The outside after something happened there. -/
  turn : ω → τ → Option ω
  /-- An answer to an ask, with the outside after it. -/
  answer : ω → (q : Ask) → ρ → Option (Answer q × ω)

/-- A step of a run: of the outside alone, or the answer to what the program asked. -/
inductive Happening (τ ρ : Type)
  | meanwhile (t : τ)
  | answered (r : ρ)
  deriving DecidableEq, Repr

namespace Outside

variable {Ask : Type} {Answer : Ask → Type} {ω τ ρ α : Type} (O : Outside Ask Answer ω τ ρ)

/-- One step of a program and the outside. -/
def step : Dialogue Ask Answer α × ω → Happening τ ρ → Option (Dialogue Ask Answer α × ω)
  | (d, w), .meanwhile t => (O.turn w t).map fun w' => (d, w')
  | (.done _, _), .answered _ => none
  | (.ask q next, w), .answered r => (O.answer w q r).map fun x => (next x.1, x.2)

/-- The runs of a program from an outside. -/
def runs (d : Dialogue Ask Answer α) (w : ω) :
    TransitionSystem (Dialogue Ask Answer α × ω) (Happening τ ρ) where
  init s := s = (d, w)
  step := O.step

/-- What the turns and the answers of the outside keep, a step keeps. -/
lemma outside_step {I : ω → Prop} (hturn : ∀ {w t w'}, I w → O.turn w t = some w' → I w')
    (hanswer : ∀ {w q r a w'}, I w → O.answer w q r = some (a, w') → I w')
    {s t : Dialogue Ask Answer α × ω} {e : Happening τ ρ} (h : I s.2)
    (hstep : O.step s e = some t) : I t.2 := by
  obtain ⟨d, w⟩ := s
  cases e with
  | meanwhile u =>
    simp only [step, Option.map_eq_some_iff] at hstep
    obtain ⟨w', hw', rfl⟩ := hstep
    exact hturn h hw'
  | answered r =>
    cases d with
    | done a => simp [step] at hstep
    | ask q next =>
      simp only [step, Option.map_eq_some_iff] at hstep
      obtain ⟨⟨a, w'⟩, hw', rfl⟩ := hstep
      exact hanswer h hw'

/-- What the program alone changes of the outside, and how its asks change it. -/
structure Views (E : Dialogue.Effect Ask Answer V) (view : ω → V) : Prop where
  turn : ∀ {w t w'}, O.turn w t = some w' → view w' = view w
  answer : ∀ {w q r a w'}, O.answer w q r = some (a, w') → E (view w) q a (view w')

variable {O} {V : Type} {E : Dialogue.Effect Ask Answer V} {view : ω → V} {safe : V → Prop}
  {post : α → V → Prop}

/-- A step goes from a state whose program is right to another. -/
lemma Views.wp_step (hviews : O.Views E view) {s t : Dialogue Ask Answer α × ω}
    {e : Happening τ ρ} (h : s.1.wp E safe post (view s.2)) (hstep : O.step s e = some t) :
    t.1.wp E safe post (view t.2) := by
  obtain ⟨d, w⟩ := s
  cases e with
  | meanwhile u =>
    simp only [step, Option.map_eq_some_iff] at hstep
    obtain ⟨w', hturn, rfl⟩ := hstep
    show d.wp E safe post (view w')
    rw [hviews.turn hturn]
    exact h
  | answered r =>
    cases d with
    | done a => simp [step] at hstep
    | ask q next =>
      simp only [step, Option.map_eq_some_iff] at hstep
      obtain ⟨⟨a, w'⟩, hanswer, rfl⟩ := hstep
      exact h.2 a (view w') (hviews.answer hanswer)

/-- **Soundness.**  Every state a run reaches is safe, and where the program has ended its result
meets the postcondition. -/
lemma Views.sound (hviews : O.Views E view) {d d' : Dialogue Ask Answer α} {w w' : ω}
    {es : List (Happening τ ρ)} (h : d.wp E safe post (view w))
    (hpath : (O.runs d w).Path TransitionSystem.free (d, w) es (d', w')) :
    safe (view w') ∧ ∀ a, d' = .done a → post a (view w') := by
  have hwp : d'.wp E safe post (view w') :=
    hpath.invariant (I := fun s => s.1.wp E safe post (view s.2)) h
      fun s e t hs _ hstep => hviews.wp_step hs hstep
  refine ⟨Dialogue.wp_safe hwp, fun a hdone => ?_⟩
  rw [hdone] at hwp
  exact hwp.2

end Outside

/-! ## Routines -/

/-- A program with local variables that may be left before its end. -/
abbrev Routine (Ask : Type) (Answer : Ask → Type) (σ ε α : Type) : Type :=
  ExceptT ε (StateT σ (Dialogue Ask Answer)) α

namespace Routine

variable {Ask : Type} {Answer : Ask → Type} {σ ε α β V : Type}

/-- A single ask. -/
def ask (q : Ask) : Routine Ask Answer σ ε (Answer q) :=
  ExceptT.lift (StateT.lift (Dialogue.send q))

/-- The postcondition of a routine, one for each way out of it. -/
def outcome (post : α → σ → V → Prop) (exit : ε → σ → V → Prop) :
    Except ε α × σ → V → Prop
  | (.ok a, s), v => post a s v
  | (.error e, s), v => exit e s v

variable (E : Dialogue.Effect Ask Answer V) (safe : V → Prop)

/-- `Dialogue.wp` of a routine, with a postcondition for each way out of it. -/
def wp (post : α → σ → V → Prop) (exit : ε → σ → V → Prop) (m : Routine Ask Answer σ ε α)
    (s : σ) (v : V) : Prop :=
  Dialogue.wp E safe (outcome post exit) (m.run.run s) v

variable {E safe} {post post' : α → σ → V → Prop} {exit exit' : ε → σ → V → Prop} {s : σ} {v : V}

lemma wp_pure {a : α} : wp E safe post exit (pure a) s v ↔ safe v ∧ post a s v := Iff.rfl

lemma wp_throw {e : ε} :
    wp E safe post exit (throw e : Routine Ask Answer σ ε α) s v ↔ safe v ∧ exit e s v := Iff.rfl

/-- **The sequence rule.** -/
lemma wp_bind {post : β → σ → V → Prop} {m : Routine Ask Answer σ ε α}
    {f : α → Routine Ask Answer σ ε β} :
    wp E safe post exit (m >>= f) s v ↔
      wp E safe (fun a s' v' => wp E safe post exit (f a) s' v') exit m s v := by
  show Dialogue.wp E safe (outcome post exit) ((m.run.run s) >>= _) v ↔ _
  rw [Dialogue.wp_bind]
  constructor
  · refine Dialogue.wp_mono fun r v' _ h => ?_
    obtain ⟨r, s'⟩ := r
    cases r with
    | ok a => exact h
    | error e => exact h.2
  · refine Dialogue.wp_mono fun r v' hsafe h => ?_
    obtain ⟨r, s'⟩ := r
    cases r with
    | ok a => exact h
    | error e => exact ⟨hsafe, h⟩

lemma wp_get {post : σ → σ → V → Prop} :
    wp E safe post exit (get : Routine Ask Answer σ ε σ) s v ↔ safe v ∧ post s s v := Iff.rfl

lemma wp_modify {post : PUnit → σ → V → Prop} {f : σ → σ} :
    wp E safe post exit (modify f : Routine Ask Answer σ ε PUnit) s v ↔
      safe v ∧ post .unit (f s) v := Iff.rfl

/-- **The rule of a single ask.** -/
lemma wp_ask {q : Ask} {post : Answer q → σ → V → Prop} :
    wp E safe post exit (ask q) s v ↔
      safe v ∧ ∀ a v', E v q a v' → safe v' ∧ post a s v' := Iff.rfl

/-- **The rule of consequence.** -/
lemma wp_mono {m : Routine Ask Answer σ ε α} (hpost : ∀ a s v, safe v → post a s v → post' a s v)
    (hexit : ∀ e s v, safe v → exit e s v → exit' e s v) (h : wp E safe post exit m s v) :
    wp E safe post' exit' m s v := by
  refine Dialogue.wp_mono (fun r v' hsafe hr => ?_) h
  obtain ⟨r, s'⟩ := r
  cases r with
  | ok a => exact hpost a s' v' hsafe hr
  | error e => exact hexit e s' v' hsafe hr

/-- **The rule of a caught exit.** -/
lemma wp_tryCatch {m : Routine Ask Answer σ ε α} {h : ε → Routine Ask Answer σ ε α} :
    wp E safe post exit (tryCatch m h) s v ↔
      wp E safe post (fun e s' v' => wp E safe post exit (h e) s' v') m s v := by
  show Dialogue.wp E safe (outcome post exit) ((m.run.run s) >>= _) v ↔ _
  rw [Dialogue.wp_bind]
  constructor
  · refine Dialogue.wp_mono fun r v' _ hr => ?_
    obtain ⟨r, s'⟩ := r
    cases r with
    | ok a => exact hr.2
    | error e => exact hr
  · refine Dialogue.wp_mono fun r v' hsafe hr => ?_
    obtain ⟨r, s'⟩ := r
    cases r with
    | ok a => exact ⟨hsafe, hr⟩
    | error e => exact hr

/-- Every ask the routine may come to is of a kind. -/
def AsksOnly (P : Ask → Prop) (m : Routine Ask Answer σ ε α) : Prop :=
  ∀ s, Dialogue.AsksOnly P (m.run.run s)

variable {P : Ask → Prop}

lemma asksOnly_pure (a : α) : AsksOnly P (pure a : Routine Ask Answer σ ε α) := fun _ => trivial

lemma asksOnly_throw (e : ε) : AsksOnly P (throw e : Routine Ask Answer σ ε α) := fun _ => trivial

lemma asksOnly_get : AsksOnly P (get : Routine Ask Answer σ ε σ) := fun _ => trivial

lemma asksOnly_modify (f : σ → σ) : AsksOnly P (modify f : Routine Ask Answer σ ε PUnit) :=
  fun _ => trivial

lemma asksOnly_ask {q : Ask} (hq : P q) :
    AsksOnly P (ask q : Routine Ask Answer σ ε (Answer q)) := fun _ => ⟨hq, fun _ => trivial⟩

lemma asksOnly_bind {m : Routine Ask Answer σ ε α} {f : α → Routine Ask Answer σ ε β}
    (hm : AsksOnly P m) (hf : ∀ a, AsksOnly P (f a)) : AsksOnly P (m >>= f) := by
  intro s
  show Dialogue.AsksOnly P ((m.run.run s) >>= _)
  refine (hm s).bind fun r => ?_
  obtain ⟨r, s'⟩ := r
  cases r with
  | ok a => exact hf a s'
  | error e => exact trivial

lemma asksOnly_tryCatch {m : Routine Ask Answer σ ε α} {h : ε → Routine Ask Answer σ ε α}
    (hm : AsksOnly P m) (hh : ∀ e, AsksOnly P (h e)) : AsksOnly P (tryCatch m h) := by
  intro s
  show Dialogue.AsksOnly P ((m.run.run s) >>= _)
  refine (hm s).bind fun r => ?_
  obtain ⟨r, s'⟩ := r
  cases r with
  | ok a => exact trivial
  | error e => exact hh e s'

end Routine

end OpenMcc
