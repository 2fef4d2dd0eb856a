import OpenMcc.Construction.SmtpClient

/-!
# Reasoning about a call of `deliverEmail`

What the call does of itself is its own log: the log without the text its sockets receive.  Nothing
that happens to the sockets changes it (`smtpViews`), so what an ask adds to it (`smtpEffect`) is
all that a proof about the program has to look at, and the rules below compute over it.
-/

namespace OpenMcc.Smtp

open Routine

/-- The event is an act of the program, or the answer to one. -/
def SmtpEvent.isOwn : SmtpEvent → Bool
  | .received _ _ => false
  | _ => true

/-- The event is a connection to an address. -/
def SmtpEvent.isContact : SmtpEvent → Bool
  | .contacted _ _ => true
  | _ => false

/-- What the call has done of itself. -/
def ownLog (w : SmtpWorld) : List SmtpEvent := w.log.filter SmtpEvent.isOwn

/-- What an ask adds to the log of the call. -/
def smtpEffect (v : List SmtpEvent) : (q : SmtpAsk) → SmtpAnswer q → List SmtpEvent → Prop
  | .lookup hostname, answers, v' => v' = .lookedUp hostname answers :: v
  | .openPinned address _, answer, v' => v' = .contacted address answer.toOption :: v
  | .upgrade socket, .ok secured, v' => v' = .upgraded socket secured :: v
  | .upgrade _, .error _, v' => v' = v
  | .createReader socket, reader, v' => v' = .listened socket reader :: v
  | .write socket line, _, v' => v' = .wrote socket line :: v
  | .read reader, _, v' => v' = .asked reader :: v
  | .reply reader, answer, v' =>
    ∃ reply : Except NetworkError TextReply,
      reply.map (·.toSmtpReply) = answer ∧ v' = .replied reader reply :: v
  | .residual _, _, v' => v' = v
  | .stop _, _, v' => v' = v
  | .destroy _, _, v' => v' = v
  | .written _, _, v' => v' = v

lemma ownLog_turn {w w' : SmtpWorld} {t : SmtpTurn} (h : smtpTurn w t = some w') :
    ownLog w' = ownLog w := by
  cases t with
  | receives socket chunk =>
    simp only [smtpTurn, Option.ite_none_right_eq_some, Option.some.injEq] at h
    rw [← h.2]
    rfl
  | errs socket error =>
    simp only [smtpTurn, Option.some.injEq] at h
    rw [← h]
    rfl
  | ends socket =>
    simp only [smtpTurn, Option.some.injEq] at h
    rw [← h]
    rfl

lemma smtpEffect_answer {w w' : SmtpWorld} {q : SmtpAsk} {r : SmtpChoice} {a : SmtpAnswer q}
    (h : smtpAnswer w q r = some (a, w')) : smtpEffect (ownLog w) q a (ownLog w') := by
  cases q with
  | lookup hostname =>
    cases r with
    | looksUp answers => cases h; rfl
    | succeeds => cases h
    | fails error => cases h
  | openPinned address port =>
    cases r with
    | looksUp answers => cases h
    | succeeds => cases h; rfl
    | fails error => cases h; rfl
  | upgrade socket =>
    cases r with
    | looksUp answers => cases h
    | succeeds => cases h; rfl
    | fails error => cases h; rfl
  | createReader socket =>
    cases r with
    | looksUp answers => cases h
    | succeeds =>
      simp only [smtpAnswer, Option.ite_none_right_eq_some, Option.some.injEq,
        Prod.mk.injEq] at h
      obtain ⟨_, rfl, rfl⟩ := h
      rfl
    | fails error => cases h
  | residual reader =>
    cases r with
    | looksUp answers => cases h
    | succeeds => cases h; rfl
    | fails error => cases h
  | stop reader =>
    cases r with
    | looksUp answers => cases h
    | succeeds => cases h; rfl
    | fails error => cases h
  | destroy socket =>
    cases r with
    | looksUp answers => cases h
    | succeeds => cases h; rfl
    | fails error => cases h
  | write socket line =>
    cases r with
    | looksUp answers => cases h
    | succeeds => cases h; rfl
    | fails error => cases h
  | written socket =>
    cases r with
    | looksUp answers => cases h
    | succeeds => cases h; rfl
    | fails error => cases h; rfl
  | read reader =>
    cases r with
    | looksUp answers => cases h
    | succeeds => cases h; rfl
    | fails error => cases h
  | reply reader =>
    cases r with
    | looksUp answers => cases h
    | succeeds =>
      simp only [smtpAnswer, takeReply, Option.map_eq_some_iff, Prod.mk.injEq] at h
      obtain ⟨reply, _, rfl, rfl⟩ := h
      exact ⟨reply, rfl, rfl⟩
    | fails error => cases h

/-- The own log is a view of the outside. -/
lemma smtpViews : smtpOutside.Views smtpEffect ownLog where
  turn := ownLog_turn
  answer := smtpEffect_answer

/-! ## Rules for the parts of `converse` -/

section Rules

variable {safe : List SmtpEvent → Prop} {exit : Exit → Locals → List SmtpEvent → Prop}
  {l : Locals} {v : List SmtpEvent}

lemma wp_goOnIf {condition : Bool} {otherwise : Conversation}
    {post : Unit → Locals → List SmtpEvent → Prop} (hsafe : safe v)
    (hgo : condition = true → post () l v)
    (hexit : condition = false → exit (.returns otherwise) l v) :
    Routine.wp smtpEffect safe post exit (goOnIf condition otherwise) l v := by
  unfold goOnIf
  cases condition with
  | true => exact ⟨hsafe, hgo rfl⟩
  | false => exact ⟨hsafe, hexit rfl⟩

lemma wp_asks {q : SmtpAsk} {post : SmtpAnswer q → Locals → List SmtpEvent → Prop} (hsafe : safe v)
    (h : ∀ a v', smtpEffect v q a v' → safe v' ∧ post a l v') :
    Routine.wp smtpEffect safe post exit (Routine.ask q) l v := ⟨hsafe, h⟩

/-- A promise that is awaited: its value, or a thrown error. -/
lemma wp_awaited {α : Type} {promise : Talk (Except NetworkError α)}
    {post : α → Locals → List SmtpEvent → Prop}
    (h : Routine.wp smtpEffect safe
      (fun r l' v' => (∀ a, r = .ok a → post a l' v') ∧
        ∀ error, r = .error error → exit (.throws error) l' v') exit promise l v) :
    Routine.wp smtpEffect safe post exit (awaited promise) l v := by
  unfold awaited
  rw [Routine.wp_bind]
  refine Routine.wp_mono (fun r l' v' hsafe hr => ?_) (fun _ _ _ _ h => h) h
  cases r with
  | ok a => exact ⟨hsafe, hr.1 a rfl⟩
  | error error => exact ⟨hsafe, hr.2 error rfl⟩

/-- What `say` does: it writes the line, and the write may fail. -/
lemma wp_say {line : Line} {post : Unit → Locals → List SmtpEvent → Prop} (hsafe : safe v)
    (hwrote : safe (.wrote l.socket line :: v))
    (hgo : post () l (.wrote l.socket line :: v))
    (hthrow : ∀ error, exit (.throws error) l (.wrote l.socket line :: v)) :
    Routine.wp smtpEffect safe post exit (say line) l v := by
  unfold say
  rw [Routine.wp_bind, Routine.wp_get, Routine.wp_bind]
  refine ⟨hsafe, hsafe, fun _ v₁ hv₁ => ?_⟩
  obtain rfl : v₁ = .wrote l.socket line :: v := hv₁
  refine ⟨hwrote, wp_awaited ?_⟩
  refine ⟨hwrote, fun a v₂ hv₂ => ?_⟩
  obtain rfl : v₂ = .wrote l.socket line :: v := hv₂
  exact ⟨hwrote, fun _ _ => hgo, fun error _ => hthrow error⟩

/-- What `read` does: it takes a reply of the present reader, or throws what the reader failed
with. -/
lemma wp_read {post : SmtpReply → Locals → List SmtpEvent → Prop} (hsafe : safe v)
    (hasked : safe (.asked l.reader :: v))
    (hreply : ∀ reply, safe (.replied l.reader reply :: .asked l.reader :: v))
    (hgo : ∀ reply : TextReply,
      post reply.toSmtpReply l (.replied l.reader (.ok reply) :: .asked l.reader :: v))
    (hthrow : ∀ error,
      exit (.throws error) l (.replied l.reader (.error error) :: .asked l.reader :: v)) :
    Routine.wp smtpEffect safe post exit read l v := by
  unfold read
  rw [Routine.wp_bind, Routine.wp_get, Routine.wp_bind]
  refine ⟨hsafe, hsafe, fun _ v₁ hv₁ => ?_⟩
  obtain rfl : v₁ = .asked l.reader :: v := hv₁
  refine ⟨hasked, wp_awaited ?_⟩
  refine ⟨hasked, fun a v₂ hv₂ => ?_⟩
  obtain ⟨reply, rfl, rfl⟩ :
    ∃ reply : Except NetworkError TextReply, reply.map (·.toSmtpReply) = a ∧
      v₂ = .replied l.reader reply :: .asked l.reader :: v := hv₂
  refine ⟨hreply reply, ?_, ?_⟩
  · cases reply with
    | error error => intro a ha; cases ha
    | ok reply =>
      intro a ha
      obtain rfl : reply.toSmtpReply = a := Except.ok.inj ha
      exact hgo reply
  · cases reply with
    | error error =>
      intro e he
      obtain rfl : error = e := Except.error.inj he
      exact hthrow error
    | ok reply => intro e he; cases he

/-- The log after a step that was answered. -/
def answered (l : Locals) (line : Line) (reply : Except NetworkError TextReply)
    (v : List SmtpEvent) : List SmtpEvent :=
  .replied l.reader reply :: .asked l.reader :: .wrote l.socket line :: v

/-- What `step` does. -/
lemma wp_step {line : Line} {post : SmtpReply → Locals → List SmtpEvent → Prop} (hsafe : safe v)
    (hwrote : safe (.wrote l.socket line :: v))
    (hasked : safe (.asked l.reader :: .wrote l.socket line :: v))
    (hreply : ∀ reply, safe (answered l line reply v))
    (hgo : ∀ reply : TextReply, post reply.toSmtpReply l (answered l line (.ok reply) v))
    (hfailed : ∀ error, exit (.throws error) l (.wrote l.socket line :: v))
    (hthrow : ∀ error, exit (.throws error) l (answered l line (.error error) v)) :
    Routine.wp smtpEffect safe post exit (step line) l v := by
  unfold step
  rw [Routine.wp_bind]
  exact wp_say hsafe hwrote (wp_read hwrote hasked hreply hgo hthrow) hfailed

/-! ## What a part of `converse` carries through -/

/-- The part goes from one place where the assertion holds to another, and leaves `converse` only
as `exit` says. -/
def Carries {α : Type} (safe : List SmtpEvent → Prop) (exit : Exit → Locals → List SmtpEvent → Prop)
    (A : Locals → List SmtpEvent → Prop) (m : Talk α) : Prop :=
  ∀ l v, A l v → Routine.wp smtpEffect safe (fun _ l' v' => A l' v') exit m l v

variable {A : Locals → List SmtpEvent → Prop}

lemma carries_bind {α β : Type} {m : Talk α} {f : α → Talk β} (hm : Carries safe exit A m)
    (hf : ∀ a, Carries safe exit A (f a)) : Carries safe exit A (m >>= f) := by
  intro l v hA
  rw [Routine.wp_bind]
  exact Routine.wp_mono (fun a l' v' _ h => hf a l' v' h) (fun _ _ _ _ h => h) (hm l v hA)

lemma carries_pure {α : Type} (hsafe : ∀ l v, A l v → safe v) (a : α) :
    Carries safe exit A (pure a : Talk α) := fun l v hA => ⟨hsafe l v hA, hA⟩

/-- After a part that carries an assertion. -/
lemma wp_after {α β : Type} {m : Talk α} {f : α → Talk β}
    {post : β → Locals → List SmtpEvent → Prop} (hm : Carries safe exit A m) (hA : A l v)
    (hf : ∀ a l' v', A l' v' → Routine.wp smtpEffect safe post exit (f a) l' v') :
    Routine.wp smtpEffect safe post exit (m >>= f) l v := by
  rw [Routine.wp_bind]
  exact Routine.wp_mono (fun a l' v' _ h => hf a l' v' h) (fun _ _ _ _ h => h) (hm l v hA)

end Rules

/-! ## Runs to look at -/

/-- The settings of a destination. -/
def exampleSettings (port : Nat) : EmailSettings where
  smtpServer := "9.9.9.9".toList
  smtpPort := port
  username := "u".toList
  password := "p".toList
  fromAddress := "a@b".toList
  toAddresses := ["c@d".toList]

/-- The call with these settings, in letters of the first 128 characters. -/
def exampleCall (port : Nat) : Dialogue SmtpAsk SmtpAnswer AttemptOutcome :=
  deliverEmail (·.map Char.toUpper) (·.map Char.toLower) (exampleSettings port) ⟨[], [], []⟩
    publicOnly 0

/-- A read that is answered with one chunk. -/
def exampleRead (socket : Nat) (reply : String) : List (Happening SmtpTurn SmtpChoice) :=
  [.answered .succeeds, .meanwhile (.receives socket reply.toList), .answered .succeeds]

/-- A step that is answered with one chunk. -/
def exampleStep (socket : Nat) (reply : String) : List (Happening SmtpTurn SmtpChoice) :=
  [.answered .succeeds, .answered .succeeds] ++ exampleRead socket reply

end OpenMcc.Smtp
