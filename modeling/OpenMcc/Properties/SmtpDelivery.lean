import OpenMcc.Properties.SmtpConversation

/-!
# What a call of `deliverEmail` says of the message

The log of a call is read as a list of visits, one for each address it contacted, the latest first.
A visit says whether the message was begun there, what it was answered, which recipients were
taken, and whether the server gave an answer that the client takes for a success of the whole: a
positive reply to a prompt of the sign-in other than the prompt's own, or one to `DATA` other than
the go-ahead.

Once the message was begun at an address no further one is contacted, unless the reply to it was a
transient one.  The call reports a delivery where the message and every recipient were taken, and
where a server gave such an answer.
-/

namespace OpenMcc.Smtp

open Routine Pinned

/-! ## Visits -/

/-- The code is one that `isPositive` takes. -/
def positiveCode (code : Nat) : Bool := 200 ≤ code && code < 400

/-- What happened at an address. -/
structure Visit where
  address : Text
  /-- The line that has not been answered yet. -/
  asked : Option Line
  /-- The program has begun to write the message. -/
  begun : Bool
  /-- The code of the reply to the message. -/
  verdict : Option Nat
  /-- The recipients whose line was answered with a positive reply. -/
  taken : List Text
  /-- A reply stood for success that was none. -/
  misread : Bool
  deriving DecidableEq, Repr

namespace Visit

/-- A visit at its start. -/
def start (address : Text) : Visit := ⟨address, none, false, none, [], false⟩

/-- The line is the message. -/
def isMessage : Line → Bool
  | .message _ => true
  | _ => false

/-- A line is written. -/
def wrote (x : Visit) (line : Line) : Visit :=
  { x with asked := some line, begun := x.begun || isMessage line }

/-- A reply is read. -/
def heard (x : Visit) (code : Nat) : Visit :=
  match x.asked with
  | some (.message _) => { x with asked := none, verdict := some code }
  | some (.rcptTo recipient) =>
    if positiveCode code then { x with asked := none, taken := x.taken ++ [recipient] }
    else { x with asked := none }
  | some .authLogin | some (.username _) =>
    { x with asked := none, misread := x.misread || (positiveCode code && code != 334) }
  | some .data =>
    { x with asked := none, misread := x.misread || (positiveCode code && code != 354) }
  | _ => { x with asked := none }

/-- Something happens at the address. -/
def note (x : Visit) : SmtpEvent → Visit
  | .wrote _ line => x.wrote line
  | .replied _ (.ok reply) => x.heard reply.code
  | _ => x

/-- The message and every recipient were answered with a positive reply. -/
def accepted (recipients : List Text) (x : Visit) : Bool :=
  x.verdict.any positiveCode && x.taken == recipients

/-- The message was not begun, or the reply to it was a transient one. -/
def mayLeave (x : Visit) : Bool := !x.begun || x.verdict.any isTransient

end Visit

/-- The visits of a log, the latest first. -/
def visits : List SmtpEvent → List Visit
  | [] => []
  | .contacted address _ :: older => Visit.start address :: visits older
  | event :: older => (visits older).modifyHead (·.note event)

lemma visits_cons {event : SmtpEvent} {v : List SmtpEvent} {x : Visit} {past : List Visit}
    (hevent : event.isContact = false) (hv : visits v = x :: past) :
    visits (event :: v) = x.note event :: past := by
  cases event with
  | contacted address socket => cases hevent
  | _ => simp [visits, hv]

/-- No further address is contacted once the message was begun, unless its reply was transient. -/
def StopsOnceBegun (log : List SmtpEvent) : Prop := ∀ x ∈ (visits log).tail, x.mayLeave = true

/-- The outcome is a delivery exactly where some address took the message and every recipient, and
that address is the last. -/
def ReportsDelivery (recipients : List Text) (log : List SmtpEvent) (outcome : AttemptOutcome) :
    Prop :=
  (outcome.isDelivered = true ↔ ∃ x ∈ visits log, x.accepted recipients = true) ∧
    ∀ x ∈ (visits log).tail, x.accepted recipients = false

/-! ## What a conversation comes to -/

section Recipients

variable (recipients : List Text)

/-- An address that was left: the program may leave it, and nothing was delivered there. -/
structure Quiet (x : Visit) : Prop where
  mayLeave : x.mayLeave = true
  accepted : x.accepted recipients = false
  misread : x.misread = false

/-- What the result of a conversation says of the visit. -/
def Concludes (x : Visit) : Conversation → Prop
  | .tryNextAddress outcome => outcome.isDelivered = false ∧ Quiet recipients x
  | .settled outcome =>
    (outcome.isDelivered = true ↔ x.accepted recipients = true ∨ x.misread = true) ∧
      ¬ (x.accepted recipients = true ∧ x.misread = true)

variable {recipients} {x : Visit}

lemma isTransient_of_positive {code : Nat} (h : positiveCode code = true) :
    isTransient code = false := by
  simp only [positiveCode, isTransient, Bool.and_eq_true, decide_eq_true_eq,
    Bool.and_eq_false_iff, decide_eq_false_iff_not] at h ⊢
  omega

lemma isDelivered_classify (code : Nat) (reason : Text) :
    (classifySmtpReply code reason).isDelivered = positiveCode code := by
  rw [isDelivered_classifySmtpReply]
  simp [positiveCode]

/-- A reply that is not positive ends a conversation as it should. -/
lemma concludes_byReply {code : Nat} {reason : Text} (hcode : positiveCode code = false)
    (hbegun : x.begun = true → x.verdict = some code) (haccepted : x.accepted recipients = false)
    (hmisread : x.misread = false) : Concludes recipients x (byReply code reason) := by
  have houtcome : (classifySmtpReply code reason).isDelivered = false := by
    rw [isDelivered_classify, hcode]
  unfold byReply
  by_cases htransient : isTransient code = true
  · rw [if_pos htransient]
    refine ⟨houtcome, ?_, haccepted, hmisread⟩
    unfold Visit.mayLeave
    by_cases h : x.begun = true
    · simp [hbegun h, htransient]
    · simp [h]
  · rw [if_neg htransient]
    refine ⟨?_, ?_⟩
    · simp [houtcome, haccepted, hmisread]
    · simp [hmisread]

/-- A positive reply where another one was asked for ends it as a delivery. -/
lemma concludes_misread {code : Nat} {reason : Text} (hcode : positiveCode code = true)
    (haccepted : x.accepted recipients = false) (hmisread : x.misread = true) :
    Concludes recipients x (byReply code reason) := by
  unfold byReply
  rw [isTransient_of_positive hcode, if_neg Bool.false_ne_true]
  refine ⟨?_, ?_⟩
  · simp [isDelivered_classify, hcode, hmisread]
  · simp [haccepted]

/-- An outcome that is not a delivery settles a conversation where nothing was delivered. -/
lemma concludes_settled {outcome : AttemptOutcome} (houtcome : outcome.isDelivered = false)
    (haccepted : x.accepted recipients = false) (hmisread : x.misread = false) :
    Concludes recipients x (.settled outcome) := by
  refine ⟨?_, ?_⟩
  · simp [houtcome, haccepted, hmisread]
  · simp [haccepted]

/-- A visit whose message was not begun. -/
structure Unsent (x : Visit) : Prop where
  begun : x.begun = false
  verdict : x.verdict = none
  misread : x.misread = false

lemma Unsent.accepted (h : Unsent x) : x.accepted recipients = false := by
  simp [Visit.accepted, h.verdict]

lemma Unsent.quiet (h : Unsent x) : Quiet recipients x where
  mayLeave := by simp [Visit.mayLeave, h.begun]
  accepted := h.accepted
  misread := h.misread

lemma Unsent.wrote (h : Unsent x) {line : Line} (hline : Visit.isMessage line = false) :
    Unsent (x.wrote line) where
  begun := by simp [Visit.wrote, h.begun, hline]
  verdict := h.verdict
  misread := h.misread

end Recipients

/-! ## The rules for one visit -/

section Rules

variable {recipients : List Text} {past : List Visit}

/-- What holds of the log at every step: the addresses that were left are quiet. -/
def LeftQuiet (recipients : List Text) (v : List SmtpEvent) : Prop :=
  ∀ x ∈ (visits v).tail, Quiet recipients x

/-- How `converse` is left before its end. -/
def LeavesWell (recipients : List Text) (past : List Visit) (exit : Exit) (l : Locals)
    (v : List SmtpEvent) : Prop :=
  ∃ x, visits v = x :: past ∧ Concludes recipients x (concluded (.error exit, l))

/-- The visit at a place of `converse`. -/
structure At (past : List Visit) (written : Bool) (P : Visit → Prop) (l : Locals)
    (v : List SmtpEvent) : Prop where
  written_eq : l.dataWritten = written
  visit : ∃ x, visits v = x :: past ∧ P x

lemma leftQuiet_of_visits {v : List SmtpEvent} {x : Visit} (hpast : ∀ y ∈ past, Quiet recipients y)
    (hv : visits v = x :: past) : LeftQuiet recipients v := by
  intro y hy
  rw [hv] at hy
  exact hpast y hy

/-- Before the message is begun, an error makes the program try the next address. -/
lemma leavesWell_throws {l : Locals} {v : List SmtpEvent} {x : Visit} (error : NetworkError)
    (hv : visits v = x :: past) (hwritten : l.dataWritten = false) (hx : Unsent x) :
    LeavesWell recipients past (.throws error) l v := by
  refine ⟨x, hv, ?_⟩
  rw [concluded, if_neg (by simp [hwritten])]
  exact ⟨rfl, hx.quiet⟩

/-- A step before the message: the line is written, and its reply is read. -/
lemma wp_step_visit {line : Line} {l : Locals} {v : List SmtpEvent} {x : Visit}
    {post : SmtpReply → Locals → List SmtpEvent → Prop}
    (hpast : ∀ y ∈ past, Quiet recipients y) (hv : visits v = x :: past)
    (hgo : ∀ reply v', visits v' = (x.wrote line).heard reply.code :: past → post reply l v')
    (hthrow : ∀ error v', visits v' = x.wrote line :: past →
      LeavesWell recipients past (.throws error) l v') :
    Routine.wp smtpEffect (LeftQuiet recipients) post (LeavesWell recipients past) (step line) l v
    := by
  have hwrote : visits (.wrote l.socket line :: v) = x.wrote line :: past := visits_cons rfl hv
  have hasked : visits (.asked l.reader :: .wrote l.socket line :: v) = x.wrote line :: past :=
    visits_cons rfl hwrote
  have hread : ∀ reply : TextReply, visits (answered l line (.ok reply) v) =
      (x.wrote line).heard reply.code :: past := fun _ => visits_cons rfl hasked
  have hfailed : ∀ error, visits (answered l line (.error error) v) = x.wrote line :: past :=
    fun _ => visits_cons rfl hasked
  refine wp_step (leftQuiet_of_visits hpast hv) (leftQuiet_of_visits hpast hwrote)
    (leftQuiet_of_visits hpast hasked) (fun reply => ?_) (fun reply => hgo _ _ (hread reply))
    (fun error => hthrow error _ hwrote) fun error => hthrow error _ (hfailed error)
  cases reply with
  | error error => exact leftQuiet_of_visits hpast (hfailed error)
  | ok reply => exact leftQuiet_of_visits hpast (hread reply)

/-- The same, up to the message. -/
lemma wp_step_unsent {line : Line} {l : Locals} {v : List SmtpEvent} {x : Visit}
    {post : SmtpReply → Locals → List SmtpEvent → Prop}
    (hpast : ∀ y ∈ past, Quiet recipients y) (hv : visits v = x :: past) (hx : Unsent x)
    (hwritten : l.dataWritten = false) (hline : Visit.isMessage line = false)
    (hgo : ∀ reply v', visits v' = (x.wrote line).heard reply.code :: past → post reply l v') :
    Routine.wp smtpEffect (LeftQuiet recipients) post (LeavesWell recipients past) (step line) l v
    :=
  wp_step_visit hpast hv hgo fun error _ hv' =>
    leavesWell_throws error hv' hwritten (hx.wrote hline)

/-- A place before the recipients: nothing was sent and nobody is taken. -/
structure Fresh (x : Visit) : Prop extends Unsent x where
  taken : x.taken = []

/-- The lines whose replies say no more than whether to go on. -/
def plainLine : Line → Bool
  | .authLogin | .username _ | .rcptTo _ | .data | .message _ => false
  | _ => true

lemma heard_plain {line : Line} (hline : plainLine line = true) (x : Visit) (code : Nat) :
    (x.wrote line).heard code = { x with asked := none } := by
  cases line with
  | authLogin => cases hline
  | username u => cases hline
  | rcptTo r => cases hline
  | data => cases hline
  | message m => cases hline
  | _ => simp [Visit.heard, Visit.wrote, Visit.isMessage]

/-- The prompts and the go-ahead. -/
def goAhead : Line → Option Nat
  | .authLogin | .username _ => some 334
  | .data => some 354
  | _ => none

lemma heard_prompt {line : Line} {go : Nat} (hline : goAhead line = some go) (x : Visit)
    (code : Nat) : (x.wrote line).heard code =
      { x with asked := none, misread := x.misread || (positiveCode code && code != go) } := by
  cases line with
  | authLogin => cases hline; simp [Visit.heard, Visit.wrote, Visit.isMessage]
  | username u => cases hline; simp [Visit.heard, Visit.wrote, Visit.isMessage]
  | data => cases hline; simp [Visit.heard, Visit.wrote, Visit.isMessage]
  | _ => cases hline

lemma Fresh.unasked {x : Visit} (h : Fresh x) : Fresh { x with asked := none } :=
  ⟨⟨h.begun, h.verdict, h.misread⟩, h.taken⟩

/-- A part of `converse` before the recipients. -/
def Opens {α : Type} (recipients : List Text) (past : List Visit) (m : Talk α) : Prop :=
  Carries (LeftQuiet recipients) (LeavesWell recipients past) (At past false Fresh) m

lemma At.safe {written : Bool} {P : Visit → Prop} {l : Locals} {v : List SmtpEvent}
    (hpast : ∀ y ∈ past, Quiet recipients y) (h : At past written P l v) :
    LeftQuiet recipients v := by
  obtain ⟨_, x, hv, _⟩ := h
  exact leftQuiet_of_visits hpast hv

/-- A place where the program stops, unless a reply is positive. -/
lemma opens_goOnIf {code : Nat} {reason : Text} (hpast : ∀ y ∈ past, Quiet recipients y)
    {condition : Bool} (hcode : condition = false → positiveCode code = false) :
    Opens recipients past (goOnIf condition (byReply code reason)) := by
  intro l v hat
  refine wp_goOnIf (hat.safe hpast) (fun _ => hat) fun hfalse => ?_
  obtain ⟨_, x, hv, hx⟩ := hat
  refine ⟨x, hv, concludes_byReply (hcode hfalse) (fun hbegun => ?_) hx.accepted hx.misread⟩
  rw [hx.begun] at hbegun
  cases hbegun

/-- A place where the program stops for good. -/
lemma opens_refusal {reason : Text} (hpast : ∀ y ∈ past, Quiet recipients y) (condition : Bool) :
    Opens recipients past (goOnIf condition (.settled (classifyRefusal reason))) := by
  intro l v hat
  refine wp_goOnIf (hat.safe hpast) (fun _ => hat) fun _ => ?_
  obtain ⟨_, x, hv, hx⟩ := hat
  exact ⟨x, hv, concludes_settled rfl hx.accepted hx.misread⟩

lemma opens_step {line : Line} (hpast : ∀ y ∈ past, Quiet recipients y)
    (hline : plainLine line = true) : Opens recipients past (step line) := by
  intro l v hat
  obtain ⟨hwritten, x, hv, hx⟩ := hat
  have hmessage : Visit.isMessage line = false := by
    cases line with
    | message m => cases hline
    | _ => rfl
  refine wp_step_unsent hpast hv hx.toUnsent hwritten hmessage fun reply v' hv' => ?_
  rw [heard_plain hline] at hv'
  exact ⟨hwritten, _, hv', hx.unasked⟩

lemma opens_hello (hpast : ∀ y ∈ past, Quiet recipients y) : Opens recipients past hello :=
  carries_bind (opens_step hpast rfl) fun _ =>
    carries_bind (opens_goOnIf hpast fun h => h) fun _ =>
      carries_pure (fun _ _ hat => hat.safe hpast) _

/-- The greeting is read on a visit where nothing was said. -/
lemma wp_greeting {l : Locals} {v : List SmtpEvent} {x : Visit}
    (hpast : ∀ y ∈ past, Quiet recipients y) (hwritten : l.dataWritten = false)
    (hv : visits v = x :: past) (hx : Fresh x) (hasked : x.asked = none) :
    Routine.wp smtpEffect (LeftQuiet recipients) (fun _ l' v' => At past false Fresh l' v')
      (LeavesWell recipients past) read l v := by
  have hread : visits (.asked l.reader :: v) = x :: past := visits_cons rfl hv
  have hreply : ∀ reply : TextReply,
      visits (.replied l.reader (.ok reply) :: .asked l.reader :: v) =
        { x with asked := none } :: past := by
    intro reply
    rw [visits_cons rfl hread, Visit.note, Visit.heard, hasked]
  have hfailed : ∀ error,
      visits (.replied l.reader (.error error) :: .asked l.reader :: v) = x :: past :=
    fun _ => visits_cons rfl hread
  refine wp_read (leftQuiet_of_visits hpast hv) (leftQuiet_of_visits hpast hread)
    (fun reply => ?_) (fun reply => ⟨hwritten, _, hreply reply, hx.unasked⟩)
    fun error => leavesWell_throws error (hfailed error) hwritten hx.toUnsent
  cases reply with
  | error error => exact leftQuiet_of_visits hpast (hfailed error)
  | ok reply => exact leftQuiet_of_visits hpast (hreply reply)

/-- A step whose reply goes on with one code alone: another positive one ends the call as if it
had delivered. -/
lemma wp_prompt {β : Type} {line : Line} {go : Nat} {reason : Text} {rest : SmtpReply → Talk β}
    {post : β → Locals → List SmtpEvent → Prop} {l : Locals} {v : List SmtpEvent} {x : Visit}
    (hpast : ∀ y ∈ past, Quiet recipients y) (hv : visits v = x :: past) (hx : Unsent x)
    (hwritten : l.dataWritten = false) (hline : goAhead line = some go)
    (hgo : ∀ reply v', visits v' = { x with asked := none } :: past →
      Routine.wp smtpEffect (LeftQuiet recipients) post (LeavesWell recipients past) (rest reply)
        l v') :
    Routine.wp smtpEffect (LeftQuiet recipients) post (LeavesWell recipients past)
      (step line >>= fun asked =>
        goOnIf (asked.code == go) (byReply asked.code reason) >>= fun _ => rest asked) l v := by
  have hmessage : Visit.isMessage line = false := by
    cases line with
    | message m => cases hline
    | _ => rfl
  rw [Routine.wp_bind]
  refine wp_step_unsent hpast hv hx hwritten hmessage fun reply v' hv' => ?_
  rw [heard_prompt hline, hx.misread, Bool.false_or] at hv'
  rw [Routine.wp_bind]
  refine wp_goOnIf (leftQuiet_of_visits hpast hv') (fun hcode => ?_) fun hcode => ?_
  · refine hgo reply v' (hv'.trans ?_)
    rw [beq_iff_eq] at hcode
    simp [hcode, hx.misread]
  · refine ⟨_, hv', ?_⟩
    have hne : (reply.code != go) = true := by simp [bne, hcode]
    by_cases hpositive : positiveCode reply.code = true
    · refine concludes_misread hpositive ?_ ?_
      · simp [Visit.accepted, hx.verdict]
      · simp [hpositive, hne]
    · have hfalse : positiveCode reply.code = false := Bool.eq_false_iff.mpr hpositive
      refine concludes_byReply hfalse (fun hbegun => ?_) ?_ ?_
      · change x.begun = true at hbegun
        rw [hx.begun] at hbegun
        cases hbegun
      · simp [Visit.accepted, hx.verdict]
      · simp [hfalse]

section Parts

variable {toUpperCase : Text → Text}

lemma opens_signIn (hpast : ∀ y ∈ past, Quiet recipients y) (credentials : SmtpCredentials)
    (capabilities : SmtpReply) :
    Opens recipients past (signIn toUpperCase credentials capabilities) := by
  unfold signIn
  dsimp only
  split
  · exact carries_bind (opens_step hpast rfl) fun _ => opens_goOnIf hpast fun h => h
  · split
    · rintro l v ⟨hwritten, x, hv, hx⟩
      refine wp_prompt hpast hv hx.toUnsent hwritten rfl fun _ v₁ hv₁ => ?_
      refine wp_prompt hpast hv₁ hx.unasked.toUnsent hwritten rfl fun _ v₂ hv₂ => ?_
      have hlast : Opens recipients past (do
          let signedIn ← step (.password credentials.password)
          goOnIf signedIn.isPositive (byReply signedIn.code noAuth)) :=
        carries_bind (opens_step hpast rfl) fun _ => opens_goOnIf hpast fun h => h
      exact hlast l v₂ ⟨hwritten, _, hv₂, hx.unasked⟩
    · rintro l v hat
      obtain ⟨_, x, hv, hx⟩ := hat
      exact ⟨leftQuiet_of_visits hpast hv, x, hv, concludes_settled rfl hx.accepted hx.misread⟩

/-- An event of the program at the address. -/
lemma At.event {written : Bool} {l l' : Locals} {v : List SmtpEvent} {event : SmtpEvent}
    (h : At past written Fresh l v) (hevent : event.isContact = false)
    (hnote : ∀ x : Visit, x.note event = x) (hl : l'.dataWritten = l.dataWritten) :
    At past written Fresh l' (event :: v) := by
  obtain ⟨hwritten, x, hv, hx⟩ := h
  refine ⟨hl.trans hwritten, x, ?_, hx⟩
  rw [visits_cons hevent hv, hnote]

lemma opens_startTls (hpast : ∀ y ∈ past, Quiet recipients y) (capabilities : SmtpReply) :
    Opens recipients past (startTls toUpperCase capabilities) := by
  intro l v hat
  unfold startTls
  refine wp_after (opens_refusal hpast _) hat fun _ l₁ v₁ h₁ => ?_
  refine wp_after (opens_step hpast rfl) h₁ fun ready l₂ v₂ h₂ => ?_
  refine wp_after (opens_goOnIf hpast fun h => h) h₂ fun _ l₃ v₃ h₃ => ?_
  rw [Routine.wp_bind, Routine.wp_get, Routine.wp_bind]
  refine ⟨h₃.safe hpast, wp_asks (h₃.safe hpast) fun residual v₄ hv₄ => ?_⟩
  obtain rfl : v₄ = v₃ := hv₄
  refine ⟨h₃.safe hpast, ?_⟩
  refine wp_after (opens_refusal hpast _) h₃ fun _ l₅ v₅ h₅ => ?_
  rw [Routine.wp_bind]
  refine wp_asks (h₅.safe hpast) fun _ v₆ hv₆ => ?_
  obtain rfl : v₆ = v₅ := hv₆
  refine ⟨h₅.safe hpast, ?_⟩
  rw [Routine.wp_bind]
  refine wp_awaited (wp_asks (h₅.safe hpast) fun answer v₇ hv₇ => ?_)
  cases answer with
  | error error =>
    obtain rfl : v₇ = v₆ := hv₇
    refine ⟨h₅.safe hpast, (fun _ hne => by cases hne), fun e _ => ?_⟩
    obtain ⟨hwritten, x, hv, hx⟩ := h₅
    exact leavesWell_throws e hv hwritten hx.toUnsent
  | ok socket =>
    obtain rfl : v₇ = .upgraded l₃.socket socket :: v₆ := hv₇
    have hupgraded : ∀ l' : Locals, l'.dataWritten = l₅.dataWritten →
        At past false Fresh l' (.upgraded l₃.socket socket :: v₆) := fun l' hl =>
      h₅.event rfl (fun _ => rfl) hl
    have hsafe := (hupgraded l₅ rfl).safe hpast
    refine ⟨hsafe, fun secured hsecured => ?_, fun _ hne => by cases hne⟩
    obtain rfl : socket = secured := Except.ok.inj hsecured
    rw [Routine.wp_bind, Routine.wp_modify, Routine.wp_bind]
    refine ⟨hsafe, wp_asks hsafe fun reader v₈ hv₈ => ?_⟩
    obtain rfl : v₈ = .listened socket reader :: .upgraded l₃.socket socket :: v₆ := hv₈
    have hlistened : ∀ l' : Locals, l'.dataWritten = l₅.dataWritten →
        At past false Fresh l' (.listened socket reader :: .upgraded l₃.socket socket :: v₆) :=
      fun l' hl => (hupgraded l₅ rfl).event rfl (fun _ => rfl) hl
    refine ⟨(hlistened l₅ rfl).safe hpast, ?_⟩
    rw [Routine.wp_bind, Routine.wp_modify]
    exact ⟨(hlistened l₅ rfl).safe hpast, opens_hello hpast _ _ (hlistened _ rfl)⟩

/-! ### The recipients and the message -/

/-- A recipient's line, answered. -/
lemma heard_rcptTo (x : Visit) (recipient : Text) (code : Nat) :
    (x.wrote (.rcptTo recipient)).heard code =
      if positiveCode code then { x with asked := none, taken := x.taken ++ [recipient] }
      else { x with asked := none } := by
  simp [Visit.heard, Visit.wrote, Visit.isMessage]

/-- What the loop over the recipients `named` adds to the refusals and to who was taken. -/
structure Named (named : List Text) (x x' : Visit) (refusals refusals' : List Nat) : Prop where
  unsent : Unsent x'
  refused : ∀ code ∈ refusals', positiveCode code = false
  grows : refusals.length ≤ refusals'.length
  total : x'.taken.length + refusals'.length = x.taken.length + refusals.length + named.length
  all : refusals'.length = refusals.length → x'.taken = x.taken ++ named

lemma wp_nameRecipients (hpast : ∀ y ∈ past, Quiet recipients y) :
    ∀ (named : List Text) (takers : Nat) (refusals : List Nat) (l : Locals) (v : List SmtpEvent)
      (x : Visit), visits v = x :: past → Unsent x → l.dataWritten = false →
      takers = x.taken.length → (∀ code ∈ refusals, positiveCode code = false) →
      Routine.wp smtpEffect (LeftQuiet recipients)
        (fun found l' v' => l'.dataWritten = false ∧ ∃ x', visits v' = x' :: past ∧
          found.1 = x'.taken.length ∧ Named named x x' refusals found.2)
        (LeavesWell recipients past) (nameRecipients takers refusals named) l v
  | [], takers, refusals, l, v, x, hv, hx, hwritten, htakers, hrefusals =>
      ⟨leftQuiet_of_visits hpast hv, hwritten, x, hv, htakers, hx, hrefusals, le_rfl, by simp,
        by simp⟩
  | recipient :: rest, takers, refusals, l, v, x, hv, hx, hwritten, htakers, hrefusals => by
      unfold nameRecipients
      rw [Routine.wp_bind]
      refine wp_step_unsent hpast hv hx hwritten rfl fun answer v₁ hv₁ => ?_
      rw [heard_rcptTo] at hv₁
      by_cases hpositive : answer.isPositive = true
      · have hcode : positiveCode answer.code = true := hpositive
        rw [if_pos hcode] at hv₁
        rw [if_pos hpositive]
        have hx₁ : Unsent { x with asked := none, taken := x.taken ++ [recipient] } :=
          ⟨hx.begun, hx.verdict, hx.misread⟩
        refine Routine.wp_mono (fun found l' v' _ h => ?_) (fun _ _ _ _ h => h)
          (wp_nameRecipients hpast rest (takers + 1) refusals l v₁ _ hv₁ hx₁ hwritten
            (by simp [htakers]) hrefusals)
        obtain ⟨hwritten', x', hv', htakers', hnamed⟩ := h
        refine ⟨hwritten', x', hv', htakers', hnamed.unsent, hnamed.refused, hnamed.grows, ?_, ?_⟩
        · have htotal := hnamed.total
          simp only [List.length_append, List.length_cons, List.length_nil] at htotal ⊢
          omega
        · intro hlength
          rw [hnamed.all hlength]
          simp
      · have hcode : positiveCode answer.code = false := Bool.eq_false_iff.mpr hpositive
        rw [if_neg (by simp [hcode])] at hv₁
        rw [if_neg hpositive]
        have hx₁ : Unsent { x with asked := none } := ⟨hx.begun, hx.verdict, hx.misread⟩
        have hrefusals' : ∀ code ∈ refusals ++ [answer.code], positiveCode code = false := by
          intro code hmem
          rcases List.mem_append.mp hmem with hmem | hmem
          · exact hrefusals code hmem
          · rw [List.mem_singleton.mp hmem]
            exact hcode
        refine Routine.wp_mono (fun found l' v' _ h => ?_) (fun _ _ _ _ h => h)
          (wp_nameRecipients hpast rest takers (refusals ++ [answer.code]) l v₁ _ hv₁ hx₁ hwritten
            htakers hrefusals')
        obtain ⟨hwritten', x', hv', htakers', hnamed⟩ := h
        have hgrows := hnamed.grows
        have htotal := hnamed.total
        simp only [List.length_append, List.length_cons, List.length_nil] at hgrows htotal
        refine ⟨hwritten', x', hv', htakers', hnamed.unsent, hnamed.refused, by omega, ?_, ?_⟩
        · simp only [List.length_cons]
          omega
        · intro hlength
          omega

/-- What explains that nobody was taken is no positive code. -/
lemma explains_not_positive {refusals : List Nat}
    (h : ∀ code ∈ refusals, positiveCode code = false) :
    positiveCode (explains refusals) = false := by
  unfold explains
  cases hfound : refusals.find? fun code => !isTransient code with
  | some code => exact h code (List.mem_of_find?_eq_some hfound)
  | none =>
    cases refusals with
    | nil => rfl
    | cons code rest => exact h code List.mem_cons_self

/-- The message's line, answered. -/
lemma heard_message (x : Visit) (message : SmtpMessage) (code : Nat) :
    (x.wrote (.message message)).heard code =
      { x with asked := none, begun := true, verdict := some code } := by
  simp [Visit.heard, Visit.wrote, Visit.isMessage]

/-- An error once the message was begun settles the call. -/
lemma leavesWell_begun {l : Locals} {v : List SmtpEvent} {x : Visit} (error : NetworkError)
    (hv : visits v = x :: past) (hwritten : l.dataWritten = true) (hverdict : x.verdict = none)
    (hmisread : x.misread = false) : LeavesWell recipients past (.throws error) l v := by
  refine ⟨x, hv, ?_⟩
  rw [concluded, if_pos hwritten]
  exact concludes_settled rfl (by simp [Visit.accepted, hverdict]) hmisread

/-- What the positive reply to the message comes to. -/
lemma concludes_landed {x x' : Visit} {refusals : List Nat} {accepted : SmtpReply}
    (hx : x.taken = []) (hnamed : Named recipients x x' [] refusals)
    (haccepted : accepted.isPositive = true) {asked : Option Line} :
    Concludes recipients
      { x' with asked := asked, begun := true, verdict := some accepted.code }
      (landed accepted refusals) := by
  have hcode : positiveCode accepted.code = true := haccepted
  have htotal := hnamed.total
  rw [hx] at htotal
  unfold landed
  by_cases hnone : refusals.length = 0
  · rw [if_pos hnone]
    have htaken : x'.taken = recipients := by
      rw [hnamed.all hnone, hx, List.nil_append]
    refine ⟨?_, ?_⟩
    · simp [AttemptOutcome.isDelivered, Visit.accepted, hcode, htaken]
    · simp [hnamed.unsent.misread]
  · rw [if_neg hnone]
    have htaken : x'.taken ≠ recipients := by
      intro heq
      rw [heq] at htotal
      simp only [List.length_nil] at htotal
      omega
    refine concludes_settled rfl ?_ hnamed.unsent.misread
    simp [Visit.accepted, htaken]

/-- The end of `converse`, as the loop over the addresses sees it. -/
def Lands (recipients : List Text) (past : List Visit) (conversation : Conversation) (_ : Locals)
    (v : List SmtpEvent) : Prop :=
  ∃ x, visits v = x :: past ∧ Concludes recipients x conversation

/-- From the message on. -/
lemma wp_sendMessage (hpast : ∀ y ∈ past, Quiet recipients y) {message : SmtpMessage}
    {refusals : List Nat} {l : Locals} {v : List SmtpEvent} {x x' : Visit}
    (hv : visits v = x' :: past) (hwritten : l.dataWritten = false) (hx : x.taken = [])
    (hnamed : Named recipients x x' [] refusals) :
    Routine.wp smtpEffect (LeftQuiet recipients) (Lands recipients past)
      (LeavesWell recipients past) (sendMessage message refusals) l v := by
  unfold sendMessage
  refine wp_prompt hpast hv hnamed.unsent hwritten rfl fun opened v₁ hv₁ => ?_
  rw [Routine.wp_bind, Routine.wp_modify]
  refine ⟨leftQuiet_of_visits hpast hv₁, ?_⟩
  rw [Routine.wp_bind]
  refine wp_step_visit hpast hv₁ (fun accepted v₂ hv₂ => ?_) fun error v₂ hv₂ => ?_
  · rw [heard_message] at hv₂
    rw [Routine.wp_bind]
    refine wp_goOnIf (leftQuiet_of_visits hpast hv₂) (fun hpositive => ?_) fun hpositive => ?_
    · have hquit : visits (.wrote l.socket .quit :: v₂) =
          { x' with asked := some .quit, begun := true, verdict := some accepted.code } :: past :=
        visits_cons rfl hv₂
      have hlands : Lands recipients past (landed accepted refusals) l
          (.wrote l.socket .quit :: v₂) := ⟨_, hquit, concludes_landed hx hnamed hpositive⟩
      have hsafe := leftQuiet_of_visits hpast hquit
      rw [Routine.wp_bind, Routine.wp_tryCatch]
      exact wp_say (leftQuiet_of_visits hpast hv₂) hsafe ⟨hsafe, hlands⟩
        fun _ => ⟨hsafe, hsafe, hlands⟩
    · refine ⟨_, hv₂, concludes_byReply hpositive (fun _ => rfl) ?_ hnamed.unsent.misread⟩
      have hcode : positiveCode accepted.code = false := hpositive
      simp [Visit.accepted, hcode]
  · exact leavesWell_begun error hv₂ rfl hnamed.unsent.verdict hnamed.unsent.misread

/-- From `MAIL FROM` on. -/
lemma wp_transfer {message : SmtpMessage} (hpast : ∀ y ∈ past, Quiet message.toAddresses y)
    {l : Locals} {v : List SmtpEvent} (hat : At past false Fresh l v) :
    Routine.wp smtpEffect (LeftQuiet message.toAddresses) (Lands message.toAddresses past)
      (LeavesWell message.toAddresses past) (transfer message) l v := by
  unfold transfer
  refine wp_after (opens_step hpast rfl) hat fun sender l₁ v₁ h₁ => ?_
  refine wp_after (opens_goOnIf hpast fun h => h) h₁ fun _ l₂ v₂ h₂ => ?_
  obtain ⟨hwritten, x, hv, hx⟩ := h₂
  rw [Routine.wp_bind]
  refine Routine.wp_mono (fun found l₃ v₃ _ h₃ => ?_) (fun _ _ _ _ h => h)
    (wp_nameRecipients hpast message.toAddresses 0 [] l₂ v₂ x hv hx.toUnsent hwritten
      (by simp [hx.taken]) (by simp))
  obtain ⟨takers, refusals⟩ := found
  obtain ⟨hwritten₃, x', hv', htakers, hnamed⟩ := h₃
  show Routine.wp smtpEffect _ _ _ (goOnIf _ _ >>= fun _ => sendMessage message refusals) l₃ v₃
  rw [Routine.wp_bind]
  refine wp_goOnIf (leftQuiet_of_visits hpast hv')
    (fun _ => wp_sendMessage hpast hv' hwritten₃ hx.taken hnamed) fun _ => ?_
  refine ⟨x', hv', concludes_byReply (explains_not_positive hnamed.refused) (fun hbegun => ?_)
    hnamed.unsent.accepted hnamed.unsent.misread⟩
  rw [hnamed.unsent.begun] at hbegun
  cases hbegun

/-- A visit where nothing was said. -/
structure Untouched (x : Visit) : Prop extends Fresh x where
  asked : x.asked = none

/-- The part of `converse` inside its `try`. -/
lemma wp_exchange {credentials : SmtpCredentials} {message : SmtpMessage}
    (hpast : ∀ y ∈ past, Quiet message.toAddresses y) {l : Locals} {v : List SmtpEvent}
    {x : Visit} (hwritten : l.dataWritten = false) (hv : visits v = x :: past)
    (hx : Untouched x) :
    Routine.wp smtpEffect (LeftQuiet message.toAddresses) (Lands message.toAddresses past)
      (LeavesWell message.toAddresses past) (exchange toUpperCase credentials message) l v := by
  have hsecure : ∀ capabilities,
      Opens message.toAddresses past (secureSession toUpperCase credentials.port capabilities) := by
    intro capabilities
    unfold secureSession
    split
    · exact opens_startTls hpast capabilities
    · exact carries_pure (fun _ _ hat => hat.safe hpast) _
  unfold exchange
  rw [Routine.wp_bind]
  refine Routine.wp_mono (fun greeting l₁ v₁ _ h₁ => ?_) (fun _ _ _ _ h => h)
    (wp_greeting hpast hwritten hv hx.toFresh hx.asked)
  refine wp_after (opens_goOnIf hpast fun h => h) h₁ fun _ l₂ v₂ h₂ => ?_
  refine wp_after (opens_hello hpast) h₂ fun first l₃ v₃ h₃ => ?_
  refine wp_after (hsecure first) h₃ fun capabilities l₄ v₄ h₄ => ?_
  exact wp_after (opens_signIn hpast credentials capabilities) h₄ fun _ l₅ v₅ h₅ =>
    wp_transfer hpast h₅

/-- What `converse` returns says what happened at the address. -/
lemma wp_converse {connected : Nat} {credentials : SmtpCredentials} {message : SmtpMessage}
    (hpast : ∀ y ∈ past, Quiet message.toAddresses y) {v : List SmtpEvent} {x : Visit}
    (hv : visits v = x :: past) (hx : Untouched x) :
    Dialogue.wp smtpEffect (LeftQuiet message.toAddresses)
      (fun conversation v' => ∃ x', visits v' = x' :: past ∧
        Concludes message.toAddresses x' conversation)
      (converse toUpperCase connected credentials message) v := by
  unfold converse
  refine Dialogue.wp_send_bind.mpr ⟨leftQuiet_of_visits hpast hv, fun reader v₁ hv₁ => ?_⟩
  obtain rfl : v₁ = .listened connected reader :: v := hv₁
  have hlistened : visits (.listened connected reader :: v) = x :: past := visits_cons rfl hv
  refine ⟨leftQuiet_of_visits hpast hlistened, ?_⟩
  rw [Dialogue.wp_bind]
  refine Dialogue.wp_mono (fun ending v₂ hsafe h => ?_) (wp_exchange hpast rfl hlistened hx)
  refine Dialogue.wp_send_bind.mpr ⟨hsafe, fun _ v₃ hv₃ => ?_⟩
  obtain rfl : v₃ = v₂ := hv₃
  refine ⟨hsafe, ?_⟩
  refine Dialogue.wp_send_bind.mpr ⟨hsafe, fun _ v₄ hv₄ => ?_⟩
  obtain rfl : v₄ = v₃ := hv₄
  refine ⟨hsafe, hsafe, ?_⟩
  obtain ⟨ending, l⟩ := ending
  cases ending with
  | ok conversation => exact h
  | error exit => exact h

/-- What happens at one address. -/
lemma wp_tryAddress {settings : EmailSettings} {message : SmtpMessage} {pinned : PinnedAddress}
    {v : List SmtpEvent} (hquiet : ∀ y ∈ visits v, Quiet message.toAddresses y) :
    Dialogue.wp smtpEffect (LeftQuiet message.toAddresses)
      (fun conversation v' => ∃ x, visits v' = x :: visits v ∧
        Concludes message.toAddresses x conversation)
      (tryAddress toUpperCase settings message pinned) v := by
  have hleft : LeftQuiet message.toAddresses v := fun y hy => hquiet y (List.mem_of_mem_tail hy)
  have hstart : Untouched (Visit.start pinned.address) := ⟨⟨⟨rfl, rfl, rfl⟩, rfl⟩, rfl⟩
  have hfailed : ∀ reason, Concludes message.toAddresses (Visit.start pinned.address)
      (.tryNextAddress (classifyNetworkFailure reason)) :=
    fun _ => ⟨rfl, hstart.toUnsent.quiet⟩
  unfold tryAddress
  refine Dialogue.wp_send_bind.mpr ⟨hleft, fun answer v₁ hv₁ => ?_⟩
  obtain rfl : v₁ = .contacted pinned.address answer.toOption :: v := hv₁
  have hcontacted : visits (.contacted pinned.address answer.toOption :: v) =
      Visit.start pinned.address :: visits v := rfl
  have hsafe := leftQuiet_of_visits hquiet hcontacted
  refine ⟨hsafe, ?_⟩
  cases answer with
  | error error => exact ⟨hsafe, _, rfl, hfailed _⟩
  | ok opened =>
    show Dialogue.wp smtpEffect (LeftQuiet message.toAddresses) _
      (secured settings.smtpPort opened >>= _) _
    rw [Dialogue.wp_bind]
    unfold secured
    split
    · exact ⟨hsafe, wp_converse hquiet hcontacted hstart⟩
    · refine Dialogue.wp_send.mpr ⟨hsafe, fun answer v₂ hv₂ => ?_⟩
      cases answer with
      | error error =>
        obtain rfl : v₂ = .contacted pinned.address (some opened) :: v := hv₂
        refine ⟨hsafe, ?_⟩
        show Dialogue.wp smtpEffect (LeftQuiet message.toAddresses) _
          (Dialogue.send (.destroy opened) >>= _) _
        refine Dialogue.wp_send_bind.mpr ⟨hsafe, fun _ v₃ hv₃ => ?_⟩
        obtain rfl : v₃ = .contacted pinned.address (some opened) :: v := hv₃
        exact ⟨hsafe, hsafe, _, rfl, hfailed _⟩
      | ok socket =>
        obtain rfl : v₂ = .upgraded opened socket :: .contacted pinned.address (some opened) :: v :=
          hv₂
        have hupgraded : visits (.upgraded opened socket ::
            .contacted pinned.address (some opened) :: v) =
            Visit.start pinned.address :: visits v := visits_cons rfl hcontacted
        exact ⟨leftQuiet_of_visits hquiet hupgraded, wp_converse hquiet hupgraded hstart⟩

/-- What the result of a call says of its visits. -/
structure Reported (recipients : List Text) (outcome : AttemptOutcome) (v : List SmtpEvent) :
    Prop where
  left : LeftQuiet recipients v
  delivered : outcome.isDelivered = true ↔
    ∃ x ∈ visits v, x.accepted recipients = true ∨ x.misread = true
  exclusive : ∀ x ∈ visits v, ¬ (x.accepted recipients = true ∧ x.misread = true)

lemma not_of_quiet {x : Visit} (h : Quiet recipients x) :
    ¬ (x.accepted recipients = true ∨ x.misread = true) := by
  rintro (haccepted | hmisread)
  · rw [h.accepted] at haccepted
    cases haccepted
  · rw [h.misread] at hmisread
    cases hmisread

/-- Where every address was left, nothing was delivered. -/
lemma reported_of_quiet {outcome : AttemptOutcome} {v : List SmtpEvent}
    (houtcome : outcome.isDelivered = false) (hquiet : ∀ y ∈ visits v, Quiet recipients y) :
    Reported recipients outcome v where
  left := fun y hy => hquiet y (List.mem_of_mem_tail hy)
  delivered := by
    rw [houtcome]
    constructor
    · intro hne; cases hne
    · rintro ⟨x, hx, hsuccess⟩
      exact absurd hsuccess (not_of_quiet (hquiet x hx))
  exclusive := fun x hx h => not_of_quiet (hquiet x hx) (Or.inl h.1)

/-- What the last address settled, the call reports. -/
lemma reported_of_settled {outcome : AttemptOutcome} {v : List SmtpEvent} {x : Visit}
    (hpast : ∀ y ∈ past, Quiet recipients y) (hv : visits v = x :: past)
    (hsettled : Concludes recipients x (.settled outcome)) : Reported recipients outcome v where
  left := leftQuiet_of_visits hpast hv
  delivered := by
    rw [hsettled.1, hv]
    constructor
    · exact fun h => ⟨x, List.mem_cons_self, h⟩
    · rintro ⟨y, hy, hsuccess⟩
      rcases List.mem_cons.mp hy with rfl | hy
      · exact hsuccess
      · exact absurd hsuccess (not_of_quiet (hpast y hy))
  exclusive := by
    rw [hv]
    intro y hy h
    rcases List.mem_cons.mp hy with rfl | hy
    · exact hsettled.2 h
    · exact not_of_quiet (hpast y hy) (Or.inl h.1)

lemma wp_tryAddresses {settings : EmailSettings} {message : SmtpMessage} :
    ∀ (addresses : List PinnedAddress) (lastFailure : AttemptOutcome) (v : List SmtpEvent),
      lastFailure.isDelivered = false → (∀ y ∈ visits v, Quiet message.toAddresses y) →
      Dialogue.wp smtpEffect (LeftQuiet message.toAddresses) (Reported message.toAddresses)
        (tryAddresses toUpperCase settings message lastFailure addresses) v
  | [], lastFailure, v, hfailure, hquiet =>
      ⟨fun y hy => hquiet y (List.mem_of_mem_tail hy), reported_of_quiet hfailure hquiet⟩
  | pinned :: rest, lastFailure, v, _, hquiet => by
      unfold tryAddresses
      rw [Dialogue.wp_bind]
      refine Dialogue.wp_mono (fun conversation v' hsafe h => ?_) (wp_tryAddress hquiet)
      obtain ⟨x, hv', hconcludes⟩ := h
      cases conversation with
      | settled outcome => exact ⟨hsafe, reported_of_settled hquiet hv' hconcludes⟩
      | tryNextAddress outcome =>
        obtain ⟨houtcome, hx⟩ := hconcludes
        refine wp_tryAddresses rest outcome v' houtcome fun y hy => ?_
        rw [hv'] at hy
        rcases List.mem_cons.mp hy with rfl | hy
        · exact hx
        · exact hquiet y hy

end Parts

end Rules

/-- What a call of `deliverEmail` reports. -/
lemma wp_deliverEmail (toUpperCase toLowerCase : Text → Text) (settings : EmailSettings)
    (envelope : Envelope) (policy : EgressPolicy) (sentAt : Int) :
    Dialogue.wp smtpEffect (LeftQuiet settings.toAddresses) (Reported settings.toAddresses)
      (deliverEmail toUpperCase toLowerCase settings envelope policy sentAt) [] := by
  have hnothing : LeftQuiet settings.toAddresses [] := fun y hy => by cases hy
  have hverdict : ∀ (verdict : PinVerdict) (v : List SmtpEvent), visits v = [] →
      Dialogue.wp smtpEffect (LeftQuiet settings.toAddresses) (Reported settings.toAddresses)
        (deliverTo toUpperCase settings (emailMessage settings envelope sentAt) verdict) v := by
    intro verdict v hv
    have hquiet : ∀ y ∈ visits v, Quiet settings.toAddresses y := by
      rw [hv]
      intro y hy
      cases hy
    cases verdict with
    | refused reason =>
      exact ⟨fun y hy => hquiet y (List.mem_of_mem_tail hy), reported_of_quiet rfl hquiet⟩
    | pinned addresses =>
      have haddresses : Dialogue.wp smtpEffect
          (LeftQuiet (emailMessage settings envelope sentAt).toAddresses)
          (Reported (emailMessage settings envelope sentAt).toAddresses)
          (tryAddresses toUpperCase settings (emailMessage settings envelope sentAt)
            (classifyRefusal nowhere) addresses) v := wp_tryAddresses addresses _ v rfl hquiet
      exact haddresses
  unfold deliverEmail
  rw [Dialogue.wp_bind]
  unfold resolvePinned
  dsimp only
  split
  · split
    · exact ⟨hnothing, hverdict _ [] rfl⟩
    · exact ⟨hnothing, hverdict _ [] rfl⟩
  · refine Dialogue.wp_send_bind.mpr ⟨hnothing, fun answers v₁ hv₁ => ?_⟩
    obtain rfl : v₁ = [.lookedUp (settings.hostname toLowerCase) answers] := hv₁
    exact ⟨hnothing, hnothing, hverdict _ _ rfl⟩

/-! ## The claim about every run -/

lemma visits_own : ∀ log : List SmtpEvent, visits (log.filter SmtpEvent.isOwn) = visits log
  | [] => rfl
  | event :: older => by
      cases event with
      | received socket chunk =>
        have hsame : (visits older).modifyHead (·.note (.received socket chunk)) =
            visits older := by
          cases visits older with
          | nil => rfl
          | cons x past => rfl
        rw [List.filter_cons_of_neg (by simp [SmtpEvent.isOwn]), visits_own older]
        exact hsame.symm
      | _ => simp [List.filter_cons, SmtpEvent.isOwn, visits, visits_own older]

/-- **When a reported delivery is one.**  In every run of `deliverEmail`, no address is contacted
after one where the message was begun, unless its reply was transient; and where the run has ended,
its outcome tells whether the message and every recipient were taken at the last address, exactly
when no server gave a reply that the client takes for the success of the whole. -/
theorem delivery_reported_iff {toUpperCase toLowerCase : Text → Text} {settings : EmailSettings}
    {envelope : Envelope} {policy : EgressPolicy} {sentAt : Int}
    {es : List (Happening SmtpTurn SmtpChoice)}
    {d : Dialogue SmtpAsk SmtpAnswer AttemptOutcome} {w : SmtpWorld}
    (hrun : (smtpOutside.runs (deliverEmail toUpperCase toLowerCase settings envelope policy sentAt)
      .empty).Path TransitionSystem.free
      (deliverEmail toUpperCase toLowerCase settings envelope policy sentAt, .empty) es (d, w)) :
    StopsOnceBegun w.log ∧ ∀ outcome, d = .done outcome →
      (ReportsDelivery settings.toAddresses w.log outcome ↔
        ∀ x ∈ visits w.log, x.misread = false) := by
  obtain ⟨hleft, hended⟩ := smtpViews.sound
    (wp_deliverEmail toUpperCase toLowerCase settings envelope policy sentAt) hrun
  have hvisits : visits (ownLog w) = visits w.log := visits_own w.log
  rw [LeftQuiet, hvisits] at hleft
  refine ⟨fun x hx => (hleft x hx).mayLeave, fun outcome hdone => ?_⟩
  obtain ⟨_, hdelivered, hexclusive⟩ := hended outcome hdone
  rw [hvisits] at hdelivered hexclusive
  constructor
  · rintro ⟨hreports, _⟩ x hx
    by_contra hne
    have hmisread : x.misread = true := Bool.not_eq_false _ ▸ hne
    obtain ⟨y, hy, haccepted⟩ := hreports.mp (hdelivered.mpr ⟨x, hx, Or.inr hmisread⟩)
    cases hlog : visits w.log with
    | nil => rw [hlog] at hx; cases hx
    | cons first past =>
      have hquiet : ∀ z ∈ past, Quiet settings.toAddresses z := by
        intro z hz
        exact hleft z (by rw [hlog]; exact hz)
      rw [hlog] at hx hy hexclusive
      rcases List.mem_cons.mp hx with rfl | hx
      · rcases List.mem_cons.mp hy with rfl | hy
        · exact hexclusive _ List.mem_cons_self ⟨haccepted, hmisread⟩
        · exact not_of_quiet (hquiet y hy) (Or.inl haccepted)
      · exact not_of_quiet (hquiet x hx) (Or.inr hmisread)
  · intro hclear
    refine ⟨hdelivered.trans ⟨?_, ?_⟩, fun x hx => (hleft x hx).accepted⟩
    · rintro ⟨x, hx, haccepted | hmisread⟩
      · exact ⟨x, hx, haccepted⟩
      · rw [hclear x hx] at hmisread
        cases hmisread
    · rintro ⟨x, hx, haccepted⟩
      exact ⟨x, hx, Or.inl haccepted⟩

/-- A server on the port of implicit security, up to its answer to `DATA`. -/
def exampleOpening (go : String) : List (Happening SmtpTurn SmtpChoice) :=
  List.replicate 3 (.answered .succeeds) ++ exampleRead 1 "220 a\r\n" ++
    exampleStep 1 "250 AUTH PLAIN\r\n" ++ exampleStep 1 "235 b\r\n" ++ exampleStep 1 "250 c\r\n" ++
    exampleStep 1 "250 d\r\n" ++ exampleStep 1 go

/-- What a call came to: its result, and its visits. -/
def callResult (t : Dialogue SmtpAsk SmtpAnswer AttemptOutcome × SmtpWorld) :
    Option AttemptOutcome × List Visit := (t.1.result, visits t.2.log)

/-- The run of a server that takes the message. -/
def deliveredRun : List (Happening SmtpTurn SmtpChoice) :=
  exampleOpening "354 e\r\n" ++ exampleStep 1 "250 f\r\n" ++ List.replicate 4 (.answered .succeeds)

/-- A delivery that is one. -/
theorem delivery_reported_iff_accepted : ∃ w : SmtpWorld,
    StopsOnceBegun w.log ∧
      (ReportsDelivery ["c@d".toList] w.log (.delivered (some 250)) ↔
        ∀ x ∈ visits w.log, x.misread = false) := by
  have hexec : ((smtpOutside.runs (exampleCall 465) .empty).exec (exampleCall 465, .empty)
      deliveredRun).map (fun t => (callResult t).1) = some (some (.delivered (some 250))) := by
    decide +kernel
  obtain ⟨⟨d, w⟩, hrun, hresult⟩ := Option.map_eq_some_iff.mp hexec
  have hiff := delivery_reported_iff (TransitionSystem.path_of_exec hrun)
  exact ⟨w, hiff.1, hiff.2 _ (Dialogue.eq_done_of_result hresult)⟩

/-- A server that answers `DATA` with 250 in place of 354: the call reports a delivery, and the
message was never written. -/
theorem unsent_message_is_reported : ¬ ∀ (es : List (Happening SmtpTurn SmtpChoice))
    (d : Dialogue SmtpAsk SmtpAnswer AttemptOutcome) (w : SmtpWorld) (outcome : AttemptOutcome),
    (smtpOutside.runs (exampleCall 465) .empty).Path TransitionSystem.free
      (exampleCall 465, .empty) es (d, w) → d = .done outcome →
    ReportsDelivery (exampleSettings 465).toAddresses w.log outcome := by
  intro hreports
  have hexec : ((smtpOutside.runs (exampleCall 465) .empty).exec (exampleCall 465, .empty)
      (exampleOpening "250 e\r\n" ++ List.replicate 2 (.answered .succeeds))).map callResult =
      some (some (.delivered (some 250)),
        [⟨"9.9.9.9".toList, none, false, none, ["c@d".toList], true⟩]) := by decide +kernel
  obtain ⟨⟨d, w⟩, hrun, hresult⟩ := Option.map_eq_some_iff.mp hexec
  have hdone : d = .done (.delivered (some 250)) :=
    Dialogue.eq_done_of_result (congrArg (·.1) hresult)
  have hvisits : visits w.log =
      [⟨"9.9.9.9".toList, none, false, none, ["c@d".toList], true⟩] := congrArg (·.2) hresult
  obtain ⟨x, hx, haccepted⟩ :=
    (hreports _ d w _ (TransitionSystem.path_of_exec hrun) hdone).1.mp rfl
  rw [hvisits, List.mem_singleton] at hx
  rw [hx] at haccepted
  cases haccepted

end OpenMcc.Smtp
