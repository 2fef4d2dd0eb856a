import OpenMcc.Properties.SmtpConversation
import OpenMcc.Properties.SmtpReader

/-!
# The secured session of a call of `deliverEmail`

Everything after the opening of a conversation is written to a socket that the upgrade returned,
and the replies read after an upgrade are made of text its socket received since.

The proof has two halves.  The program keeps its own log `Confined`: it reads from the one reader
it made on the secured socket, one reply at a time, and writes private lines there only.  The
sockets, whatever the servers send, keep `Tallied`: the replies read since the upgrade, the reply
not taken yet and the buffer are, one after the other, the text the socket received.
-/

namespace OpenMcc.Smtp

open Routine Pinned

/-! ## What the program keeps -/

/-- The socket of the present session, once there is one, with the reader made on it. -/
def session : List SmtpEvent → Option (Nat × Option Nat)
  | [] => none
  | .contacted _ _ :: _ => none
  | .upgraded _ secured :: _ => some (secured, none)
  | .listened _ reader :: older => (session older).map fun (secured, _) => (secured, some reader)
  | _ :: older => session older

/-- No read of the reader is under way. -/
def idle (reader : Nat) : List SmtpEvent → Bool
  | [] => true
  | .asked r :: older => r != reader && idle reader older
  | .replied r _ :: older => r == reader || idle reader older
  | .listened _ r :: older => r == reader || idle reader older
  | _ :: older => idle reader older

/-- What the program keeps of its log. -/
def Confined : List SmtpEvent → Prop
  | [] => True
  | .upgraded _ _ :: older => session older = none ∧ Confined older
  | .listened socket _ :: older =>
    (∀ s, session older = some s → s = (socket, none)) ∧ Confined older
  | .wrote socket line :: older =>
    (line.isOpening = false → ∃ reader, session older = some (socket, reader)) ∧ Confined older
  | .asked reader :: older =>
    (idle reader older = true ∧ ∀ s, session older = some s → s.2 = some reader) ∧ Confined older
  | .replied reader _ :: older =>
    (∀ s, session older = some s → s.2 = some reader) ∧ Confined older
  | _ :: older => Confined older

/-- Where the program stands between two steps: before the session, or in it. -/
structure Ready (secure : Bool) (l : Locals) (v : List SmtpEvent) : Prop where
  confined : Confined v
  idle : idle l.reader v = true
  session : session v = if secure then some (l.socket, some l.reader) else none

variable {secure : Bool}

/-- A part of `converse` that goes from one such place to another, and confines itself. -/
def Keeps {α : Type} (secure : Bool) (m : Talk α) : Prop :=
  Carries Confined (fun _ _ _ => True) (Ready secure) m

lemma keeps_pure {α : Type} (a : α) : Keeps secure (pure a : Talk α) :=
  carries_pure (fun _ _ hready => hready.confined) a

lemma keeps_throw {α : Type} (exit : Exit) : Keeps secure (throw exit : Talk α) :=
  fun _ _ hready => ⟨hready.confined, trivial⟩

lemma keeps_goOnIf (condition : Bool) (otherwise : Conversation) :
    Keeps secure (goOnIf condition otherwise) := by
  intro l v hready
  exact wp_goOnIf hready.confined (fun _ => hready) fun _ => trivial

/-- Where the program stands, it may read. -/
lemma Ready.reads {l : Locals} {v : List SmtpEvent} (h : Ready secure l v)
    (reply : Except NetworkError TextReply) :
    Confined (.asked l.reader :: v) ∧
      Ready secure l (.replied l.reader reply :: .asked l.reader :: v) := by
  have howns : ∀ s, Smtp.session v = some s → s.2 = some l.reader := by
    intro s hs
    rw [h.session] at hs
    cases secure with
    | true => rw [← Option.some.inj hs]
    | false => cases hs
  have hasked : Confined (.asked l.reader :: v) := ⟨⟨h.idle, howns⟩, h.confined⟩
  refine ⟨hasked, ⟨howns, hasked⟩, ?_, h.session⟩
  simp [Smtp.idle]

/-- Where the program stands, it may write: an opening line, or any line in the session. -/
lemma Ready.writes {l : Locals} {v : List SmtpEvent} {line : Line} (h : Ready secure l v)
    (hline : secure = true ∨ line.isOpening = true) :
    Ready secure l (.wrote l.socket line :: v) := by
  refine ⟨⟨fun hprivate => ?_, h.confined⟩, h.idle, h.session⟩
  rcases hline with hsecure | hopening
  · rw [h.session, hsecure]
    exact ⟨_, rfl⟩
  · rw [hopening] at hprivate
    cases hprivate

lemma keeps_read : Keeps secure read := by
  intro l v hready
  exact wp_read hready.confined (hready.reads (.error (internalError []))).1
    (fun reply => (hready.reads reply).2.confined) (fun reply => (hready.reads (.ok reply)).2)
    fun _ => trivial

lemma keeps_say {line : Line} (hline : secure = true ∨ line.isOpening = true) :
    Keeps secure (say line) := by
  intro l v hready
  have hwrites := hready.writes hline
  exact wp_say hready.confined hwrites.confined hwrites fun _ => trivial

lemma keeps_step {line : Line} (hline : secure = true ∨ line.isOpening = true) :
    Keeps secure (step line) := carries_bind (keeps_say hline) fun _ => keeps_read

lemma keeps_hello : Keeps secure hello :=
  carries_bind (keeps_step (Or.inr rfl)) fun _ =>
    carries_bind (keeps_goOnIf _ _) fun _ => keeps_pure _

lemma keeps_nameRecipients :
    ∀ (recipients : List Text) (takers : Nat) (refusals : List Nat),
      Keeps true (nameRecipients takers refusals recipients)
  | [], _, _ => keeps_pure _
  | recipient :: rest, takers, refusals => by
      unfold nameRecipients
      refine carries_bind (keeps_step (Or.inl rfl)) fun answer => ?_
      by_cases hpositive : answer.isPositive = true
      · rw [if_pos hpositive]
        exact keeps_nameRecipients rest (takers + 1) refusals
      · rw [if_neg hpositive]
        exact keeps_nameRecipients rest takers (refusals ++ [answer.code])

section Parts

variable {toUpperCase : Text → Text}

lemma keeps_signIn (credentials : SmtpCredentials) (capabilities : SmtpReply) :
    Keeps true (signIn toUpperCase credentials capabilities) := by
  have hstep : ∀ line, Keeps true (step line) := fun line => keeps_step (Or.inl rfl)
  unfold signIn
  dsimp only
  split
  · exact carries_bind (hstep _) fun _ => keeps_goOnIf _ _
  · split
    · refine carries_bind (hstep _) fun _ => carries_bind (keeps_goOnIf _ _) fun _ => ?_
      refine carries_bind (hstep _) fun _ => carries_bind (keeps_goOnIf _ _) fun _ => ?_
      exact carries_bind (hstep _) fun _ => keeps_goOnIf _ _
    · exact keeps_throw _

lemma keeps_sendMessage (message : SmtpMessage) (refusals : List Nat) :
    Keeps true (sendMessage message refusals) := by
  have hstep : ∀ line, Keeps true (step line) := fun line => keeps_step (Or.inl rfl)
  refine carries_bind (hstep _) fun _ => carries_bind (keeps_goOnIf _ _) fun _ => ?_
  have hnoted : Keeps true
      (modify fun locals => { locals with dataWritten := true } : Talk PUnit) :=
    fun l v hready => ⟨hready.confined, hready.confined, hready.idle, hready.session⟩
  refine carries_bind hnoted fun _ => ?_
  refine carries_bind (hstep _) fun _ => carries_bind (keeps_goOnIf _ _) fun _ => ?_
  refine carries_bind (fun l v hready => ?_) fun _ => keeps_pure _
  have hwrites : Ready true l (.wrote l.socket .quit :: v) := hready.writes (Or.inl rfl)
  rw [Routine.wp_tryCatch]
  exact wp_say hready.confined hwrites.confined hwrites fun _ => ⟨hwrites.confined, hwrites⟩

/-- What the new reader on a freshly secured socket makes of the log. -/
lemma ready_of_listened {l : Locals} {v : List SmtpEvent} {socket reader : Nat}
    (hconfined : Confined v) (hsession : session v = some (socket, none))
    (hsocket : l.socket = socket) (hreader : l.reader = reader) :
    Ready true l (.listened socket reader :: v) := by
  refine ⟨⟨fun s hs => ?_, hconfined⟩, ?_, ?_⟩
  · rw [hsession] at hs
    exact (Option.some.inj hs).symm
  · simp [idle, hreader]
  · simp [session, hsession, hsocket, hreader]

/-- `STARTTLS` goes from the plain socket to the session. -/
lemma startTls_secures {capabilities : SmtpReply} {l : Locals} {v : List SmtpEvent}
    (hready : Ready false l v) :
    Routine.wp smtpEffect Confined (fun _ l' v' => Ready true l' v') (fun _ _ _ => True)
      (startTls toUpperCase capabilities) l v := by
  unfold startTls
  refine wp_after (keeps_goOnIf _ _) hready fun _ l₀ v₀ h₀ => ?_
  refine wp_after (keeps_step (Or.inr rfl)) h₀ fun ready l' v' h => ?_
  rw [Routine.wp_bind]
  refine wp_goOnIf h.confined (fun _ => ?_) fun _ => trivial
  rw [Routine.wp_bind, Routine.wp_get, Routine.wp_bind]
  refine ⟨h.confined, wp_asks h.confined fun residual v₁ hv₁ => ?_⟩
  obtain rfl : v₁ = v' := hv₁
  refine ⟨h.confined, ?_⟩
  rw [Routine.wp_bind]
  refine wp_goOnIf h.confined (fun _ => ?_) fun _ => trivial
  rw [Routine.wp_bind]
  refine wp_asks h.confined fun _ v₂ hv₂ => ?_
  obtain rfl : v₂ = v₁ := hv₂
  refine ⟨h.confined, ?_⟩
  rw [Routine.wp_bind]
  refine wp_awaited (wp_asks h.confined fun answer v₃ hv₃ => ?_)
  cases answer with
  | error error =>
    obtain rfl : v₃ = v₂ := hv₃
    exact ⟨h.confined, (fun _ hne => by cases hne), fun _ _ => trivial⟩
  | ok socket =>
    obtain rfl : v₃ = .upgraded l'.socket socket :: v₂ := hv₃
    have hconfined : Confined (.upgraded l'.socket socket :: v₂) := ⟨h.session, h.confined⟩
    refine ⟨hconfined, fun secured hsecured => ?_, fun _ hne => by cases hne⟩
    obtain rfl : socket = secured := Except.ok.inj hsecured
    rw [Routine.wp_bind, Routine.wp_modify, Routine.wp_bind]
    refine ⟨hconfined, wp_asks hconfined fun reader v₄ hv₄ => ?_⟩
    obtain rfl : v₄ = .listened socket reader :: .upgraded l'.socket socket :: v₂ := hv₄
    have hready' : ∀ l'' : Locals, l''.socket = socket → l''.reader = reader →
        Ready true l'' (.listened socket reader :: .upgraded l'.socket socket :: v₂) :=
      fun l'' hsocket hreader => ready_of_listened hconfined rfl hsocket hreader
    have hlistened := (hready' ⟨false, socket, reader⟩ rfl rfl).confined
    refine ⟨hlistened, ?_⟩
    rw [Routine.wp_bind, Routine.wp_modify]
    exact ⟨hlistened, keeps_hello _ _ (hready' _ rfl rfl)⟩

lemma keeps_transfer (message : SmtpMessage) : Keeps true (transfer message) := by
  unfold transfer
  refine carries_bind (keeps_step (Or.inl rfl)) fun _ => carries_bind (keeps_goOnIf _ _) fun _ => ?_
  refine carries_bind (keeps_nameRecipients _ _ _) fun named => ?_
  exact carries_bind (keeps_goOnIf _ _) fun _ => keeps_sendMessage _ _

/-- `secureSession` ends in the session, from a plain socket where the port needs `STARTTLS` and
from a secured one elsewhere. -/
lemma secureSession_secures {port : Nat} {capabilities : SmtpReply} {l : Locals}
    {v : List SmtpEvent} (hready : Ready (!needsStartTls port) l v) :
    Routine.wp smtpEffect Confined (fun _ l' v' => Ready true l' v') (fun _ _ _ => True)
      (secureSession toUpperCase port capabilities) l v := by
  unfold secureSession
  by_cases hport : needsStartTls port = true
  · rw [if_pos hport]
    rw [hport] at hready
    exact startTls_secures hready
  · rw [if_neg hport]
    rw [Bool.eq_false_iff.mpr hport] at hready
    exact ⟨hready.confined, hready⟩

/-- The part of `converse` inside its `try` confines itself. -/
lemma exchange_confined {credentials : SmtpCredentials} {message : SmtpMessage} {l : Locals}
    {v : List SmtpEvent} (hready : Ready (!needsStartTls credentials.port) l v) :
    Routine.wp smtpEffect Confined (fun _ _ _ => True) (fun _ _ _ => True)
      (exchange toUpperCase credentials message) l v := by
  unfold exchange
  refine wp_after keeps_read hready fun greeting l₁ v₁ h₁ => ?_
  refine wp_after (keeps_goOnIf _ _) h₁ fun _ l₂ v₂ h₂ => ?_
  refine wp_after keeps_hello h₂ fun first l₃ v₃ h₃ => ?_
  rw [Routine.wp_bind]
  refine Routine.wp_mono (fun capabilities l₄ v₄ _ h₄ => ?_) (fun _ _ _ _ h => h)
    (secureSession_secures h₃)
  have hsignIn : Keeps true (signIn toUpperCase credentials capabilities) := keeps_signIn _ _
  have hrest := carries_bind hsignIn fun _ => keeps_transfer message
  exact Routine.wp_mono (fun _ _ _ _ _ => trivial) (fun _ _ _ _ h => h) (hrest l₄ v₄ h₄)

/-- `converse` confines itself. -/
lemma converse_confined {connected : Nat} {credentials : SmtpCredentials} {message : SmtpMessage}
    {v : List SmtpEvent} (hconfined : Confined v)
    (hsession : session v =
      if needsStartTls credentials.port then none else some (connected, none)) :
    Dialogue.wp smtpEffect Confined (fun _ _ => True)
      (converse toUpperCase connected credentials message) v := by
  unfold converse
  refine Dialogue.wp_send_bind.mpr ⟨hconfined, fun reader v₁ hv₁ => ?_⟩
  obtain rfl : v₁ = .listened connected reader :: v := hv₁
  have hready : Ready (!needsStartTls credentials.port) ⟨false, connected, reader⟩
      (.listened connected reader :: v) := by
    by_cases hport : needsStartTls credentials.port = true
    · rw [if_pos hport] at hsession
      rw [hport]
      refine ⟨⟨fun s hs => ?_, hconfined⟩, ?_, ?_⟩
      · rw [hsession] at hs
        cases hs
      · simp [idle]
      · simp [session, hsession]
    · rw [if_neg hport] at hsession
      rw [Bool.eq_false_iff.mpr hport]
      exact ready_of_listened hconfined hsession rfl rfl
  refine ⟨hready.confined, ?_⟩
  rw [Dialogue.wp_bind]
  refine Dialogue.wp_mono (fun ending v₂ hsafe _ => ?_) (exchange_confined hready)
  refine Dialogue.wp_send_bind.mpr ⟨hsafe, fun _ v₃ hv₃ => ?_⟩
  obtain rfl : v₃ = v₂ := hv₃
  refine ⟨hsafe, ?_⟩
  refine Dialogue.wp_send_bind.mpr ⟨hsafe, fun _ v₄ hv₄ => ?_⟩
  obtain rfl : v₄ = v₃ := hv₄
  exact ⟨hsafe, hsafe, trivial⟩

/-- At one address, the program confines itself. -/
lemma tryAddress_confined {settings : EmailSettings} {message : SmtpMessage}
    {pinned : PinnedAddress} {v : List SmtpEvent} (hconfined : Confined v) :
    Dialogue.wp smtpEffect Confined (fun _ _ => True)
      (tryAddress toUpperCase settings message pinned) v := by
  unfold tryAddress
  refine Dialogue.wp_send_bind.mpr ⟨hconfined, fun answer v₁ hv₁ => ?_⟩
  obtain rfl : v₁ = .contacted pinned.address answer.toOption :: v := hv₁
  have hcontacted : Confined (.contacted pinned.address answer.toOption :: v) := hconfined
  refine ⟨hcontacted, ?_⟩
  cases answer with
  | error error => exact ⟨hcontacted, trivial⟩
  | ok opened =>
    show Dialogue.wp smtpEffect Confined _ (secured settings.smtpPort opened >>= _) _
    rw [Dialogue.wp_bind]
    unfold secured
    by_cases hport : needsStartTls settings.smtpPort = true
    · rw [if_pos hport]
      refine ⟨hcontacted, converse_confined hcontacted ?_⟩
      rw [EmailSettings.credentials, if_pos hport]
      rfl
    · rw [if_neg hport]
      refine Dialogue.wp_send.mpr ⟨hcontacted, fun answer v₂ hv₂ => ?_⟩
      cases answer with
      | error error =>
        obtain rfl : v₂ = .contacted pinned.address (some opened) :: v := hv₂
        refine ⟨hcontacted, ?_⟩
        show Dialogue.wp smtpEffect Confined _ (Dialogue.send (.destroy opened) >>= _) _
        refine Dialogue.wp_send_bind.mpr ⟨hcontacted, fun _ v₃ hv₃ => ?_⟩
        obtain rfl : v₃ = .contacted pinned.address (some opened) :: v := hv₃
        exact ⟨hcontacted, hcontacted, trivial⟩
      | ok socket =>
        obtain rfl : v₂ = .upgraded opened socket :: .contacted pinned.address (some opened) :: v :=
          hv₂
        have hupgraded : Confined (.upgraded opened socket ::
            .contacted pinned.address (some opened) :: v) := ⟨rfl, hcontacted⟩
        refine ⟨hupgraded, converse_confined hupgraded ?_⟩
        rw [EmailSettings.credentials, if_neg hport]
        rfl

/-- One address after the other, the program confines itself. -/
lemma tryAddresses_confined {settings : EmailSettings} {message : SmtpMessage} :
    ∀ (addresses : List PinnedAddress) (lastFailure : AttemptOutcome) (v : List SmtpEvent),
      Confined v → Dialogue.wp smtpEffect Confined (fun _ _ => True)
        (tryAddresses toUpperCase settings message lastFailure addresses) v
  | [], _, _, hconfined => ⟨hconfined, trivial⟩
  | pinned :: rest, lastFailure, v, hconfined => by
      unfold tryAddresses
      rw [Dialogue.wp_bind]
      refine Dialogue.wp_mono (fun conversation v' hsafe _ => ?_) (tryAddress_confined hconfined)
      cases conversation with
      | settled outcome => exact ⟨hsafe, trivial⟩
      | tryNextAddress outcome => exact tryAddresses_confined rest outcome v' hsafe

/-- The call confines itself. -/
lemma deliverEmail_confined {toLowerCase : Text → Text} (settings : EmailSettings)
    (envelope : Envelope) (policy : EgressPolicy) (sentAt : Int) :
    Dialogue.wp smtpEffect Confined (fun _ _ => True)
      (deliverEmail toUpperCase toLowerCase settings envelope policy sentAt) [] := by
  have hverdict : ∀ (verdict : PinVerdict) (v : List SmtpEvent), Confined v →
      Dialogue.wp smtpEffect Confined (fun _ _ => True)
        (deliverTo toUpperCase settings (emailMessage settings envelope sentAt) verdict) v := by
    intro verdict v hconfined
    cases verdict with
    | refused reason => exact ⟨hconfined, trivial⟩
    | pinned addresses => exact tryAddresses_confined _ _ _ hconfined
  unfold deliverEmail
  rw [Dialogue.wp_bind]
  unfold resolvePinned
  dsimp only
  split
  · split
    · exact ⟨trivial, hverdict _ [] trivial⟩
    · exact ⟨trivial, hverdict _ [] trivial⟩
  · refine Dialogue.wp_send_bind.mpr ⟨trivial, fun answers v₁ hv₁ => ?_⟩
    obtain rfl : v₁ = [.lookedUp (settings.hostname toLowerCase) answers] := hv₁
    exact ⟨trivial, trivial, hverdict _ _ trivial⟩

end Parts

/-! ## The log with the text that was received -/

lemma session_own : ∀ log : List SmtpEvent, session (log.filter SmtpEvent.isOwn) = session log
  | [] => rfl
  | event :: older => by
      cases event
      all_goals simp [List.filter_cons, SmtpEvent.isOwn, session, session_own older]

lemma idle_own (reader : Nat) :
    ∀ log : List SmtpEvent, idle reader (log.filter SmtpEvent.isOwn) = idle reader log
  | [] => rfl
  | event :: older => by
      cases event
      all_goals simp [List.filter_cons, SmtpEvent.isOwn, idle, idle_own reader older]

lemma confined_own :
    ∀ log : List SmtpEvent, Confined (log.filter SmtpEvent.isOwn) ↔ Confined log
  | [] => Iff.rfl
  | event :: older => by
      cases event
      all_goals
        simp [List.filter_cons, SmtpEvent.isOwn, Confined, confined_own older, session_own older,
          idle_own _ older]

lemma confined_of_append {newer older : List SmtpEvent} (h : Confined (newer ++ older)) :
    Confined older := by
  induction newer with
  | nil => exact h
  | cons event newer ih =>
    apply ih
    cases event
    all_goals first | exact h | exact h.2

/-- There is a session only after an upgrade. -/
lemma upgraded_of_session {socket : Nat} {reader : Option Nat} :
    ∀ {log : List SmtpEvent}, session log = some (socket, reader) →
      ∃ plain, .upgraded plain socket ∈ log
  | [], h => by cases h
  | event :: older, h => by
      have holder : ∀ {reader}, session older = some (socket, reader) →
          ∃ plain, .upgraded plain socket ∈ event :: older := fun hsession =>
        let ⟨plain, hmem⟩ := upgraded_of_session hsession
        ⟨plain, List.mem_cons_of_mem _ hmem⟩
      cases event with
      | contacted address opened => cases h
      | upgraded plain secured =>
        obtain rfl : secured = socket := congrArg (·.1) (Option.some.inj h)
        exact ⟨plain, List.mem_cons_self⟩
      | listened s r =>
        obtain ⟨found, hfound, hpair⟩ := Option.map_eq_some_iff.mp h
        obtain rfl : found.1 = socket := congrArg (·.1) hpair
        exact holder hfound
      | lookedUp hostname answers => exact holder h
      | wrote s line => exact holder h
      | asked r => exact holder h
      | replied r reply => exact holder h
      | received s chunk => exact holder h

/-! ## What the sockets keep -/

/-- The session of a log, with the text its socket received and the text of the replies that were
read. -/
structure Tally where
  socket : Nat
  reader : Option Nat
  received : Text
  replied : Text

/-- The tally of a log. -/
def tally : List SmtpEvent → Option Tally
  | [] => none
  | .contacted _ _ :: _ => none
  | .upgraded _ secured :: _ => some ⟨secured, none, [], []⟩
  | .listened _ reader :: older => (tally older).map fun t => { t with reader := some reader }
  | .received socket chunk :: older =>
    (tally older).map fun t =>
      if socket = t.socket then { t with received := t.received ++ chunk } else t
  | .replied _ reply :: older =>
    (tally older).map fun t => { t with replied := t.replied ++ Reader.answerText reply }
  | _ :: older => tally older

lemma session_eq_tally :
    ∀ log : List SmtpEvent, session log = (tally log).map fun t => (t.socket, t.reader)
  | [] => rfl
  | event :: older => by
      cases event with
      | received socket chunk =>
        simp only [session, tally, session_eq_tally older, Option.map_map]
        cases tally older with
        | none => rfl
        | some t =>
          simp only [Option.map_some, Function.comp]
          split <;> rfl
      | _ => simp [session, tally, session_eq_tally older, Function.comp_def]

/-- The world goes by the tally of its log. -/
structure Follows (w : SmtpWorld) (t : Tally) : Prop where
  /-- Nothing is heard before there is a reader. -/
  silent : t.reader = none → t.received = [] ∧ t.replied = [] ∧ w.flowing t.socket = false
  known : ∀ r, t.reader = some r → r < w.made
  holds : ∀ r, t.reader = some r → (w.readers r).Holds t.socket t.replied t.received
  rests : ∀ r, t.reader = some r → idle r w.log = true → (w.readers r).Resting

/-- What the sockets keep, whatever happens to them. -/
structure Tallied (w : SmtpWorld) : Prop where
  known : ∀ s, w.flowing s = true → s < w.sockets
  parsed : ∀ r, (w.readers r).Parsed
  replies : ∀ r reply, .replied r (.ok reply) ∈ w.log →
    readReply reply.text = some (reply.toSmtpReply, [])
  follows : Confined w.log → ∀ t, tally w.log = some t → Follows w t

lemma tallied_empty : Tallied .empty where
  known := fun _ h => by cases h
  parsed := fun _ _ h => by cases h
  replies := fun _ _ h => by cases h
  follows := fun _ _ h => by cases h

/-- An error or the end of a socket reaches its readers. -/
lemma Tallied.failed {w : SmtpWorld} (h : Tallied w) (socket : Nat) (error : NetworkError) :
    Tallied (w.emit socket (·.fail error)) := by
  have hreader : ∀ (P : Reader → Prop) r, P (w.readers r) → P ((w.readers r).fail error) →
      P ((w.emit socket (·.fail error)).readers r) := by
    intro P r hsame hfailed
    show P (if _ then _ else _)
    split
    · exact hfailed
    · exact hsame
  refine ⟨h.known, fun r => hreader _ r (h.parsed r) ((h.parsed r).fail error), h.replies, ?_⟩
  intro hconfined t ht
  obtain ⟨hsilent, hknown, hholds, hrests⟩ := h.follows hconfined t ht
  refine ⟨hsilent, hknown, fun r hr => ?_, fun r hr hidle => ?_⟩
  · exact hreader (·.Holds _ _ _) r (hholds r hr) ((hholds r hr).fail error)
  · exact hreader _ r (hrests r hr hidle) ((hrests r hr hidle).fail error)

/-- A chunk reaches the readers of its socket. -/
lemma Tallied.received {w : SmtpWorld} (h : Tallied w) (socket : Nat) (chunk : Text)
    (hflowing : w.flowing socket = true) :
    Tallied { w.emit socket (·.onData chunk) with log := .received socket chunk :: w.log } := by
  have hreader : ∀ r, (w.emit socket (·.onData chunk)).readers r =
      if (w.readers r).listening && (w.readers r).socket == socket then (w.readers r).onData chunk
      else w.readers r := fun _ => rfl
  refine ⟨h.known, fun r => ?_, fun r reply hmem => ?_, fun hconfined t ht => ?_⟩
  · show ((w.emit socket (·.onData chunk)).readers r).Parsed
    rw [hreader]
    split
    · exact (h.parsed r).onData chunk
    · exact h.parsed r
  · rcases List.mem_cons.mp hmem with hne | hmem
    · cases hne
    · exact h.replies r reply hmem
  · obtain ⟨t', ht', rfl⟩ := Option.map_eq_some_iff.mp ht
    obtain ⟨hsilent, hknown, hholds, hrests⟩ := h.follows hconfined t' ht'
    by_cases hsocket : socket = t'.socket
    · rw [if_pos hsocket]
      refine ⟨fun hnone => ?_, hknown, fun r hr => ?_, fun r hr hidle => ?_⟩
      · have hquiet := (hsilent hnone).2.2
        rw [← hsocket, hflowing] at hquiet
        cases hquiet
      · show ((w.emit socket (·.onData chunk)).readers r).Holds t'.socket t'.replied
          (t'.received ++ chunk)
        rw [hreader, (hholds r hr).socket_eq, hsocket]
        by_cases hlistening : (w.readers r).listening = true
        · rw [if_pos (by simp [hlistening])]
          exact (hholds r hr).onData hlistening
        · rw [if_neg (by simp [hlistening])]
          exact (hholds r hr).missed (Bool.eq_false_iff.mpr hlistening)
      · show ((w.emit socket (·.onData chunk)).readers r).Resting
        rw [hreader]
        split
        · exact (hrests r hr hidle).onData chunk
        · exact hrests r hr hidle
    · rw [if_neg hsocket]
      refine ⟨hsilent, hknown, fun r hr => ?_, fun r hr hidle => ?_⟩
      · show ((w.emit socket (·.onData chunk)).readers r).Holds t'.socket t'.replied t'.received
        rw [hreader, (hholds r hr).socket_eq, if_neg (by simp [Ne.symm hsocket])]
        exact hholds r hr
      · show ((w.emit socket (·.onData chunk)).readers r).Resting
        rw [hreader, (hholds r hr).socket_eq, if_neg (by simp [Ne.symm hsocket])]
        exact hrests r hr hidle

lemma Tallied.turn {w w' : SmtpWorld} {t : SmtpTurn} (h : Tallied w)
    (hturn : smtpTurn w t = some w') : Tallied w' := by
  cases t with
  | receives socket chunk =>
    simp only [smtpTurn, Option.ite_none_right_eq_some, Option.some.injEq] at hturn
    rw [← hturn.2]
    exact h.received socket chunk hturn.1
  | errs socket error =>
    simp only [smtpTurn, Option.some.injEq] at hturn
    rw [← hturn]
    exact h.failed socket error
  | ends socket =>
    simp only [smtpTurn, Option.some.injEq] at hturn
    rw [← hturn]
    exact h.failed socket (internalError closed)

/-- An event that leaves the readers and the tally as they are. -/
lemma Tallied.noted {w : SmtpWorld} (h : Tallied w) {event : SmtpEvent}
    (hevent : ∀ r reply, event ≠ .replied r (.ok reply))
    (htally : tally (event :: w.log) = tally w.log)
    (hidle : ∀ r, idle r (event :: w.log) = idle r w.log)
    (hconfined : Confined (event :: w.log) → Confined w.log) : Tallied (w.note event) := by
  refine ⟨h.known, h.parsed, fun r reply hmem => ?_, fun hnew t ht => ?_⟩
  · rcases List.mem_cons.mp hmem with hne | hmem
    · exact absurd hne.symm (hevent r reply)
    · exact h.replies r reply hmem
  · have hold : tally w.log = some t := htally.symm.trans ht
    obtain ⟨hsilent, hknown, hholds, hrests⟩ := h.follows (hconfined hnew) t hold
    refine ⟨hsilent, hknown, hholds, fun r hr hrest => hrests r hr ?_⟩
    rw [← hidle r]
    exact hrest

/-- An event after which nothing has been heard in the session, if there is one. -/
lemma Tallied.opened {w : SmtpWorld} (h : Tallied w) {event : SmtpEvent} {sockets : Nat}
    (hsockets : w.sockets ≤ sockets) (hevent : ∀ r reply, event ≠ .replied r (.ok reply))
    (htally : ∀ t, tally (event :: w.log) = some t → t = ⟨w.sockets, none, [], []⟩) :
    Tallied { w with sockets := sockets, log := event :: w.log } := by
  refine ⟨fun s hs => (h.known s hs).trans_le hsockets, h.parsed, fun r reply hmem => ?_,
    fun _ t ht => ?_⟩
  · rcases List.mem_cons.mp hmem with hne | hmem
    · exact absurd hne.symm (hevent r reply)
    · exact h.replies r reply hmem
  · obtain rfl := htally t ht
    have hquiet : w.flowing w.sockets = false := by
      by_contra hne
      exact absurd (h.known _ (Bool.not_eq_false _ ▸ hne)) (by omega)
    refine ⟨fun _ => ⟨rfl, rfl, hquiet⟩, ?_, ?_, ?_⟩
    · intro r hr; cases hr
    · intro r hr; cases hr
    · intro r hr; cases hr

/-- A new reader. -/
lemma Tallied.listened {w : SmtpWorld} (h : Tallied w) {socket : Nat}
    (hsocket : socket < w.sockets) :
    Tallied { w with
      log := .listened socket w.made :: w.log
      flowing := Function.update w.flowing socket true
      made := w.made + 1
      readers := Function.update w.readers w.made (.create socket) } := by
  refine ⟨fun s hs => ?_, fun r => ?_, fun r reply hmem => ?_, fun hconfined t ht => ?_⟩
  · by_cases hs' : s = socket
    · rw [hs']
      exact hsocket
    · exact h.known s (by simpa [Function.update_of_ne hs'] using hs)
  · show (Function.update w.readers w.made (.create socket) r).Parsed
    by_cases hr : r = w.made
    · rw [hr, Function.update_self]
      intro reply hreply
      cases hreply
    · rw [Function.update_of_ne hr]
      exact h.parsed r
  · rcases List.mem_cons.mp hmem with hne | hmem
    · cases hne
    · exact h.replies r reply hmem
  · obtain ⟨t', ht', rfl⟩ := Option.map_eq_some_iff.mp ht
    obtain ⟨hpair, hold⟩ := hconfined
    have hsession : session w.log = some (t'.socket, t'.reader) := by
      rw [session_eq_tally, ht', Option.map_some]
    have hsame := hpair _ hsession
    have hsocket' : t'.socket = socket := congrArg (·.1) hsame
    have hreader : t'.reader = none := congrArg (·.2) hsame
    obtain ⟨hreceived, hreplied, _⟩ := (h.follows hold t' ht').silent hreader
    refine ⟨fun hne => by (cases hne), fun r hr => ?_, fun r hr => ?_, fun r hr _ => ?_⟩
    · rw [← Option.some.inj hr]
      exact Nat.lt_succ_self _
    · rw [← Option.some.inj hr]
      show (Function.update w.readers w.made (.create socket) w.made).Holds t'.socket t'.replied
        t'.received
      rw [Function.update_self, hsocket', hreceived, hreplied]
      exact Reader.Holds.create socket
    · rw [← Option.some.inj hr]
      show (Function.update w.readers w.made (.create socket) w.made).Resting
      rw [Function.update_self]
      exact ⟨rfl, rfl⟩

/-- A reader is stopped. -/
lemma Tallied.stopped {w : SmtpWorld} (h : Tallied w) (id : Nat) :
    Tallied (w.setReader id (w.readers id).stop) := by
  have hreader : ∀ (P : Reader → Prop) r, P (w.readers r) → P (w.readers r).stop →
      P ((w.setReader id (w.readers id).stop).readers r) := by
    intro P r hsame hstopped
    show P (Function.update w.readers id (w.readers id).stop r)
    by_cases hr : r = id
    · rw [hr, Function.update_self]
      rw [hr] at hstopped
      exact hstopped
    · rw [Function.update_of_ne hr]
      exact hsame
  refine ⟨h.known, fun r => hreader _ r (h.parsed r) (h.parsed r), h.replies, ?_⟩
  intro hconfined t ht
  obtain ⟨hsilent, hknown, hholds, hrests⟩ := h.follows hconfined t ht
  refine ⟨hsilent, hknown, fun r hr => ?_, fun r hr hidle => ?_⟩
  · exact hreader (·.Holds _ _ _) r (hholds r hr) (hholds r hr).stop
  · exact hreader _ r (hrests r hr hidle) (hrests r hr hidle)

/-- A reader is read. -/
lemma Tallied.asked {w : SmtpWorld} (h : Tallied w) (id : Nat) :
    Tallied ((w.setReader id (w.readers id).read).note (.asked id)) := by
  refine ⟨h.known, fun r => ?_, fun r reply hmem => ?_, fun hconfined t ht => ?_⟩
  · show (Function.update w.readers id (w.readers id).read r).Parsed
    by_cases hr : r = id
    · rw [hr, Function.update_self]
      exact (h.parsed id).read
    · rw [Function.update_of_ne hr]
      exact h.parsed r
  · rcases List.mem_cons.mp hmem with hne | hmem
    · cases hne
    · exact h.replies r reply hmem
  · obtain ⟨⟨hidle, hown⟩, hold⟩ := hconfined
    obtain ⟨hsilent, hknown, hholds, hrests⟩ := h.follows hold t ht
    have hsession : session w.log = some (t.socket, t.reader) := by
      rw [session_eq_tally]
      exact congrArg _ ht
    have hid : t.reader = some id := hown _ hsession
    refine ⟨hsilent, hknown, fun r hr => ?_, fun r hr hrest => ?_⟩
    · obtain rfl : id = r := Option.some.inj (hid.symm.trans hr)
      show (Function.update w.readers id (w.readers id).read id).Holds _ _ _
      rw [Function.update_self]
      exact (hholds id hr).read (hrests id hr hidle)
    · obtain rfl : id = r := Option.some.inj (hid.symm.trans hr)
      change (id != id && idle id w.log) = true at hrest
      simp at hrest

/-- A reply is taken. -/
lemma Tallied.replied {w : SmtpWorld} (h : Tallied w) {id : Nat}
    {answer : Except NetworkError TextReply} (hsettled : (w.readers id).settled = some answer) :
    Tallied ((w.setReader id { w.readers id with settled := none }).note (.replied id answer)) := by
  refine ⟨h.known, fun r => ?_, fun r reply hmem => ?_, fun hconfined t ht => ?_⟩
  · show (Function.update w.readers id { w.readers id with settled := none } r).Parsed
    by_cases hr : r = id
    · rw [hr, Function.update_self]
      intro reply hreply
      cases hreply
    · rw [Function.update_of_ne hr]
      exact h.parsed r
  · rcases List.mem_cons.mp hmem with hnew | hmem
    · obtain ⟨rfl, hreply⟩ : r = id ∧ Except.ok reply = answer := by
        simpa using hnew
      exact h.parsed r reply (by rw [hsettled, hreply])
    · exact h.replies r reply hmem
  · obtain ⟨t', ht', rfl⟩ := Option.map_eq_some_iff.mp ht
    obtain ⟨hown, hold⟩ := hconfined
    obtain ⟨hsilent, hknown, hholds, hrests⟩ := h.follows hold t' ht'
    have hsession : session w.log = some (t'.socket, t'.reader) := by
      rw [session_eq_tally]
      exact congrArg _ ht'
    have hid : t'.reader = some id := hown _ hsession
    have htake := (hholds id hid).take hsettled
    refine ⟨fun hnone => ?_, hknown, fun r hr => ?_, fun r hr _ => ?_⟩
    · change t'.reader = none at hnone
      rw [hid] at hnone
      cases hnone
    · obtain rfl : id = r := Option.some.inj (hid.symm.trans hr)
      show (Function.update w.readers id { w.readers id with settled := none } id).Holds _ _ _
      rw [Function.update_self]
      exact htake.1
    · obtain rfl : id = r := Option.some.inj (hid.symm.trans hr)
      show (Function.update w.readers id { w.readers id with settled := none } id).Resting
      rw [Function.update_self]
      exact htake.2

lemma Tallied.answer {w w' : SmtpWorld} {q : SmtpAsk} {c : SmtpChoice} {a : SmtpAnswer q}
    (h : Tallied w) (hanswer : smtpAnswer w q c = some (a, w')) : Tallied w' := by
  have hcontacted : ∀ (address : Text) (socket : Option Nat) (sockets : Nat),
      w.sockets ≤ sockets →
      Tallied { w with sockets := sockets, log := .contacted address socket :: w.log } :=
    fun address socket sockets hsockets =>
      h.opened hsockets (fun _ _ hne => by cases hne) (fun t ht => by cases ht)
  cases q with
  | lookup hostname =>
    cases c with
    | looksUp answers =>
      cases hanswer
      exact h.noted (fun _ _ hne => by cases hne) rfl (fun _ => rfl) id
    | succeeds => cases hanswer
    | fails error => cases hanswer
  | openPinned address port =>
    cases c with
    | looksUp answers => cases hanswer
    | succeeds =>
      cases hanswer
      exact hcontacted address _ _ (Nat.le_succ _)
    | fails error =>
      cases hanswer
      exact hcontacted address none w.sockets le_rfl
  | upgrade socket =>
    cases c with
    | looksUp answers => cases hanswer
    | succeeds =>
      cases hanswer
      exact h.opened (Nat.le_succ _) (fun _ _ hne => by cases hne) fun t ht =>
        (Option.some.inj ht).symm
    | fails error => cases hanswer; exact h
  | createReader socket =>
    cases c with
    | looksUp answers => cases hanswer
    | succeeds =>
      simp only [smtpAnswer, Option.ite_none_right_eq_some, Option.some.injEq,
        Prod.mk.injEq] at hanswer
      obtain ⟨hsocket, _, rfl⟩ := hanswer
      exact h.listened hsocket
    | fails error => cases hanswer
  | residual reader =>
    cases c with
    | looksUp answers => cases hanswer
    | succeeds => cases hanswer; exact h
    | fails error => cases hanswer
  | stop reader =>
    cases c with
    | looksUp answers => cases hanswer
    | succeeds => cases hanswer; exact h.stopped reader
    | fails error => cases hanswer
  | destroy socket =>
    cases c with
    | looksUp answers => cases hanswer
    | succeeds => cases hanswer; exact h
    | fails error => cases hanswer
  | write socket line =>
    cases c with
    | looksUp answers => cases hanswer
    | succeeds =>
      cases hanswer
      exact h.noted (fun _ _ hne => by cases hne) rfl (fun _ => rfl) (·.2)
    | fails error => cases hanswer
  | written socket =>
    cases c with
    | looksUp answers => cases hanswer
    | succeeds => cases hanswer; exact h
    | fails error => cases hanswer; exact h
  | read reader =>
    cases c with
    | looksUp answers => cases hanswer
    | succeeds => cases hanswer; exact h.asked reader
    | fails error => cases hanswer
  | reply reader =>
    cases c with
    | looksUp answers => cases hanswer
    | succeeds =>
      simp only [smtpAnswer, takeReply, Option.map_eq_some_iff, Prod.mk.injEq] at hanswer
      obtain ⟨reply, hsettled, _, rfl⟩ := hanswer
      exact h.replied hsettled
    | fails error => cases hanswer

/-! ## The claim about every run -/

/-- The text of the replies read in a stretch of the log, in their order. -/
def repliedText : List SmtpEvent → Text
  | [] => []
  | .replied _ reply :: older => repliedText older ++ Reader.answerText reply
  | _ :: older => repliedText older

/-- The text a socket received in a stretch of the log. -/
def receivedText (socket : Nat) : List SmtpEvent → Text
  | [] => []
  | .received s chunk :: older =>
    if s = socket then receivedText socket older ++ chunk else receivedText socket older
  | _ :: older => receivedText socket older

/-- Everything but the opening lines is written to a socket that an upgrade returned before. -/
def SecuredLines (log : List SmtpEvent) : Prop :=
  ∀ newer socket line older, log = newer ++ .wrote socket line :: older →
    line.isOpening = false → ∃ plain, .upgraded plain socket ∈ older

/-- From an upgrade to the next address, the replies read are the start of the text that the
upgraded socket received since the upgrade, and each is what `readReply` reads from its part. -/
def SecuredReplies (log : List SmtpEvent) : Prop :=
  (∀ newer plain secured older, log = newer ++ .upgraded plain secured :: older →
    (∀ event ∈ newer, event.isContact = false) →
    repliedText newer <+: receivedText secured newer) ∧
  ∀ reader reply, .replied reader (.ok reply) ∈ log →
    readReply reply.text = some (reply.toSmtpReply, [])

/-- What is tallied since an upgrade. -/
lemma tally_since {plain secured : Nat} {older : List SmtpEvent} :
    ∀ {newer : List SmtpEvent}, Confined (newer ++ .upgraded plain secured :: older) →
      (∀ event ∈ newer, event.isContact = false) →
      ∃ reader, tally (newer ++ .upgraded plain secured :: older) =
        some ⟨secured, reader, receivedText secured newer, repliedText newer⟩
  | [], _, _ => ⟨none, rfl⟩
  | event :: newer, hconfined, hcontact => by
      have hcons : Confined ([event] ++ (newer ++ .upgraded plain secured :: older)) := hconfined
      have hrest : Confined (newer ++ .upgraded plain secured :: older) := confined_of_append hcons
      obtain ⟨reader, htally⟩ :=
        tally_since hrest fun e he => hcontact e (List.mem_cons_of_mem _ he)
      cases event with
      | contacted address socket => cases hcontact _ List.mem_cons_self
      | upgraded p s =>
        have hnone : session (newer ++ .upgraded plain secured :: older) = none := hconfined.1
        rw [session_eq_tally, htally] at hnone
        cases hnone
      | received s chunk =>
        refine ⟨reader, ?_⟩
        simp only [List.cons_append, tally, htally, Option.map_some, receivedText, repliedText]
        split <;> rfl
      | listened s r => exact ⟨some r, by simp [tally, htally, receivedText, repliedText]⟩
      | replied r reply => exact ⟨reader, by simp [tally, htally, receivedText, repliedText]⟩
      | lookedUp hostname answers => exact ⟨reader, htally⟩
      | wrote s line => exact ⟨reader, htally⟩
      | asked r => exact ⟨reader, htally⟩

lemma securedLines_of_confined {log : List SmtpEvent} (h : Confined log) : SecuredLines log := by
  intro newer socket line older hlog hline
  rw [hlog] at h
  obtain ⟨hsession, _⟩ := confined_of_append h
  obtain ⟨reader, hreader⟩ := hsession hline
  exact upgraded_of_session hreader

lemma securedReplies_of_tallied {w : SmtpWorld} (hconfined : Confined w.log) (h : Tallied w) :
    SecuredReplies w.log := by
  refine ⟨fun newer plain secured older hlog hcontact => ?_, h.replies⟩
  rw [hlog] at hconfined
  obtain ⟨reader, htally⟩ := tally_since hconfined hcontact
  rw [← hlog] at hconfined htally
  have hfollows := h.follows hconfined _ htally
  cases reader with
  | none =>
    have hreplied : repliedText newer = [] := (hfollows.silent rfl).2.1
    rw [hreplied]
    exact List.nil_prefix
  | some r => exact (List.prefix_append _ _).trans (hfollows.holds r rfl).starts

/-- **The mail is sent in the secured session.**  In every run of `deliverEmail`, whatever the
servers and the network do, everything after the opening is written to a socket an upgrade
returned, and no reply read after an upgrade has text in it from before. -/
theorem mail_is_sent_secured {toUpperCase toLowerCase : Text → Text} {settings : EmailSettings}
    {envelope : Envelope} {policy : EgressPolicy} {sentAt : Int}
    {es : List (Happening SmtpTurn SmtpChoice)}
    {d : Dialogue SmtpAsk SmtpAnswer AttemptOutcome} {w : SmtpWorld}
    (hrun : (smtpOutside.runs (deliverEmail toUpperCase toLowerCase settings envelope policy sentAt)
      .empty).Path TransitionSystem.free
      (deliverEmail toUpperCase toLowerCase settings envelope policy sentAt, .empty) es (d, w)) :
    SecuredLines w.log ∧ SecuredReplies w.log := by
  have hown : Confined (ownLog w) :=
    (smtpViews.sound (deliverEmail_confined settings envelope policy sentAt) hrun).1
  have hconfined : Confined w.log := (confined_own w.log).mp hown
  have htallied : Tallied w :=
    hrun.invariant (I := fun s => Tallied s.2) tallied_empty fun s e t hs _ hstep =>
      smtpOutside.outside_step (fun h hturn => h.turn hturn) (fun h hanswer => h.answer hanswer)
        hs hstep
  exact ⟨securedLines_of_confined hconfined, securedReplies_of_tallied hconfined htallied⟩

/-- A server that offers `STARTTLS`, up to the sign-in. -/
def securedRun : List (Happening SmtpTurn SmtpChoice) :=
  [.answered .succeeds, .answered .succeeds] ++ exampleRead 0 "220 a\r\n" ++
    exampleStep 0 "250 STARTTLS\r\n" ++ exampleStep 0 "220 b\r\n" ++
    List.replicate 4 (.answered .succeeds) ++ exampleStep 1 "250 AUTH PLAIN\r\n" ++
    [.answered .succeeds]

/-- The event writes a private line. -/
def SmtpEvent.isPrivateLine : SmtpEvent → Bool
  | .wrote _ line => !line.isOpening
  | _ => false

/-- A run that gets to the sign-in. -/
theorem mail_is_sent_secured_signIn : ∃ w : SmtpWorld, w.log.any SmtpEvent.isPrivateLine = true ∧
    SecuredLines w.log ∧ SecuredReplies w.log := by
  have hexec : ((smtpOutside.runs (exampleCall 587) .empty).exec (exampleCall 587, .empty)
      securedRun).any (fun t => t.2.log.any SmtpEvent.isPrivateLine) = true := by decide +kernel
  obtain ⟨⟨d, w⟩, hrun, hline⟩ := (Option.any_eq_true _ _).mp hexec
  exact ⟨w, hline, mail_is_sent_secured (TransitionSystem.path_of_exec hrun)⟩

end OpenMcc.Smtp
