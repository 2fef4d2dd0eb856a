import OpenMcc.Properties.SmtpConversation

/-!
# What the senders connect to

`sendPinned` and `deliverEmail` open connections to addresses that `verifyAddress` allowed for the
host during the call, whatever the lookup answers, and to none where it refused one.  A request
over plain http is made where the policy allows http and names every pinned address.

The verdict of `resolvePinned` carries the argument (`pinVerdict_pinned`): where it pins anything,
it pins exactly the addresses of the answers, and each was allowed.
-/

namespace OpenMcc.Pinned

open Egress

variable {toLowerCase : Text → Text} {policy : EgressPolicy} {host : Text}

variable (toLowerCase policy host) in
/-- `verifyAddress` allows the address for the host. -/
def Allowed (address : Text) : Prop :=
  (verifyAddress address policy (hostIsAllowed toLowerCase host policy)).isAllowed = true

variable (toLowerCase policy host) in
/-- The policy names the address, or the host. -/
def Named (address : Text) : Prop :=
  hostIsAllowed toLowerCase host policy = true ∨
    ∃ bytes, parseAddress address = some bytes ∧
      policy.allowedAddresses.any (fun allowance => within (normalised bytes) allowance) = true

/-! ## The verdict on the answers of a lookup -/

/-- An address `verifyAddress` says is named is named. -/
lemma named_of_verifyAddress {address : Text}
    (h : verifyAddress address policy (hostIsAllowed toLowerCase host policy) = .allowed true) :
    Named toLowerCase policy host address := by
  unfold verifyAddress at h
  cases hparsed : parseAddress address with
  | none => simp [hparsed] at h
  | some bytes =>
    simp only [hparsed, verifyBytes] at h
    by_cases hhost : hostIsAllowed toLowerCase host policy = true
    · exact Or.inl hhost
    · refine Or.inr ⟨bytes, hparsed, ?_⟩
      by_contra hnone
      have hname : (hostIsAllowed toLowerCase host policy || policy.allowedAddresses.any
          fun allowance => within (normalised bytes) allowance) = false := by
        rw [Bool.eq_false_iff.mpr hhost, Bool.eq_false_iff.mpr hnone]
        rfl
      rw [hname] at h
      split at h
      · cases h
      · split at h
        · cases h
        · simp at h

/-- What the loop over the answers pins. -/
lemma pinAnswers_pinned {hostAllowed : Bool} {addresses : List PinnedAddress} :
    ∀ {answers : List LookupAnswer} {pinned : List PinnedAddress},
      pinAnswers policy hostAllowed pinned answers = .pinned addresses →
      addresses.map (·.address) = pinned.map (·.address) ++ answers.map (·.address) ∧
        (∀ answer ∈ answers,
          (verifyAddress answer.address policy hostAllowed).isAllowed = true) ∧
        ∀ p ∈ addresses, p ∈ pinned ∨
          verifyAddress p.address policy hostAllowed = .allowed p.named
  | [], pinned, h => by
      rw [pinAnswers, PinVerdict.pinned.injEq] at h
      rw [← h]
      refine ⟨?_, ?_, fun p hp => Or.inl hp⟩
      · rw [List.map_nil, List.append_nil]
      · intro answer hmem
        cases hmem
  | answer :: rest, pinned, h => by
      rw [pinAnswers] at h
      split at h
      · cases h
      · split at h
        · cases h
        · next named hverdict =>
          obtain ⟨hmap, hallowed, hnamed⟩ := pinAnswers_pinned h
          refine ⟨?_, fun other hother => ?_, fun p hp => ?_⟩
          · rw [hmap]
            simp
          · rcases List.mem_cons.mp hother with rfl | hother
            · rw [hverdict]
              rfl
            · exact hallowed other hother
          · rcases hnamed p hp with hmem | hverified
            · rcases List.mem_append.mp hmem with hmem | hmem
              · exact Or.inl hmem
              · rw [List.mem_singleton.mp hmem]
                exact Or.inr hverdict
            · exact Or.inr hverified

/-- What a verdict on the answers pins: their addresses, each of them allowed. -/
lemma pinVerdict_pinned {answers : Except NetworkError (List LookupAnswer)}
    {addresses : List PinnedAddress}
    (h : pinVerdict toLowerCase host policy answers = .pinned addresses) :
    ∃ found, answers = .ok found ∧ addresses.map (·.address) = found.map (·.address) ∧
      (∀ answer ∈ found, Allowed toLowerCase policy host answer.address) ∧
      ∀ p ∈ addresses, p.named = true → Named toLowerCase policy host p.address := by
  cases answers with
  | error error => cases h
  | ok found =>
    rw [pinVerdict] at h
    split at h
    · cases h
    · obtain ⟨hmap, hallowed, hnamed⟩ := pinAnswers_pinned h
      refine ⟨found, rfl, hmap, hallowed, fun p hp hname => ?_⟩
      rcases hnamed p hp with hmem | hverified
      · cases hmem
      · rw [hname] at hverified
        exact named_of_verifyAddress hverified

/-- What the lookup function of a request gives is pinned. -/
lemma pinnedLookup_pinned {addresses : List PinnedAddress} {options : LookupOptions}
    {answers : List LookupAnswer} (h : pinnedLookup addresses options = .ok answers) :
    ∀ answer ∈ answers, answer.address ∈ addresses.map (·.address) := by
  have hsub : ∀ p ∈ chosen addresses options, p ∈ addresses := by
    unfold chosen
    split
    · exact fun p hp => hp
    · exact fun p hp => List.mem_of_mem_filter hp
  unfold pinnedLookup at h
  split at h
  · cases h
  · next first hfirst =>
    split at h
    · rw [Except.ok.injEq] at h
      rw [← h]
      intro answer hanswer
      obtain ⟨p, hp, rfl⟩ := List.mem_map.mp hanswer
      exact List.mem_map_of_mem (hsub p hp)
    · rw [Except.ok.injEq] at h
      rw [← h]
      intro answer hanswer
      rw [List.mem_singleton.mp hanswer]
      exact List.mem_map_of_mem (hsub first (List.mem_of_mem_head? hfirst))

/-! ## A request over http or https -/

/-- What an ask adds to the log of a call of `sendPinned`. -/
def pinEffect (parseUrl : Text → Option Url) (v : List PinEvent) :
    (q : PinAsk) → PinAnswer q → List PinEvent → Prop
  | .aborted, _, v' => v' = v
  | .lookup hostname, answers, v' => v' = lookedUpEvents hostname answers ++ v
  | .request request addresses, _, v' =>
    ∃ dials, v' = requestEvents (requestHost parseUrl request) request addresses dials ++ v

lemma pinViews (parseUrl : Text → Option Url) :
    (pinOutside parseUrl).Views (pinEffect parseUrl) id where
  turn := fun {_ t _} _ => t.elim
  answer := by
    intro w q r a w' h
    cases q with
    | aborted => cases r with
      | aborted passed => cases h; rfl
      | _ => cases h
    | lookup hostname => cases r with
      | looksUp answers => cases h; rfl
      | _ => cases h
    | request request addresses => cases r with
      | responds dials response => cases h; exact ⟨dials, rfl⟩
      | _ => cases h

section Request

variable {parseUrl : Text → Option Url} {request : PinnedRequest}

variable (toLowerCase parseUrl request) in
/-- The connections of a call of `sendPinned`, by its log. -/
structure PinsKept (log : List PinEvent) : Prop where
  /-- Each goes to an allowed address: the host itself, or an answer of the call's lookup. -/
  opened : ∀ a, .opened a ∈ log →
    Allowed toLowerCase request.policy (requestHost parseUrl request) a ∧
      (a = requestHost parseUrl request ∨ ∃ answers,
        .lookedUp (requestHost parseUrl request) answers ∈ log ∧ a ∈ answers.map (·.address))
  /-- None is opened where an answer is refused. -/
  refused : ∀ hostname answers, .lookedUp hostname answers ∈ log →
    (∃ answer ∈ answers, ¬ Allowed toLowerCase request.policy (requestHost parseUrl request)
      answer.address) → ∀ a, .opened a ∉ log
  /-- Over plain http the policy allows it, and names every pinned address. -/
  plain : ∀ r addresses, .requested r addresses ∈ log → r = request ∧
    (requestProtocol parseUrl request = "http:".toList → request.policy.allowHttp = true ∧
      ∀ p ∈ addresses, Named toLowerCase request.policy (requestHost parseUrl request) p.address)

variable (toLowerCase parseUrl request) in
/-- The call is about to make its request. -/
structure Pins (addresses : List PinnedAddress) (v : List PinEvent) : Prop where
  unopened : ∀ a, .opened a ∉ v
  unrequested : ∀ r found, .requested r found ∉ v
  answers : ∀ hostname found, .lookedUp hostname found ∈ v → ∀ answer ∈ found,
    Allowed toLowerCase request.policy (requestHost parseUrl request) answer.address
  pinned : ∀ a ∈ addresses.map (·.address),
    Allowed toLowerCase request.policy (requestHost parseUrl request) a ∧
      (a = requestHost parseUrl request ∨ ∃ found,
        .lookedUp (requestHost parseUrl request) found ∈ v ∧ a ∈ found.map (·.address))
  literal : isIP (requestHost parseUrl request) ≠ 0 →
    Allowed toLowerCase request.policy (requestHost parseUrl request)
      (requestHost parseUrl request)
  named : ∀ p ∈ addresses, p.named = true →
    Named toLowerCase request.policy (requestHost parseUrl request) p.address

lemma pinsKept_of_unopened {v : List PinEvent} (hopened : ∀ a, .opened a ∉ v)
    (hrequested : ∀ r found, .requested r found ∉ v) :
    PinsKept toLowerCase parseUrl request v where
  opened := fun a ha => absurd ha (hopened a)
  refused := fun _ _ _ _ => hopened
  plain := fun r found hr => absurd hr (hrequested r found)

/-- Where a connection of the HTTP client goes. -/
lemma dialled_pinned {addresses : List PinnedAddress} {dial : LookupOptions × Nat} {a : Text}
    (h : dialled host addresses dial = some a) :
    (isIP host ≠ 0 ∧ a = host) ∨ a ∈ addresses.map (·.address) := by
  unfold dialled at h
  split at h
  · next hliteral => exact Or.inl ⟨hliteral, (Option.some.inj h).symm⟩
  · split at h
    · cases h
    · next answers hanswers =>
      obtain ⟨answer, hanswer, rfl⟩ := Option.map_eq_some_iff.mp h
      exact Or.inr (pinnedLookup_pinned hanswers answer (List.mem_of_getElem? hanswer))

/-- The request keeps to the pins. -/
lemma pinsKept_request {addresses : List PinnedAddress} {v : List PinEvent}
    (hpins : Pins toLowerCase parseUrl request addresses v)
    (hplain : requestProtocol parseUrl request = "http:".toList →
      request.policy.allowHttp = true ∧ ∀ p ∈ addresses, p.named = true)
    (dials : List (LookupOptions × Nat)) :
    PinsKept toLowerCase parseUrl request
      (requestEvents (requestHost parseUrl request) request addresses dials ++ v) := by
  have hfound : ∀ {event}, event ∈ v →
      event ∈ requestEvents (requestHost parseUrl request) request addresses dials ++ v :=
    fun h => List.mem_append_right _ h
  have hlookups : ∀ hostname found, .lookedUp hostname found ∈
      requestEvents (requestHost parseUrl request) request addresses dials ++ v →
      .lookedUp hostname found ∈ v := by
    intro hostname found hmem
    simpa [requestEvents] using hmem
  refine ⟨fun a ha => ?_, fun hostname found hmem hrefused => ?_, fun r found hr => ?_⟩
  · have hdial : ∃ dial ∈ dials,
        dialled (requestHost parseUrl request) addresses dial = some a := by
      simp only [requestEvents, List.mem_append, List.mem_map, List.mem_filterMap,
        List.mem_singleton] at ha
      rcases ha with (⟨b, ⟨dial, hdial, hb⟩, hba⟩ | hne) | hv
      · cases hba
        exact ⟨dial, hdial, hb⟩
      · cases hne
      · exact absurd hv (hpins.unopened a)
    obtain ⟨dial, _, hdialled⟩ := hdial
    rcases dialled_pinned hdialled with ⟨hliteral, rfl⟩ | hmem
    · exact ⟨hpins.literal hliteral, Or.inl rfl⟩
    · obtain ⟨hallowed, hwhere⟩ := hpins.pinned a hmem
      refine ⟨hallowed, hwhere.imp id ?_⟩
      rintro ⟨answers, hanswers, ha⟩
      exact ⟨answers, hfound hanswers, ha⟩
  · obtain ⟨answer, hanswer, hne⟩ := hrefused
    exact absurd (hpins.answers hostname found (hlookups hostname found hmem) answer hanswer) hne
  · have hsame : r = request ∧ found = addresses := by
      simp only [requestEvents, List.mem_append, List.mem_map, List.mem_singleton] at hr
      rcases hr with (⟨b, _, hne⟩ | hsame) | hv
      · cases hne
      · simpa using hsame
      · exact absurd hv (hpins.unrequested r found)
    refine ⟨hsame.1, fun hprotocol => ?_⟩
    obtain ⟨hallow, hnamed⟩ := hplain hprotocol
    refine ⟨hallow, fun p hp => ?_⟩
    rw [hsame.2] at hp
    exact hpins.named p hp (hnamed p hp)

/-- A destination `verifyDestinationUrl` allows is read as a web address, and over plain http the
policy allows it. -/
lemma verifyDestinationUrl_allowed {raw hostname : Text}
    (h : verifyDestinationUrl toLowerCase parseUrl raw policy = .allowed hostname) :
    ∃ url, parseUrl raw = some url ∧ url.hostname = hostname ∧
      (url.protocol = "http:".toList → policy.allowHttp = true) := by
  have hprotocol : ∀ (url : Url) (named : Bool),
      verifyProtocol url policy named = .allowed hostname →
      url.hostname = hostname ∧ (url.protocol = "http:".toList → policy.allowHttp = true) := by
    intro url named hverdict
    unfold verifyProtocol at hverdict
    split at hverdict
    · split at hverdict
      · cases hverdict
      · next hallow =>
        refine ⟨UrlVerdict.allowed.inj hverdict, fun _ => ?_⟩
        by_contra hne
        exact hallow (by simp [hne])
    · next hne => exact ⟨UrlVerdict.allowed.inj hverdict, fun heq => absurd heq hne⟩
  unfold verifyDestinationUrl at h
  cases hparsed : parseUrl raw with
  | none => simp [hparsed] at h
  | some url =>
    refine ⟨url, rfl, ?_⟩
    simp only [hparsed] at h
    split at h
    · cases h
    · split at h
      · cases h
      · split at h
        · cases h
        · split at h
          · cases h
          · split at h
            · split at h
              · cases h
              · exact hprotocol url _ h
            · split at h
              · cases h
              · exact hprotocol url _ h

/-- The last part of `sendPinned` keeps to the pins. -/
lemma wp_sendTo {addresses : List PinnedAddress} {v : List PinEvent}
    (hpins : Pins toLowerCase parseUrl request addresses v)
    (hallow : requestProtocol parseUrl request = "http:".toList →
      request.policy.allowHttp = true) :
    Routine.wp (pinEffect parseUrl) (PinsKept toLowerCase parseUrl request) (fun _ _ _ => True)
      (fun _ _ _ => True) (sendTo request (requestProtocol parseUrl request) addresses) () v := by
  have hsafe : PinsKept toLowerCase parseUrl request v :=
    pinsKept_of_unopened hpins.unopened hpins.unrequested
  unfold sendTo
  split
  · exact ⟨hsafe, trivial⟩
  · next hplain =>
    have hkept := pinsKept_request hpins fun hprotocol => ⟨hallow hprotocol, fun p hp => by
      by_contra hne
      refine hplain ⟨hprotocol, fun hall => ?_⟩
      exact hne (List.all_eq_true.mp hall p hp)⟩
    rw [Routine.wp_bind]
    refine ⟨hsafe, fun answer v' hv' => ?_⟩
    obtain ⟨dials, rfl⟩ : ∃ dials, v' =
      requestEvents (requestHost parseUrl request) request addresses dials ++ v := hv'
    refine ⟨hkept dials, ?_⟩
    cases answer with
    | error error => exact ⟨hkept dials, trivial⟩
    | ok response => exact ⟨hkept dials, trivial⟩

/-- A literal host is pinned as it stands. -/
lemma pins_of_literal {named : Bool} {family : Nat}
    (hverdict : verifyAddress (requestHost parseUrl request) request.policy
      (hostIsAllowed toLowerCase (requestHost parseUrl request) request.policy) = .allowed named) :
    Pins toLowerCase parseUrl request [⟨requestHost parseUrl request, family, named⟩] [] := by
  have hallowed : Allowed toLowerCase request.policy (requestHost parseUrl request)
      (requestHost parseUrl request) := by
    unfold Allowed
    rw [hverdict]
    rfl
  refine ⟨(fun _ h => by cases h), (fun _ _ h => by cases h), (fun _ _ h => by cases h), ?_,
    (fun _ => hallowed), ?_⟩
  · intro a ha
    rw [List.mem_singleton.mp ha]
    exact ⟨hallowed, Or.inl rfl⟩
  · intro p hp hname
    rw [List.mem_singleton.mp hp] at hname ⊢
    change named = true at hname
    rw [hname] at hverdict
    exact named_of_verifyAddress hverdict

/-- The answers of a lookup are pinned where all of them are allowed. -/
lemma pins_of_lookup {answers : Except NetworkError (List LookupAnswer)}
    {addresses : List PinnedAddress} (hname : ¬ isIP (requestHost parseUrl request) ≠ 0)
    (hverdict : pinVerdict toLowerCase (requestHost parseUrl request) request.policy answers =
      .pinned addresses) :
    Pins toLowerCase parseUrl request addresses
      (lookedUpEvents (requestHost parseUrl request) (some answers)) := by
  obtain ⟨found, rfl, hmap, hallowed, hnamed⟩ := pinVerdict_pinned hverdict
  refine ⟨fun a h => ?_, fun r other h => ?_, fun hostname other h => ?_, fun a ha => ?_,
    fun hliteral => absurd hliteral hname, hnamed⟩
  · simp [lookedUpEvents] at h
  · simp [lookedUpEvents] at h
  · simp only [lookedUpEvents, List.mem_singleton, PinEvent.lookedUp.injEq] at h
    rw [h.2]
    exact hallowed
  · rw [hmap] at ha
    obtain ⟨answer, hanswer, rfl⟩ := List.mem_map.mp ha
    exact ⟨hallowed answer hanswer,
      Or.inr ⟨found, List.mem_singleton_self _, List.mem_map_of_mem hanswer⟩⟩

/-- `sendPinned` keeps to the pins. -/
lemma wp_sendPinned : Routine.wp (pinEffect parseUrl) (PinsKept toLowerCase parseUrl request)
    (fun _ _ _ => True) (fun _ _ _ => True) (sendPinned toLowerCase parseUrl request) () [] := by
  have hnothing : PinsKept toLowerCase parseUrl request [] :=
    pinsKept_of_unopened (fun _ h => by cases h) fun _ _ h => by cases h
  unfold sendPinned
  split
  · exact ⟨hnothing, trivial⟩
  · next hostname hverified =>
    obtain ⟨url, hparsed, rfl, hhttp⟩ := verifyDestinationUrl_allowed hverified
    have hhost : bareHostname url.hostname = requestHost parseUrl request := by
      simp [requestHost, hparsed]
    have hallow : requestProtocol parseUrl request = "http:".toList →
        request.policy.allowHttp = true := by
      simpa [requestProtocol, hparsed] using hhttp
    rw [hhost, Routine.wp_bind]
    refine ⟨hnothing, fun aborted v' hv' => ?_⟩
    obtain rfl : v' = [] := hv'
    refine ⟨hnothing, ?_⟩
    cases aborted with
    | true => exact ⟨hnothing, trivial⟩
    | false =>
      show Routine.wp (pinEffect parseUrl) (PinsKept toLowerCase parseUrl request) _ _
        (resolvePinned toLowerCase (requestHost parseUrl request) request.policy
          lookupBeforeDeadline >>= _) () []
      rw [Routine.wp_bind]
      unfold resolvePinned
      dsimp only
      split
      · split
        · exact ⟨hnothing, hnothing, trivial⟩
        · next named hverdict => exact ⟨hnothing, wp_sendTo (pins_of_literal hverdict) hallow⟩
      · next hname =>
        rw [Routine.wp_bind]
        unfold lookupBeforeDeadline
        rw [Routine.wp_bind]
        refine ⟨hnothing, fun answers v' hv' => ?_⟩
        obtain rfl : v' = lookedUpEvents (requestHost parseUrl request) answers ++ [] := hv'
        rw [List.append_nil]
        have hlooked : PinsKept toLowerCase parseUrl request
            (lookedUpEvents (requestHost parseUrl request) answers) := by
          rcases answers with _ | _ | found
          · exact hnothing
          · exact hnothing
          · exact pinsKept_of_unopened (fun _ h => by simp [lookedUpEvents] at h)
              fun _ _ h => by simp [lookedUpEvents] at h
        refine ⟨hlooked, ?_⟩
        cases answers with
        | none => exact ⟨hlooked, trivial⟩
        | some answers =>
          refine ⟨hlooked, hlooked, ?_⟩
          cases hverdict : pinVerdict toLowerCase (requestHost parseUrl request) request.policy
              answers with
          | refused reason => exact ⟨hlooked, trivial⟩
          | pinned addresses => exact wp_sendTo (pins_of_lookup hname hverdict) hallow

end Request

/-! ## A message by mail -/

namespace Mail

open Smtp

/-- The ask neither looks a name up nor opens a connection. -/
def staysConnected : SmtpAsk → Prop
  | .lookup _ | .openPinned _ _ => False
  | _ => True

lemma asksOnly_awaited {α : Type} {promise : Talk (Except NetworkError α)}
    (h : Routine.AsksOnly staysConnected promise) :
    Routine.AsksOnly staysConnected (awaited promise) :=
  Routine.asksOnly_bind h fun answer => by
    cases answer with
    | ok a => exact Routine.asksOnly_pure a
    | error error => exact Routine.asksOnly_throw _

lemma asksOnly_say (line : Smtp.Line) : Routine.AsksOnly staysConnected (say line) := by
  refine Routine.asksOnly_bind Routine.asksOnly_get fun locals => ?_
  refine Routine.asksOnly_bind (Routine.asksOnly_ask trivial) fun _ => ?_
  exact asksOnly_awaited (Routine.asksOnly_ask trivial)

lemma asksOnly_read : Routine.AsksOnly staysConnected read := by
  refine Routine.asksOnly_bind Routine.asksOnly_get fun locals => ?_
  refine Routine.asksOnly_bind (Routine.asksOnly_ask trivial) fun _ => ?_
  exact asksOnly_awaited (Routine.asksOnly_ask trivial)

lemma asksOnly_step (line : Smtp.Line) : Routine.AsksOnly staysConnected (step line) :=
  Routine.asksOnly_bind (asksOnly_say line) fun _ => asksOnly_read

lemma asksOnly_goOnIf (condition : Bool) (otherwise : Conversation) :
    Routine.AsksOnly staysConnected (goOnIf condition otherwise) := by
  unfold goOnIf
  split
  · exact Routine.asksOnly_pure _
  · exact Routine.asksOnly_throw _

/-- A step whose reply decides whether to go on. -/
lemma asksOnly_ask_then {β : Type} {line : Smtp.Line} {condition : SmtpReply → Bool}
    {otherwise : SmtpReply → Conversation} {rest : SmtpReply → Talk β}
    (hrest : ∀ reply, Routine.AsksOnly staysConnected (rest reply)) :
    Routine.AsksOnly staysConnected (step line >>= fun reply =>
      goOnIf (condition reply) (otherwise reply) >>= fun _ => rest reply) :=
  Routine.asksOnly_bind (asksOnly_step line) fun reply =>
    Routine.asksOnly_bind (asksOnly_goOnIf _ _) fun _ => hrest reply

lemma asksOnly_hello : Routine.AsksOnly staysConnected hello :=
  asksOnly_ask_then fun _ => Routine.asksOnly_pure _

lemma asksOnly_nameRecipients : ∀ (named : List Text) (takers : Nat) (refusals : List Nat),
    Routine.AsksOnly staysConnected (nameRecipients takers refusals named)
  | [], _, _ => Routine.asksOnly_pure _
  | recipient :: rest, takers, refusals => by
      unfold nameRecipients
      refine Routine.asksOnly_bind (asksOnly_step _) fun answer => ?_
      split
      · exact asksOnly_nameRecipients rest _ _
      · exact asksOnly_nameRecipients rest _ _

variable {toUpperCase : Text → Text}

lemma asksOnly_startTls (capabilities : SmtpReply) :
    Routine.AsksOnly staysConnected (startTls toUpperCase capabilities) := by
  refine Routine.asksOnly_bind (asksOnly_goOnIf _ _) fun _ => ?_
  refine asksOnly_ask_then fun ready => ?_
  refine Routine.asksOnly_bind Routine.asksOnly_get fun locals => ?_
  refine Routine.asksOnly_bind (Routine.asksOnly_ask trivial) fun residual => ?_
  refine Routine.asksOnly_bind (asksOnly_goOnIf _ _) fun _ => ?_
  refine Routine.asksOnly_bind (Routine.asksOnly_ask trivial) fun _ => ?_
  refine Routine.asksOnly_bind (asksOnly_awaited (Routine.asksOnly_ask trivial)) fun socket => ?_
  refine Routine.asksOnly_bind (Routine.asksOnly_modify _) fun _ => ?_
  refine Routine.asksOnly_bind (Routine.asksOnly_ask trivial) fun reader => ?_
  exact Routine.asksOnly_bind (Routine.asksOnly_modify _) fun _ => asksOnly_hello

lemma asksOnly_signIn (credentials : SmtpCredentials) (capabilities : SmtpReply) :
    Routine.AsksOnly staysConnected (signIn toUpperCase credentials capabilities) := by
  have hlast : ∀ line, Routine.AsksOnly staysConnected (do
      let signedIn ← step line
      goOnIf signedIn.isPositive (byReply signedIn.code noAuth)) :=
    fun line => Routine.asksOnly_bind (asksOnly_step line) fun _ => asksOnly_goOnIf _ _
  unfold signIn
  dsimp only
  split
  · exact hlast _
  · split
    · exact asksOnly_ask_then fun _ => asksOnly_ask_then fun _ => hlast _
    · exact Routine.asksOnly_throw _

lemma asksOnly_transfer (message : SmtpMessage) :
    Routine.AsksOnly staysConnected (transfer message) := by
  have hsend : ∀ refusals, Routine.AsksOnly staysConnected (sendMessage message refusals) := by
    intro refusals
    refine asksOnly_ask_then fun opened => ?_
    refine Routine.asksOnly_bind (Routine.asksOnly_modify _) fun _ => ?_
    refine asksOnly_ask_then fun accepted => ?_
    refine Routine.asksOnly_bind ?_ fun _ => Routine.asksOnly_pure _
    exact Routine.asksOnly_tryCatch (asksOnly_say _) fun _ => Routine.asksOnly_pure _
  unfold transfer
  refine asksOnly_ask_then fun sender => ?_
  refine Routine.asksOnly_bind (asksOnly_nameRecipients _ _ _) fun named => ?_
  exact Routine.asksOnly_bind (asksOnly_goOnIf _ _) fun _ => hsend _

lemma asksOnly_exchange (credentials : SmtpCredentials) (message : SmtpMessage) :
    Routine.AsksOnly staysConnected (exchange toUpperCase credentials message) := by
  refine Routine.asksOnly_bind asksOnly_read fun greeting => ?_
  refine Routine.asksOnly_bind (asksOnly_goOnIf _ _) fun _ => ?_
  refine Routine.asksOnly_bind asksOnly_hello fun first => ?_
  refine Routine.asksOnly_bind ?_ fun capabilities => ?_
  · unfold secureSession
    split
    · exact asksOnly_startTls _
    · exact Routine.asksOnly_pure _
  · exact Routine.asksOnly_bind (asksOnly_signIn _ _) fun _ => asksOnly_transfer _

/-- A conversation stays with its connection. -/
lemma asksOnly_converse (connected : Nat) (credentials : SmtpCredentials) (message : SmtpMessage) :
    (converse toUpperCase connected credentials message).AsksOnly staysConnected := by
  unfold converse
  refine Dialogue.AsksOnly.bind ⟨trivial, fun _ => trivial⟩ fun reader => ?_
  refine Dialogue.AsksOnly.bind (asksOnly_exchange credentials message _) fun ending => ?_
  refine Dialogue.AsksOnly.bind ⟨trivial, fun _ => trivial⟩ fun _ => ?_
  exact Dialogue.AsksOnly.bind ⟨trivial, fun _ => trivial⟩ fun _ => trivial

section Pins

variable (toLowerCase policy host) in
/-- The connections of a call of `deliverEmail`, by its log. -/
structure MailPinsKept (log : List SmtpEvent) : Prop where
  /-- Each goes to an allowed address: the host itself, or an answer of the call's lookup. -/
  contacted : ∀ a socket, .contacted a socket ∈ log → Allowed toLowerCase policy host a ∧
    (a = host ∨ ∃ found, .lookedUp host (.ok found) ∈ log ∧ a ∈ found.map (·.address))
  /-- None is opened where an answer is refused. -/
  refused : ∀ hostname found, .lookedUp hostname (.ok found) ∈ log →
    (∃ answer ∈ found, ¬ Allowed toLowerCase policy host answer.address) →
    ∀ a socket, .contacted a socket ∉ log

variable (toLowerCase policy host) in
/-- The address may be contacted. -/
def Fits (log : List SmtpEvent) (a : Text) : Prop :=
  Allowed toLowerCase policy host a ∧
    (a = host ∨ ∃ found, .lookedUp host (.ok found) ∈ log ∧ a ∈ found.map (·.address))

variable (toLowerCase policy host) in
/-- The call is going through its pinned addresses. -/
structure MailPins (addresses : List PinnedAddress) (log : List SmtpEvent) : Prop where
  contacted : ∀ a socket, .contacted a socket ∈ log → Fits toLowerCase policy host log a
  answers : ∀ hostname found, .lookedUp hostname (.ok found) ∈ log → ∀ answer ∈ found,
    Allowed toLowerCase policy host answer.address
  pinned : ∀ a ∈ addresses.map (·.address), Fits toLowerCase policy host log a

variable {addresses : List PinnedAddress} {log : List SmtpEvent}

lemma Fits.cons {a : Text} (h : Fits toLowerCase policy host log a) (event : SmtpEvent) :
    Fits toLowerCase policy host (event :: log) a := by
  refine ⟨h.1, h.2.imp id ?_⟩
  rintro ⟨found, hfound, ha⟩
  exact ⟨found, List.mem_cons_of_mem _ hfound, ha⟩

lemma MailPins.kept (h : MailPins toLowerCase policy host addresses log) :
    MailPinsKept toLowerCase policy host log where
  contacted := h.contacted
  refused := by
    rintro hostname found hmem ⟨answer, hanswer, hne⟩
    exact absurd (h.answers hostname found hmem answer hanswer) hne

/-- What a conversation adds to the log keeps the pins. -/
lemma MailPins.cons (h : MailPins toLowerCase policy host addresses log) {event : SmtpEvent}
    (hcontact : ∀ a socket, event = .contacted a socket → Fits toLowerCase policy host log a)
    (hlookup : ∀ hostname found, event ≠ .lookedUp hostname (.ok found)) :
    MailPins toLowerCase policy host addresses (event :: log) where
  contacted := by
    intro a socket hmem
    rcases List.mem_cons.mp hmem with hne | hmem
    · exact (hcontact a socket hne.symm).cons event
    · exact (h.contacted a socket hmem).cons event
  answers := by
    intro hostname found hmem
    rcases List.mem_cons.mp hmem with hne | hmem
    · exact absurd hne.symm (hlookup hostname found)
    · exact h.answers hostname found hmem
  pinned := fun a ha => (h.pinned a ha).cons event

lemma MailPins.effect {q : SmtpAsk} {a : SmtpAnswer q} {log' : List SmtpEvent}
    (h : MailPins toLowerCase policy host addresses log) (hq : staysConnected q)
    (heffect : smtpEffect log q a log') : MailPins toLowerCase policy host addresses log' := by
  have hcons : ∀ event : SmtpEvent, event.isContact = false →
      (∀ hostname found, event ≠ .lookedUp hostname found) →
      MailPins toLowerCase policy host addresses (event :: log) := by
    intro event hcontact hlookup
    refine h.cons (fun a socket heq => ?_) fun hostname found => hlookup hostname (.ok found)
    rw [heq] at hcontact
    cases hcontact
  cases q with
  | lookup hostname => exact hq.elim
  | openPinned address port => exact hq.elim
  | upgrade socket =>
    cases a with
    | ok secured =>
      obtain rfl : log' = .upgraded socket secured :: log := heffect
      exact hcons _ rfl fun _ _ hne => by cases hne
    | error error =>
      obtain rfl : log' = log := heffect
      exact h
  | createReader socket =>
    obtain rfl : log' = .listened socket a :: log := heffect
    exact hcons _ rfl fun _ _ hne => by cases hne
  | write socket line =>
    obtain rfl : log' = .wrote socket line :: log := heffect
    exact hcons _ rfl fun _ _ hne => by cases hne
  | read reader =>
    obtain rfl : log' = .asked reader :: log := heffect
    exact hcons _ rfl fun _ _ hne => by cases hne
  | reply reader =>
    obtain ⟨reply, _, rfl⟩ : ∃ reply : Except NetworkError TextReply,
      reply.map (·.toSmtpReply) = a ∧ log' = .replied reader reply :: log := heffect
    exact hcons _ rfl fun _ _ hne => by cases hne
  | residual reader => obtain rfl : log' = log := heffect; exact h
  | stop reader => obtain rfl : log' = log := heffect; exact h
  | destroy socket => obtain rfl : log' = log := heffect; exact h
  | written socket => obtain rfl : log' = log := heffect; exact h

variable {settings : EmailSettings} {message : SmtpMessage}

/-- One address keeps the pins. -/
lemma wp_tryAddress {pinned : PinnedAddress}
    (h : MailPins toLowerCase policy host addresses log)
    (hfits : Fits toLowerCase policy host log pinned.address) :
    Dialogue.wp smtpEffect (MailPins toLowerCase policy host addresses)
      (fun _ log' => MailPins toLowerCase policy host addresses log')
      (tryAddress toUpperCase settings message pinned) log := by
  unfold tryAddress
  refine Dialogue.wp_send_bind.mpr ⟨h, fun answer log' hlog' => ?_⟩
  obtain rfl : log' = .contacted pinned.address answer.toOption :: log := hlog'
  have hcontacted : MailPins toLowerCase policy host addresses
      (.contacted pinned.address answer.toOption :: log) := by
    refine h.cons (fun a socket heq => ?_) fun _ _ hne => by cases hne
    cases heq
    exact hfits
  refine ⟨hcontacted, Dialogue.wp_of_asksOnly ?_ (fun hq hv hE => hv.effect hq hE) hcontacted⟩
  cases answer with
  | error error => exact trivial
  | ok opened =>
    have hsecured : (secured settings.smtpPort opened).AsksOnly staysConnected := by
      unfold secured
      split
      · exact trivial
      · exact ⟨trivial, fun _ => trivial⟩
    refine Dialogue.AsksOnly.bind hsecured fun answer => ?_
    cases answer with
    | error error => exact Dialogue.AsksOnly.bind ⟨trivial, fun _ => trivial⟩ fun _ => trivial
    | ok socket => exact asksOnly_converse socket _ _

lemma wp_tryAddresses :
    ∀ (addresses : List PinnedAddress) (lastFailure : AttemptOutcome) (log : List SmtpEvent),
      MailPins toLowerCase policy host addresses log →
      Dialogue.wp smtpEffect (MailPinsKept toLowerCase policy host) (fun _ _ => True)
        (tryAddresses toUpperCase settings message lastFailure addresses) log
  | [], _, _, h => ⟨h.kept, trivial⟩
  | pinned :: rest, _, log, h => by
      have hrest : MailPins toLowerCase policy host rest log :=
        ⟨h.contacted, h.answers, fun a ha => h.pinned a (List.mem_cons_of_mem _ ha)⟩
      unfold tryAddresses
      rw [Dialogue.wp_bind]
      refine Dialogue.wp_mono (fun conversation log' hsafe h' => ?_)
        (Dialogue.wp_weaken (fun _ hpins => hpins.kept)
          (wp_tryAddress hrest (h.pinned _ List.mem_cons_self)))
      cases conversation with
      | settled outcome => exact ⟨hsafe, trivial⟩
      | tryNextAddress outcome => exact wp_tryAddresses rest outcome log' h'

/-- A literal host, and the answers of a lookup, are pinned as `sendPinned` pins them. -/
lemma wp_deliverEmail (settings : EmailSettings) (envelope : Envelope) (policy : EgressPolicy)
    (sentAt : Int) : Dialogue.wp smtpEffect
      (MailPinsKept toLowerCase policy (settings.hostname toLowerCase)) (fun _ _ => True)
      (deliverEmail toUpperCase toLowerCase settings envelope policy sentAt) [] := by
  have hnothing : MailPinsKept toLowerCase policy (settings.hostname toLowerCase) [] :=
    ⟨(fun _ _ h => by cases h), fun _ _ h => by cases h⟩
  unfold deliverEmail
  rw [Dialogue.wp_bind]
  unfold resolvePinned
  dsimp only
  split
  · split
    · exact ⟨hnothing, hnothing, trivial⟩
    · next named hverdict =>
      have hallowed : Allowed toLowerCase policy (settings.hostname toLowerCase)
          (settings.hostname toLowerCase) := by
        unfold Allowed
        rw [hverdict]
        rfl
      refine ⟨hnothing, wp_tryAddresses _ _ _ ⟨(fun _ _ h => by cases h),
        (fun _ _ h => by cases h), fun a ha => ?_⟩⟩
      rw [List.mem_singleton.mp ha]
      exact ⟨hallowed, Or.inl rfl⟩
  · refine Dialogue.wp_send_bind.mpr ⟨hnothing, fun answers log' hlog' => ?_⟩
    obtain rfl : log' = [.lookedUp (settings.hostname toLowerCase) answers] := hlog'
    have hlooked : MailPinsKept toLowerCase policy (settings.hostname toLowerCase)
        [.lookedUp (settings.hostname toLowerCase) answers] :=
      ⟨(fun _ _ h => by simp at h), fun _ _ _ _ _ _ h => by simp at h⟩
    refine ⟨hlooked, hlooked, ?_⟩
    cases hverdict : pinVerdict toLowerCase (settings.hostname toLowerCase) policy answers with
    | refused reason => exact ⟨hlooked, trivial⟩
    | pinned addresses =>
      obtain ⟨found, rfl, hmap, hallowed, _⟩ := pinVerdict_pinned hverdict
      refine wp_tryAddresses _ _ _ ⟨(fun _ _ h => by simp at h), fun hostname other h => ?_,
        fun a ha => ?_⟩
      · simp only [List.mem_singleton, SmtpEvent.lookedUp.injEq, Except.ok.injEq] at h
        rw [h.2]
        exact hallowed
      · rw [hmap] at ha
        obtain ⟨answer, hanswer, rfl⟩ := List.mem_map.mp ha
        exact ⟨hallowed answer hanswer,
          Or.inr ⟨found, List.mem_singleton_self _, List.mem_map_of_mem hanswer⟩⟩

/-- The pins of the own log are those of the log. -/
lemma mailPinsKept_own {w : SmtpWorld} (h : MailPinsKept toLowerCase policy host (ownLog w)) :
    MailPinsKept toLowerCase policy host w.log := by
  have hmem : ∀ event : SmtpEvent, event.isOwn = true → (event ∈ ownLog w ↔ event ∈ w.log) := by
    intro event hevent
    rw [ownLog, List.mem_filter]
    exact and_iff_left hevent
  refine ⟨fun a socket hcontacted => ?_, fun hostname found hlooked hrefused a socket => ?_⟩
  · obtain ⟨hallowed, hwhere⟩ := h.contacted a socket ((hmem _ rfl).mpr hcontacted)
    refine ⟨hallowed, hwhere.imp id ?_⟩
    rintro ⟨found, hfound, ha⟩
    exact ⟨found, (hmem _ rfl).mp hfound, ha⟩
  · intro hcontacted
    exact h.refused hostname found ((hmem _ rfl).mpr hlooked) hrefused a socket
      ((hmem _ rfl).mpr hcontacted)

end Pins

end Mail

/-! ## The claim about every run -/

/-- A reader of web addresses that knows one. -/
def exampleUrl (raw : Text) : Option Url :=
  if raw = "https://a.b/".toList then some ⟨"https:".toList, [], [], [], "a.b".toList⟩ else none

/-- A request to it. -/
def exampleRequest : PinnedRequest where
  url := "https://a.b/".toList
  method := "POST".toList
  headers := []
  body := none
  policy := publicOnly

/-- `sendPinned` of the request. -/
def exampleSending : Dialogue PinAsk PinAnswer (Except NetworkError PinnedResult × Unit) :=
  (sendPinned (·.map Char.toLower) exampleUrl exampleRequest).run.run ()

/-- The name has one address, and the client connects to it. -/
def exampleSent : List (Happening Empty PinChoice) :=
  [.answered (.aborted false), .answered (.looksUp (some (.ok [⟨"9.9.9.9".toList, 4⟩]))),
    .answered (.responds [(⟨none, false⟩, 0)] (.ok ⟨204, [], []⟩))]

/-- The event opens a connection to 9.9.9.9. -/
def isExampleContact : Smtp.SmtpEvent → Bool
  | .contacted address _ => address == "9.9.9.9".toList
  | _ => false

end OpenMcc.Pinned
