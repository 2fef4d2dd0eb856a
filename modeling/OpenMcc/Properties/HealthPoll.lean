import OpenMcc.Construction.HealthPoll

/-!
# What a poll says of the hosts

Each host is polled by itself: the poll of one adds to what was done before, whatever that was
(`Poll.Writes`), and what it adds depends on the answers for that host alone.  So nothing that
happens at one host changes what is recorded for another.

One handler serves everything that is thrown on the way, also by the manager's own database after
the host has answered.  The poll tells the truth of every host exactly when that database takes
what each completed observation has to record (`hosts_told_truly_iff`).
-/

namespace OpenMcc

/-! ## What a part of the poll adds -/

namespace HealthPollRun

lemma append_empty (run : HealthPollRun) : run.append .empty = run := by
  simp [append, empty]

lemma empty_append (run : HealthPollRun) : HealthPollRun.empty.append run = run := by
  simp [append, empty]

lemma append_assoc (a b c : HealthPollRun) : (a.append b).append c = a.append (b.append c) := by
  simp [append, Nat.add_assoc]

end HealthPollRun

namespace Poll

variable {α β : Type} {p : Poll α} {f : α → Poll β} {handler : Text → Poll α} {a : α} {e : Text}
  {result : Except Text α} {result' : Except Text β} {first second : HealthPollRun}

/-- The part of the poll ends with the result, and adds the run to what was done before. -/
def Writes (p : Poll α) (result : Except Text α) (run : HealthPollRun) : Prop :=
  ∀ before, p.run before =
    match result with
    | .ok a => .ok a (before.append run)
    | .error e => .error e (before.append run)

lemma writes_pure (a : α) : Writes (pure a) (.ok a) .empty := by
  intro before
  show EStateM.Result.ok a before = .ok a (before.append .empty)
  rw [HealthPollRun.append_empty]

lemma writes_await (answer : Except Text α) : Writes (await answer) answer .empty := by
  intro before
  rw [HealthPollRun.append_empty]
  cases answer with
  | ok a => rfl
  | error e => rfl

lemma writes_does (run : HealthPollRun) : Writes (does run) (.ok ()) run := fun _ => rfl

/-- **The sequence rule.** -/
lemma Writes.bind (hp : Writes p (.ok a) first) (hf : Writes (f a) result' second) :
    Writes (p >>= f) result' (first.append second) := by
  intro before
  rw [EStateM.run_bind, hp before, ← HealthPollRun.append_assoc]
  exact hf (before.append first)

/-- What throws ends the sequence. -/
lemma Writes.bind_error (hp : Writes p (.error e) first) :
    Writes (p >>= f) (.error e) first := by
  intro before
  rw [EStateM.run_bind, hp before]

/-- **The rule of an awaited answer.** -/
lemma Writes.awaits (hf : Writes (f a) result' second) :
    Writes (await (.ok a) >>= f) result' second := by
  have h := (writes_await (.ok a)).bind hf
  rwa [HealthPollRun.empty_append] at h

lemma run_tryCatch (before : HealthPollRun) :
    (tryCatch p handler).run before =
      match p.run before with
      | .ok a after => .ok a after
      | .error e after => (handler e).run after := by
  show EStateM.tryCatch p handler before = _
  unfold EStateM.tryCatch EStateM.run
  cases p before with
  | ok a after => rfl
  | error e after => rfl

/-- A handler that is not needed. -/
lemma Writes.uncaught (hp : Writes p (.ok a) first) :
    Writes (tryCatch p handler) (.ok a) first := by
  intro before
  rw [run_tryCatch, hp before]

/-- **The rule of a caught error.** -/
lemma Writes.caught (hp : Writes p (.error e) first) (hh : Writes (handler e) result second) :
    Writes (tryCatch p handler) result (first.append second) := by
  intro before
  rw [run_tryCatch, hp before, ← HealthPollRun.append_assoc]
  exact hh (before.append first)

/-- **The rule of `finally`**: what is done at the end is done whatever the result. -/
lemma Writes.tryFinally (hp : Writes p result first) (run : HealthPollRun) :
    Writes (tryFinally p (does run)) result (first.append run) := by
  intro before
  have hbefore : p before = _ := hp before
  rw [← HealthPollRun.append_assoc]
  cases result with
  | ok a =>
    simp only [MonadFinally.tryFinally', tryFinally, Functor.map, EStateM.map, EStateM.run,
      hbefore]
    rfl
  | error e =>
    simp only [MonadFinally.tryFinally', tryFinally, Functor.map, EStateM.map, EStateM.run,
      hbefore]
    rfl

end Poll

/-! ## The poll of one host -/

open Poll

/-- The host a record is about. -/
def PollRecord.hostId : PollRecord → Nat
  | .seen hostId _ _ => hostId
  | .reachability observation _ => observation.hostId

/-- The record says that the host was not reached. -/
def PollRecord.unreached : PollRecord → Bool
  | .seen _ _ _ => false
  | .reachability observation _ => !observation.reached

/-- The run puts no host on a list.  What it records is about the host, and says that it was not
reached only if it may. -/
structure Unlisted (id : Nat) (mayMiss : Bool) (run : HealthPollRun) : Prop where
  reached : run.reached = []
  unreachable : run.unreachable = []
  records : ∀ record ∈ run.records, record.hostId = id ∧ (record.unreached = true → mayMiss = true)

namespace Unlisted

variable {id : Nat} {mayMiss : Bool} {first second : HealthPollRun}

lemma of_nothing {run : HealthPollRun} (hreached : run.reached = [])
    (hunreachable : run.unreachable = []) (hrecords : run.records = []) :
    Unlisted id mayMiss run :=
  ⟨hreached, hunreachable, by simp [hrecords]⟩

lemma append (hfirst : Unlisted id mayMiss first) (hsecond : Unlisted id mayMiss second) :
    Unlisted id mayMiss (first.append second) where
  reached := by simp [HealthPollRun.append, hfirst.reached, hsecond.reached]
  unreachable := by simp [HealthPollRun.append, hfirst.unreachable, hsecond.unreachable]
  records record hrecord := by
    rcases List.mem_append.mp hrecord with h | h
    · exact hfirst.records record h
    · exact hsecond.records record h

lemma truthful {run : HealthPollRun} (h : Unlisted id false run) :
    ∀ record ∈ run.records, record.hostId = id ∧ record.unreached = false := by
  intro record hrecord
  obtain ⟨habout, hmiss⟩ := h.records record hrecord
  exact ⟨habout, by simpa using hmiss⟩

/-- The host put among the reached between two stretches that put no host on a list. -/
lemma append_reached (hfirst : Unlisted id false first) (hsecond : Unlisted id false second) :
    let run := first.append (.append { HealthPollRun.empty with reached := [id] } second)
    run.reached = [id] ∧ run.unreachable = [] ∧
      ∀ record ∈ run.records, record.hostId = id ∧ record.unreached = false := by
  refine ⟨?_, ?_, fun record hrecord => ?_⟩
  · simp [HealthPollRun.append, hfirst.reached, hsecond.reached]
  · simp [HealthPollRun.append, HealthPollRun.empty, hfirst.unreachable, hsecond.unreachable]
  · rcases List.mem_append.mp hrecord with h | h
    · exact hfirst.truthful record h
    · exact hsecond.truthful record
        (by simpa [HealthPollRun.append, HealthPollRun.empty] using h)

end Unlisted

section Parts

variable (deps : HealthPollerDeps) (host : ListedHost) (answers : PollAnswers)

lemma onError_writes (error : PollError) :
    Writes (onError error) (.ok ()) { HealthPollRun.empty with errors := [error] } :=
  writes_does _

lemma observeHost_writes :
    ∃ result, Writes (observeHost answers) result .empty ∧
      result.isOk = (answers.failedUnits.isOk && answers.osRelease.isOk) := by
  unfold observeHost
  cases hfailed : answers.failedUnits with
  | error e => exact ⟨.error e, (writes_await _).bind_error, rfl⟩
  | ok failed =>
    cases hos : answers.osRelease with
    | error e =>
      exact ⟨.error e, .awaits (writes_await (.error e)).bind_error, rfl⟩
    | ok os =>
      exact ⟨.ok (hostObservation failed os), .awaits (.awaits (writes_pure _)), rfl⟩

lemma recordSeen_writes (observed : HostObservation) :
    ∃ run, Writes (recordSeen host answers observed) answers.recordSeen run ∧
      Unlisted host.id false run := by
  unfold recordSeen
  cases hseen : answers.recordSeen with
  | error e => exact ⟨_, (writes_await _).bind_error, .of_nothing rfl rfl rfl⟩
  | ok _ =>
    refine ⟨_, .awaits (writes_does _), rfl, rfl, ?_⟩
    simp [PollRecord.hostId, PollRecord.unreached]

lemma recordReachability_writes (reached : Bool) :
    ∃ result run, Writes (recordReachability deps host reached answers) result run ∧
      Unlisted host.id (!reached) run ∧
      result.isOk = (!deps.recordsReachability ||
        (if reached then answers.recordReached else answers.recordUnreached).isOk) := by
  unfold recordReachability
  by_cases hrecords : deps.recordsReachability = true
  · rw [if_pos hrecords, hrecords]
    cases (if reached then answers.recordReached else answers.recordUnreached) with
    | error e => exact ⟨.error e, _, (writes_await _).bind_error, .of_nothing rfl rfl rfl, rfl⟩
    | ok _ =>
      refine ⟨.ok (), _, .awaits (writes_does _), ⟨rfl, rfl, ?_⟩, rfl⟩
      simp [PollRecord.hostId, PollRecord.unreached]
  · rw [if_neg hrecords, eq_false_of_ne_true hrecords]
    exact ⟨.ok (), _, writes_pure (), .of_nothing rfl rfl rfl, rfl⟩

/-- The reading of the bots has a handler of its own. -/
lemma observeInstances_writes :
    ∃ run, Writes (tryCatch (observeInstances deps answers) fun error =>
      onError (.botsUnread host.id error)) (.ok ()) run ∧ Unlisted host.id false run := by
  unfold observeInstances
  by_cases hobserves : deps.observesInstances = true
  · rw [if_pos hobserves]
    cases answers.observeInstances with
    | error e =>
      exact ⟨_, (writes_await (.error e)).caught (onError_writes _), .of_nothing rfl rfl rfl⟩
    | ok _ => exact ⟨_, (writes_await (.ok ())).uncaught, .of_nothing rfl rfl rfl⟩
  · rw [if_neg hobserves]
    exact ⟨_, (writes_pure ()).uncaught, .of_nothing rfl rfl rfl⟩

/-- The handler ends whatever the database answers, and lists the host. -/
lemma missHost_writes (error : Text) :
    ∃ run, Writes (missHost deps host answers error) (.ok ()) run ∧ run.reached = [] ∧
      run.unreachable = [host.id] ∧ ∀ record ∈ run.records, record.hostId = host.id := by
  obtain ⟨result, written, hwritten, hunlisted, -⟩ :=
    recordReachability_writes deps host answers false
  have hrecorded : ∃ run, Writes (tryCatch (recordReachability deps host false answers)
      fun recordError => onError (.notRecorded host.id recordError)) (.ok ()) run ∧
      Unlisted host.id true run := by
    cases result with
    | ok _ => exact ⟨_, hwritten.uncaught, hunlisted⟩
    | error e =>
      exact ⟨_, hwritten.caught (onError_writes _), hunlisted.append (.of_nothing rfl rfl rfl)⟩
  obtain ⟨run, hrun, hrun'⟩ := hrecorded
  refine ⟨_, (writes_does _).bind ((onError_writes _).bind hrun), ?_, ?_, ?_⟩
  · simp [HealthPollRun.append, HealthPollRun.empty, hrun'.reached]
  · simp [HealthPollRun.append, HealthPollRun.empty, hrun'.unreachable]
  · intro record hrecord
    exact (hrun'.records record (by simpa [HealthPollRun.append, HealthPollRun.empty] using hrecord)).1

end Parts

/-- Something is thrown on the way to the end of what is tried. -/
def PollAnswers.missed (deps : HealthPollerDeps) (answers : PollAnswers) : Bool :=
  match answers.lease with
  | .error _ => true
  | .ok (.leased _ _) => !(answers.completes && answers.recorded deps)
  | .ok _ => false

lemma PollAnswers.missed_of_completes {deps : HealthPollerDeps} {answers : PollAnswers}
    (h : answers.completes = true) : answers.missed deps = !answers.recorded deps := by
  cases hlease : answers.lease with
  | error e => simp [completes, hlease] at h
  | ok lease =>
    cases lease with
    | leased row name => simp [missed, hlease, h]
    | missing => simp [completes, hlease] at h
    | unprovisioned => simp [completes, hlease] at h
    | changed => simp [completes, hlease] at h

/-- A host is put among the reached ones when its observation completes and is recorded. -/
def PollAnswers.reaches (answers : PollAnswers) : Bool :=
  answers.completes && answers.recordSeen.isOk

/-- What is tried with a host says nothing of a host that was not reached. -/
structure HostTried (deps : HealthPollerDeps) (listed : ListedHost) (answers : PollAnswers)
    (result : Except Text Unit) (run : HealthPollRun) : Prop where
  missed : answers.missed deps = !result.isOk
  reached : run.reached = if answers.reaches then [listed.id] else []
  unreachable : run.unreachable = []
  records : ∀ record ∈ run.records, record.hostId = listed.id ∧ record.unreached = false

lemma reachHost_writes (deps : HealthPollerDeps) (listed : ListedHost) (answers : PollAnswers) :
    ∃ result run, Writes (reachHost deps listed answers) result run ∧
      HostTried deps listed answers result run := by
  have hignored : ∀ lease, answers.lease = .ok lease → (∀ row name, lease ≠ .leased row name) →
      HostTried deps listed answers (.ok ()) .empty := by
    intro lease hlease hother
    cases lease with
    | leased row name => exact absurd rfl (hother row name)
    | missing | unprovisioned | changed =>
      exact ⟨by simp [PollAnswers.missed, hlease, Except.isOk, Except.toBool],
        by simp [PollAnswers.reaches, PollAnswers.completes, hlease, HealthPollRun.empty], rfl,
        by simp [HealthPollRun.empty]⟩
  unfold reachHost
  cases hlease : answers.lease with
  | error e =>
    refine ⟨.error e, _, (writes_await _).bind_error, ?_, ?_, rfl, ?_⟩
    · simp [PollAnswers.missed, hlease, Except.isOk, Except.toBool]
    · simp [PollAnswers.reaches, PollAnswers.completes, hlease, HealthPollRun.empty]
    · simp [HealthPollRun.empty]
  | ok lease =>
    cases lease with
    | missing => exact ⟨.ok (), _, .awaits (writes_pure ()), hignored _ hlease (by simp)⟩
    | unprovisioned => exact ⟨.ok (), _, .awaits (writes_pure ()), hignored _ hlease (by simp)⟩
    | changed => exact ⟨.ok (), _, .awaits (writes_pure ()), hignored _ hlease (by simp)⟩
    | leased row name =>
      have hmissed : answers.missed deps = !(answers.completes && answers.recorded deps) := by
        simp [PollAnswers.missed, hlease]
      obtain ⟨observed, hobserved, hcompletes⟩ := observeHost_writes answers
      have hcompletes : answers.completes = observed.isOk := by
        rw [hcompletes]
        unfold PollAnswers.completes
        rw [hlease]
        cases answers.failedUnits <;> cases answers.osRelease <;> rfl
      have hreleased := hobserved.tryFinally { HealthPollRun.empty with released := [listed.id] }
      cases observed with
      | error e =>
        refine ⟨.error e, _, .awaits hreleased.bind_error, ?_, ?_, rfl, ?_⟩
        · rw [hmissed, hcompletes]; rfl
        · rw [PollAnswers.reaches, hcompletes]; rfl
        · simp [HealthPollRun.append, HealthPollRun.empty]
      | ok observed =>
        have hcompletes : answers.completes = true := hcompletes
        rw [hcompletes, Bool.true_and] at hmissed
        let host : ListedHost := { row with id := listed.id, name := name }
        obtain ⟨seen, hseen, hseen'⟩ := recordSeen_writes host answers observed
        cases hs : answers.recordSeen with
        | error e =>
          rw [hs] at hseen
          refine ⟨.error e, _, .awaits (hreleased.bind hseen.bind_error), ?_, ?_, ?_, ?_⟩
          · rw [hmissed, PollAnswers.recorded, hs]; rfl
          · rw [PollAnswers.reaches, hs, hcompletes]
            exact hseen'.reached
          · exact hseen'.unreachable
          · exact hseen'.truthful
        | ok _ =>
          rw [hs] at hseen
          have hreaches : answers.reaches = true := by rw [PollAnswers.reaches, hs, hcompletes]; rfl
          obtain ⟨result, reach, hreach, hreach', hresult⟩ :=
            recordReachability_writes deps host answers true
          have hmissed : answers.missed deps = !result.isOk := by
            rw [hmissed, hresult, PollAnswers.recorded, hs]; rfl
          cases result with
          | error e =>
            obtain ⟨h₁, h₂, h₃⟩ := hseen'.append_reached hreach'
            exact ⟨.error e, _, .awaits (hreleased.bind (hseen.bind
              ((writes_does _).bind hreach.bind_error))),
              hmissed, by rw [if_pos hreaches]; exact h₁, h₂, h₃⟩
          | ok _ =>
            obtain ⟨bots, hbots, hbots'⟩ := observeInstances_writes deps host answers
            obtain ⟨h₁, h₂, h₃⟩ := hseen'.append_reached (hreach'.append hbots')
            exact ⟨.ok (), _, .awaits (hreleased.bind (hseen.bind
              ((writes_does _).bind (hreach.bind hbots)))),
              hmissed, by rw [if_pos hreaches]; exact h₁, h₂, h₃⟩

/-- What the poll of a host says, and of which host. -/
structure HostTold (deps : HealthPollerDeps) (listed : ListedHost) (answers : PollAnswers)
    (run : HealthPollRun) : Prop where
  reached : run.reached = if answers.reaches then [listed.id] else []
  unreachable : run.unreachable = if answers.missed deps then [listed.id] else []
  records : ∀ record ∈ run.records, record.hostId = listed.id ∧
    (record.unreached = true → answers.missed deps = true)

/-- What the poll of a host does. -/
def hostRun (deps : HealthPollerDeps) (listed : ListedHost) (answers : PollAnswers) :
    HealthPollRun :=
  match (pollHost deps listed answers).run .empty with
  | .ok _ run => run
  | .error _ run => run

lemma pollHost_writes_told (deps : HealthPollerDeps) (listed : ListedHost)
    (answers : PollAnswers) :
    ∃ run, Writes (pollHost deps listed answers) (.ok ()) run ∧
      HostTold deps listed answers run := by
  unfold pollHost
  obtain ⟨result, tried, htried, h⟩ := reachHost_writes deps listed answers
  cases result with
  | ok _ =>
    have hmissed : answers.missed deps = false := h.missed
    refine ⟨tried, htried.uncaught, h.reached, ?_, fun record hrecord => ?_⟩
    · rw [h.unreachable, hmissed]; rfl
    · obtain ⟨habout, hreached⟩ := h.records record hrecord
      exact ⟨habout, by simp [hreached]⟩
  | error e =>
    have hmissed : answers.missed deps = true := h.missed
    obtain ⟨miss, hmiss, hreached, hunreachable, habout⟩ := missHost_writes deps listed answers e
    refine ⟨_, htried.caught hmiss, ?_, ?_, fun record hrecord => ⟨?_, fun _ => hmissed⟩⟩
    · simp [HealthPollRun.append, h.reached, hreached]
    · simp [HealthPollRun.append, h.unreachable, hunreachable, hmissed]
    · rcases List.mem_append.mp hrecord with hrecord | hrecord
      · exact (h.records record hrecord).1
      · exact habout record hrecord

/-- **The poll of one host** adds to what was done before, whatever that was. -/
lemma pollHost_writes (deps : HealthPollerDeps) (listed : ListedHost) (answers : PollAnswers) :
    Writes (pollHost deps listed answers) (.ok ()) (hostRun deps listed answers) ∧
      HostTold deps listed answers (hostRun deps listed answers) := by
  obtain ⟨run, hrun, htold⟩ := pollHost_writes_told deps listed answers
  have heq : hostRun deps listed answers = run := by
    rw [hostRun, hrun .empty]
    exact HealthPollRun.empty_append run
  exact heq ▸ ⟨hrun, htold⟩

/-! ## The poll of all hosts -/

section Run

variable (deps : HealthPollerDeps) (answers answers' : Nat → PollAnswers)

/-- What the polls of the hosts do, one after the other. -/
def hostRuns (hosts : List ListedHost) : HealthPollRun :=
  hosts.foldr (fun listed rest => (hostRun deps listed (answers listed.id)).append rest) .empty

lemma forM_pollHost_writes (hosts : List ListedHost) :
    Writes (hosts.forM fun listed => pollHost deps listed (answers listed.id)) (.ok ())
      (hostRuns deps answers hosts) := by
  induction hosts with
  | nil => exact writes_pure ()
  | cons listed hosts ih => exact (pollHost_writes deps listed (answers listed.id)).1.bind ih

lemma runHealthPoll_eq (hosts : List ListedHost) :
    runHealthPoll deps hosts answers =
      HealthPollRun.append { HealthPollRun.empty with polled := (hosts.filter isPollable).length }
        (hostRuns deps answers (hosts.filter isPollable)) := by
  unfold runHealthPoll
  simp only [forM_pollHost_writes deps answers (hosts.filter isPollable) _]

/-- Each list of a poll is made of those of its hosts. -/
lemma hostRuns_lists (hosts : List ListedHost) :
    (hostRuns deps answers hosts).reached =
        hosts.flatMap (fun listed => (hostRun deps listed (answers listed.id)).reached) ∧
      (hostRuns deps answers hosts).unreachable =
        hosts.flatMap (fun listed => (hostRun deps listed (answers listed.id)).unreachable) ∧
      (hostRuns deps answers hosts).records =
        hosts.flatMap fun listed => (hostRun deps listed (answers listed.id)).records := by
  induction hosts with
  | nil => exact ⟨rfl, rfl, rfl⟩
  | cons listed hosts ih =>
    obtain ⟨h₁, h₂, h₃⟩ := ih
    refine ⟨?_, ?_, ?_⟩
    · rw [List.flatMap_cons, ← h₁]; rfl
    · rw [List.flatMap_cons, ← h₂]; rfl
    · rw [List.flatMap_cons, ← h₃]; rfl

/-- A list on which each host is put by itself, when its own answers say so. -/
lemma mem_flatMap_own {hosts : List ListedHost} {list : ListedHost → List Nat} (lists : Nat → Bool)
    (h : ∀ listed, list listed = if lists listed.id then [listed.id] else []) (id : Nat) :
    id ∈ hosts.flatMap list ↔ (∃ listed ∈ hosts, listed.id = id) ∧ lists id = true := by
  rw [List.mem_flatMap]
  constructor
  · rintro ⟨listed, hmem, hid⟩
    rw [h] at hid
    split at hid
    · next hlists =>
      obtain rfl := List.mem_singleton.mp hid
      exact ⟨⟨listed, hmem, rfl⟩, hlists⟩
    · exact absurd hid List.not_mem_nil
  · rintro ⟨⟨listed, hmem, rfl⟩, hlists⟩
    exact ⟨listed, hmem, by rw [h, if_pos hlists]; exact List.mem_singleton_self _⟩

variable (hosts : List ListedHost)

/-- The host is polled. -/
def Polled (hosts : List ListedHost) (id : Nat) : Prop :=
  ∃ listed ∈ hosts, isPollable listed = true ∧ listed.id = id

lemma polled_iff (id : Nat) :
    Polled hosts id ↔ ∃ listed ∈ hosts.filter isPollable, listed.id = id := by
  simp only [Polled, List.mem_filter, and_assoc]

lemma mem_reached (id : Nat) :
    id ∈ (runHealthPoll deps hosts answers).reached ↔
      Polled hosts id ∧ (answers id).reaches = true := by
  rw [runHealthPoll_eq, polled_iff]
  show id ∈ [] ++ (hostRuns deps answers (hosts.filter isPollable)).reached ↔ _
  rw [List.nil_append, (hostRuns_lists deps answers _).1]
  exact mem_flatMap_own (fun id => (answers id).reaches)
    (fun listed => (pollHost_writes deps listed (answers listed.id)).2.reached) id

lemma mem_unreachable (id : Nat) :
    id ∈ (runHealthPoll deps hosts answers).unreachable ↔
      Polled hosts id ∧ (answers id).missed deps = true := by
  rw [runHealthPoll_eq, polled_iff]
  show id ∈ [] ++ (hostRuns deps answers (hosts.filter isPollable)).unreachable ↔ _
  rw [List.nil_append, (hostRuns_lists deps answers _).2.1]
  exact mem_flatMap_own (fun id => (answers id).missed deps)
    (fun listed => (pollHost_writes deps listed (answers listed.id)).2.unreachable) id

lemma records_eq :
    (runHealthPoll deps hosts answers).records =
      (hosts.filter isPollable).flatMap fun listed =>
        (hostRun deps listed (answers listed.id)).records := by
  rw [runHealthPoll_eq, ← (hostRuns_lists deps answers _).2.2]
  rfl

lemma missed_of_unreached {record : PollRecord}
    (h : record ∈ (runHealthPoll deps hosts answers).records) (hunreached : record.unreached = true) :
    (answers record.hostId).missed deps = true := by
  rw [records_eq] at h
  obtain ⟨listed, -, hrecord⟩ := List.mem_flatMap.mp h
  obtain ⟨habout, hmissed⟩ := (pollHost_writes deps listed _).2.records record hrecord
  exact habout ▸ hmissed hunreached

/-- What is recorded of a host depends on its own answers alone. -/
lemma filter_records_eq {id : Nat} (h : answers' id = answers id) :
    (runHealthPoll deps hosts answers').records.filter (fun record => record.hostId = id) =
      (runHealthPoll deps hosts answers).records.filter fun record => record.hostId = id := by
  rw [records_eq, records_eq, List.filter_flatMap, List.filter_flatMap]
  congr 1
  funext listed
  by_cases hid : listed.id = id
  · rw [hid, h]
  · have hother : ∀ answers : PollAnswers, (hostRun deps listed answers).records.filter
        (fun record => record.hostId = id) = [] := by
      intro answers
      rw [List.filter_eq_nil_iff]
      intro record hrecord
      have habout := ((pollHost_writes deps listed answers).2.records record hrecord).1
      simpa [habout] using hid
    rw [hother, hother]

end Run

/-! ## What is stored of a host -/

namespace HealthStore

/-- The stores know the same of the host. -/
def AgreeOn (id : Nat) (store store' : HealthStore) : Prop :=
  store.hosts id = store'.hosts id ∧ store.recorders id = store'.recorders id

variable {id : Nat} {store store' : HealthStore} {record : PollRecord}

lemma agreeOn_record (h : AgreeOn id store store') (record : PollRecord) :
    AgreeOn id (store.record record) (store'.record record) := by
  obtain ⟨hhosts, hrecorders⟩ := h
  cases record with
  | seen hostId seenAt observed =>
    refine ⟨?_, hrecorders⟩
    by_cases hid : id = hostId
    · subst hid
      simp [HealthStore.record, hhosts]
    · simp [HealthStore.record, Function.update_of_ne hid, hhosts]
  | reachability observation recordedAt =>
    refine ⟨hhosts, ?_⟩
    by_cases hid : id = observation.hostId
    · subst hid
      simp [HealthStore.record, hrecorders]
    · simp [HealthStore.record, Function.update_of_ne hid, hrecorders]

/-- A record leaves the other hosts as they are. -/
lemma agreeOn_record_other (h : AgreeOn id store store') (hid : record.hostId ≠ id) :
    AgreeOn id (store.record record) store' := by
  obtain ⟨hhosts, hrecorders⟩ := h
  cases record with
  | seen hostId seenAt observed =>
    exact ⟨by rw [← hhosts]; exact Function.update_of_ne (Ne.symm hid) _ _, hrecorders⟩
  | reachability observation recordedAt =>
    exact ⟨hhosts, by rw [← hrecorders]; exact Function.update_of_ne (Ne.symm hid) _ _⟩

/-- Only the records about a host change what is stored of it. -/
lemma agreeOn_foldl_filter (h : AgreeOn id store store') (records : List PollRecord) :
    AgreeOn id (records.foldl HealthStore.record store)
      ((records.filter fun record => record.hostId = id).foldl HealthStore.record store') := by
  induction records generalizing store store' with
  | nil => exact h
  | cons record records ih =>
    by_cases hid : record.hostId = id
    · rw [List.filter_cons_of_pos (by simpa using hid)]
      exact ih (agreeOn_record h record)
    · rw [List.filter_cons_of_neg (by simpa using hid)]
      exact ih (agreeOn_record_other h hid)

end HealthStore

/-- What happens at one host changes nothing of what is stored of another. -/
lemma agreeOn_after (deps : HealthPollerDeps) (hosts : List ListedHost)
    {answers answers' : Nat → PollAnswers} {id : Nat} (h : answers' id = answers id)
    (store : HealthStore) :
    HealthStore.AgreeOn id (store.after (runHealthPoll deps hosts answers'))
      (store.after (runHealthPoll deps hosts answers)) := by
  have hleft := HealthStore.agreeOn_foldl_filter (⟨rfl, rfl⟩ : HealthStore.AgreeOn id store store)
    (runHealthPoll deps hosts answers').records
  have hright := HealthStore.agreeOn_foldl_filter (⟨rfl, rfl⟩ : HealthStore.AgreeOn id store store)
    (runHealthPoll deps hosts answers).records
  rw [filter_records_eq deps answers answers' hosts h] at hleft
  exact ⟨hleft.1.trans hright.1.symm, hleft.2.trans hright.2.symm⟩

/-! ## When the poll tells the truth -/

/-- **When a poll tells the truth of the hosts.**  Whatever fails at which hosts, no host whose
observation completed is listed or recorded as not reached, no host is on both lists, and the hosts
are kept apart, exactly when the manager's own database takes what each completed observation has
to record. -/
theorem hosts_told_truly_iff (deps : HealthPollerDeps) (hosts : List ListedHost)
    (answers : Nat → PollAnswers) :
    PollSound deps hosts answers ↔
      ∀ host ∈ hosts, isPollable host = true → (answers host.id).completes = true →
        (answers host.id).recorded deps = true := by
  constructor
  · intro hsound host hhost hpollable hcompletes
    have hlisted := (hsound.truthful host hhost hpollable hcompletes).1
    rw [mem_unreachable, PollAnswers.missed_of_completes hcompletes] at hlisted
    by_contra hrecorded
    exact hlisted ⟨⟨host, hhost, hpollable, rfl⟩, by simpa using hrecorded⟩
  · intro hrecorded
    have hreached : ∀ host ∈ hosts, isPollable host = true → (answers host.id).completes = true →
        (answers host.id).missed deps = false := by
      intro host hhost hpollable hcompletes
      rw [PollAnswers.missed_of_completes hcompletes, hrecorded host hhost hpollable hcompletes]
      rfl
    refine ⟨fun host hhost hpollable hcompletes => ⟨?_, ?_⟩, ?_, ?_⟩
    · rw [mem_unreachable, hreached host hhost hpollable hcompletes]
      simp
    · intro name recordedAt hrecord
      have hmissed := missed_of_unreached deps answers hosts hrecord rfl
      exact absurd (hmissed.symm.trans (hreached host hhost hpollable hcompletes)) (by decide)
    · intro id hid hunreachable
      obtain ⟨⟨host, hhost, hpollable, rfl⟩, hreaches⟩ := (mem_reached deps answers hosts id).mp hid
      have hcompletes : (answers host.id).completes = true := (Bool.and_eq_true_iff.mp hreaches).1
      rw [mem_unreachable, hreached host hhost hpollable hcompletes] at hunreachable
      exact absurd hunreachable.2 (by decide)
    · intro failing answers' hsame store id hid
      have hid := hsame id hid
      obtain ⟨hhosts, hrecorders⟩ := agreeOn_after deps hosts hid store
      refine ⟨hhosts, hrecorders, ?_, ?_⟩
      · rw [mem_reached, mem_reached, hid]
      · rw [mem_unreachable, mem_unreachable, hid]

/-- A provisioned host. -/
def seenHost : ListedHost where
  id := 1
  name := "box".toList
  hostname := "box".toList
  port := 22
  username := "mcc".toList
  sshKeyId := some "key".toList
  hostKeyFingerprint := some "print".toList
  hostKeyAlgorithm := none
  status := .ready
  osRelease := some "Debian 12".toList
  osId := some "debian".toList
  osName := some "Debian 12".toList
  networkStack := some "dual".toList
  architecture := some "x86_64".toList
  failedUnits := some 0
  lastSeenAt := some 0
  provisioningAttemptId := none
  provisioningClaimedAt := none
  provisioningError := none
  provisioningStep := none
  provisioningStepIndex := none
  provisioningStepTotal := none
  teardownRequestedAt := none
  teardownError := none

/-- The host answers, and the database is busy when the answer is to be recorded. -/
def busyAnswers : PollAnswers where
  lease := .ok (.leased seenHost.toHostRow "box".toList)
  failedUnits := .ok ⟨[], 0⟩
  osRelease := .ok ⟨"debian\nDebian 12\n".toList, 0⟩
  seenAt := 60000
  recordSeen := .error "database is busy".toList
  recordReached := .ok ()
  observeInstances := .ok ()
  recordUnreached := .ok ()
  recordedAt := 60000

/-- A host that has answered is recorded as not reached when its observation is not stored; and it
is on both lists when the observation is stored and the reachability is not. -/
theorem host_answered_unreached :
    ¬ PollSound ⟨true, true⟩ [seenHost] (fun _ => busyAnswers) ∧
      ¬ PollSound ⟨true, true⟩ [seenHost] fun _ =>
        { busyAnswers with
          recordSeen := .ok ()
          recordReached := .error "database is busy".toList } := by
  constructor
  · intro hsound
    have hrecords := (hsound.truthful seenHost (List.mem_singleton_self _) rfl rfl).2
    exact hrecords "box".toList 60000 (by decide)
  · intro hsound
    exact hsound.disjoint 1 (by decide) (by decide)

end OpenMcc
