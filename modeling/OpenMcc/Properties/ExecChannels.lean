import OpenMcc.Construction.ExecChannels
import Mathlib.Algebra.GroupWithZero.Nat
import Mathlib.Data.Bool.Basic
import Mathlib.Data.List.Nodup

/-!
# The channels asked of a host

What can happen to a call alone keeps it in one of few shapes (`ExecCall.Consistent`), in which it
settles once, gives its slot back once, and leaves no channel open.  The limiter counts the calls
that hold a slot, so no more than `DEFAULT_EXEC_CONCURRENCY` calls are ever at work.

A call whose request for a channel takes too long gives its slot back while the request is still
on its way.  So the channels asked of the host are those of the calls at work and the requests
given up, and they stay within the bound exactly as long as no call asks for a channel while these
two already fill it (`channels_bounded_iff`).
-/

namespace OpenMcc

/-! ## One call -/

namespace ExecCall

/-- The call has settled. -/
structure Over (call : ExecCall) : Prop where
  queueTimer : call.queueTimer = false
  commandTimer : call.commandTimer = false
  channel : call.channel ≠ .opened
  gaveUp : call.channel = .asked → call.openSettled = true
  ignores : call.listening = true → call.commandSettled = true
  outcomes : call.outcomes.length = 1

/-- The call has settled, and has yet to give its slot back. -/
structure Settled (call : ExecCall) : Prop where
  isOver : call.Over
  stage : call.stage = .settled
  acquired : call.acquired = 1
  released : call.released = 0

/-- The call has ended. -/
structure Ended (call : ExecCall) : Prop where
  isOver : call.Over
  stage : call.stage = .ended
  released : call.released = call.acquired
  acquired : call.acquired ≤ 1

lemma Ended.fail {outcome : ExecOutcome} : (waits.fail outcome).Ended :=
  ⟨⟨rfl, rfl, nofun, nofun, nofun, rfl⟩, rfl, rfl, Nat.zero_le _⟩

/-- A call that has asked for a channel. -/
def asking : ExecCall := { waits.admission with stage := .awaiting, channel := .asked, openTimer := true }

/-- A call whose command runs. -/
def running (stdout stderr : Nat) : ExecCall :=
  { waits.admission with
    stage := .awaiting
    channel := .opened
    commandTimer := true
    listening := true
    stdout := stdout
    stderr := stderr }

/-- The shapes of a call. -/
inductive Consistent : ExecCall → Prop
  | queued : Consistent waits
  | admitted : Consistent waits.admission
  | asking : Consistent asking
  | running (stdout stderr : Nat) : Consistent (running stdout stderr)
  | settled {call : ExecCall} (h : call.Settled) : Consistent call
  | ended {call : ExecCall} (h : call.Ended) : Consistent call

variable {call call' : ExecCall} {e : ExecCallEvent}

/-- The timers and continuations that a call has before it. -/
def work (call : ExecCall) : Nat :=
  (match call.stage with
    | .queued => 6
    | .admitted => 5
    | .awaiting => 3
    | .settled => 1
    | .ended => 0) + (if call.openTimer then 1 else 0)

/-- What the promise of a call is settled with after it has settled has no effect. -/
lemma settle_of_over (hstage : call.stage = .settled ∨ call.stage = .ended)
    (outcome : ExecOutcome) : call.settle outcome = call := by
  rw [settle, if_neg]
  rcases hstage with hstage | hstage <;> simp [hstage]

/-- What still happens to a call that has settled. -/
structure Lingers (call : ExecCall) (e : ExecCallEvent) (call' : ExecCall) : Prop where
  isOver : call'.Over
  stage : call'.stage = call.stage
  acquired : call'.acquired = call.acquired
  released : call'.released = call.released
  channel : call'.hasChannel = true → call.hasChannel = true
  work : call'.work ≤ call.work
  due : e.isDue = true → call'.work < call.work

lemma Over.step (h : call.Over) (hstage : call.stage = .settled ∨ call.stage = .ended)
    (hstep : call.step e = some call') : call.Lingers e call' := by
  have hsame : e.isDue = false → call.Lingers e call := fun hdue =>
    ⟨h, rfl, rfl, rfl, id, Nat.le_refl _, fun hne => by rw [hdue] at hne; cases hne⟩
  cases e with
  | requests throws =>
    have hadmitted : call.stage ≠ .admitted := by rcases hstage with h | h <;> simp [h]
    rw [ExecCall.step, if_neg hadmitted] at hstep
    cases hstep
  | openTimer =>
    rw [ExecCall.step, Option.ite_none_right_eq_some, Option.some.injEq] at hstep
    obtain ⟨hfired, rfl⟩ := hstep
    have hwork : work { call with openTimer := false } < call.work := by simp [work, hfired]
    by_cases hsettled : call.openSettled = true
    · rw [if_pos hsettled]
      exact ⟨⟨h.queueTimer, h.commandTimer, h.channel, h.gaveUp, h.ignores, h.outcomes⟩, rfl, rfl,
        rfl, id, Nat.le_of_lt hwork, fun _ => hwork⟩
    · rw [if_neg hsettled, settle_of_over]
      · exact ⟨⟨h.queueTimer, h.commandTimer, h.channel, fun _ => rfl, h.ignores, h.outcomes⟩, rfl,
          rfl, rfl, id, Nat.le_of_lt hwork, fun _ => hwork⟩
      · exact hstage
  | opens =>
    rw [ExecCall.step, Option.ite_none_right_eq_some, Option.some.injEq] at hstep
    obtain ⟨hasked, rfl⟩ := hstep
    rw [if_pos (h.gaveUp hasked)]
    exact ⟨⟨h.queueTimer, h.commandTimer, nofun, nofun, h.ignores, h.outcomes⟩, rfl, rfl, rfl,
      nofun, Nat.le_refl _, nofun⟩
  | refuses =>
    rw [ExecCall.step, Option.ite_none_right_eq_some, Option.some.injEq] at hstep
    obtain ⟨hasked, rfl⟩ := hstep
    rw [if_pos (h.gaveUp hasked)]
    exact ⟨⟨h.queueTimer, h.commandTimer, nofun, nofun, h.ignores, h.outcomes⟩, rfl, rfl, rfl,
      nofun, Nat.le_refl _, nofun⟩
  | stdout bytes =>
    rw [ExecCall.step, Option.ite_none_right_eq_some, Option.some.injEq] at hstep
    obtain ⟨hlistening, rfl⟩ := hstep
    rw [append, if_pos (h.ignores hlistening)]
    exact hsame rfl
  | stderr bytes =>
    rw [ExecCall.step, Option.ite_none_right_eq_some, Option.some.injEq] at hstep
    obtain ⟨hlistening, rfl⟩ := hstep
    rw [append, if_pos (h.ignores hlistening)]
    exact hsame rfl
  | commandTimer =>
    rw [ExecCall.step, h.commandTimer] at hstep
    cases hstep
  | closes exited =>
    rw [ExecCall.step, Option.ite_none_right_eq_some, Option.some.injEq] at hstep
    obtain ⟨hlistening, rfl⟩ := hstep
    rw [if_pos (h.ignores hlistening)]
    exact ⟨⟨h.queueTimer, h.commandTimer, nofun, nofun, nofun, h.outcomes⟩, rfl, rfl, rfl, nofun,
      Nat.le_refl _, nofun⟩

lemma step_waits (e : ExecCallEvent) : waits.step e = none := by
  cases e with
  | requests throws | stdout bytes | stderr bytes | closes exited => rfl
  | openTimer | opens | refuses | commandTimer => rfl

/-- A call that has a slot asks for a channel, or settles with what was thrown. -/
lemma step_admitted (hstep : waits.admission.step e = some call') :
    (e = .requests false ∧ call' = asking) ∨
      (e = .requests true ∧ call'.Settled ∧ call'.channel = .unasked) := by
  cases e with
  | requests throws =>
    cases throws with
    | true =>
      cases hstep
      exact Or.inr ⟨rfl, ⟨⟨rfl, rfl, nofun, nofun, nofun, rfl⟩, rfl, rfl, rfl⟩, rfl⟩
    | false =>
      cases hstep
      exact Or.inl ⟨rfl, rfl⟩
  | openTimer | opens | refuses | commandTimer => cases hstep
  | stdout bytes | stderr bytes => cases hstep
  | closes exited => cases hstep

/-- A call that waits for its channel gets it, or settles. -/
lemma step_asking (hstep : asking.step e = some call') :
    (e = .opens ∧ call' = running 0 0) ∨ (call'.Settled ∧ call'.openTimer = false) := by
  cases e with
  | openTimer | refuses =>
    cases hstep
    exact Or.inr ⟨⟨⟨rfl, rfl, by decide, by decide, by decide, rfl⟩, rfl, rfl, rfl⟩, rfl⟩
  | opens =>
    cases hstep
    exact Or.inl ⟨rfl, rfl⟩
  | requests throws => cases hstep
  | stdout bytes | stderr bytes => cases hstep
  | commandTimer => cases hstep
  | closes exited => cases hstep

/-- A command goes on, or settles. -/
def GoesOn (call : ExecCall) : Prop :=
  (∃ stdout stderr, call = running stdout stderr) ∨ (call.Settled ∧ call.openTimer = false)

lemma append_running {stdout stderr stdout' stderr' length limit : Nat} :
    ((running stdout stderr).append (running stdout' stderr') length limit).GoesOn := by
  rw [append, if_neg (by simp [running, waits, admission])]
  by_cases hfits : length ≤ limit
  · rw [if_pos hfits]
    exact Or.inl ⟨_, _, rfl⟩
  · rw [if_neg hfits]
    exact Or.inr ⟨⟨⟨rfl, rfl, nofun, nofun, fun _ => rfl, rfl⟩, rfl, rfl, rfl⟩, rfl⟩

lemma step_running {stdout stderr : Nat} (hstep : (running stdout stderr).step e = some call') :
    call'.GoesOn ∧ (e.isDue = true → call'.Settled) := by
  cases e with
  | requests throws => cases hstep
  | openTimer => cases hstep
  | opens | refuses => cases hstep
  | stdout bytes =>
    rw [ExecCall.step, Option.ite_none_right_eq_some, Option.some.injEq] at hstep
    rw [← hstep.2]
    exact ⟨append_running, nofun⟩
  | stderr bytes =>
    rw [ExecCall.step, Option.ite_none_right_eq_some, Option.some.injEq] at hstep
    rw [← hstep.2]
    exact ⟨append_running, nofun⟩
  | commandTimer =>
    cases hstep
    have hsettled : ((running stdout stderr).destroy.settleCommand .timedOut).Settled :=
      ⟨⟨rfl, rfl, nofun, nofun, fun _ => rfl, rfl⟩, rfl, rfl, rfl⟩
    exact ⟨Or.inr ⟨hsettled, rfl⟩, fun _ => hsettled⟩
  | closes exited =>
    cases hstep
    exact ⟨Or.inr ⟨⟨⟨rfl, rfl, nofun, nofun, nofun, rfl⟩, rfl, rfl, rfl⟩, rfl⟩, nofun⟩

/-- What an event of a call alone does. -/
structure Moves (call : ExecCall) (e : ExecCallEvent) (call' : ExecCall) : Prop where
  consistent : call'.Consistent
  queued : call.stage ≠ .queued
  holdsSlot : call'.holdsSlot = call.holdsSlot
  /-- The host is asked for a channel in one place only. -/
  channel : e ≠ .requests false → call'.hasChannel = true → call.hasChannel = true
  asks : e = .requests false → call.hasChannel = false ∧ call'.hasChannel = true
  work : call'.work ≤ call.work
  due : e.isDue = true → call'.work < call.work

/-- A call that waits has done nothing else. -/
lemma Consistent.eq_waits (h : call.Consistent) (hstage : call.stage = .queued) :
    call = waits := by
  cases h with
  | queued => rfl
  | admitted | asking => cases hstage
  | running stdout stderr => cases hstage
  | settled hsettled => exact nomatch hsettled.stage.symm.trans hstage
  | ended hended => exact nomatch hended.stage.symm.trans hstage

lemma Settled.work_le (h : call.Settled) : call.work ≤ 2 := by
  rw [work, h.stage]
  cases call.openTimer with
  | true => decide
  | false => decide

lemma Settled.work_eq (h : call.Settled) (hopenTimer : call.openTimer = false) :
    call.work = 1 := by
  rw [work, h.stage, hopenTimer]
  rfl

lemma Settled.holdsSlot (h : call.Settled) : call.holdsSlot = true := by
  rw [ExecCall.holdsSlot, h.stage]
  rfl

lemma Lingers.moves (h : call.Lingers e call')
    (hstage : call.stage = .settled ∨ call.stage = .ended) (hconsistent : call'.Consistent)
    (hstep : call.step e = some call') : call.Moves e call' := by
  refine ⟨hconsistent, ?_, ?_, fun _ => h.channel, ?_, h.work, h.due⟩
  · rcases hstage with hstage | hstage <;> simp [hstage]
  · rw [holdsSlot, holdsSlot, h.stage]
  · rintro rfl
    have hadmitted : call.stage ≠ .admitted := by rcases hstage with h | h <;> simp [h]
    rw [ExecCall.step, if_neg hadmitted] at hstep
    cases hstep

lemma Settled.give (h : call.Settled) : call.give.Ended :=
  ⟨⟨h.isOver.queueTimer, h.isOver.commandTimer, h.isOver.channel, h.isOver.gaveUp, h.isOver.ignores,
    h.isOver.outcomes⟩, rfl, by rw [ExecCall.give, h.released, h.acquired], Nat.le_of_eq h.acquired⟩

lemma Settled.work_give (h : call.Settled) : call.work = call.give.work + 1 := by
  rw [work, work, h.stage]
  show 1 + _ = 0 + _ + 1
  rw [Nat.zero_add, Nat.add_comm]
  rfl

/-- **What happens to a call alone** keeps it in one of the shapes. -/
lemma Consistent.step (h : call.Consistent) (hstep : call.step e = some call') :
    call.Moves e call' := by
  cases h with
  | queued => rw [step_waits] at hstep; cases hstep
  | admitted =>
    rcases step_admitted hstep with ⟨rfl, rfl⟩ | ⟨rfl, hsettled, hchannel⟩
    · exact ⟨.asking, nofun, rfl, fun hne => absurd rfl hne, fun _ => ⟨rfl, rfl⟩, by decide,
        fun _ => by decide⟩
    · have hlt : call'.work < waits.admission.work := Nat.lt_of_le_of_lt hsettled.work_le (by decide)
      refine ⟨.settled hsettled, nofun, hsettled.holdsSlot, fun _ hhas => ?_, nofun, Nat.le_of_lt hlt,
        fun _ => hlt⟩
      rw [hasChannel, hchannel] at hhas
      cases hhas
  | asking =>
    have hasks : e ≠ .requests false := by rintro rfl; cases hstep
    rcases step_asking hstep with ⟨rfl, rfl⟩ | ⟨hsettled, hopenTimer⟩
    · exact ⟨.running 0 0, nofun, rfl, fun _ _ => rfl, nofun, by decide, nofun⟩
    · have hlt : call'.work < ExecCall.asking.work := by rw [hsettled.work_eq hopenTimer]; decide
      exact ⟨.settled hsettled, nofun, hsettled.holdsSlot, fun _ _ => rfl,
        fun heq => absurd heq hasks, Nat.le_of_lt hlt, fun _ => hlt⟩
  | running stdout stderr =>
    have hasks : e ≠ .requests false := by rintro rfl; cases hstep
    obtain ⟨hgoesOn, hdue⟩ := step_running hstep
    rcases hgoesOn with ⟨stdout', stderr', rfl⟩ | ⟨hsettled, hopenTimer⟩
    · exact ⟨.running _ _, nofun, rfl, fun _ _ => rfl, fun heq => absurd heq hasks,
        Nat.le_refl _, fun hne => nomatch (hdue hne).stage⟩
    · have hlt : call'.work < (ExecCall.running stdout stderr).work := by
        rw [hsettled.work_eq hopenTimer]
        exact (by decide : 1 < 3 + 0)
      exact ⟨.settled hsettled, nofun, hsettled.holdsSlot, fun _ _ => rfl,
        fun heq => absurd heq hasks, Nat.le_of_lt hlt, fun _ => hlt⟩
  | settled h =>
    have hlingers := h.isOver.step (Or.inl h.stage) hstep
    refine hlingers.moves (Or.inl h.stage) (.settled ?_) hstep
    exact ⟨hlingers.isOver, hlingers.stage.trans h.stage, hlingers.acquired.trans h.acquired,
      hlingers.released.trans h.released⟩
  | ended h =>
    have hlingers := h.isOver.step (Or.inr h.stage) hstep
    refine hlingers.moves (Or.inr h.stage) (.ended ?_) hstep
    exact ⟨hlingers.isOver, hlingers.stage.trans h.stage,
      by rw [hlingers.released, hlingers.acquired, h.released], hlingers.acquired ▸ h.acquired⟩

end ExecCall

/-! ## Counting the calls -/

section Counting

variable {calls : List ExecCall} {id : Nat} {call : ExecCall}

lemma sum_set (f : ExecCall → Nat) (h : calls[id]? = some call) (call' : ExecCall) :
    ((calls.set id call').map f).sum + f call = (calls.map f).sum + f call' := by
  induction calls generalizing id with
  | nil => simp at h
  | cons first calls ih =>
    cases id with
    | zero =>
      obtain rfl : first = call := by simpa using h
      simp only [List.set_cons_zero, List.map_cons, List.sum_cons]
      omega
    | succ id =>
      have hrest := ih (by simpa using h : calls[id]? = some call)
      simp only [List.set_cons_succ, List.map_cons, List.sum_cons]
      omega

lemma countP_set (p : ExecCall → Bool) (h : calls[id]? = some call) (call' : ExecCall) :
    (calls.set id call').countP p + (p call).toNat = calls.countP p + (p call').toNat := by
  have hcount : ∀ calls : List ExecCall, calls.countP p = (calls.map fun call => (p call).toNat).sum := by
    intro calls
    induction calls with
    | nil => rfl
    | cons first calls ih =>
      rw [List.countP_cons, ih, List.map_cons, List.sum_cons, Nat.add_comm]
      cases p first with
      | true => rfl
      | false => rfl
  rw [hcount, hcount]
  exact sum_set _ h call'

end Counting

/-! ## The limiter and the calls -/

namespace ExecTransport

/-- The timers and continuations that are before the calls. -/
def work (s : ExecTransport) : Nat := (s.calls.map ExecCall.work).sum

/-- Each call has its shape, and the limiter counts the calls that hold a slot. -/
structure Holds (s : ExecTransport) : Prop where
  consistent : ∀ call ∈ s.calls, call.Consistent
  active : s.limiter.active = s.calls.countP ExecCall.holdsSlot
  within : s.limiter.active ≤ defaultExecConcurrency
  nodup : s.limiter.waiting.Nodup
  waiting : ∀ id ∈ s.limiter.waiting, ∃ call, s.calls[id]? = some call ∧ call.stage = .queued

/-- The event asks the host for a channel. -/
def Asks (e : ExecEvent) : Prop := ∃ id, e = .own id (.requests false)

/-- What an event does. -/
structure Moves (s : ExecTransport) (e : ExecEvent) (t : ExecTransport) : Prop where
  holds : t.Holds
  asks : Asks e → t.channels = s.channels + 1
  channels : ¬ Asks e → t.channels ≤ s.channels
  work : (∀ connected, e ≠ .calls connected) → t.work ≤ s.work
  due : e.isDue = true → t.work < s.work

variable {s t : ExecTransport} {id : Nat} {call call' : ExecCall}

lemma mem_of_getElem? (h : s.calls[id]? = some call) : call ∈ s.calls := List.mem_of_getElem? h

/-- The calls that wait are others than one that does not. -/
lemma Holds.waiting_set (h : s.Holds) (hcall : s.calls[id]? = some call)
    (hstage : call.stage ≠ .queued) (call' : ExecCall) : ∀ other ∈ s.limiter.waiting,
      other ≠ id ∧ ∃ call'', (s.calls.set id call')[other]? = some call'' ∧ call''.stage = .queued := by
  intro other hother
  obtain ⟨found, hfound, hqueued⟩ := h.waiting other hother
  have hne : other ≠ id := by
    rintro rfl
    rw [hcall, Option.some.injEq] at hfound
    exact hstage (hfound ▸ hqueued)
  exact ⟨hne, found, by rw [List.getElem?_set_ne (Ne.symm hne)]; exact hfound, hqueued⟩

lemma Holds.consistent_set (h : s.Holds) (hcall' : call'.Consistent) :
    ∀ call ∈ s.calls.set id call', call.Consistent := by
  intro call hcall
  rcases List.mem_or_eq_of_mem_set hcall with hold | rfl
  · exact h.consistent call hold
  · exact hcall'

/-- Something happens to a call alone. -/
lemma Holds.own (h : s.Holds) {e : ExecCallEvent} (hstep : s.step (.own id e) = some t) :
    s.Moves (.own id e) t := by
  rw [ExecTransport.step] at hstep
  cases hcall : s.calls[id]? with
  | none => rw [hcall] at hstep; cases hstep
  | some call =>
    rw [hcall] at hstep
    obtain ⟨call', hown, rfl⟩ := Option.map_eq_some_iff.mp hstep
    have hmoves := (h.consistent call (mem_of_getElem? hcall)).step hown
    have hslots := countP_set ExecCall.holdsSlot hcall call'
    have hchannels := countP_set ExecCall.hasChannel hcall call'
    have hwork := sum_set ExecCall.work hcall call'
    rw [hmoves.holdsSlot] at hslots
    refine ⟨⟨h.consistent_set hmoves.consistent, ?_, h.within, h.nodup, fun other hother =>
      (h.waiting_set hcall hmoves.queued call' other hother).2⟩, ?_, ?_, fun _ => ?_, fun hdue => ?_⟩
    · rw [h.active]
      exact (Nat.add_right_cancel hslots).symm
    · rintro ⟨_, heq⟩
      obtain ⟨rfl, rfl⟩ := ExecEvent.own.inj heq
      obtain ⟨hbefore, hafter⟩ := hmoves.asks rfl
      rw [hbefore, hafter] at hchannels
      exact hchannels
    · intro hasks
      have hno : e ≠ .requests false := fun heq => hasks ⟨id, by rw [heq]⟩
      have hle : (ExecCall.hasChannel call').toNat ≤ (ExecCall.hasChannel call).toNat :=
        Bool.toNat_le_toNat (Bool.le_iff_imp.mpr (hmoves.channel hno))
      show (s.calls.set id call').countP _ ≤ s.calls.countP _
      omega
    · have hle := hmoves.work
      show ((s.calls.set id call').map _).sum ≤ (s.calls.map _).sum
      omega
    · have hlt := hmoves.due hdue
      show ((s.calls.set id call').map _).sum < (s.calls.map _).sum
      omega

/-- A call that waits is gone from the queue when its timer fires. -/
lemma Holds.queueTimer (h : s.Holds) (hstep : s.step (.queueTimer id) = some t) :
    s.Moves (.queueTimer id) t := by
  rw [ExecTransport.step] at hstep
  cases hcall : s.calls[id]? with
  | none => rw [hcall] at hstep; cases hstep
  | some call =>
    rw [hcall] at hstep
    obtain ⟨htimer, heq⟩ := Option.ite_none_right_eq_some.mp hstep
    have hstage : call.stage = .queued := by
      cases h.consistent call (mem_of_getElem? hcall) with
      | queued => rfl
      | admitted | asking => cases htimer
      | running stdout stderr => cases htimer
      | settled hsettled => exact nomatch hsettled.isOver.queueTimer.symm.trans htimer
      | ended hended => exact nomatch hended.isOver.queueTimer.symm.trans htimer
    obtain rfl := (h.consistent call (mem_of_getElem? hcall)).eq_waits hstage
    obtain rfl := Option.some.inj heq
    have hslots := countP_set ExecCall.holdsSlot hcall (ExecCall.waits.fail .queueExpired)
    have hchannels := countP_set ExecCall.hasChannel hcall (ExecCall.waits.fail .queueExpired)
    have hwork : _ + 6 = _ + 0 := sum_set ExecCall.work hcall (ExecCall.waits.fail .queueExpired)
    refine ⟨⟨h.consistent_set (.ended .fail), ?_, h.within, h.nodup.erase id, fun other hother => ?_⟩,
      ?_, fun _ => Nat.le_of_eq hchannels, fun _ => ?_, fun _ => ?_⟩
    · exact h.active.trans hslots.symm
    · obtain ⟨hne, hmem⟩ := (h.nodup.mem_erase_iff).mp hother
      obtain ⟨found, hfound, hqueued⟩ := h.waiting other hmem
      exact ⟨found, by rw [List.getElem?_set_ne (Ne.symm hne)]; exact hfound, hqueued⟩
    · rintro ⟨_, hne⟩
      cases hne
    · show ((s.calls.set id _).map _).sum ≤ (s.calls.map _).sum
      omega
    · show ((s.calls.set id _).map _).sum < (s.calls.map _).sum
      omega

/-- A call ends, and gives its slot to none or to the call that has waited longest. -/
lemma Holds.gives (h : s.Holds) (hstep : s.step (.gives id) = some t) : s.Moves (.gives id) t := by
  rw [ExecTransport.step] at hstep
  cases hcall : s.calls[id]? with
  | none => rw [hcall] at hstep; cases hstep
  | some call =>
    rw [hcall] at hstep
    obtain ⟨hstage, heq⟩ := Option.ite_none_right_eq_some.mp hstep
    have hsettled : call.Settled := by
      cases h.consistent call (mem_of_getElem? hcall) with
      | queued | admitted | asking => cases hstage
      | running stdout stderr => cases hstage
      | settled hsettled => exact hsettled
      | ended hended => exact nomatch hended.stage.symm.trans hstage
    have hne : call.stage ≠ .queued := by rw [hstage]; nofun
    have hasks : ¬ Asks (.gives id) := by rintro ⟨_, heq⟩; cases heq
    have hslots : _ + _ = _ + 0 := countP_set ExecCall.holdsSlot hcall call.give
    rw [hsettled.holdsSlot] at hslots
    have hchannels := Nat.add_right_cancel (countP_set ExecCall.hasChannel hcall call.give)
    have hwork := sum_set ExecCall.work hcall call.give
    rw [hsettled.work_give] at hwork
    have hconsistent : ∀ other ∈ s.calls.set id call.give, other.Consistent :=
      h.consistent_set (.ended hsettled.give)
    have hwaiting := h.waiting_set hcall hne call.give
    have hactive := h.active
    have hwithin := h.within
    unfold Limiter.release at heq
    cases hqueue : s.limiter.waiting with
    | nil =>
      rw [hqueue] at heq
      obtain rfl := Option.some.inj heq
      refine ⟨⟨hconsistent, ?_, ?_, List.nodup_nil, nofun⟩, fun hne => absurd hne hasks,
        fun _ => Nat.le_of_eq hchannels, fun _ => ?_, fun _ => ?_⟩
      · show s.limiter.active - 1 = (s.calls.set id call.give).countP _
        rw [hactive, ← Nat.add_zero (s.calls.countP _), ← hslots]
        rfl
      · exact Nat.le_trans (Nat.sub_le _ _) hwithin
      · show ((s.calls.set id call.give).map _).sum ≤ (s.calls.map _).sum
        omega
      · show ((s.calls.set id call.give).map _).sum < (s.calls.map _).sum
        omega
    | cons next waiting =>
      rw [hqueue] at heq hwaiting
      obtain ⟨hnext, found, hfound, hqueued⟩ := hwaiting next List.mem_cons_self
      obtain rfl := (hconsistent found (List.mem_of_getElem? hfound)).eq_waits hqueued
      simp only [admits, hfound] at heq
      obtain rfl := Option.some.inj heq
      have hslots' : _ + 0 = _ + 1 := countP_set ExecCall.holdsSlot hfound ExecCall.waits.admission
      have hchannels' : _ + 0 = _ + 0 :=
        countP_set ExecCall.hasChannel hfound ExecCall.waits.admission
      have hwork' : _ + 6 = _ + 5 := sum_set ExecCall.work hfound ExecCall.waits.admission
      have hnodup : (next :: waiting).Nodup := hqueue ▸ h.nodup
      obtain ⟨hnotMem, hnodup⟩ := List.nodup_cons.mp hnodup
      refine ⟨⟨fun other hother => ?_, ?_, ?_, hnodup, fun other hother => ?_⟩,
        fun hne => absurd hne hasks, fun _ => ?_, fun _ => ?_, fun _ => ?_⟩
      · rcases List.mem_or_eq_of_mem_set hother with hold | rfl
        · exact hconsistent other hold
        · exact .admitted
      · show s.limiter.active - 1 + 1 = ((s.calls.set id call.give).set next _).countP _
        rw [Bool.toNat_true] at hslots
        omega
      · show s.limiter.active - 1 + 1 ≤ _
        rw [Bool.toNat_true] at hslots
        omega
      · have hother' : other ≠ next := fun heq => hnotMem (heq ▸ hother)
        obtain ⟨-, found, hfound', hqueued'⟩ := hwaiting other (List.mem_cons_of_mem _ hother)
        exact ⟨found, by rw [List.getElem?_set_ne (Ne.symm hother')]; exact hfound', hqueued'⟩
      · show ((s.calls.set id call.give).set next _).countP _ ≤ s.calls.countP _
        omega
      · show (((s.calls.set id call.give).set next _).map _).sum ≤ (s.calls.map _).sum
        omega
      · show (((s.calls.set id call.give).set next _).map _).sum < (s.calls.map _).sum
        omega

lemma getElem?_append_some (h : s.calls[id]? = some call) (more : List ExecCall) :
    (s.calls ++ more)[id]? = some call := by
  rw [List.getElem?_append_left (List.getElem?_eq_some_iff.mp h).1, h]

/-- A call is made. -/
lemma Holds.calls (h : s.Holds) {connected : Bool} (hstep : s.step (.calls connected) = some t) :
    s.Moves (.calls connected) t := by
  have hasks : ¬ Asks (.calls connected) := by rintro ⟨_, heq⟩; cases heq
  have hconsistent : ∀ new : ExecCall, new.Consistent → ∀ other ∈ s.calls ++ [new],
      other.Consistent := by
    intro new hnew other hother
    rcases List.mem_append.mp hother with hold | hlast
    · exact h.consistent other hold
    · exact List.mem_singleton.mp hlast ▸ hnew
  have hwaiting : ∀ new : ExecCall, ∀ other ∈ s.limiter.waiting,
      ∃ call, (s.calls ++ [new])[other]? = some call ∧ call.stage = .queued := by
    intro new other hother
    obtain ⟨found, hfound, hqueued⟩ := h.waiting other hother
    exact ⟨found, getElem?_append_some hfound _, hqueued⟩
  have hnone : ∀ new : ExecCall, new.hasChannel = false →
      (s.calls ++ [new]).countP ExecCall.hasChannel ≤ s.calls.countP ExecCall.hasChannel := by
    intro new hnew
    rw [List.countP_append, List.countP_singleton, hnew]
    exact Nat.le_refl _
  cases connected with
  | false =>
    obtain rfl := Option.some.inj hstep
    refine ⟨⟨hconsistent _ (.ended .fail), ?_, h.within, h.nodup, hwaiting _⟩,
      fun hne => absurd hne hasks, fun _ => hnone _ rfl, fun hne => absurd rfl (hne false), nofun⟩
    show _ = (s.calls ++ [_]).countP _
    rw [List.countP_append, h.active]
    rfl
  | true =>
    by_cases hfree : s.limiter.active < defaultExecConcurrency
    · simp only [ExecTransport.step, Limiter.acquire, if_pos hfree, if_true] at hstep
      obtain rfl := Option.some.inj hstep
      refine ⟨⟨hconsistent _ .admitted, ?_, hfree, h.nodup, hwaiting _⟩,
        fun hne => absurd hne hasks, fun _ => hnone _ rfl, fun hne => absurd rfl (hne true), nofun⟩
      show s.limiter.active + 1 = (s.calls ++ [_]).countP _
      rw [List.countP_append, h.active]
      rfl
    · simp only [ExecTransport.step, Limiter.acquire, if_neg hfree, if_true, Bool.false_eq_true,
        if_false] at hstep
      obtain rfl := Option.some.inj hstep
      refine ⟨⟨hconsistent _ .queued, ?_, h.within, ?_, fun other hother => ?_⟩,
        fun hne => absurd hne hasks, fun _ => hnone _ rfl, fun hne => absurd rfl (hne true), nofun⟩
      · show s.limiter.active = (s.calls ++ [_]).countP _
        rw [List.countP_append, h.active]
        rfl
      · refine List.nodup_append.mpr ⟨h.nodup, List.nodup_singleton _, ?_⟩
        rintro other hother _ hlast rfl
        obtain ⟨found, hfound, -⟩ := h.waiting other hother
        rw [List.mem_singleton.mp hlast, List.getElem?_eq_none (Nat.le_refl _)] at hfound
        cases hfound
      · rcases List.mem_append.mp hother with hold | hlast
        · exact hwaiting _ other hold
        · rw [List.mem_singleton.mp hlast]
          exact ⟨.waits, List.getElem?_concat_length, rfl⟩

/-- **Every event** keeps the calls in shape. -/
lemma Holds.step (h : s.Holds) {e : ExecEvent} (hstep : s.step e = some t) : s.Moves e t := by
  cases e with
  | calls connected => exact h.calls hstep
  | queueTimer id => exact h.queueTimer hstep
  | own id event => exact h.own hstep
  | gives id => exact h.gives hstep

lemma Holds.of_init (h : execTransport.init s) : s.Holds := by
  obtain rfl := h
  exact ⟨nofun, rfl, Nat.zero_le _, List.nodup_nil, nofun⟩

open TransitionSystem

lemma Holds.path {es : List ExecEvent} (h : s.Holds) (hpath : execTransport.Path free s es t) :
    t.Holds :=
  hpath.invariant h fun _ _ _ hs _ hstep => (hs.step hstep).holds

lemma Holds.of_reachable {G : ExecTransport → ExecEvent → Prop}
    (h : execTransport.Reachable G s) : s.Holds :=
  h.invariant (fun _ hinit => .of_init hinit) fun _ _ _ hs _ hstep => (hs.step hstep).holds

/-! ## Coming to rest -/

lemma own_of_step {e : ExecCallEvent} (hcall : s.calls[id]? = some call)
    (hstep : call.step e = some call') :
    s.step (.own id e) = some { s with calls := s.calls.set id call' } := by
  rw [ExecTransport.step, hcall]
  show Option.map _ (call.step e) = _
  rw [hstep]
  rfl

/-- While a timer is set or a continuation is to run, it can. -/
lemma due_of_not_atRest (h : ¬ s.AtRest) : ∃ e t, e.isDue = true ∧ s.step e = some t := by
  unfold AtRest at h
  push Not at h
  obtain ⟨call, hmem, h⟩ := h
  obtain ⟨id, hcall⟩ := List.getElem?_of_mem hmem
  by_cases hqueue : call.queueTimer = true
  · exact ⟨.queueTimer id, _, rfl, by rw [ExecTransport.step, hcall]; exact if_pos hqueue⟩
  by_cases hopen : call.openTimer = true
  · exact ⟨.own id .openTimer, _, rfl, own_of_step hcall (if_pos hopen)⟩
  by_cases hcommand : call.commandTimer = true
  · exact ⟨.own id .commandTimer, _, rfl, own_of_step hcall (if_pos hcommand)⟩
  by_cases hadmitted : call.stage = .admitted
  · exact ⟨.own id (.requests false), _, rfl, own_of_step hcall (if_pos hadmitted)⟩
  · have hsettled := h (by simpa using hqueue) (by simpa using hopen) (by simpa using hcommand)
      hadmitted
    exact ⟨.gives id, _, rfl, by rw [ExecTransport.step, hcall]; exact if_pos hsettled⟩

/-- **The timers and continuations end by themselves.** -/
lemma Holds.rests (h : s.Holds) :
    ∃ es t, (∀ e ∈ es, e.isDue = true) ∧ execTransport.Path free s es t ∧ t.AtRest := by
  -- on the work that is before the calls
  induction hwork : s.work using Nat.strongRecOn generalizing s with
  | ind n ih =>
    by_cases hrest : s.AtRest
    · exact ⟨[], s, nofun, .refl, hrest⟩
    · obtain ⟨e, t, hdue, hstep⟩ := due_of_not_atRest hrest
      have hmoves := h.step hstep
      obtain ⟨es, u, hes, hpath, hrest'⟩ := ih t.work (hwork ▸ hmoves.due hdue) hmoves.holds rfl
      refine ⟨[e] ++ es, u, ?_, (Path.single trivial hstep).trans hpath, hrest'⟩
      intro e' he'
      rcases List.mem_append.mp he' with hfirst | hlater
      · exact List.mem_singleton.mp hfirst ▸ hdue
      · exact hes e' hlater

/-- **At rest** every call has ended. -/
lemma Holds.ended (h : s.Holds) (hrest : s.AtRest) (hcall : call ∈ s.calls) : call.Ended := by
  obtain ⟨hqueue, hopen, hcommand, hadmitted, hsettled⟩ := hrest call hcall
  cases h.consistent call hcall with
  | queued => cases hqueue
  | admitted => exact absurd rfl hadmitted
  | asking => cases hopen
  | running stdout stderr => cases hcommand
  | settled h => exact absurd h.stage hsettled
  | ended h => exact h

/-! ## The bound -/

lemma Holds.disposed (h : s.Holds) (hcall : call ∈ s.calls) (hchannel : call.channel = .opened) :
    call.commandTimer = true := by
  cases h.consistent call hcall with
  | queued | admitted | asking => cases hchannel
  | running stdout stderr => rfl
  | settled h => exact absurd hchannel h.isOver.channel
  | ended h => exact absurd hchannel h.isOver.channel

lemma Holds.once (h : s.Holds) (hcall : call ∈ s.calls) :
    call.outcomes.length ≤ 1 ∧ call.released ≤ call.acquired ∧ call.acquired ≤ 1 := by
  cases h.consistent call hcall with
  | queued | admitted | asking => decide
  | running stdout stderr => exact ⟨Nat.zero_le _, Nat.zero_le _, Nat.le_refl _⟩
  | settled h =>
    exact ⟨Nat.le_of_eq h.isOver.outcomes, by rw [h.released]; exact Nat.zero_le _,
      Nat.le_of_eq h.acquired⟩
  | ended h =>
    exact ⟨Nat.le_of_eq h.isOver.outcomes, Nat.le_of_eq h.released, h.acquired⟩

/-- All that is asked of the calls, the bound apart, holds in every run. -/
lemma Holds.sound_iff (h : s.Holds) : ExecSound s ↔ s.channels ≤ defaultExecConcurrency := by
  refine ⟨ExecSound.bounded, fun hbounded => ⟨hbounded, fun call hcall => h.disposed hcall,
    fun call hcall => h.once hcall, h.rests, fun es t hpath hrest call hcall => ?_⟩⟩
  have hended := (h.path hpath).ended hrest hcall
  exact ⟨hended.stage, hended.isOver.outcomes, hended.released, hended.isOver.channel⟩

end ExecTransport

/-- A channel that is asked for or open is that of a call at work or a request given up. -/
lemma ExecCall.Consistent.hasChannel_eq {call : ExecCall} (h : call.Consistent) :
    call.hasChannel.toNat = call.gaveUp.toNat + call.atWork.toNat := by
  have hover : call.Over → call.stage ≠ .awaiting →
      call.hasChannel.toNat = call.gaveUp.toNat + call.atWork.toNat := by
    intro hover hstage
    by_cases hasked : call.channel = .asked
    · simp [hasChannel, gaveUp, atWork, hasked, hstage, hover.gaveUp hasked]
    · have hnone : call.hasChannel = false := by
        rw [hasChannel, beq_eq_false_iff_ne.mpr hasked, beq_eq_false_iff_ne.mpr hover.channel]
        rfl
      rw [gaveUp, atWork, hnone, beq_eq_false_iff_ne.mpr hasked, Bool.and_false]
      rfl
  cases h with
  | queued | admitted | asking => rfl
  | running stdout stderr => rfl
  | settled h => exact hover h.isOver (by rw [h.stage]; nofun)
  | ended h => exact hover h.isOver (by rw [h.stage]; nofun)

namespace ExecTransport

variable {s t : ExecTransport} {e : ExecEvent}

lemma Holds.channels_eq (h : s.Holds) : s.channels = s.gaveUp + s.atWork := by
  have hcalls := h.consistent
  unfold channels gaveUp atWork
  generalize s.calls = calls at hcalls ⊢
  induction calls with
  | nil => rfl
  | cons call calls ih =>
    have hcall := (hcalls call List.mem_cons_self).hasChannel_eq
    have hrest := ih fun call hcall => hcalls call (List.mem_cons_of_mem _ hcall)
    have hite : ∀ b : Bool, (if b = true then 1 else 0) = b.toNat := Bool.rec rfl rfl
    simp only [List.countP_cons, hite]
    omega

/-- A call asks for a channel only where the requests that were given up and are not answered
leave room for it beside the calls at work. -/
def LeavesRoom (s : ExecTransport) (e : ExecEvent) : Prop :=
  Asks e → s.gaveUp + s.atWork < defaultExecConcurrency

lemma Holds.atWork_le (h : s.Holds) : s.atWork ≤ s.limiter.active := by
  rw [h.active]
  refine List.countP_mono_left fun call _ hwork => ?_
  have hstage : call.stage = .awaiting := eq_of_beq (Bool.and_eq_true_iff.mp hwork).1
  rw [ExecCall.holdsSlot, hstage]
  rfl

/-- **There is room** for every call that has a slot while no request has been given up. -/
theorem leavesRoom_of_answered (h : s.Holds) (hstep : s.step e = some t) (hnone : s.gaveUp = 0) :
    s.LeavesRoom e := by
  rintro ⟨id, rfl⟩
  have hwork := (h.step hstep).holds.atWork_le
  have hwithin := (h.step hstep).holds.within
  rw [ExecTransport.step] at hstep
  cases hcall : s.calls[id]? with
  | none => rw [hcall] at hstep; cases hstep
  | some call =>
    rw [hcall] at hstep
    obtain ⟨call', hown, rfl⟩ := Option.map_eq_some_iff.mp hstep
    obtain ⟨hadmitted, -⟩ := Option.ite_none_right_eq_some.mp hown
    have hcall' : call = ExecCall.waits.admission := by
      cases h.consistent call (mem_of_getElem? hcall) with
      | admitted => rfl
      | queued | asking => cases hadmitted
      | running stdout stderr => cases hadmitted
      | settled h => exact nomatch h.stage.symm.trans hadmitted
      | ended h => exact nomatch h.stage.symm.trans hadmitted
    subst hcall'
    obtain rfl : ExecCall.asking = call' := Option.some.inj hown
    -- the call that asks joins the calls at work, which hold a slot each
    have hcount : _ + 0 = _ + 1 := countP_set ExecCall.atWork hcall ExecCall.asking
    change (s.calls.set id ExecCall.asking).countP ExecCall.atWork ≤ s.limiter.active at hwork
    change s.limiter.active ≤ _ at hwithin
    show s.gaveUp + s.calls.countP ExecCall.atWork < _
    omega

end ExecTransport

open TransitionSystem ExecTransport

/-- Six calls have asked for their channels, a seventh waits, and the first gives up; its slot goes
to the seventh. -/
def givesUp : List ExecEvent :=
  (List.replicate 7 (.calls true)) ++
    [.own 0 (.requests false), .own 1 (.requests false), .own 2 (.requests false),
      .own 3 (.requests false), .own 4 (.requests false), .own 5 (.requests false),
      .own 0 .openTimer, .gives 0]

/-- The first call has its channel. -/
def answered : ExecTransport := ⟨⟨1, []⟩, [.asking]⟩

end OpenMcc
