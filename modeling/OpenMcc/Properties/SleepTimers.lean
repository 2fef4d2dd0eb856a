import OpenMcc.Construction.SleepTimers
import OpenMcc.Properties.SleepWindow

/-!
# The timers on the host are those of the stored window

When all calls for a bot have ended, and none of them failed at the host, the host has the timers
of the stored window, in every run in which

* no call's transaction commits while another call is between its first command and its end,
* no transaction fails after the host was changed, and
* no command is refused whose exit code nobody reads (`keepsApart`).

Then a call that has begun on the host either brings it to the timers of its own request before
its transaction, undisturbed, or ends no more.  `clearSleepWindow` beside `setSleepWindow` leaves
timers that no row tells of (`cleared_timers_stay`).
-/

namespace OpenMcc

open TransitionSystem

/-! ## The row and its timers -/

lemma name_injective {a b : DayOfWeek} (h : a.name = b.name) : a = b := by
  have hread : some a = some b := by rw [← readWeekday_name a, h, readWeekday_name b]
  exact Option.some.inj hread

lemma dayNames_ne_all (days : List DayOfWeek) : dayNames days ≠ "*".toList := by
  intro h
  have hmem : '*' ∈ dayNames days := by
    rw [h]
    exact List.mem_singleton_self _
  obtain hcomma | ⟨piece, hpiece, hc⟩ := Text.mem_join hmem
  · exact absurd hcomma (by decide)
  · obtain ⟨day, -, rfl⟩ := List.mem_map.1 hpiece
    have hnone : day.name.contains '*' = false := by
      cases day
      all_goals decide
    rw [List.contains_eq_mem, decide_eq_false_iff_not] at hnone
    exact hnone hc

/-- The days of a row are those it was made of. -/
lemma orderedDays_parse {days : List DayOfWeek} (hne : orderedDays days ≠ []) :
    orderedDays (parseDaysOfWeek (renderDaysOfWeek days)) = orderedDays days := by
  by_cases hall : (orderedDays days).length = daysOfWeek.length
  · have hself : orderedDays days = daysOfWeek := List.filter_sublist.eq_of_length hall
    rw [renderDaysOfWeek, if_pos hall, hself]
    rfl
  · have hparse : parseDaysOfWeek (renderDaysOfWeek days) = orderedDays days := by
      rw [renderDaysOfWeek, if_neg hall, parseDaysOfWeek, if_neg (dayNames_ne_all _),
        splitOn_dayNames hne]
      apply List.filter_congr
      intro day _
      rw [List.contains_eq_mem, List.contains_eq_mem, decide_eq_decide, List.mem_map]
      constructor
      · rintro ⟨other, hother, hname⟩
        exact name_injective hname ▸ mem_orderedDays.1 hother
      · intro hday
        exact ⟨day, mem_orderedDays.2 hday, rfl⟩
    rw [hparse]
    apply List.filter_congr
    intro day _
    rw [List.contains_eq_mem, List.contains_eq_mem, decide_eq_decide]
    exact mem_orderedDays

lemma minuteOfDay_timeOfDay (minutes : Int) : minuteOfDay (timeOfDay minutes) = minutes := by
  simp only [minuteOfDay, timeOfDay]
  omega

lemma renderOnCalendar_congr {days days' : List DayOfWeek}
    (h : orderedDays days = orderedDays days') (minutes : Int) (timezone : Text) :
    renderOnCalendar days minutes timezone = renderOnCalendar days' minutes timezone := by
  have hweekdays : calendarWeekdayPrefix days = calendarWeekdayPrefix days' := by
    rw [calendarWeekdayPrefix, calendarWeekdayPrefix, h]
  rw [renderOnCalendar, renderOnCalendar, hweekdays]

/-- A window that is rendered names a day. -/
lemma orderedDays_ne_nil {window : SleepWindowInput} {timers : SleepTimers}
    (h : renderSleepTimers window = .ok timers) : orderedDays window.daysOfWeek ≠ [] := by
  intro hnone
  have hweekdays : calendarWeekdayPrefix window.daysOfWeek =
      .error ⟨"A sleep window must name at least one day".toList⟩ := by
    rw [calendarWeekdayPrefix, hnone]
    rfl
  have hcalendar : ∀ minutes, renderOnCalendar window.daysOfWeek minutes window.timezone =
      .error ⟨"A sleep window must name at least one day".toList⟩ := by
    intro minutes
    rw [renderOnCalendar, hweekdays]
    rfl
  rw [renderSleepTimers, hcalendar] at h
  cases hid : validateInstanceId window.instanceId with
  | error e =>
    rw [hid] at h
    cases h
  | ok id =>
    rw [hid] at h
    cases h

lemma calendarWeekdayPrefix_ok {days : List DayOfWeek} (hne : orderedDays days ≠ []) :
    ∃ weekdays, calendarWeekdayPrefix days = .ok weekdays := by
  have hsome : (orderedDays days).isEmpty = false := by
    rw [List.isEmpty_eq_false_iff]
    exact hne
  simp only [calendarWeekdayPrefix, hsome]
  split
  · cases ‹false = true›
  · split
    · exact ⟨_, rfl⟩
    · exact ⟨_, rfl⟩

/-- Every window that is accepted for a bot is rendered. -/
lemma exists_renderedWindow {isKnownTimezone : Text → Bool} {window : SleepWindowInput} {id : Text}
    (haccepted : sleepWindowAccepted isKnownTimezone window = true)
    (hid : validateInstanceId window.instanceId = .ok id) :
    ∃ rendered : RenderedWindow, rendered.window = window := by
  simp only [sleepWindowAccepted, Bool.and_eq_true, decide_eq_true_eq] at haccepted
  obtain ⟨⟨⟨⟨⟨⟨⟨⟨⟨-, hdays⟩, -⟩, -⟩, -⟩, -⟩, hlength⟩, hpattern⟩, -⟩, -⟩ := haccepted
  have hne : orderedDays window.daysOfWeek ≠ [] := by
    obtain ⟨day, hday⟩ := List.exists_mem_of_length_pos hdays
    exact List.ne_nil_of_mem (mem_orderedDays.2 hday)
  obtain ⟨weekdays, hweekdays⟩ := calendarWeekdayPrefix_ok hne
  have hzone : validateTimezone window.timezone = .ok window.timezone := by
    rw [validateTimezone, hpattern, if_neg]
    simpa using hlength
  obtain ⟨timers, htimers⟩ : ∃ timers, renderSleepTimers window = .ok timers := by
    simp only [renderSleepTimers, renderOnCalendar, hid, hweekdays, hzone]
    exact ⟨_, rfl⟩
  exact ⟨⟨window, timers, htimers⟩, rfl⟩

/-- **The row of a window renders as the window does.** -/
lemma renderSleepTimers_scheduleRow (window : RenderedWindow) :
    renderSleepTimers (toSleepWindowPublic (scheduleRow window.window)) = .ok window.timers := by
  have hdays := orderedDays_parse (orderedDays_ne_nil window.rendered)
  rw [← window.rendered, renderSleepTimers, renderSleepTimers]
  simp only [toSleepWindowPublic, scheduleRow, minuteOfDay_timeOfDay,
    renderOnCalendar_congr hdays]

/-! ## What a call makes of the host -/

/-- The enabled timers have their unit files. -/
def HostTimers.WellFormed (host : HostTimers) : Prop :=
  (host.stop.enabled = true → host.stop.file ≠ none) ∧
    (host.start.enabled = true → host.start.file ≠ none)

lemma withoutTimer_eq {timer : HostTimer} (h : timer.enabled = true → timer.file ≠ none) :
    TimerCommand.withoutTimer timer = { file := none, enabled := false } := by
  obtain ⟨file, enabled⟩ := timer
  obtain _ | text := file
  · by_cases henabled : enabled = true
    · exact absurd rfl (h henabled)
    · rw [Bool.not_eq_true] at henabled
      rw [TimerCommand.withoutTimer, henabled]
      rfl
  · rw [TimerCommand.withoutTimer]
    simp

/-- **The commands of a call bring the host to what it asks for.** -/
lemma foldl_commands (request : SleepRequest) {host : HostTimers} (h : host.WellFormed) :
    request.commands.foldl TimerCommand.apply host = request.target := by
  cases request with
  | set window => rfl
  | clear => rfl
  | remove =>
    have hstop := withoutTimer_eq h.1
    have hstart := withoutTimer_eq h.2
    simp only [SleepRequest.commands, removeCommands, List.foldl_cons, List.foldl_nil,
      TimerCommand.apply, hstop, hstart]
    rfl

lemma apply_of_not_changes {command : TimerCommand} (h : command.changesTimers = false)
    (host : HostTimers) : command.apply host = host := by
  cases command with
  | reload => rfl
  | stopUnits => rfl
  | removeContainers => rfl
  | verifyGone => rfl
  | deleteDirectory => rfl
  | _ => cases h

namespace SleepState

variable {s t : SleepState}

lemma Shows.wellFormed (h : s.Shows) : s.host.WellFormed := by
  rw [Shows] at h
  split at h
  · rw [h]
    exact ⟨fun hnot => Bool.noConfusion hnot, fun hnot => Bool.noConfusion hnot⟩
  · obtain ⟨timers, -, hhost⟩ := h
    rw [hhost]
    exact ⟨fun _ => Option.some_ne_none _, fun _ => Option.some_ne_none _⟩

/-! ## The calls after a step -/

/-- No call has failed at the host. -/
def Unfailed (s : SleepState) : Prop :=
  ∀ (i : Nat) (call : SleepCall), s.calls[i]? = some call → call.failedAtHost = false

/-- No call is between its first command and its end. -/
def Quiet (s : SleepState) : Prop :=
  ∀ (i : Nat) (call : SleepCall), s.calls[i]? = some call → call.isUnderWay = false

/-- No other call is between its first command and its end. -/
def Alone (s : SleepState) (id : Nat) : Prop :=
  ∀ (i : Nat) (call : SleepCall), s.calls[i]? = some call → call.isUnderWay = true → i = id

/-- The calls are the same, but for one that has moved on. -/
structure Moved (s t : SleepState) (id : Nat) (call : SleepCall) (stage : SleepStage) : Prop where
  was : s.calls[id]? = some call
  now : t.calls[id]? = some { call with stage := stage }
  others : ∀ i, i ≠ id → t.calls[i]? = s.calls[i]?

lemma moved_moves {id : Nat} {call : SleepCall} (h : s.calls[id]? = some call)
    (stage : SleepStage) : Moved s (s.moves id stage) id call stage where
  was := h
  now := by
    rw [moves, List.getElem?_modify_eq, h]
    rfl
  others i hne := by
    rw [moves, List.getElem?_modify_ne _ _ (Ne.symm hne)]

namespace Moved

variable {id : Nat} {call : SleepCall} {stage : SleepStage}

lemma congr {s' t' : SleepState} (h : Moved s t id call stage) (hs : s'.calls = s.calls)
    (ht : t'.calls = t.calls) : Moved s' t' id call stage where
  was := hs ▸ h.was
  now := ht ▸ h.now
  others i hne := by
    rw [hs, ht]
    exact h.others i hne

/-- A call that had not failed leaves the run as it was in that. -/
lemma unfailed (h : Moved s t id call stage) (hok : call.failedAtHost = false)
    (ht : t.Unfailed) : s.Unfailed := by
  intro i other hother
  by_cases hne : i = id
  · subst hne
    obtain rfl := Option.some.inj (h.was.symm.trans hother)
    exact hok
  · exact ht i other ((h.others i hne).trans hother)

lemma not_unfailed (h : Moved s t id call stage)
    (hfailed : SleepCall.failedAtHost { call with stage := stage } = true) : ¬t.Unfailed := by
  intro ht
  have hok := ht id _ h.now
  rw [hfailed] at hok
  cases hok

/-- Where the call was not under way, the run was as quiet. -/
lemma quiet (h : Moved s t id call stage) (hidle : call.isUnderWay = false) (ht : t.Quiet) :
    s.Quiet := by
  intro i other hother
  by_cases hne : i = id
  · subst hne
    obtain rfl := Option.some.inj (h.was.symm.trans hother)
    exact hidle
  · exact ht i other ((h.others i hne).trans hother)

/-- Where the call was not under way, another was as alone. -/
lemma alone (h : Moved s t id call stage) (hidle : call.isUnderWay = false) {j : Nat}
    (ht : t.Alone j) : s.Alone j := by
  intro i other hother hunder
  by_cases hne : i = id
  · subst hne
    obtain rfl := Option.some.inj (h.was.symm.trans hother)
    rw [hidle] at hunder
    cases hunder
  · exact ht i other ((h.others i hne).trans hother) hunder

/-- The other calls run what they ran. -/
lemma running (h : Moved s t id call stage) (hstage : ∀ rest, stage ≠ .running rest) {j : Nat}
    {other : SleepCall} {rest : List TimerCommand} (hother : t.calls[j]? = some other)
    (hrunning : other.stage = .running rest) : s.calls[j]? = some other := by
  by_cases hne : j = id
  · subst hne
    obtain rfl := Option.some.inj (h.now.symm.trans hother)
    exact absurd hrunning (hstage rest)
  · exact (h.others j hne).symm.trans hother

end Moved

/-! ## The invariant -/

/-- What holds while no call has failed at the host: a quiet host shows the row, and a call that is
alone under way is on the way to what it asks for. -/
structure TimersKept (s : SleepState) : Prop where
  shows : s.Unfailed → s.Quiet → s.Shows
  finishes : s.Unfailed → ∀ (id : Nat) (call : SleepCall) rest, s.calls[id]? = some call →
    call.stage = .running rest → s.Alone id →
    rest.foldl TimerCommand.apply s.host = call.request.target
  removed : s.instanceExists = false → s.schedule = none

/-- Nothing holds of the host once a call has failed there. -/
lemma TimersKept.of_failed (hfailed : ¬s.Unfailed)
    (hremoved : s.instanceExists = false → s.schedule = none) : TimersKept s where
  shows h := absurd h hfailed
  finishes h := absurd h hfailed
  removed := hremoved

/-- A step that leaves host, row and bot alone, of a call that has not begun on the host. -/
lemma TimersKept.idle (h : TimersKept s) {id : Nat} {call : SleepCall} {stage : SleepStage}
    (hmoved : Moved s t id call stage) (hhost : t.host = s.host)
    (hschedule : t.schedule = s.schedule) (hexists : t.instanceExists = s.instanceExists)
    (hidle : call.isUnderWay = false) (hok : call.failedAtHost = false)
    (hstage : ∀ rest, stage ≠ .running rest) : TimersKept t where
  shows hunfailed hquiet := by
    have hshows := h.shows (hmoved.unfailed hok hunfailed) (hmoved.quiet hidle hquiet)
    rw [Shows, hschedule, hhost]
    exact hshows
  finishes hunfailed j other rest hother hrunning halone := by
    rw [hhost]
    exact h.finishes (hmoved.unfailed hok hunfailed) j other rest
      (hmoved.running hstage hother hrunning) hrunning (hmoved.alone hidle halone)
  removed hgone := by
    rw [hschedule]
    exact h.removed (hexists ▸ hgone)

/-- A call that has failed and goes on has failed. -/
lemma failedAtHost_ran {call : SleepCall} {command : TimerCommand} {left : List TimerCommand}
    (hcommands : call.commands = command :: left) (hfailed : call.failedAtHost = true)
    (rest : List TimerCommand) :
    SleepCall.failedAtHost { call with stage := call.ran rest } = true := by
  obtain ⟨request, stage⟩ := call
  cases stage with
  | restoring left => rfl
  | ended failed => cases hcommands
  | undoing => cases hcommands
  | _ => cases hfailed

/-- **A command that succeeds.**  The call that runs it is under way, and where it is alone there
the rest of its commands will do. -/
lemma TimersKept.ran (h : TimersKept s) {id : Nat} {call : SleepCall} {command : TimerCommand}
    {rest : List TimerCommand} (hmoved : Moved s t id call (call.ran rest))
    (hcommands : call.commands = command :: rest) (hhost : t.host = command.apply s.host)
    (hschedule : t.schedule = s.schedule) (hexists : t.instanceExists = s.instanceExists) :
    TimersKept t := by
  have hremoved : t.instanceExists = false → t.schedule = none := by
    intro hgone
    rw [hschedule]
    exact h.removed (hexists ▸ hgone)
  by_cases hok : call.failedAtHost = true
  · have hstays := failedAtHost_ran hcommands hok rest
    exact TimersKept.of_failed (hmoved.not_unfailed hstays) hremoved
  · rw [Bool.not_eq_true] at hok
    have hstage : call.ran rest = .running rest ∧
        (call.stage = .ready ∧ call.request.commands = command :: rest ∨
          call.stage = .running (command :: rest)) := by
      obtain ⟨request, stage⟩ := call
      cases stage with
      | ready => exact ⟨rfl, .inl ⟨rfl, hcommands⟩⟩
      | running left => exact ⟨rfl, .inr (congrArg SleepStage.running hcommands)⟩
      | restoring left => cases hok
      | _ => cases hcommands
    obtain ⟨hran, hwas⟩ := hstage
    rw [hran] at hmoved
    have hunder : SleepCall.isUnderWay { call with stage := .running rest } = true := rfl
    refine ⟨fun hunfailed hquiet => ?_, fun hunfailed j other left hother hrunning halone => ?_,
      hremoved⟩
    · have hnot := hquiet id _ hmoved.now
      rw [hunder] at hnot
      cases hnot
    · obtain rfl := halone id _ hmoved.now hunder
      obtain rfl := Option.some.inj (hmoved.now.symm.trans hother)
      obtain rfl := SleepStage.running.inj hrunning
      have hfine := hmoved.unfailed hok hunfailed
      rw [hhost]
      obtain ⟨hready, hprogram⟩ | hrunning := hwas
      · -- The first command: the host was quiet, and showed the row.
        have hquiet : s.Quiet := by
          intro i other hi
          by_cases hne : i = id
          · subst hne
            obtain rfl := Option.some.inj (hmoved.was.symm.trans hi)
            rw [SleepCall.isUnderWay, hready]
          · rw [← hmoved.others i hne] at hi
            by_contra hnot
            rw [Bool.not_eq_false] at hnot
            exact hne (halone i other hi hnot)
        have hall := foldl_commands call.request (h.shows hfine hquiet).wellFormed
        rw [hprogram] at hall
        exact hall
      · have halone' : s.Alone id := by
          intro i other hi hunder'
          by_contra hne
          rw [← hmoved.others i hne] at hi
          exact hne (halone i other hi hunder')
        exact h.finishes hfine id call (command :: rest) hmoved.was hrunning halone'

/-! ## Steps -/

/-- A call begins, and has run nothing. -/
lemma TimersKept.begins (h : TimersKept s) (request : SleepRequest) :
    TimersKept (s.begins request) := by
  have hfresh : ∃ stage,
      (s.begins request).calls = s.calls ++ [{ request := request, stage := stage }] ∧
      SleepCall.isUnderWay { request := request, stage := stage } = false := by
    refine ⟨_, rfl, ?_⟩
    cases s.instanceExists
    · rfl
    · cases request
      · rfl
      · rfl
      · rfl
  obtain ⟨stage, hcalls, hidle⟩ := hfresh
  have hold : ∀ {i : Nat} {call : SleepCall}, s.calls[i]? = some call →
      (s.begins request).calls[i]? = some call := by
    intro i call hcall
    obtain ⟨hlt, -⟩ := List.getElem?_eq_some_iff.1 hcall
    rw [hcalls, List.getElem?_append_left hlt]
    exact hcall
  have hunfailed : (s.begins request).Unfailed → s.Unfailed :=
    fun ht i call hcall => ht i call (hold hcall)
  refine ⟨fun ht hquiet => ?_, fun ht id call rest hcall hrunning halone => ?_, h.removed⟩
  · exact h.shows (hunfailed ht) fun i call hcall => hquiet i call (hold hcall)
  · have hwas : s.calls[id]? = some call := by
      rw [hcalls, List.getElem?_append] at hcall
      split at hcall
      · exact hcall
      · rw [List.getElem?_singleton] at hcall
        split at hcall
        · obtain rfl := Option.some.inj hcall
          rw [SleepCall.isUnderWay, hrunning] at hidle
          cases hidle
        · cases hcall
    exact h.finishes (hunfailed ht) id call rest hwas hrunning
      fun i other hother => halone i other (hold hother)

/-- **A transaction that commits.**  Its call is alone under way and has no command left, so the
host has what the row will say. -/
lemma TimersKept.commits (h : TimersKept s) {id : Nat} (halone : s.Alone id)
    (hstep : s.commits id = some t) : TimersKept t := by
  unfold SleepState.commits at hstep
  split at hstep
  · cases hstep
  · next call hcall =>
    split at hstep
    · next hstage =>
      rw [Option.map_eq_some_iff] at hstep
      obtain ⟨u, hstored, rfl⟩ := hstep
      have hok : call.failedAtHost = false := by rw [SleepCall.failedAtHost, hstage]
      have hkeeps : u.host = s.host ∧ u.calls = s.calls ∧
          (s.host = call.request.target → u.Shows) ∧
          (u.instanceExists = false → u.schedule = none) := by
        cases hrequest : call.request with
        | set window =>
          rw [hrequest, stores, Option.ite_none_right_eq_some] at hstored
          obtain ⟨hexists, hu⟩ := hstored
          obtain rfl := Option.some.inj hu
          refine ⟨rfl, rfl, fun hhost => ?_, fun hgone => ?_⟩
          · exact ⟨window.timers, renderSleepTimers_scheduleRow window, hhost⟩
          · exact absurd (hexists.symm.trans hgone) (by decide)
        | clear =>
          rw [hrequest] at hstored
          obtain rfl := Option.some.inj hstored
          exact ⟨rfl, rfl, fun hhost => hhost, fun _ => rfl⟩
        | remove =>
          rw [hrequest, stores, Option.ite_none_right_eq_some] at hstored
          obtain ⟨-, hu⟩ := hstored
          obtain rfl := Option.some.inj hu
          exact ⟨rfl, rfl, fun hhost => hhost, fun _ => rfl⟩
      obtain ⟨hhost, hcalls, hshows, hremoved⟩ := hkeeps
      have hmoved : Moved s (u.moves id (.ended false)) id call (.ended false) :=
        (moved_moves (hcalls ▸ hcall) _).congr hcalls.symm rfl
      refine ⟨fun ht _ => ?_, fun _ j other rest hother hrunning _ => ?_, hremoved⟩
      · have hdone := h.finishes (hmoved.unfailed hok ht) id call [] hcall hstage halone
        exact hshows hdone
      · -- Another call would be under way beside it.
        have hwas := hmoved.running (fun _ hnot => SleepStage.noConfusion hnot) hother hrunning
        have hunder : other.isUnderWay = true := by rw [SleepCall.isUnderWay, hrunning]
        obtain rfl := halone j other hwas hunder
        obtain rfl := Option.some.inj (hmoved.now.symm.trans hother)
        cases hrunning
    · cases hstep

end SleepState

/-- The command that a call would run next changes the timers, and its exit code is not read. -/
def SleepCall.passesOver (call : SleepCall) : Bool :=
  !call.failedAtHost && call.commands.head?.any fun command =>
    !command.isChecked && command.changesTimers

/-- No transaction commits while another call is between its first command and its end, none fails
after its call has changed the host, and no command is refused whose exit code nobody reads. -/
def keepsApart (s : SleepState) : SleepEvent → Bool
  | .commits id => (List.range s.calls.length).all fun i =>
      i == id || !s.calls[i]?.any SleepCall.isUnderWay
  | .storeFails _ => false
  | .refused id _ => !s.calls[id]?.any SleepCall.passesOver
  | _ => true

namespace SleepState

variable {s t : SleepState} {instanceId : Text}

lemma alone_of_keepsApart {id : Nat} (h : keepsApart s (.commits id) = true) : s.Alone id := by
  intro i call hcall hunder
  obtain ⟨hlt, -⟩ := List.getElem?_eq_some_iff.1 hcall
  have hall := List.all_eq_true.1 h i (List.mem_range.2 hlt)
  simpa [hcall, hunder] using hall

/-- A call that fails at the host has failed there. -/
lemma failedAtHost_fails (call : SleepCall) (unreachable : Bool) :
    SleepCall.failedAtHost { call with stage := call.failsAtHost unreachable } = true := by
  obtain ⟨request, stage⟩ := call
  cases stage with
  | restoring rest => rfl
  | _ =>
    cases request with
    | set window =>
      cases unreachable
      · rfl
      · rfl
    | _ => rfl

lemma leaves_spec (s : SleepState) (command : TimerCommand) (left : HostTimers) :
    (s.leaves command left).schedule = s.schedule ∧
      (s.leaves command left).instanceExists = s.instanceExists ∧
      (s.leaves command left).calls = s.calls := by
  unfold leaves
  split
  · exact ⟨rfl, rfl, rfl⟩
  · exact ⟨rfl, rfl, rfl⟩

lemma TimersKept.refused (h : TimersKept s) {id : Nat} {left : HostTimers}
    (hguard : keepsApart s (.refused id left) = true) (hstep : s.refused id left = some t) :
    TimersKept t := by
  unfold SleepState.refused at hstep
  split at hstep
  · cases hstep
  · next call hcall =>
    split at hstep
    · cases hstep
    · next command rest hcommands =>
      obtain ⟨hschedule, hexists, hcalls⟩ := s.leaves_spec command left
      have hremoved : (s.leaves command left).instanceExists = false →
          (s.leaves command left).schedule = none := by
        rw [hschedule, hexists]
        exact h.removed
      have hmoved : ∀ stage, Moved s ((s.leaves command left).moves id stage) id call stage :=
        fun stage => (moved_moves (hcalls ▸ hcall) stage).congr hcalls.symm rfl
      split at hstep
      · obtain rfl := Option.some.inj hstep
        have hfails : Moved s (((s.leaves command left).moves id
            (call.failsAtHost false)).releases id) id call (call.failsAtHost false) :=
          (hmoved _).congr rfl rfl
        exact TimersKept.of_failed (hfails.not_unfailed (failedAtHost_fails call false)) hremoved
      · next hunread =>
        obtain rfl := Option.some.inj hstep
        by_cases hfailed : call.failedAtHost = true
        · have hstays := failedAtHost_ran hcommands hfailed rest
          exact TimersKept.of_failed ((hmoved _).not_unfailed hstays) hremoved
        · have hsame : command.changesTimers = false := by
            simp only [keepsApart, hcall, Option.any_some, SleepCall.passesOver, hcommands,
              List.head?_cons] at hguard
            simpa [hfailed, hunread] using hguard
          have hleft : s.leaves command left = s := by rw [leaves, hsame]; rfl
          rw [hleft] at hmoved ⊢
          exact h.ran (hmoved _) hcommands (apply_of_not_changes hsame s.host).symm rfl rfl

/-- **Each step keeps the invariant.** -/
lemma TimersKept.step (h : TimersKept s) {e : SleepEvent} (hguard : keepsApart s e = true)
    (hstep : (sleepSystem instanceId).step s e = some t) : TimersKept t := by
  cases e with
  | begins request =>
    cases request with
    | set window =>
      obtain ⟨-, ht⟩ := Option.ite_none_right_eq_some.1 hstep
      exact Option.some.inj ht ▸ h.begins (.set window)
    | clear => exact Option.some.inj hstep ▸ h.begins .clear
    | remove => exact Option.some.inj hstep ▸ h.begins .remove
  | claims id granted =>
    have hclaims : s.claims id granted = some t := hstep
    unfold SleepState.claims at hclaims
    split at hclaims
    · cases hclaims
    · next call hcall =>
      split at hclaims
      · cases hclaims
      · next hstage =>
        rw [ne_eq, not_not] at hstage
        have hidle : call.isUnderWay = false := by rw [SleepCall.isUnderWay, hstage]
        have hok : call.failedAtHost = false := by rw [SleepCall.failedAtHost, hstage]
        split at hclaims
        · obtain rfl := Option.some.inj hclaims
          exact h.idle (moved_moves hcall _) rfl rfl rfl hidle hok
            fun _ hnot => SleepStage.noConfusion hnot
        · split at hclaims
          · obtain rfl := Option.some.inj hclaims
            have hmoved := (moved_moves hcall .ready).congr rfl
              (rfl : (SleepState.moves { s with claim := some id } id .ready).calls = _)
            exact h.idle hmoved rfl rfl rfl hidle hok fun _ hnot => SleepStage.noConfusion hnot
          · cases hclaims
  | connectFails id =>
    have hfails : s.connectFails id = some t := hstep
    unfold SleepState.connectFails at hfails
    split at hfails
    · cases hfails
    · next call hcall =>
      split at hfails
      · obtain rfl := Option.some.inj hfails
        have hmoved := (moved_moves hcall (.ended true)).congr rfl
          (rfl : ((s.moves id (.ended true)).releases id).calls = _)
        exact TimersKept.of_failed (hmoved.not_unfailed rfl) h.removed
      · cases hfails
  | succeeds id =>
    have hsucceeds : s.succeeds id = some t := hstep
    unfold SleepState.succeeds at hsucceeds
    split at hsucceeds
    · cases hsucceeds
    · next call hcall =>
      split at hsucceeds
      · cases hsucceeds
      · next command rest hcommands =>
        split at hsucceeds
        · obtain rfl := Option.some.inj hsucceeds
          have hmoved := (moved_moves hcall (call.ran rest)).congr rfl
            (rfl : (SleepState.moves { s with host := command.apply s.host } id
              (call.ran rest)).calls = _)
          exact h.ran hmoved hcommands rfl rfl rfl
        · cases hsucceeds
  | refused id left => exact h.refused hguard hstep
  | unreachable id left =>
    have hlost : s.unreachable id left = some t := hstep
    unfold SleepState.unreachable at hlost
    split at hlost
    · cases hlost
    · next call hcall =>
      split at hlost
      · cases hlost
      · next command rest hcommands =>
        obtain rfl := Option.some.inj hlost
        obtain ⟨hschedule, hexists, hcalls⟩ := s.leaves_spec command left
        have hmoved : Moved s _ id call (call.failsAtHost true) :=
          (moved_moves (hcalls ▸ hcall) (call.failsAtHost true)).congr hcalls.symm rfl
        refine TimersKept.of_failed (hmoved.not_unfailed (failedAtHost_fails call true)) ?_
        intro hgone
        exact hschedule.trans (h.removed (hexists.symm.trans hgone))
  | reads id =>
    have hreads : s.reads id = some t := hstep
    unfold SleepState.reads at hreads
    split at hreads
    · cases hreads
    · next call hcall =>
      split at hreads
      · obtain rfl := Option.some.inj hreads
        exact TimersKept.of_failed ((moved_moves hcall _).not_unfailed rfl) h.removed
      · cases hreads
  | throws id =>
    have hthrows : s.throws id = some t := hstep
    unfold SleepState.throws at hthrows
    split at hthrows
    · cases hthrows
    · next call hcall =>
      split at hthrows
      · obtain rfl := Option.some.inj hthrows
        exact TimersKept.of_failed ((moved_moves hcall _).not_unfailed rfl) h.removed
      · cases hthrows
  | commits id => exact h.commits (alone_of_keepsApart hguard) hstep
  | storeFails id => cases hguard

lemma timersKept_of_run (h : (sleepSystem instanceId).Reachable (meets keepsApart) s) :
    TimersKept s := by
  refine h.invariant (I := TimersKept) (fun s hs => ?_) fun t e u ht hguard hstep =>
    ht.step hguard hstep
  obtain ⟨hcalls, hshows, hexists⟩ := hs
  refine ⟨fun _ _ => hshows, fun _ id call rest hcall => ?_, fun hgone => ?_⟩
  · rw [hcalls] at hcall
    cases hcall
  · rw [hexists] at hgone
    cases hgone

end SleepState

/-- **The timers on the host are those of the stored window.**  In every run whose steps keep the
calls apart, whenever all calls have ended and none failed at the host. -/
theorem timers_match {instanceId : Text} {s : SleepState}
    (h : (sleepSystem instanceId).Reachable (meets keepsApart) s) : s.TimersMatch := by
  intro hended hunfailed
  have hkept := SleepState.timersKept_of_run h
  have hquiet : s.Quiet := by
    intro i call hcall
    have hend := hended call (List.mem_of_getElem? hcall)
    obtain ⟨request, stage⟩ := call
    cases stage with
    | ended failed => rfl
    | _ => cases hend
  have hshows : s.Shows :=
    hkept.shows (fun i call hcall => hunfailed call (List.mem_of_getElem? hcall)) hquiet
  refine ⟨hshows, fun hgone => ?_⟩
  rw [SleepState.Shows, hkept.removed hgone] at hshows
  exact hshows

/-- A window of every night, and its timers. -/
def nightly : RenderedWindow where
  window := everyNight
  timers := _
  rendered := rfl

/-- A bot without a sleep window. -/
def unscheduledBot : SleepState where
  host := .bare
  schedule := none
  instanceExists := true
  claim := none
  calls := []

/-- A window is set, and its timers are on the host. -/
theorem timers_match_nightly : ∃ s, (sleepSystem "bot".toList).exec unscheduledBot
    [.begins (.set nightly), .succeeds 0, .succeeds 0, .succeeds 0, .succeeds 0, .succeeds 0,
      .commits 0] = some s ∧ s.schedule = some (scheduleRow everyNight) ∧ s.TimersMatch := by
  obtain ⟨s, hexec, hrun, hrow⟩ : ∃ s, (sleepSystem "bot".toList).exec unscheduledBot
      [.begins (.set nightly), .succeeds 0, .succeeds 0, .succeeds 0, .succeeds 0, .succeeds 0,
        .commits 0] = some s ∧
      (sleepSystem "bot".toList).execUnder keepsApart unscheduledBot
        [.begins (.set nightly), .succeeds 0, .succeeds 0, .succeeds 0, .succeeds 0, .succeeds 0,
          .commits 0] = some s ∧ s.schedule = some (scheduleRow everyNight) :=
    ⟨_, rfl, rfl, rfl⟩
  have hinit : (sleepSystem "bot".toList).init unscheduledBot := ⟨rfl, rfl, rfl⟩
  exact ⟨s, hexec, hrow, timers_match (.of_execUnder hinit hrun)⟩

/-- One operator clears the window while another sets one.  The clearing is the first on the host
and the last in the store, so the timers stay, and no row tells of them. -/
theorem cleared_timers_stay :
    ¬∀ s, (sleepSystem "bot".toList).Reachable free s → s.TimersMatch := by
  intro hclaim
  obtain ⟨s, hexec, hcalls, hschedule, hhost⟩ : ∃ s,
      (sleepSystem "bot".toList).exec unscheduledBot
        [.begins .clear, .begins (.set nightly), .succeeds 0, .succeeds 0, .succeeds 0,
          .succeeds 0, .succeeds 0, .succeeds 1, .succeeds 1, .succeeds 1, .succeeds 1,
          .succeeds 1, .commits 1, .commits 0] = some s ∧
      s.calls = [{ request := .clear, stage := .ended false },
        { request := .set nightly, stage := .ended false }] ∧
      s.schedule = none ∧ s.host.stop.enabled = true :=
    ⟨_, rfl, rfl, rfl, rfl⟩
  have hinit : (sleepSystem "bot".toList).init unscheduledBot := ⟨rfl, rfl, rfl⟩
  have hended : ∀ call ∈ s.calls, call.hasEnded = true ∧ call.failedAtHost = false := by
    rw [hcalls]
    intro call hcall
    obtain rfl | hcall := List.mem_cons.1 hcall
    · exact ⟨rfl, rfl⟩
    · obtain rfl := List.mem_singleton.1 hcall
      exact ⟨rfl, rfl⟩
  have hmatch := (hclaim s (.of_exec hinit hexec) (fun call hcall => (hended call hcall).1)
    fun call hcall => (hended call hcall).2).1
  rw [SleepState.Shows, hschedule] at hmatch
  have hbare : s.host = .bare := hmatch
  rw [hbare] at hhost
  cases hhost

end OpenMcc
