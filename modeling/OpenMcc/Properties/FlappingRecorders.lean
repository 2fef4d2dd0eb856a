import OpenMcc.Construction.FlappingRecorders
import OpenMcc.Framework.Heap

/-!
# Flappings are rare and founded

The condition keeps the time of the latest flapping, and whoever writes one holds the condition
until the flapping is committed.  So a flapping that is claimed is later than all that are recorded
by `FLAPPING_WINDOW_MS`, whatever the other recorders do meanwhile, and the losses that it was
claimed for are still there (`flappings_founded`).
-/

namespace OpenMcc

open TransitionSystem

/-! ## Events that are added -/

section Events

variable {events more : List StatusEventRow} {time : Int}

lemma flappingTimes_append (events more : List StatusEventRow) :
    flappingTimes (events ++ more) = flappingTimes events ++ flappingTimes more := by
  simp [flappingTimes]

lemma flappingTimes_singleton {row : StatusEventRow} (h : row.kind ≠ .instanceFlapping) :
    flappingTimes [row] = [] := by
  simp [flappingTimes, h]

lemma lossesUntil_append (events more : List StatusEventRow) (time : Int) :
    lossesUntil (events ++ more) time = lossesUntil events time ++ lossesUntil more time := by
  simp [lossesUntil]

/-- The losses that are counted are recorded. -/
lemma threshold_of_isFlapping {rows : StatusRows}
    (h : isFlapping (rows.recentLossesAt (time - flappingWindowMs) time flappingLossEvents) time =
      true) : flappingThreshold ≤ (lossesUntil rows.events time).length := by
  have hcounted := of_decide_eq_true h
  have hall := List.length_filter_le (fun at' => decide (time - at' ≤ flappingWindowMs))
    (rows.recentLossesAt (time - flappingWindowMs) time flappingLossEvents)
  rw [StatusRows.recentLossesAt, List.length_map] at hall
  exact Nat.le_trans hcounted hall

end Events

/-! ## The rows that a transaction sees -/

/-- The flappings are founded, and none is later than the one the condition keeps. -/
structure FlappingSound (rows : StatusRows) : Prop where
  founded : FlappingsFounded rows.events
  latest : ∀ time ∈ flappingTimes rows.events, ∃ condition last, rows.condition = some condition ∧
    condition.lastFlappedAt = some last ∧ time ≤ last

/-- What a transaction knows when it has counted the losses, and when it has claimed. -/
def StageSound (rows : StatusRows) : FlappingStage → Prop
  | .claiming change => flappingThreshold ≤ (lossesUntil rows.events change.time).length
  | .flapping change =>
    flappingThreshold ≤ (lossesUntil rows.events change.time).length ∧
      (∃ condition, rows.condition = some condition ∧
        condition.lastFlappedAt = some change.time) ∧
      ∀ time ∈ flappingTimes rows.events, time + flappingWindowMs ≤ change.time
  | _ => True

section Rows

variable {rows rows' : StatusRows} {row : StatusEventRow}

/-- Events that are no flappings add nothing but losses. -/
lemma FlappingSound.more (h : FlappingSound rows) {before after : List StatusEventRow}
    (hevents : rows.events = before ++ after) {between : List StatusEventRow}
    (hbetween : flappingTimes between = []) (hrows : rows'.events = before ++ between ++ after)
    (hcondition : rows'.condition = rows.condition) : FlappingSound rows' := by
  have htimes : flappingTimes rows'.events = flappingTimes rows.events := by
    rw [hrows, hevents, flappingTimes_append, flappingTimes_append, hbetween, List.append_nil,
      ← flappingTimes_append]
  refine ⟨⟨?_, fun time htime => ?_⟩, fun time htime => ?_⟩
  · rw [htimes]
    exact h.founded.apart
  · rw [htimes] at htime
    refine Nat.le_trans (h.founded.losses time htime) ?_
    rw [hrows, hevents, lossesUntil_append, lossesUntil_append, lossesUntil_append,
      List.length_append, List.length_append, List.length_append]
    omega
  · rw [htimes] at htime
    rw [hcondition]
    exact h.latest time htime

/-- The losses a transaction has counted stay, and a claim goes by the flappings as well. -/
lemma StageSound.more {stage : FlappingStage} (h : StageSound rows stage)
    {before after : List StatusEventRow} (hevents : rows.events = before ++ after)
    {between : List StatusEventRow} (hrows : rows'.events = before ++ between ++ after)
    (hflapping : ∀ change, stage = .flapping change →
      flappingTimes between = [] ∧ rows'.condition = rows.condition) : StageSound rows' stage := by
  have hlosses : ∀ time, (lossesUntil rows.events time).length ≤
      (lossesUntil rows'.events time).length := by
    intro time
    rw [hrows, hevents, lossesUntil_append, lossesUntil_append, lossesUntil_append,
      List.length_append, List.length_append, List.length_append]
    omega
  cases stage with
  | claiming change => exact Nat.le_trans h (hlosses _)
  | flapping change =>
    obtain ⟨hbetween, hcondition⟩ := hflapping change rfl
    refine ⟨Nat.le_trans h.1 (hlosses _), ?_, ?_⟩
    · rw [hcondition]
      exact h.2.1
    · rw [hrows, flappingTimes_append, flappingTimes_append, hbetween, List.append_nil,
        ← flappingTimes_append, ← hevents]
      exact h.2.2
  | next => trivial
  | recorded change => trivial
  | upserting change => trivial

/-- **A flapping that was claimed** is recorded after all others. -/
lemma FlappingSound.flaps {change : ConnectionChange} (h : FlappingSound rows)
    (hstage : StageSound rows (.flapping change)) (hkind : row.kind = .instanceFlapping)
    (htime : row.occurredAt = change.time) (hevents : rows'.events = rows.events ++ [row])
    (hcondition : rows'.condition = rows.condition) : FlappingSound rows' := by
  obtain ⟨hlosses, ⟨condition, hrow, hlast⟩, hearlier⟩ := hstage
  have htimes : flappingTimes rows'.events = flappingTimes rows.events ++ [change.time] := by
    rw [hevents, flappingTimes_append]
    simp [flappingTimes, hkind, htime]
  have hgrows : ∀ time, (lossesUntil rows.events time).length ≤
      (lossesUntil rows'.events time).length := by
    intro time
    rw [hevents, lossesUntil_append, List.length_append]
    omega
  refine ⟨⟨?_, fun time hmem => ?_⟩, fun time hmem => ?_⟩
  · rw [htimes, List.pairwise_append]
    refine ⟨h.founded.apart, List.pairwise_singleton _ _, fun earlier hmem later hlater => ?_⟩
    rw [List.mem_singleton.1 hlater]
    exact hearlier earlier hmem
  · rw [htimes, List.mem_append] at hmem
    obtain hmem | hmem := hmem
    · exact Nat.le_trans (h.founded.losses time hmem) (hgrows time)
    · rw [List.mem_singleton.1 hmem]
      exact Nat.le_trans hlosses (hgrows _)
  · rw [hcondition]
    refine ⟨condition, change.time, hrow, hlast, ?_⟩
    rw [htimes, List.mem_append] at hmem
    obtain hmem | hmem := hmem
    · have hle := hearlier time hmem
      unfold flappingWindowMs at hle
      omega
    · exact Int.le_of_eq (List.mem_singleton.1 hmem)

/-- **A claim is granted** only after all flappings that are recorded. -/
lemma claimFlapping_sound {claimed : StatusRows} {change : ConnectionChange}
    (h : FlappingSound rows) (hlosses : StageSound rows (.claiming change))
    (hclaim : rows.claimFlapping change.time flappingWindowMs = some claimed)
    (hevents : rows'.events = rows.events) (hcondition : rows'.condition = claimed.condition) :
    FlappingSound rows' ∧ StageSound rows' (.flapping change) := by
  have hclaimed : ∃ condition, claimed.condition = some condition ∧
      condition.lastFlappedAt = some change.time ∧
      ∀ time ∈ flappingTimes rows.events, time + flappingWindowMs ≤ change.time := by
    unfold StatusRows.claimFlapping at hclaim
    split at hclaim
    · cases hclaim
    · next condition hbefore =>
      split at hclaim
      · next hnever =>
        obtain rfl := Option.some.inj hclaim
        refine ⟨_, rfl, rfl, fun time htime => ?_⟩
        obtain ⟨kept, last, hkept, hlast, -⟩ := h.latest time htime
        rw [hbefore, Option.some.injEq] at hkept
        rw [← hkept, hnever] at hlast
        cases hlast
      · next lastFlappedAt hlast =>
        rw [Option.ite_none_right_eq_some] at hclaim
        obtain ⟨hcooled, hclaim⟩ := hclaim
        obtain rfl := Option.some.inj hclaim
        refine ⟨_, rfl, rfl, fun time htime => ?_⟩
        obtain ⟨kept, last, hkept, hlast', hle⟩ := h.latest time htime
        rw [hbefore, Option.some.injEq] at hkept
        rw [← hkept, hlast, Option.some.injEq] at hlast'
        omega
  obtain ⟨condition, hrow, hlast, hearlier⟩ := hclaimed
  refine ⟨⟨?_, fun time htime => ?_⟩, ?_, ⟨condition, hcondition.trans hrow, hlast⟩, ?_⟩
  · rw [hevents]
    exact h.founded
  · rw [hevents] at htime
    refine ⟨condition, change.time, hcondition.trans hrow, hlast, ?_⟩
    have hle := hearlier time htime
    unfold flappingWindowMs at hle
    omega
  · rw [hevents]
    exact hlosses
  · rw [hevents]
    exact hearlier

end Rows

/-! ## Any number of recorders -/

/-- No signal is a flapping. -/
lemma event_ne_flapping {toLowerCase : Text → Text} {signals : List ConnectionSignal} :
    ∀ {state : ConnectionState} {change : ConnectionChange},
      change ∈ changesFromSignals toLowerCase state signals →
        change.event ≠ some .instanceFlapping := by
  have hone : ∀ {state signal change}, changeFromSignal toLowerCase state signal = some change →
      change.event ≠ some .instanceFlapping := by
    intro state signal change h
    unfold changeFromSignal at h
    split at h <;> rw [Option.ite_none_left_eq_some] at h <;> obtain ⟨-, h⟩ := h <;> cases h <;>
      simp <;> split <;> simp
  induction signals with
  | nil =>
    intro state change hmem
    cases hmem
  | cons signal signals ih =>
    intro state change hmem
    unfold changesFromSignals at hmem
    split at hmem
    · exact ih hmem
    · next first hfirst =>
      obtain rfl | hmem := List.mem_cons.1 hmem
      · exact hone hfirst
      · exact ih hmem

namespace FlappingState

/-- What holds of each transaction: what it sees is sound, and unless it holds the condition it
has neither written it nor stored a flapping. -/
structure RecorderSound (s : FlappingState) (r : Nat) (recorder : FlappingRecorder) : Prop where
  sound : FlappingSound (s.view recorder)
  stage : StageSound (s.view recorder) recorder.stage
  lock : s.conditionLock ≠ some r → recorder.condition = none ∧
    flappingTimes recorder.events = [] ∧ ∀ change, recorder.stage ≠ .flapping change
  signals : ∀ change ∈ recorder.changes, change.event ≠ some .instanceFlapping

/-- What the committed rows and each transaction show is sound. -/
structure Sound (s : FlappingState) : Prop where
  rows : FlappingSound s.rows
  recorders : ∀ r recorder, s.recorders r = some recorder → s.RecorderSound r recorder

variable {s t : FlappingState} {r : Nat} {recorder after : FlappingRecorder}

/-- A transaction moves on, and keeps the condition or takes it. -/
lemma Sound.move (h : s.Sound) (hrows : t.rows = s.rows)
    (hrecorders : t.recorders = Function.update s.recorders r (some after))
    (hlock : t.conditionLock = s.conditionLock ∨ s.conditionFree r = true)
    (hafter : t.RecorderSound r after) : t.Sound := by
  refine ⟨hrows ▸ h.rows, fun other recorder hother => ?_⟩
  rw [hrecorders] at hother
  obtain ⟨heq, hnow⟩ | ⟨heq, hother⟩ := Heap.put_eq_some hother
  · rw [heq, hnow]
    exact hafter
  · have hbefore := h.recorders other recorder hother
    have hview : t.view recorder = s.view recorder := by rw [view, view, hrows]
    refine ⟨hview ▸ hbefore.sound, hview ▸ hbefore.stage, fun hnot => ?_, hbefore.signals⟩
    refine hbefore.lock ?_
    obtain hsame | hfree := hlock
    · rwa [← hsame]
    · intro hheld
      rw [conditionFree, hheld] at hfree
      exact heq (beq_iff_eq.1 hfree)

/-- A transaction ends, with the rows as they were or as it saw them. -/
lemma sound_of_ends {rows : StatusRows} (hrows : FlappingSound rows)
    (hothers : ∀ other recorder, other ≠ r → s.recorders other = some recorder →
      (s.ends r rows).RecorderSound other recorder) : (s.ends r rows).Sound := by
  refine ⟨hrows, fun other recorder hother => ?_⟩
  obtain ⟨hne, hbefore⟩ := Heap.take_eq_some hother
  exact hothers other recorder hne hbefore

/-- The others hold the condition after the end of a transaction if they did before. -/
lemma lock_of_ends {rows : StatusRows} {other : Nat} (hne : other ≠ r)
    (h : (s.ends r rows).conditionLock ≠ some other) : s.conditionLock ≠ some other := by
  intro hheld
  refine h ?_
  have hnot : s.conditionLock ≠ some r := by
    rw [hheld]
    exact fun hsame => hne (Option.some.inj hsame)
  simp only [FlappingState.ends, if_neg hnot]
  exact hheld

/-- A transaction that rolls back leaves nothing. -/
lemma Sound.aborts (h : s.Sound) (hstep : s.aborts r = some t) : t.Sound := by
  unfold FlappingState.aborts at hstep
  split at hstep
  · obtain rfl := Option.some.inj hstep
    refine sound_of_ends h.rows fun other recorder hne hother => ?_
    have hbefore := h.recorders other recorder hother
    exact ⟨hbefore.sound, hbefore.stage, fun hnot => hbefore.lock (lock_of_ends hne hnot),
      hbefore.signals⟩
  · cases hstep

/-- What a transaction commits is what it saw, and adds losses alone to what the holder of the
condition sees. -/
lemma Sound.commits (h : s.Sound) (hstep : s.commits r = some t) : t.Sound := by
  unfold FlappingState.commits at hstep
  split at hstep
  · next recorder hrecorder =>
    split at hstep
    · obtain rfl := Option.some.inj hstep
      have hown := h.recorders r recorder hrecorder
      refine sound_of_ends hown.sound fun other recorder' hne hother => ?_
      have hbefore := h.recorders other recorder' hother
      by_cases hheld : s.conditionLock = some other
      · -- the other one holds the condition, so this one has neither written it nor a flapping
        obtain ⟨hcondition, hnone, -⟩ := hown.lock (by
          rw [hheld]
          exact fun hsame => hne (Option.some.inj hsame))
        have hevents : ((s.ends r (s.view recorder)).view recorder').events =
            s.rows.events ++ recorder.events ++ recorder'.events := rfl
        have hsame : ((s.ends r (s.view recorder)).view recorder').condition =
            (s.view recorder').condition := by
          simp [FlappingState.ends, view, hcondition]
        exact ⟨hbefore.sound.more rfl hnone hevents hsame,
          hbefore.stage.more rfl hevents fun _ _ => ⟨hnone, hsame⟩,
          fun hnot => hbefore.lock (lock_of_ends hne hnot), hbefore.signals⟩
      · obtain ⟨hcondition, hnone, hstage⟩ := hbefore.lock hheld
        have hevents : ((s.ends r (s.view recorder)).view recorder').events =
            (s.view recorder).events ++ recorder'.events ++ [] := (List.append_nil _).symm
        have hsame : ((s.ends r (s.view recorder)).view recorder').condition =
            (s.view recorder).condition := by
          simp [FlappingState.ends, view, hcondition]
        have hsplit : ((s.ends r (s.view recorder)).view recorder').events =
            s.rows.events ++ recorder.events ++ recorder'.events := rfl
        exact ⟨hown.sound.more (List.append_nil _).symm hnone hevents hsame,
          hbefore.stage.more rfl hsplit fun change hchange => absurd hchange (hstage change),
          fun hnot => hbefore.lock (lock_of_ends hne hnot), hbefore.signals⟩
    · cases hstep
  · cases hstep

/-- An event is stored, or was stored already. -/
lemma recordEvent_cases {row : StatusEventRow} (hstep : s.recordEvent r recorder row = some t) :
    t.rows = s.rows ∧ t.conditionLock = s.conditionLock ∧ ∃ after,
      t.recorders = Function.update s.recorders r (some after) ∧
      (after = recorder ∨ after = { recorder with events := recorder.events ++ [row] }) := by
  rw [FlappingState.recordEvent, Option.ite_none_left_eq_some] at hstep
  obtain ⟨-, hstep⟩ := hstep
  split at hstep
  · obtain rfl := Option.some.inj hstep
    exact ⟨rfl, rfl, recorder, rfl, .inl rfl⟩
  · obtain rfl := Option.some.inj hstep
    exact ⟨rfl, rfl, _, rfl, .inr rfl⟩

lemma Sound.begins (h : s.Sound) {toLowerCase : Text → Text} {name : Text}
    {state : ConnectionState} {signals : List ConnectionSignal}
    (hstep : s.begins toLowerCase r name state signals = some t) : t.Sound := by
  rw [FlappingState.begins, Option.ite_none_left_eq_some] at hstep
  obtain ⟨-, hstep⟩ := hstep
  split at hstep
  · cases hstep
  · obtain rfl := Option.some.inj hstep
    refine h.move rfl rfl (.inl rfl) ⟨?_, trivial, fun _ => ⟨rfl, rfl, nofun⟩, ?_⟩
    · have hnone : flappingTimes [] = [] := rfl
      refine h.rows.more (List.append_nil _).symm hnone ?_ ?_
      · simp [view, moveTo]
      · simp [view, moveTo]
    · intro change hmem
      exact event_ne_flapping hmem

/-- A transaction that changes nothing it sees moves on to a stage that asks for nothing. -/
lemma RecorderSound.stageTo (h : s.RecorderSound r recorder) (stage : FlappingStage)
    (incidentId : Option Nat) (changes : List ConnectionChange)
    (hstage : StageSound (s.view recorder) stage) (hflapping : ∀ change, stage ≠ .flapping change)
    (hchanges : ∀ change ∈ changes, change ∈ recorder.changes) :
    s.RecorderSound r { recorder with
      incidentId := incidentId, changes := changes, stage := stage } := by
  refine ⟨h.sound, hstage, fun hnot => ?_,
    fun change hmem => h.signals change (hchanges change hmem)⟩
  obtain ⟨hcondition, hnone, -⟩ := h.lock hnot
  exact ⟨hcondition, hnone, hflapping⟩

/-- What a transaction keeps of the rows and the locks, it keeps of its soundness. -/
lemma RecorderSound.of_eq (h : s.RecorderSound r recorder) (hrows : t.rows = s.rows)
    (hlock : t.conditionLock = s.conditionLock) : t.RecorderSound r recorder := by
  have hview : t.view recorder = s.view recorder := by rw [view, view, hrows]
  exact ⟨hview ▸ h.sound, hview ▸ h.stage, fun hnot => h.lock (hlock ▸ hnot), h.signals⟩

/-- An event that is no flapping is stored. -/
lemma RecorderSound.stores (h : s.RecorderSound r recorder) {row : StatusEventRow}
    (hkind : row.kind ≠ .instanceFlapping) (hstage : ∀ rows, StageSound rows recorder.stage) :
    s.RecorderSound r { recorder with events := recorder.events ++ [row] } := by
  have hevents : (s.view { recorder with events := recorder.events ++ [row] }).events =
      (s.view recorder).events ++ [row] ++ [] := by
    simp [view]
  refine ⟨h.sound.more (List.append_nil _).symm (flappingTimes_singleton hkind) hevents rfl,
    hstage _, fun hnot => ?_, h.signals⟩
  obtain ⟨hcondition, hnone, hflapping⟩ := h.lock hnot
  refine ⟨hcondition, ?_, hflapping⟩
  rw [flappingTimes_append, hnone, flappingTimes_singleton hkind]
  rfl

lemma Sound.records (h : s.Sound) {id fresh : Nat} {now : Int}
    (hstep : s.records r id fresh now = some t) : t.Sound := by
  unfold FlappingState.records at hstep
  split at hstep
  · next recorder hrecorder =>
    have hbefore := h.recorders r recorder hrecorder
    split at hstep
    · next change changes hstage hchanges =>
      have hrest : ∀ other ∈ changes, other ∈ recorder.changes := by
        intro other hmem
        rw [hchanges]
        exact List.mem_cons_of_mem _ hmem
      have hevent : change.event ≠ some .instanceFlapping := by
        refine hbefore.signals change ?_
        rw [hchanges]
        exact List.mem_cons_self
      simp only at hstep
      split at hstep
      · obtain rfl := Option.some.inj hstep
        exact h.move rfl rfl (.inl rfl)
          ((hbefore.stageTo (.recorded change) _ changes trivial nofun hrest).of_eq rfl rfl)
      · next event heq =>
        obtain ⟨hrows, hlock, after, hrecorders, hafter⟩ := recordEvent_cases hstep
        have hmoved : s.RecorderSound r { recorder with
            incidentId :=
              (nextIncident recorder.incidentId change.state change.event fresh).incidentId
            changes := changes
            stage := .recorded change } :=
          hbefore.stageTo (.recorded change) _ changes trivial nofun hrest
        refine h.move hrows hrecorders (.inl hlock) ?_
        obtain rfl | rfl := hafter
        · exact hmoved.of_eq hrows hlock
        · refine (hmoved.stores ?_ fun _ => trivial).of_eq hrows hlock
          intro hkind
          exact hevent (heq.trans (congrArg some hkind))
    · cases hstep
  · cases hstep

lemma Sound.counts (h : s.Sound) (hstep : s.counts r = some t) : t.Sound := by
  unfold FlappingState.counts at hstep
  split at hstep
  · next recorder hrecorder =>
    have hbefore := h.recorders r recorder hrecorder
    split at hstep
    · next change hstage =>
      simp only at hstep
      split at hstep
      · next hworth =>
        obtain rfl := Option.some.inj hstep
        have hflapping := (Bool.and_eq_true _ _ ▸ hworth).2
        exact h.move rfl rfl (.inl rfl) ((hbefore.stageTo (.claiming change) _ _
          (threshold_of_isFlapping hflapping) nofun fun _ hmem => hmem).of_eq rfl rfl)
      · obtain rfl := Option.some.inj hstep
        exact h.move rfl rfl (.inl rfl)
          ((hbefore.stageTo (.upserting change) _ _ trivial nofun fun _ hmem => hmem).of_eq rfl rfl)
    · cases hstep
  · cases hstep

lemma Sound.claims (h : s.Sound) (hstep : s.claims r = some t) : t.Sound := by
  unfold FlappingState.claims at hstep
  split at hstep
  · next recorder hrecorder =>
    have hbefore := h.recorders r recorder hrecorder
    split at hstep
    · next change hstage =>
      rw [Option.ite_none_left_eq_some] at hstep
      obtain ⟨hfree, hstep⟩ := hstep
      simp only [Bool.not_eq_true', Bool.not_eq_false] at hfree
      split at hstep
      · obtain rfl := Option.some.inj hstep
        exact h.move rfl rfl (.inl rfl)
          ((hbefore.stageTo (.upserting change) _ _ trivial nofun fun _ hmem => hmem).of_eq rfl rfl)
      · next claimed hclaimed =>
        obtain rfl := Option.some.inj hstep
        have hlosses : StageSound (s.view recorder) (.claiming change) := hstage ▸ hbefore.stage
        have hrow : claimed.condition.isSome := by
          unfold StatusRows.claimFlapping at hclaimed
          repeat' split at hclaimed
          all_goals cases hclaimed
          all_goals rfl
        obtain ⟨condition, hcondition⟩ := Option.isSome_iff_exists.1 hrow
        let after := { recorder with condition := claimed.condition, stage := .flapping change }
        have hevents : (s.view after).events = (s.view recorder).events := rfl
        have hview : (s.view after).condition = claimed.condition := by
          simp [after, view, hcondition]
        obtain ⟨hsound, hclaim⟩ :=
          claimFlapping_sound hbefore.sound hlosses hclaimed hevents hview
        exact h.move rfl rfl (.inr hfree) ⟨hsound, hclaim, fun hnot => absurd rfl hnot,
          hbefore.signals⟩
    · cases hstep
  · cases hstep

lemma Sound.flaps (h : s.Sound) {id : Nat} {now : Int} (hstep : s.flaps r id now = some t) :
    t.Sound := by
  unfold FlappingState.flaps at hstep
  split at hstep
  · next recorder hrecorder =>
    have hbefore := h.recorders r recorder hrecorder
    split at hstep
    · next change hstage =>
      have hclaim : StageSound (s.view recorder) (.flapping change) := hstage ▸ hbefore.stage
      have hheld : s.conditionLock = some r := by
        by_contra hnot
        exact (hbefore.lock hnot).2.2 change hstage
      obtain ⟨hrows, hlock, after, hrecorders, hafter⟩ := recordEvent_cases hstep
      refine h.move hrows hrecorders (.inl hlock) ?_
      obtain rfl | rfl := hafter
      · exact (hbefore.stageTo (.upserting change) _ _ trivial nofun fun _ hmem => hmem).of_eq
          hrows hlock
      · refine RecorderSound.of_eq ⟨?_, trivial, fun hnot => absurd hheld hnot, hbefore.signals⟩
          hrows hlock
        refine hbefore.sound.flaps hclaim ?_ ?_ (List.append_assoc _ _ _).symm rfl
        · rfl
        · rfl
    · cases hstep
  · cases hstep

lemma Sound.upserts (h : s.Sound) {now : Int} (hstep : s.upserts r now = some t) : t.Sound := by
  unfold FlappingState.upserts at hstep
  split at hstep
  · next recorder hrecorder =>
    have hbefore := h.recorders r recorder hrecorder
    split at hstep
    · next change hstage =>
      rw [Option.ite_none_left_eq_some] at hstep
      obtain ⟨hfree, hstep⟩ := hstep
      simp only [Bool.not_eq_true', Bool.not_eq_false] at hfree
      obtain rfl := Option.some.inj hstep
      refine h.move rfl rfl (.inr hfree) ⟨⟨hbefore.sound.founded, fun time htime => ?_⟩, trivial,
        fun hnot => absurd rfl hnot, hbefore.signals⟩
      obtain ⟨condition, last, hcondition, hlast, hle⟩ := hbefore.sound.latest time htime
      refine ⟨_, last, rfl, ?_, hle⟩
      simp only [hcondition, Option.bind_some]
      exact hlast
    · cases hstep
  · cases hstep

lemma Sound.step (h : s.Sound) {toLowerCase : Text → Text} {e : FlappingEvent}
    (hstep : (flappingRecorders toLowerCase).step s e = some t) : t.Sound := by
  cases e with
  | begins r name state signals => exact h.begins hstep
  | records r id fresh now => exact h.records hstep
  | counts r => exact h.counts hstep
  | claims r => exact h.claims hstep
  | flaps r id now => exact h.flaps hstep
  | upserts r now => exact h.upserts hstep
  | commits r => exact h.commits hstep
  | aborts r => exact h.aborts hstep

lemma sound_of_init {toLowerCase : Text → Text} (h : (flappingRecorders toLowerCase).init s) :
    s.Sound := by
  obtain ⟨hrows, -, -, hrecorders⟩ := h
  refine ⟨?_, fun r recorder hrecorder => ?_⟩
  · rw [hrows]
    exact ⟨⟨List.Pairwise.nil, fun _ htime => absurd htime List.not_mem_nil⟩,
      fun _ htime => absurd htime List.not_mem_nil⟩
  · rw [hrecorders] at hrecorder
    cases hrecorder

end FlappingState

/-- **Flappings are rare and founded**, whatever signals any number of recorders go by and however
their statements follow each other: among the committed events, and among those that a transaction
sees with its own. -/
theorem flappings_founded {toLowerCase : Text → Text} {s : FlappingState}
    (h : (flappingRecorders toLowerCase).Reachable free s) :
    FlappingsFounded s.rows.events ∧ ∀ r recorder, s.recorders r = some recorder →
      FlappingsFounded (s.view recorder).events := by
  have hsound : s.Sound := h.invariant (fun _ hinit => FlappingState.sound_of_init hinit)
    fun _ _ _ ht _ hu => ht.step hu
  exact ⟨hsound.rows.founded, fun r recorder hrecorder =>
    (hsound.recorders r recorder hrecorder).sound.founded⟩

/-- A bot about which nothing is known. -/
def neverRecorded : FlappingState :=
  ⟨{ condition := none, events := [], intervals := [] }, none, fun _ => none, fun _ => none⟩

/-- The statements for a change that is worth no flapping. -/
def recordsChange (r : Nat) : List FlappingEvent := [.records r 0 0 0, .counts r, .upserts r 0]

/-- A bot joins, and then loses its connection five times. -/
def fiveLosses : List FlappingEvent :=
  [.begins 0 [] .unknown [.joined 0 []]] ++ recordsChange 0 ++ [.commits 0] ++
  [.begins 1 [] .joined [.disconnected 1 [] none, .joined 2 [], .disconnected 3 [] none,
    .joined 4 [], .disconnected 5 [] none, .joined 6 [], .disconnected 7 [] none, .joined 8 [],
    .disconnected 9 [] none]] ++
  (List.replicate 8 (recordsChange 1)).flatten ++
  [.records 1 0 0 0, .counts 1, .claims 1, .flaps 1 0 0, .upserts 1 0, .commits 1]

/-- The fifth loss is worth a flapping. -/
theorem flappings_founded_fifth : ∃ s,
    (flappingRecorders id).exec neverRecorded fiveLosses = some s ∧
      flappingTimes s.rows.events = [9] ∧ FlappingsFounded s.rows.events := by
  obtain ⟨s, hrun, htimes⟩ : ∃ s,
      (flappingRecorders id).exec neverRecorded fiveLosses = some s ∧
        flappingTimes s.rows.events = [9] :=
    ⟨_, rfl, rfl⟩
  exact ⟨s, hrun, htimes, (flappings_founded
    (.of_exec ⟨rfl, rfl, fun _ => rfl, fun _ => rfl⟩ hrun)).1⟩

end OpenMcc
