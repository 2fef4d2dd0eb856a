import Mathlib.Logic.Function.Iterate
import OpenMcc.Construction.JoinSightings
import OpenMcc.Properties.JournalReads

/-!
# Logins are recorded once

A reading holds every join from the entry of its cursor to the last entry it was shown, and the
cursor is saved after the last of them is recorded.  What is read again finds its identity taken.
-/

namespace OpenMcc

open TransitionSystem

namespace JoinState

variable {parseDate : Text → Option Int} {s t : JoinState}

/-! ## What a batch tells -/

/-- A join does not depend on the line after it. -/
lemma joinSighting_lineSignal (line : JournalLine) (following : Option JournalLine) :
    (lineSignal line following).bind ConnectionSignal.joinSighting =
      (lineSignal line none).bind ConnectionSignal.joinSighting := by
  unfold lineSignal
  by_cases hstopped : Text.includes (withoutPrefix line.message) stoppedMarker = true
  · simp only [hstopped, if_true]
  · by_cases hjoined : Text.includes (withoutPrefix line.message) joinedMarker = true
    · simp only [hstopped, hjoined, if_true]
    · by_cases hdisconnected : Text.includes (withoutPrefix line.message) disconnectedMarker = true
      · simp only [hstopped, hjoined, hdisconnected, Bool.not_true, Bool.false_eq_true, if_false]
        rfl
      · simp only [hstopped, hjoined, hdisconnected, Bool.not_false, if_true, if_false,
          Bool.false_eq_true]

/-- The joins of a batch are those of its lines. -/
lemma joins_connectionSignals (lines : List JournalLine) :
    (connectionSignals lines).filterMap ConnectionSignal.joinSighting =
      lines.filterMap fun line => (lineSignal line none).bind ConnectionSignal.joinSighting := by
  induction lines with
  | nil => rfl
  | cons line rest ih =>
    rw [connectionSignals, List.filterMap_append, ih, List.filterMap_cons,
      ← joinSighting_lineSignal line rest.head?]
    cases hsignal : lineSignal line rest.head? with
    | none => rfl
    | some signal =>
      rw [Option.toList_some, List.filterMap_cons, Option.bind_some]
      cases signal.joinSighting with
      | none => rfl
      | some join => rfl

lemma joins_parseLines (raws : List Text) :
    (connectionSignals (parseLines parseDate raws)).filterMap ConnectionSignal.joinSighting =
      raws.filterMap (lineJoin parseDate) := by
  rw [joins_connectionSignals, parseLines, List.filterMap_filterMap]
  rfl

/-- What a reading with the cursor of an entry comes to. -/
lemma readJoinSightings_resumes {entries : List JournalEntry} {cursor : Text} {i : Nat}
    (h : entryAt entries cursor = some i) (window : Nat) :
    let batch := (entries.drop i).take (journalMaxLines + 1)
    readJoinSightings parseDate
      (readJournal entries window (journalCommand journalMaxLines (some cursor))) (some cursor) = {
        joins := (batch.map JournalEntry.line).filterMap (lineJoin parseDate)
        cursor := (batch.getLast?.map JournalEntry.cursor).or (some cursor)
        seeded := false
        refused := false
        full := decide (journalMaxLines < batch.length) } := by
  intro batch
  have hresume := journalResume_of_entry h
  have hcommand : journalCommand journalMaxLines (some cursor) =
      .resumes cursor (journalMaxLines + 1) := by
    rw [journalCommand, hresume]
  simp only [readJoinSightings, hresume, hcommand, readJournal, journalctl_resumes h,
    journalBatch_printJournal, parseJournal_lines, joins_parseLines, ne_eq, not_true_eq_false,
    if_false, Option.isNone_some, Bool.false_eq_true, List.length_map]
  rfl

/-- The entries that a batch from the entry `i` ends before. -/
def batchEnd (s : JoinState) (i : Nat) : Nat := min (i + (journalMaxLines + 1)) s.entries.length

/-- A join of a batch is one of the entries it shows. -/
lemma mem_batch_joins {i : Nat} {join : JoinSighting} :
    join ∈ (((s.entries.drop i).take (journalMaxLines + 1)).map JournalEntry.line).filterMap
        (lineJoin parseDate) ↔
      ∃ number, i ≤ number ∧ number < s.batchEnd i ∧ s.joinAt parseDate number = some join := by
  rw [List.filterMap_map, List.mem_filterMap]
  constructor
  · rintro ⟨entry, hmem, hjoin⟩
    obtain ⟨k, hk⟩ := List.mem_iff_getElem?.1 hmem
    have hlt := (List.getElem?_eq_some_iff.1 hk).1
    rw [List.length_take, List.length_drop] at hlt
    rw [List.getElem?_take_of_lt (by omega), List.getElem?_drop] at hk
    refine ⟨i + k, by omega, by unfold batchEnd; omega, ?_⟩
    rw [joinAt, hk]
    exact hjoin
  · rintro ⟨number, hfrom, hto, hjoin⟩
    obtain ⟨entry, hentry, hline⟩ := Option.bind_eq_some_iff.1 hjoin
    refine ⟨entry, List.mem_iff_getElem?.2 ⟨number - i, ?_⟩, hline⟩
    unfold batchEnd at hto
    rw [List.getElem?_take_of_lt (by omega), List.getElem?_drop]
    have hnumber : i + (number - i) = number := by omega
    rw [hnumber, hentry]

/-! ## Recording -/

lemma mem_recordJoin {signals : List LoginSignal} {join : JoinSighting} {observedAt : Int}
    {signal : LoginSignal} (h : signal ∈ signals) :
    signal ∈ recordJoin signals join observedAt := by
  unfold recordJoin recordSignal
  split
  · exact h
  · exact List.mem_append_left _ h

/-- What recording a join comes to. -/
lemma recordJoin_cases (signals : List LoginSignal) (join : JoinSighting) (observedAt : Int) :
    (recordJoin signals join observedAt = signals ∧
      ∃ signal ∈ signals, signal.identity = join.identity) ∨
    ∃ signal, recordJoin signals join observedAt = signals ++ [signal] ∧
      signal.identity = join.identity ∧ signal.process = join.process ∧
      signal.occurredAt = join.occurredAt ∧
      (signal.firstForProcess = true ↔ ∀ other ∈ signals, other.process ≠ signal.process) ∧
      ∀ other ∈ signals, other.identity ≠ join.identity := by
  unfold recordJoin recordSignal
  split
  · next htaken =>
    simp only [List.any_eq_true, beq_iff_eq] at htaken
    exact .inl ⟨rfl, htaken⟩
  · next hfree =>
    simp only [List.any_eq_true, beq_iff_eq, not_exists, not_and] at hfree
    refine .inr ⟨_, rfl, rfl, rfl, rfl, ?_, hfree⟩
    simp [hasJoinedAs]

/-! ## What holds of a drain -/

/-- What a reading from the stored cursor holds, of which some joins are left to be recorded. -/
structure Reads (parseDate : Text → Option Int) (s : JoinState) (reading : JoinReading)
    (left : List JoinSighting) : Prop where
  unrefused : reading.refused = false
  seeding : s.cursor = none → left = [] ∧ reading.full = false ∧
    ∀ next, reading.cursor = some next →
      reading.seeded = true ∧ ∃ j, entryAt s.entries next = some j
  resumed : ∀ cursor i, s.cursor = some cursor → entryAt s.entries cursor = some i →
    reading.seeded = false ∧ ∃ next j, reading.cursor = some next ∧
      entryAt s.entries next = some j ∧ i ≤ j ∧ (reading.full = true → j = i + journalMaxLines) ∧
      (∀ number join, i < number → number ≤ j → s.joinAt parseDate number = some join →
        s.Recorded join ∨ join ∈ left) ∧
      ∀ join ∈ left, ∃ number, i ≤ number ∧ s.joinAt parseDate number = some join

/-- What holds in every run. -/
structure Inv (parseDate : Text → Option Int) (s : JoinState) : Prop where
  distinct : DistinctCursors s.entries
  unseeded : s.cursor = none ↔ s.seededAt = none
  kept : s.JoinsKept parseDate
  position : ∀ drain, s.drain = some drain → drain.position = s.cursor
  reads : ∀ drain reading left, s.drain = some drain → drain.stage = .recording reading left →
    Reads parseDate s reading left

/-- A cursor that is stored is that of an entry from the seeding one on. -/
lemma Inv.exists_last (h : Inv parseDate s) {cursor : Text} (hcursor : s.cursor = some cursor) :
    ∃ seed last, s.seededAt = some seed ∧ entryAt s.entries cursor = some last ∧ seed ≤ last ∧
      s.RecordedBetween parseDate seed last := by
  have hsome : s.seededAt ≠ none := by
    rw [Ne, ← h.unseeded, hcursor]
    simp
  obtain ⟨seed, hseed⟩ := Option.ne_none_iff_exists'.1 hsome
  obtain ⟨stored, last, hstored, hlast, hle, hrecorded⟩ := h.kept.noneLost seed hseed
  rw [hcursor, Option.some.injEq] at hstored
  exact ⟨seed, last, hseed, hstored ▸ hlast, hle, hrecorded⟩

lemma Recorded.mono {join : JoinSighting} (h : s.Recorded join)
    (hsignals : ∀ signal ∈ s.signals, signal ∈ t.signals) : t.Recorded join := by
  obtain ⟨signal, hmem, hidentity⟩ := h
  exact ⟨signal, hsignals signal hmem, hidentity⟩

/-! ## Steps -/

/-- What an entry tells stays when the journal grows. -/
lemma joinAt_append {more : List JournalEntry} (ht : t.entries = s.entries ++ more) {number : Nat}
    (hlt : number < s.entries.length) :
    t.joinAt parseDate number = s.joinAt parseDate number := by
  rw [joinAt, joinAt, ht, List.getElem?_append_left hlt]

lemma joinAt_lt {number : Nat} {join : JoinSighting} (h : s.joinAt parseDate number = some join) :
    number < s.entries.length := by
  obtain ⟨entry, hentry, -⟩ := Option.bind_eq_some_iff.1 h
  exact (List.getElem?_eq_some_iff.1 hentry).1

/-- **The journal grows.** -/
lemma Inv.appends (h : Inv parseDate s) {entry : JournalEntry} (ht : s.appends entry = some t) :
    Inv parseDate t := by
  simp only [JoinState.appends, Option.ite_none_right_eq_some, Option.some.injEq] at ht
  obtain ⟨hnew, rfl⟩ := ht
  have hgrow : ∀ {number join}, s.joinAt parseDate number = some join →
      joinAt parseDate { s with entries := s.entries ++ [entry] } number = some join := by
    intro number join hjoin
    have hlt := joinAt_lt hjoin
    exact (joinAt_append rfl hlt).trans hjoin
  refine ⟨h.distinct.concat hnew, h.unseeded, ⟨?_, h.kept.once, ?_, h.kept.firsts⟩, h.position, ?_⟩
  · intro seed hseed
    obtain ⟨cursor, last, hcursor, hlast, hle, hrecorded⟩ := h.kept.noneLost seed hseed
    refine ⟨cursor, last, hcursor, entryAt_append hlast _, hle,
      fun number join hfrom hto hjoin => ?_⟩
    have hlt := entryAt_lt hlast
    rw [joinAt_append (s := s) rfl (by omega)] at hjoin
    exact hrecorded number join hfrom hto hjoin
  · intro signal hsignal
    obtain ⟨seed, number, join, hseed, hle, hjoin, hrest⟩ := h.kept.sighted signal hsignal
    exact ⟨seed, number, join, hseed, hle, hgrow hjoin, hrest⟩
  · intro drain reading left hdrain hstage
    have hreads := h.reads drain reading left hdrain hstage
    refine ⟨hreads.unrefused, fun hnone => ?_, fun cursor i hcursor hi => ?_⟩
    · obtain ⟨hleft, hfull, hnext⟩ := hreads.seeding hnone
      refine ⟨hleft, hfull, fun next hcursor => ?_⟩
      obtain ⟨hseeded, j, hj⟩ := hnext next hcursor
      exact ⟨hseeded, j, entryAt_append hj _⟩
    · obtain ⟨seed, last, -, hlast, -, -⟩ := h.exists_last hcursor
      obtain rfl := Option.some.inj ((entryAt_append hlast _).symm.trans hi)
      obtain ⟨hseeded, next, j, hnext, hj, hle, hfull, hjoins, hleft⟩ :=
        hreads.resumed cursor last hcursor hlast
      refine ⟨hseeded, next, j, hnext, entryAt_append hj _, hle, hfull,
        fun number join hfrom hto hjoin => ?_, fun join hjoin => ?_⟩
      · have hlt := entryAt_lt hj
        rw [joinAt_append (s := s) rfl (by omega)] at hjoin
        exact hjoins number join hfrom hto hjoin
      · obtain ⟨number, hfrom, hnumber⟩ := hleft join hjoin
        exact ⟨number, hfrom, hgrow hnumber⟩

/-- A reading that is answered holds every join it was shown. -/
lemma Inv.reads_of_answer (h : Inv parseDate s) (window : Nat) :
    let reading := readJoinSightings parseDate
      (readJournal s.entries window (journalCommand journalMaxLines s.cursor)) s.cursor
    Reads parseDate s reading reading.joins ∧
      (s.cursor.isSome → reading.full = false → ∃ next, reading.cursor = some next ∧
        entryAt s.entries next = some (s.entries.length - 1)) := by
  cases hcursor : s.cursor with
  | none =>
    have hread : readJoinSightings parseDate
        (readJournal s.entries window (journalCommand journalMaxLines none)) none = {
          joins := []
          cursor := (journalctl s.entries window (.seeds journalMaxLines)).getLast?.map
            JournalEntry.cursor
          seeded := true
          refused := false
          full := false } := by
      simp [readJoinSightings, journalResume, journalCommand, readJournal,
        journalBatch_printJournal]
    rw [hread]
    refine ⟨⟨rfl, fun _ => ⟨rfl, rfl, fun next hnext => ⟨rfl, ?_⟩⟩, fun cursor i hsome => ?_⟩,
      fun hsome => absurd hsome Bool.false_ne_true⟩
    · obtain ⟨last, hlast, rfl⟩ := Option.map_eq_some_iff.1 hnext
      have hmem : last ∈ s.entries := List.mem_of_mem_drop (List.mem_of_getLast? hlast)
      obtain ⟨j, hj⟩ := List.mem_iff_getElem?.1 hmem
      exact ⟨j, entryAt_of_getElem? h.distinct hj⟩
    · rw [hcursor] at hsome
      cases hsome
  | some cursor =>
    obtain ⟨seed, i, -, hi, -, -⟩ := h.exists_last hcursor
    have hlt := entryAt_lt hi
    simp only [readJoinSightings_resumes hi]
    have hend : i < s.batchEnd i ∧ s.batchEnd i ≤ s.entries.length := by
      unfold batchEnd
      omega
    obtain ⟨last, hlast⟩ : ∃ last, s.entries[s.batchEnd i - 1]? = some last :=
      ⟨s.entries[s.batchEnd i - 1], List.getElem?_eq_getElem (by omega)⟩
    have hbatch : ((s.entries.drop i).take (journalMaxLines + 1)).getLast? = some last :=
      (getLast?_batch hlt (Nat.succ_pos _)).trans hlast
    have hentry := entryAt_of_getElem? h.distinct hlast
    have hlength : ((s.entries.drop i).take (journalMaxLines + 1)).length = s.batchEnd i - i := by
      rw [List.length_take, List.length_drop, batchEnd]
      omega
    rw [hbatch, hlength, Option.map_some, Option.some_or]
    refine ⟨⟨rfl, fun hnone => ?_, fun stored i' hstored hi' => ?_⟩, fun _ hfull => ?_⟩
    · rw [hcursor] at hnone
      cases hnone
    · rw [hcursor, Option.some.injEq] at hstored
      rw [← hstored, hi, Option.some.injEq] at hi'
      subst hi'
      refine ⟨rfl, last.cursor, s.batchEnd i - 1, rfl, hentry, by omega, fun hfull => ?_,
        fun number join hfrom hto hjoin => ?_, fun join hjoin => ?_⟩
      · have hmore := of_decide_eq_true hfull
        unfold batchEnd at hmore ⊢
        omega
      · exact .inr (mem_batch_joins.2 ⟨number, by omega, by omega, hjoin⟩)
      · obtain ⟨number, hfrom, -, hnumber⟩ := mem_batch_joins.1 hjoin
        exact ⟨number, hfrom, hnumber⟩
    · have hfew := of_decide_eq_false hfull
      refine ⟨last.cursor, rfl, ?_⟩
      have hlast : s.batchEnd i = s.entries.length := by
        unfold batchEnd at hfew ⊢
        omega
      rw [← hlast]
      exact hentry

/-- The drain of a state is replaced. -/
lemma Inv.onDrain (h : Inv parseDate s) (drain : Option JoinDrain)
    (hposition : ∀ d, drain = some d → d.position = s.cursor)
    (hreads : ∀ d reading left, drain = some d → d.stage = .recording reading left →
      Reads parseDate s reading left) : Inv parseDate { s with drain := drain } where
  distinct := h.distinct
  unseeded := h.unseeded
  kept := ⟨h.kept.noneLost, h.kept.once, h.kept.sighted, h.kept.firsts⟩
  position := hposition
  reads d reading left hd hstage := by
    have hr := hreads d reading left hd hstage
    exact ⟨hr.unrefused, hr.seeding, hr.resumed⟩

/-- A drain ends, or the process stops. -/
lemma Inv.idle (h : Inv parseDate s) : Inv parseDate { s with drain := none } :=
  h.onDrain none (fun _ => no_drain) (fun _ _ _ => no_drain)

/-- **A drain begins.** -/
lemma Inv.begins (h : Inv parseDate s) {observedAt : Int} (ht : s.begins observedAt = some t) :
    Inv parseDate t := by
  simp only [JoinState.begins, Option.ite_none_right_eq_some, Option.some.injEq] at ht
  obtain ⟨-, rfl⟩ := ht
  refine h.onDrain _ ?_ ?_
  · rintro d ⟨⟩
    rfl
  · rintro d reading left ⟨⟩ hstage
    cases hstage

/-- **A round reads.** -/
lemma Inv.answers (h : Inv parseDate s) {result : Option Text → ExecResult}
    (hreads : Reads parseDate s (readJoinSightings parseDate (result s.cursor) s.cursor)
      (readJoinSightings parseDate (result s.cursor) s.cursor).joins)
    (ht : s.answers parseDate result = some t) : Inv parseDate t := by
  simp only [JoinState.answers] at ht
  split at ht
  · next position round observedAt hdrain =>
    obtain rfl := Option.some.inj ht
    have hposition : position = s.cursor := h.position _ hdrain
    subst hposition
    refine h.onDrain _ ?_ ?_
    · rintro d ⟨⟩
      rfl
    · rintro d reading left ⟨⟩ hstage
      obtain ⟨rfl, rfl⟩ := JoinStage.recording.inj hstage
      exact hreads
  · cases ht

/-- A command that fails says nothing of the cursor. -/
lemma Inv.reads_of_failure (h : Inv parseDate s) {stderr : Text}
    (hstderr : journalRefusedCursor stderr = false) :
    Reads parseDate s
      (readJoinSightings parseDate { exitCode := 1, stdout := [], stderr := stderr } s.cursor)
      (readJoinSightings parseDate
        { exitCode := 1, stdout := [], stderr := stderr } s.cursor).joins := by
  have hread : readJoinSightings parseDate { exitCode := 1, stdout := [], stderr := stderr }
      s.cursor = {
        joins := []
        cursor := s.cursor
        seeded := false
        refused := false
        full := false } := by
    simp [readJoinSightings, hstderr]
  rw [hread]
  refine ⟨rfl, fun hnone => ⟨rfl, rfl, fun next hnext => ?_⟩, fun cursor i hcursor hi => ?_⟩
  · rw [hnone] at hnext
    cases hnext
  · obtain ⟨seed, last, -, -, -, -⟩ := h.exists_last hcursor
    refine ⟨rfl, cursor, i, hcursor, hi, Nat.le_refl i, nofun,
      fun number join hfrom hto => ?_, nofun⟩
    omega

/-- **A join is recorded.** -/
lemma Inv.records (h : Inv parseDate s) (ht : s.records = some t) : Inv parseDate t := by
  simp only [JoinState.records] at ht
  split at ht
  · next position round observedAt reading join left hdrain =>
    obtain rfl := Option.some.inj ht
    have hreads := h.reads _ reading (join :: left) hdrain rfl
    have hposition : position = s.cursor := h.position _ hdrain
    obtain ⟨cursor, hcursor⟩ : ∃ cursor, s.cursor = some cursor := by
      cases hcursor : s.cursor with
      | none => exact absurd (hreads.seeding hcursor).1 (List.cons_ne_nil _ _)
      | some cursor => exact ⟨cursor, rfl⟩
    obtain ⟨seed, last, hseed, hlast, hle, -⟩ := h.exists_last hcursor
    have hmem : ∀ signal ∈ s.signals, signal ∈ recordJoin s.signals join observedAt :=
      fun signal hsignal => mem_recordJoin hsignal
    have hjoin : ∃ signal ∈ recordJoin s.signals join observedAt,
        signal.identity = join.identity := by
      obtain ⟨heq, signal, hsignal, hidentity⟩ | ⟨signal, heq, hidentity, -⟩ :=
        recordJoin_cases s.signals join observedAt
      · exact ⟨signal, heq.symm ▸ hsignal, hidentity⟩
      · exact ⟨signal, heq ▸ List.mem_append_right _ (List.mem_singleton_self signal), hidentity⟩
    refine ⟨h.distinct, h.unseeded, ⟨fun seed' hseed' => ?_, ?_, ?_, ?_⟩, ?_, ?_⟩
    · obtain ⟨cursor', last', hcursor', hlast', hle', hrecorded⟩ := h.kept.noneLost seed' hseed'
      refine ⟨cursor', last', hcursor', hlast', hle', fun number join' hfrom hto hjoin' => ?_⟩
      exact (hrecorded number join' hfrom hto hjoin').mono hmem
    · obtain ⟨heq, -⟩ | ⟨signal, heq, hidentity, -, -, -, hfree⟩ :=
        recordJoin_cases s.signals join observedAt
      · rw [heq]
        exact h.kept.once
      · rw [heq, List.map_append, List.nodup_append]
        refine ⟨h.kept.once, List.nodup_singleton _, ?_⟩
        rintro identity hold other hother rfl
        obtain rfl := List.mem_singleton.1 hother
        obtain ⟨row, hrow, hsame⟩ := List.mem_map.1 hold
        exact hfree row hrow (hsame.trans hidentity)
    · intro row hrow
      obtain ⟨heq, -⟩ | ⟨signal, heq, hidentity, hprocess, htime, -⟩ :=
        recordJoin_cases s.signals join observedAt
      · exact h.kept.sighted row (heq ▸ hrow)
      · rw [heq] at hrow
        obtain hrow | hrow := List.mem_append.1 hrow
        · exact h.kept.sighted row hrow
        · obtain rfl := List.mem_singleton.1 hrow
          obtain ⟨-, -, -, -, -, -, -, -, hleft⟩ := hreads.resumed cursor last hcursor hlast
          obtain ⟨number, hfrom, hnumber⟩ := hleft join List.mem_cons_self
          exact ⟨seed, number, join, hseed, Nat.le_trans hle hfrom, hnumber, hidentity, hprocess,
            htime⟩
    · intro earlier row later hsplit
      obtain ⟨heq, -⟩ | ⟨signal, heq, -, -, -, hfirst, -⟩ :=
        recordJoin_cases s.signals join observedAt
      · exact h.kept.firsts earlier row later (heq ▸ hsplit)
      · rw [heq] at hsplit
        obtain rfl | ⟨later', last', rfl⟩ := List.eq_nil_or_concat later
        · obtain ⟨rfl, hrow⟩ := List.append_inj' hsplit rfl
          obtain rfl := (List.cons.inj hrow).1
          exact hfirst
        · have hparts : s.signals ++ [signal] = (earlier ++ row :: later') ++ [last'] := by
            simpa using hsplit
          obtain ⟨hinit, -⟩ := List.append_inj' hparts rfl
          exact h.kept.firsts earlier row later' hinit
    · rintro d ⟨⟩
      exact hposition
    · rintro d reading' left' ⟨⟩ hstage
      obtain ⟨rfl, rfl⟩ := JoinStage.recording.inj hstage
      refine ⟨hreads.unrefused, fun hnone => ?_, fun cursor' i hcursor' hi => ?_⟩
      · rw [hcursor] at hnone
        cases hnone
      · obtain ⟨hseeded, next, j, hnext, hj, hij, hfull, hjoins, hleft⟩ :=
          hreads.resumed cursor' i hcursor' hi
        refine ⟨hseeded, next, j, hnext, hj, hij, hfull, fun number join' hfrom hto hjoin' => ?_,
          fun join' hmem' => hleft join' (List.mem_cons_of_mem _ hmem')⟩
        obtain hrecorded | hmem' := hjoins number join' hfrom hto hjoin'
        · exact .inl (hrecorded.mono hmem)
        · obtain rfl | hmem' := List.mem_cons.1 hmem'
          · exact .inl hjoin
          · exact .inr hmem'
  · cases ht

/-- The next round reads from the cursor that is stored. -/
lemma Inv.nextRound (h : Inv parseDate s) (drain : JoinDrain) :
    Inv parseDate (s.nextRound drain s.cursor) := by
  refine h.onDrain _ ?_ ?_
  · intro d hd
    split at hd
    · obtain rfl := Option.some.inj hd
      rfl
    · cases hd
  · intro d reading left hd hstage
    split at hd
    · obtain rfl := Option.some.inj hd
      cases hstage
    · cases hd

/-- **The cursor of a reading is saved** once its joins are recorded. -/
lemma Inv.saveCursor (h : Inv parseDate s) {reading : JoinReading}
    (hreads : Reads parseDate s reading []) {next : Text} (hnext : reading.cursor = some next) :
    Inv parseDate { s.saveCursor reading next with drain := none } := by
  cases hcursor : s.cursor with
  | none =>
    obtain ⟨-, -, hseeds⟩ := hreads.seeding hcursor
    obtain ⟨hseeded, j, hj⟩ := hseeds next hnext
    have hseededAt : s.seededAt = none := h.unseeded.1 hcursor
    have hnosignals : ∀ signal, signal ∉ s.signals := by
      intro signal hmem
      obtain ⟨seed, -, -, hseed, -⟩ := h.kept.sighted signal hmem
      rw [hseededAt] at hseed
      cases hseed
    simp only [JoinState.saveCursor, hseeded, if_true, hj]
    refine ⟨h.distinct, by simp, ⟨?_, h.kept.once, fun signal hmem => ?_, h.kept.firsts⟩,
      fun _ => no_drain, fun _ _ _ => no_drain⟩
    · rintro seed ⟨⟩
      refine ⟨next, j, rfl, hj, Nat.le_refl j, fun number join hfrom hto => ?_⟩
      omega
    · exact absurd hmem (hnosignals signal)
  | some cursor =>
    obtain ⟨seed, last, hseed, hlast, hle, hrecorded⟩ := h.exists_last hcursor
    obtain ⟨hseeded, next', j, hnext', hj, hij, -, hjoins, -⟩ :=
      hreads.resumed cursor last hcursor hlast
    obtain rfl := Option.some.inj (hnext.symm.trans hnext')
    simp only [JoinState.saveCursor, hseeded, Bool.false_eq_true, if_false]
    refine ⟨h.distinct, by simp [hseed], ⟨?_, h.kept.once, h.kept.sighted, h.kept.firsts⟩,
      fun _ => no_drain, fun _ _ _ => no_drain⟩
    intro seed' hseed'
    obtain rfl := Option.some.inj (hseed.symm.trans hseed')
    refine ⟨next, j, rfl, hj, Nat.le_trans hle hij, fun number join hfrom hto hjoin => ?_⟩
    by_cases hold : number ≤ last
    · exact hrecorded number join hfrom hold hjoin
    · obtain hdone | hleft := hjoins number join (by omega) hto hjoin
      · exact hdone
      · cases hleft

/-- **A round is concluded.** -/
lemma Inv.concludes (h : Inv parseDate s) (ht : s.concludes = some t) : Inv parseDate t := by
  simp only [JoinState.concludes] at ht
  split at ht
  · next position round observedAt reading hdrain =>
    have hreads := h.reads _ reading [] hdrain rfl
    have hposition : position = s.cursor := h.position _ hdrain
    rw [hreads.unrefused, Bool.false_and, if_neg Bool.false_ne_true] at ht
    split at ht
    · obtain rfl := Option.some.inj ht
      exact h.idle
    · next next hnext =>
      by_cases hmoved : some next ≠ position
      · rw [if_pos hmoved] at ht
        have hsaved := h.saveCursor hreads hnext
        split at ht
        · obtain rfl := Option.some.inj ht
          exact hsaved.nextRound _
        · obtain rfl := Option.some.inj ht
          exact hsaved
      · rw [if_neg hmoved] at ht
        have hcursor : some next = s.cursor := (not_not.1 hmoved).trans hposition
        split at ht
        · obtain rfl := Option.some.inj ht
          rw [hcursor]
          exact h.nextRound _
        · obtain rfl := Option.some.inj ht
          exact h.idle
  · cases ht

/-- **One step.** -/
lemma Inv.step (h : Inv parseDate s) {e : JoinEvent}
    (ht : (joinDrains parseDate).step s e = some t) : Inv parseDate t := by
  cases e with
  | appends entry => exact h.appends ht
  | begins observedAt => exact h.begins ht
  | reads window => exact h.answers (h.reads_of_answer window).1 ht
  | fails stderr =>
    simp only [joinDrains, Option.ite_none_left_eq_some] at ht
    exact h.answers (h.reads_of_failure (Bool.not_eq_true _ ▸ ht.1)) ht.2
  | records => exact h.records ht
  | concludes => exact h.concludes ht
  | crashes =>
    obtain rfl := Option.some.inj ht
    exact h.idle

lemma inv_init (h : (joinDrains parseDate).init s) : Inv parseDate s := by
  obtain rfl : s = _ := h
  refine ⟨List.nodup_nil, by simp, ⟨nofun, List.nodup_nil, ?_, ?_⟩, fun _ => no_drain,
    fun _ _ _ => no_drain⟩
  · intro signal hsignal
    exact absurd hsignal List.not_mem_nil
  · intro earlier signal later hsplit
    exact absurd hsplit (by simp)

/-! ## Drains that nothing interrupts -/

lemma Inv.proceeds (h : Inv parseDate s) : Inv parseDate (s.proceeds parseDate) := by
  rw [JoinState.proceeds]
  cases ht : (joinDrains parseDate).step s s.next with
  | none => exact h
  | some t => exact h.step ht

lemma Inv.iterate (h : Inv parseDate s) (n : Nat) :
    Inv parseDate ((JoinState.proceeds parseDate)^[n] s) := by
  induction n generalizing s with
  | zero => exact h
  | succ n ih => exact ih h.proceeds

/-- A drain leaves the journal as it is and keeps what is recorded. -/
lemma proceeds_keeps (s : JoinState) : (s.proceeds parseDate).entries = s.entries ∧
    ∀ signal ∈ s.signals, signal ∈ (s.proceeds parseDate).signals := by
  have hkeeps : ∀ t, (joinDrains parseDate).step s s.next = some t →
      t.entries = s.entries ∧ ∀ signal ∈ s.signals, signal ∈ t.signals := by
    intro t ht
    unfold JoinState.next at ht
    split at ht
    · simp only [joinDrains, JoinState.begins, Option.ite_none_right_eq_some,
        Option.some.injEq] at ht
      obtain ⟨-, rfl⟩ := ht
      exact ⟨rfl, fun _ => id⟩
    · simp only [joinDrains, JoinState.answers] at ht
      split at ht
      · obtain rfl := Option.some.inj ht
        exact ⟨rfl, fun _ => id⟩
      · cases ht
    · simp only [joinDrains, JoinState.concludes] at ht
      split at ht
      · repeat' split at ht
        all_goals obtain rfl := Option.some.inj ht
        all_goals exact ⟨rfl, fun _ => id⟩
      · cases ht
    · simp only [joinDrains, JoinState.records] at ht
      split at ht
      · obtain rfl := Option.some.inj ht
        exact ⟨rfl, fun signal hsignal => mem_recordJoin hsignal⟩
      · cases ht
  rw [JoinState.proceeds]
  cases ht : (joinDrains parseDate).step s s.next with
  | none => exact ⟨rfl, fun _ => id⟩
  | some t => exact hkeeps t ht

lemma AllRecorded.proceeds {seed : Nat} (h : s.AllRecorded parseDate seed) :
    (s.proceeds parseDate).AllRecorded parseDate seed := by
  intro number join hfrom hjoin
  obtain ⟨hentries, hsignals⟩ : (s.proceeds parseDate).entries = s.entries ∧
      ∀ signal ∈ s.signals, signal ∈ (s.proceeds parseDate).signals := s.proceeds_keeps
  rw [joinAt, hentries] at hjoin
  exact (h number join hfrom hjoin).mono hsignals

lemma AllRecorded.iterate {seed : Nat} (h : s.AllRecorded parseDate seed) (n : Nat) :
    ((JoinState.proceeds parseDate)^[n] s).AllRecorded parseDate seed := by
  induction n generalizing s with
  | zero => exact h
  | succ n ih => exact ih h.proceeds

/-- The states that drains come to from a state when nothing interrupts them. -/
def Drives (parseDate : Text → Option Int) (s t : JoinState) : Prop :=
  ∃ n, (JoinState.proceeds parseDate)^[n] s = t

lemma Drives.single (s : JoinState) : Drives parseDate s (s.proceeds parseDate) := ⟨1, rfl⟩

lemma Drives.trans {u : JoinState} (h : Drives parseDate s t) (h' : Drives parseDate t u) :
    Drives parseDate s u := by
  obtain ⟨n, rfl⟩ := h
  obtain ⟨m, rfl⟩ := h'
  exact ⟨m + n, Function.iterate_add_apply _ m n s⟩

/-- The joins of a reading are recorded one after the other. -/
lemma drives_recorded {drain : JoinDrain} {reading : JoinReading} (left : List JoinSighting)
    (hdrain : s.drain = some drain) (hstage : drain.stage = .recording reading left) :
    ∃ t, Drives parseDate s t ∧
      t.drain = some { drain with stage := .recording reading [] } ∧ t.entries = s.entries ∧
      t.cursor = s.cursor ∧ t.seededAt = s.seededAt := by
  induction left generalizing s drain with
  | nil =>
    refine ⟨s, ⟨0, rfl⟩, ?_, rfl, rfl, rfl⟩
    rw [hdrain, ← hstage]
  | cons join left ih =>
    obtain ⟨position, round, observedAt, stage⟩ := drain
    obtain rfl : stage = .recording reading (join :: left) := hstage
    have hproceeds : s.proceeds parseDate = { s with
        signals := recordJoin s.signals join observedAt
        drain := some {
          position := position
          round := round
          observedAt := observedAt
          stage := .recording reading left } } := by
      simp only [JoinState.proceeds, JoinState.next, hdrain, joinDrains, JoinState.records]
      rfl
    have hdrain' : (s.proceeds parseDate).drain =
        some ⟨position, round, observedAt, .recording reading left⟩ := by rw [hproceeds]
    obtain ⟨t, hdrives, ht, hentries, hcursor, hseeded⟩ := ih hdrain' rfl
    refine ⟨t, (Drives.single s).trans hdrives, ht, ?_, ?_, ?_⟩
    · rw [hentries, hproceeds]
    · rw [hcursor, hproceeds]
    · rw [hseeded, hproceeds]

/-- A drain is not under way, or it is about to read. -/
def Fresh (s : JoinState) : Prop := ∀ drain, s.drain = some drain → drain.stage = .reading

lemma fresh_nextRound (drain : JoinDrain) (position : Option Text) :
    (s.nextRound drain position).Fresh := by
  intro d hd
  simp only [JoinState.nextRound] at hd
  split at hd
  · obtain rfl := Option.some.inj hd
    rfl
  · cases hd

/-- A round whose joins are recorded is concluded, and the cursor of its reading is stored. -/
lemma Inv.concluded (h : Inv parseDate s) {drain : JoinDrain} {reading : JoinReading}
    (hdrain : s.drain = some drain) (hstage : drain.stage = .recording reading [])
    {cursor next : Text} (hcursor : s.cursor = some cursor) (hnext : reading.cursor = some next) :
    (s.proceeds parseDate).Fresh ∧ (s.proceeds parseDate).cursor = some next ∧
      (s.proceeds parseDate).entries = s.entries ∧
      (s.proceeds parseDate).seededAt = s.seededAt := by
  have hreads := h.reads drain reading [] hdrain hstage
  have hposition := h.position drain hdrain
  obtain ⟨seed, last, -, hlast, -, -⟩ := h.exists_last hcursor
  have hseeded := (hreads.resumed cursor last hcursor hlast).1
  have hkept : (s.saveCursor reading next).seededAt = s.seededAt := by
    simp [JoinState.saveCursor, hseeded]
  obtain ⟨position, round, observedAt, stage⟩ := drain
  obtain rfl : stage = .recording reading [] := hstage
  simp only at hposition
  have hstep : s.proceeds parseDate = (s.concludes).getD s := by
    simp only [JoinState.proceeds, JoinState.next, hdrain, joinDrains]
  rw [hstep]
  simp only [JoinState.concludes, hdrain, hreads.unrefused, Bool.false_and, Bool.false_eq_true,
    if_false, hnext]
  by_cases hmoved : some next ≠ position
  · rw [if_pos hmoved]
    split
    · exact ⟨fresh_nextRound _ _, rfl, rfl, hkept⟩
    · exact ⟨fun _ => no_drain, rfl, rfl, hkept⟩
  · rw [if_neg hmoved]
    have hsame : s.cursor = some next := hposition.symm.trans (not_not.1 hmoved).symm
    split
    · exact ⟨fresh_nextRound _ _, hsame, rfl, rfl⟩
    · exact ⟨fun _ => no_drain, hsame, rfl, rfl⟩

/-- **A fresh reading comes to the end of the journal, or to a later cursor.** -/
lemma Inv.reads_on (h : Inv parseDate s) {drain : JoinDrain} (hdrain : s.drain = some drain)
    (hstage : drain.stage = .reading) {seed last : Nat} {cursor : Text}
    (hseed : s.seededAt = some seed) (hcursor : s.cursor = some cursor)
    (hlast : entryAt s.entries cursor = some last) :
    ∃ t, Drives parseDate s t ∧ (t.AllRecorded parseDate seed ∨
      (t.Fresh ∧ t.seededAt = some seed ∧ t.entries = s.entries ∧ ∃ next j,
        t.cursor = some next ∧ entryAt t.entries next = some j ∧ last < j)) := by
  obtain ⟨position, round, observedAt, stage⟩ := drain
  obtain rfl : stage = .reading := hstage
  obtain rfl : position = s.cursor := h.position _ hdrain
  obtain ⟨-, hend⟩ := h.reads_of_answer s.entries.length
  generalize hreading : readJoinSightings parseDate
    (readJournal s.entries s.entries.length (journalCommand journalMaxLines s.cursor)) s.cursor =
    reading at hend
  have hread : s.proceeds parseDate = { s with
      drain := some ⟨s.cursor, round, observedAt, .recording reading reading.joins⟩ } := by
    simp only [JoinState.proceeds, JoinState.next, hdrain, joinDrains, JoinState.answers, hreading]
    rfl
  have hdrain' : (s.proceeds parseDate).drain =
      some ⟨s.cursor, round, observedAt, .recording reading reading.joins⟩ := by rw [hread]
  obtain ⟨t, hdrives, ht, hentries, hstored, hseeded⟩ : ∃ t, Drives parseDate _ t ∧ _ :=
    drives_recorded reading.joins hdrain' rfl
  rw [hread] at hentries hstored hseeded
  have hall : Drives parseDate s t := (Drives.single s).trans hdrives
  have hinv : Inv parseDate t := by
    obtain ⟨n, rfl⟩ := hall
    exact h.iterate n
  have hcursor' : t.cursor = some cursor := hstored.trans hcursor
  have hlast' : entryAt t.entries cursor = some last := by rw [hentries, hlast]
  have hreads := hinv.reads _ reading [] ht rfl
  obtain ⟨-, next, j, hnext, hj, hle, hfull, hjoins, -⟩ :=
    hreads.resumed cursor last hcursor' hlast'
  cases hmore : reading.full with
  | true =>
    obtain ⟨hfresh, hsaved, hsame, hkept⟩ := hinv.concluded ht rfl hcursor' hnext
    refine ⟨t.proceeds parseDate, hall.trans (Drives.single t),
      .inr ⟨hfresh, ?_, ?_, next, j, hsaved, ?_, ?_⟩⟩
    · rw [hkept, hseeded, hseed]
    · rw [hsame, hentries]
    · rw [hsame, hj]
    · have hmax : 0 < journalMaxLines := by decide
      have := hfull hmore
      omega
  | false =>
    refine ⟨t, hall, .inl fun number join hfrom hjoin => ?_⟩
    obtain ⟨next', hnext', hentry⟩ := hend (by simp [hcursor]) hmore
    rw [hnext, Option.some.injEq] at hnext'
    rw [← hnext', ← hentries, hj, Option.some.injEq] at hentry
    have hlt := joinAt_lt hjoin
    obtain ⟨seed', last', hseed', hlast'', -, hrecorded⟩ := hinv.exists_last hcursor'
    rw [hseeded, hseed, Option.some.injEq] at hseed'
    rw [hlast', Option.some.injEq] at hlast''
    by_cases hold : number ≤ last
    · exact hrecorded number join (by omega) (by omega) hjoin
    · obtain hdone | hleft := hjoins number join (by omega) (by omega) hjoin
      · exact hdone
      · cases hleft

/-- **From a fresh state** the drains record every join. -/
lemma Inv.drives_fresh (h : Inv parseDate s) (hfresh : s.Fresh) {seed last : Nat} {cursor : Text}
    (hseed : s.seededAt = some seed) (hcursor : s.cursor = some cursor)
    (hlast : entryAt s.entries cursor = some last) :
    ∃ t, Drives parseDate s t ∧ t.AllRecorded parseDate seed := by
  induction hleft : s.entries.length - last using Nat.strong_induction_on
    generalizing s last cursor with
  | _ left ih =>
    have hon : ∀ u : JoinState, Inv parseDate u → u.entries = s.entries → u.cursor = s.cursor →
        u.seededAt = s.seededAt → (∃ drain, u.drain = some drain ∧ drain.stage = .reading) →
        ∃ t, Drives parseDate u t ∧ t.AllRecorded parseDate seed := by
      rintro u hu hentries hstored hseeded ⟨drain, hdrain, hstage⟩
      have hlast' : entryAt u.entries cursor = some last := by rw [hentries, hlast]
      obtain ⟨t, hdrives, hall | ⟨hfresh', hseed', hsame, next, j, hnext, hj, hlt⟩⟩ :=
        hu.reads_on hdrain hstage (hseeded.trans hseed) (hstored.trans hcursor) hlast'
      · exact ⟨t, hdrives, hall⟩
      · have ht : Inv parseDate t := by
          obtain ⟨n, rfl⟩ := hdrives
          exact hu.iterate n
        have hbound := entryAt_lt hj
        rw [hsame, hentries] at hbound
        have hsmaller : t.entries.length - j < left := by
          rw [hsame, hentries, ← hleft]
          omega
        obtain ⟨t', hdrives', hall⟩ := ih _ hsmaller ht hfresh' hseed' hnext hj rfl
        exact ⟨t', hdrives.trans hdrives', hall⟩
    cases hdrain : s.drain with
    | some drain => exact hon s h rfl rfl rfl ⟨drain, hdrain, hfresh drain hdrain⟩
    | none =>
      have hbegins : s.proceeds parseDate =
          { s with drain := some ⟨s.cursor, 0, 0, .reading⟩ } := by
        simp only [JoinState.proceeds, JoinState.next, hdrain, joinDrains, JoinState.begins]
        rfl
      obtain ⟨t, hdrives, hall⟩ := hon (s.proceeds parseDate) h.proceeds (by rw [hbegins])
        (by rw [hbegins]) (by rw [hbegins]) ⟨_, by rw [hbegins], rfl⟩
      exact ⟨t, (Drives.single s).trans hdrives, hall⟩

/-- **Drains that are repeated record every join.** -/
lemma Inv.drives_all (h : Inv parseDate s) {seed : Nat} (hseed : s.seededAt = some seed) :
    ∃ t, Drives parseDate s t ∧ t.AllRecorded parseDate seed := by
  obtain ⟨cursor, last, hcursor, hlast, -⟩ := h.kept.noneLost seed hseed
  by_cases hfresh : s.Fresh
  · exact h.drives_fresh hfresh hseed hcursor hlast
  · -- The drain under way has read when the journal was shorter.
    simp only [Fresh, not_forall] at hfresh
    obtain ⟨drain, hdrain, hstage⟩ := hfresh
    cases hrecording : drain.stage with
    | reading => exact absurd hrecording hstage
    | recording reading left =>
      obtain ⟨t, hdrives, ht, hentries, hstored, hseeded⟩ : ∃ t, Drives parseDate s t ∧ _ :=
        drives_recorded left hdrain hrecording
      have hinv : Inv parseDate t := by
        obtain ⟨n, rfl⟩ := hdrives
        exact h.iterate n
      have hcursor' : t.cursor = some cursor := hstored.trans hcursor
      have hlast' : entryAt t.entries cursor = some last := by rw [hentries, hlast]
      obtain ⟨-, next, j, hnext, hj, -⟩ :=
        (hinv.reads _ reading [] ht rfl).resumed cursor last hcursor' hlast'
      obtain ⟨hfresh', hsaved, hsame, hkept⟩ := hinv.concluded ht rfl hcursor' hnext
      obtain ⟨t', hdrives', hall⟩ := hinv.proceeds.drives_fresh hfresh'
        (hkept.trans (hseeded.trans hseed)) hsaved (hsame.symm ▸ hj)
      exact ⟨t', (hdrives.trans (Drives.single t)).trans hdrives', hall⟩

end JoinState

open JoinState

/-- **Logins are recorded once.**  At every point of every run the cursor is not beyond a join that
is not recorded, no login is recorded twice, none before the seeding cursor, and the first of each
process is marked.  Drains that are repeated without interruption record every join after the
seeding cursor. -/
theorem joins_recorded_once {parseDate : Text → Option Int} {s : JoinState}
    (h : (joinDrains parseDate).Reachable free s) :
    s.JoinsKept parseDate ∧ ∀ seed, s.seededAt = some seed → ∃ n, ∀ m, n ≤ m →
      ((JoinState.proceeds parseDate)^[m] s).AllRecorded parseDate seed := by
  have hinv : Inv parseDate s :=
    h.invariant (fun s hs => inv_init hs) fun t e u ht _ hstep => ht.step hstep
  refine ⟨hinv.kept, fun seed hseed => ?_⟩
  obtain ⟨t, ⟨n, rfl⟩, hall⟩ := hinv.drives_all hseed
  refine ⟨n, fun m hm => ?_⟩
  obtain ⟨k, rfl⟩ := Nat.exists_eq_add_of_le' hm
  rw [Function.iterate_add_apply]
  exact hall.iterate k

/-- A client that joins. -/
def joinedEntry : JournalEntry where
  notes := []
  line := "2024-01-01T00:00:00+0000 box mcc[42]: Server was successfully joined.".toList
  cursor := smallCursor '2'
  oneLine := by decide +kernel
  notBlank := by decide +kernel
  unmarked := by decide +kernel
  valid := by decide +kernel

/-- A journal is seeded, the client joins, and the drain stops after its login is recorded. -/
def stopsAfterJoin : List JoinEvent :=
  [.appends startingEntry, .begins 0, .reads 1, .concludes, .appends joinedEntry, .begins 0,
    .reads 2, .records, .crashes]

/-- The login is recorded, and the drains that follow do not record it again. -/
theorem joins_recorded_once_stopped :
    ∃ s, (joinDrains newYearStamp).exec
        { entries := [], cursor := none, signals := [], drain := none, seededAt := none }
        stopsAfterJoin = some s ∧
      s.signals.length = 1 ∧ s.JoinsKept newYearStamp ∧
      ∃ n, ∀ m, n ≤ m → ((JoinState.proceeds newYearStamp)^[m] s).AllRecorded newYearStamp 0 := by
  obtain ⟨s, hrun, hone, hseed⟩ : ∃ s, (joinDrains newYearStamp).exec
      { entries := [], cursor := none, signals := [], drain := none, seededAt := none }
      stopsAfterJoin = some s ∧ s.signals.length = 1 ∧ s.seededAt = some 0 := by
    have hsome : ((joinDrains newYearStamp).exec
        { entries := [], cursor := none, signals := [], drain := none, seededAt := none }
        stopsAfterJoin).any (fun s => s.signals.length == 1 && s.seededAt == some 0) = true := by
      decide +kernel
    obtain ⟨s, hrun, hs⟩ := (Option.any_eq_true _ _).1 hsome
    simp only [Bool.and_eq_true, beq_iff_eq] at hs
    exact ⟨s, hrun, hs⟩
  obtain ⟨hkept, hall⟩ := joins_recorded_once (.of_exec rfl hrun)
  exact ⟨s, hrun, hone, hkept, hall 0 hseed⟩

end OpenMcc
