import OpenMcc.Construction.RespawnSightings
import Mathlib.Data.List.Nodup
import Mathlib.Data.List.Pairwise

/-!
# Which respawns are recorded

A reading stores the latest id the client has issued as its cursor, whether or not the answer went
that far.  So the respawns that the page cuts off are passed over (`cut_off_respawn_is_lost`).
Under `passesPages`, which says of each cursor that is stored that no respawn past the page lies
before it, every respawn after the seeding reading is recorded once, and whatever was issued before
a reading is recorded when the reading is done (`respawns_recorded_once`).

The invariant of a reading in progress is that each respawn of its page is recorded or still to be
(`RespawnState.ReadingInv`).
-/

namespace OpenMcc

open TransitionSystem

/-! ## Answers -/

lemma foldl_max_eq {bound : Int} : ∀ {events : List McpEvent},
    (∀ event ∈ events, event.id ≤ bound) →
    events.foldl (fun seen event => max seen event.id) bound = bound
  | [], _ => rfl
  | event :: events, h => by
    have hfirst : max bound event.id = bound := by
      have hle := h event (List.mem_cons_self ..)
      omega
    rw [List.foldl_cons, hfirst]
    exact foldl_max_eq fun other hother => h other (List.mem_cons_of_mem _ hother)

/-- No more events than a page holds are never cut off. -/
lemma fitsPage_of_length {events : List McpEvent} (h : events.length ≤ respawnPageMax) :
    fitsPage events = true := by
  unfold fitsPage
  rw [List.drop_eq_nil_of_le h]
  rfl

lemma isNotableEvent_respawn : isNotableEvent respawnEventType = true := by
  decide +kernel

namespace RespawnState

variable {s t : RespawnState}

/-- The events are numbered upwards from one. -/
structure Numbered (s : RespawnState) : Prop where
  increasing : s.events.Pairwise fun earlier later => earlier.id < later.id
  positive : 0 ≤ s.latestId
  le_latest : ∀ event ∈ s.events, event.id ≤ s.latestId

lemma latestId_append (events : List McpEvent) (event : McpEvent) (s : RespawnState) :
    latestId { s with events := events ++ [event] } = event.id := by
  simp [latestId]

lemma Numbered.issues (hs : s.Numbered) {event : McpEvent} (h : s.latestId < event.id) :
    ({ s with events := s.events ++ [event] } : RespawnState).Numbered := by
  refine ⟨?_, ?_, ?_⟩
  · refine List.pairwise_append.mpr ⟨hs.increasing, List.pairwise_singleton _ _, ?_⟩
    intro earlier hearlier later hlater
    rw [List.mem_singleton] at hlater
    subst hlater
    exact Int.lt_of_le_of_lt (hs.le_latest earlier hearlier) h
  · rw [latestId_append]
    have hpositive := hs.positive
    omega
  · intro other hother
    rw [latestId_append]
    rcases List.mem_append.mp hother with hold | hnew
    · have hle := hs.le_latest other hold
      omega
    · exact Int.le_of_eq (congrArg McpEvent.id (List.mem_singleton.mp hnew))

/-- The cursor of a reading is the latest id, unless an earlier one was beyond it. -/
lemma readRespawnSightings_cursor (parseDate : Text → Option Int) (hs : s.Numbered)
    (instant : Int) :
    (s.readRespawnSightings parseDate instant).cursor = max (s.cursor.getD 0) s.latestId := by
  have hfold : (recentEventsFrom (s.answer (s.cursor.getD 0) respawnPageMax)).events.foldl
      (fun seen event => max seen event.id) s.latestId = s.latestId := by
    refine foldl_max_eq fun event hevent => ?_
    have hpage := List.mem_of_mem_take (List.mem_of_mem_filter hevent)
    exact hs.le_latest event (List.mem_of_mem_filter hpage)
  unfold readRespawnSightings respawnsFrom
  cases hcursor : s.cursor with
  | none =>
    rw [hcursor] at hfold
    exact congrArg (max 0) hfold
  | some cursor =>
    rw [hcursor] at hfold
    exact congrArg (max cursor) hfold

/-- The respawns of a reading that had a cursor. -/
lemma mem_readRespawnSightings (parseDate : Text → Option Int) {cursor : Int}
    (hcursor : s.cursor = some cursor) (instant eventId : Int) :
    (∃ respawn ∈ (s.readRespawnSightings parseDate instant).respawns,
        respawn.eventId = eventId) ↔
      ∃ event ∈ (s.pending cursor).take respawnPageMax, event.type = respawnEventType ∧
        cursor < event.id ∧ event.id = eventId := by
  unfold readRespawnSightings respawnsFrom recentEventsFrom answer
  rw [hcursor]
  simp only [Option.getD_some, List.mem_map, List.mem_filter, Bool.and_eq_true, beq_iff_eq,
    decide_eq_true_eq]
  constructor
  · rintro ⟨respawn, ⟨event, ⟨⟨hpage, -⟩, htype, hafter⟩, rfl⟩, hid⟩
    exact ⟨event, hpage, htype, hafter, hid⟩
  · rintro ⟨event, hpage, htype, hafter, rfl⟩
    refine ⟨_, ⟨event, ⟨⟨hpage, ?_⟩, htype, hafter⟩, rfl⟩, rfl⟩
    rw [htype]
    exact isNotableEvent_respawn

/-- The events up to the latest id are all there are. -/
lemma Numbered.passed_eq (hs : s.Numbered) {last : Int} (h : s.latestId ≤ last) (afterId : Int) :
    s.passed afterId last = s.pending afterId := by
  refine List.filter_congr fun event hevent => ?_
  have hle := hs.le_latest event hevent
  rw [show decide (event.id ≤ last) = true from decide_eq_true (by omega), Bool.and_true]

/-- An event beyond the last does not add to those that are passed. -/
lemma passed_append {event : McpEvent} {last : Int} (afterId : Int) (h : last < event.id) :
    passed { s with events := s.events ++ [event] } afterId last = s.passed afterId last := by
  have hbeyond : decide (event.id ≤ last) = false := decide_eq_false (by omega)
  simp [passed, List.filter_append, hbeyond]

lemma mem_passed {event : McpEvent} {afterId last : Int} :
    event ∈ s.passed afterId last ↔ event ∈ s.events ∧ afterId < event.id ∧ event.id ≤ last := by
  simp [passed]

/-! ## The invariant -/

/-- What a reading in progress knows: it seeds, or each respawn of its page is recorded or still to
be. -/
structure ReadingInv (s : RespawnState) (observation : RespawnObservation) : Prop where
  le_latest : observation.reading.cursor ≤ s.latestId
  seeds : s.cursor = none → observation.reading.seeded = true ∧ observation.left = []
  resumes : ∀ cursor, s.cursor = some cursor → observation.reading.seeded = false ∧
    cursor ≤ observation.reading.cursor ∧
    (∀ respawn ∈ observation.left, ∃ event ∈ s.events, event.type = respawnEventType ∧
      cursor < event.id ∧ event.id = respawn.eventId) ∧
    ∀ event ∈ (s.passed cursor observation.reading.cursor).take respawnPageMax,
      event.type = respawnEventType →
        s.Recorded event.id ∨ ∃ respawn ∈ observation.left, respawn.eventId = event.id

/-- The cursor that is stored, and that of the seeding reading. -/
def Seeded (s : RespawnState) : Prop :=
  (s.cursor = none ∧ s.seededAt = none ∧ s.signals = []) ∨
    ∃ seed cursor, s.seededAt = some seed ∧ s.cursor = some cursor ∧ seed ≤ cursor ∧
      cursor ≤ s.latestId ∧ s.RecordedBetween seed cursor

end RespawnState

open RespawnState

/-- What every run of the readings keeps. -/
structure RespawnInv (s : RespawnState) : Prop where
  numbered : s.Numbered
  seeded : s.Seeded
  once : (s.signals.map InstanceSignalRow.identity).Nodup
  sighted : ∀ signal ∈ s.signals, ∃ seed, s.seededAt = some seed ∧ ∃ event ∈ s.events,
    event.type = respawnEventType ∧ seed < event.id ∧ signal.identity = .respawn event.id
  reading : ∀ observation, s.observation = some observation → s.ReadingInv observation

section Steps

variable {s t : RespawnState}

lemma RespawnInv.of_init {parseDate : Text → Option Int}
    (h : (respawnReadings parseDate).init s) : RespawnInv s := by
  obtain ⟨hevents, hcursor, hsignals, hobservation, hseeded⟩ := h
  refine ⟨⟨?_, ?_, ?_⟩, Or.inl ⟨hcursor, hseeded, hsignals⟩, ?_, ?_, ?_⟩
  · rw [hevents]
    exact List.Pairwise.nil
  · simp [latestId, hevents]
  · simp [hevents]
  · simp [hsignals]
  · simp [hsignals]
  · simp [hobservation]

lemma RespawnInv.issues (hs : RespawnInv s) {event : McpEvent} (h : s.issues event = some t) :
    RespawnInv t := by
  unfold RespawnState.issues at h
  rw [Option.ite_none_right_eq_some] at h
  obtain ⟨hlater, ht⟩ := h
  obtain rfl := Option.some.inj ht
  have hlatest : latestId { s with events := s.events ++ [event] } = event.id :=
    latestId_append _ _ _
  -- an event that is new lies beyond everything the reading or the cursor has passed
  have hold : ∀ other ∈ s.events ++ [event], other.id ≤ s.latestId → other ∈ s.events := by
    intro other hother hle
    rcases List.mem_append.mp hother with hmem | hnew
    · exact hmem
    · rw [List.mem_singleton.mp hnew] at hle
      omega
  refine ⟨hs.numbered.issues hlater, ?_, hs.once, ?_, ?_⟩
  · rcases hs.seeded with hnone | ⟨seed, cursor, hseed, hcursor, hle, hlast, hall⟩
    · exact Or.inl hnone
    · refine Or.inr ⟨seed, cursor, hseed, hcursor, hle, ?_, ?_⟩
      · rw [hlatest]
        omega
      · intro other hother htype hafter hbefore
        exact hall other (hold other hother (by omega)) htype hafter hbefore
  · intro signal hsignal
    obtain ⟨seed, hseed, found, hfound, hrest⟩ := hs.sighted signal hsignal
    exact ⟨seed, hseed, found, List.mem_append_left _ hfound, hrest⟩
  · intro observation hobservation
    have hread := hs.reading observation hobservation
    have hbound := hread.le_latest
    refine ⟨?_, hread.seeds, fun cursor hcursor => ?_⟩
    · rw [hlatest]
      omega
    · obtain ⟨hseeded, hle, hleft, hall⟩ := hread.resumes cursor hcursor
      refine ⟨hseeded, hle, ?_, ?_⟩
      · intro respawn hrespawn
        obtain ⟨found, hfound, hrest⟩ := hleft respawn hrespawn
        exact ⟨found, List.mem_append_left _ hfound, hrest⟩
      · have hsame : passed { s with events := s.events ++ [event] } cursor
            observation.reading.cursor = s.passed cursor observation.reading.cursor :=
          passed_append _ (by omega)
        rw [hsame]
        exact hall

lemma RespawnInv.reads (hs : RespawnInv s) {parseDate : Text → Option Int} {instant : Int}
    (h : s.reads parseDate instant = some t) : RespawnInv t := by
  unfold RespawnState.reads at h
  cases hobservation : s.observation with
  | some observation =>
    rw [hobservation] at h
    cases h
  | none =>
    rw [hobservation] at h
    obtain rfl := Option.some.inj h
    have hnext := readRespawnSightings_cursor parseDate hs.numbered instant
    refine ⟨⟨hs.numbered.increasing, hs.numbered.positive, hs.numbered.le_latest⟩, hs.seeded,
      hs.once, hs.sighted, ?_⟩
    intro observation hsome
    obtain rfl := Option.some.inj hsome
    rcases hs.seeded with ⟨hnone, -, -⟩ | ⟨seed, cursor, -, hcursor, -, hlast, -⟩
    · have hpositive := hs.numbered.positive
      rw [hnone, Option.getD_none] at hnext
      refine ⟨?_, ?_, fun cursor hcursor => ?_⟩
      · show (s.readRespawnSightings parseDate instant).cursor ≤ s.latestId
        omega
      · intro _
        unfold readRespawnSightings respawnsFrom
        rw [hnone]
        exact ⟨rfl, rfl⟩
      · rw [show s.cursor = some cursor from hcursor] at hnone
        cases hnone
    · rw [hcursor, Option.getD_some] at hnext
      refine ⟨?_, fun hnone => ?_, fun other hother => ?_⟩
      · show (s.readRespawnSightings parseDate instant).cursor ≤ s.latestId
        omega
      · rw [show s.cursor = none from hnone] at hcursor
        cases hcursor
      · obtain rfl : cursor = other := Option.some.inj (hcursor.symm.trans hother)
        have hmem := mem_readRespawnSightings parseDate hcursor instant
        refine ⟨?_, ?_, ?_, ?_⟩
        · unfold readRespawnSightings respawnsFrom
          rw [hcursor]
        · show cursor ≤ (s.readRespawnSightings parseDate instant).cursor
          omega
        · intro respawn hrespawn
          obtain ⟨event, hevent, htype, hafter, hid⟩ :=
            (hmem respawn.eventId).mp ⟨respawn, hrespawn, rfl⟩
          exact ⟨event, List.mem_of_mem_filter (List.mem_of_mem_take hevent), htype, hafter, hid⟩
        · intro event hevent htype
          have hlatest : s.latestId ≤ (s.readRespawnSightings parseDate instant).cursor := by
            omega
          have hpage : event ∈ (s.pending cursor).take respawnPageMax := by
            rw [← hs.numbered.passed_eq hlatest]
            exact hevent
          have hafter := (mem_passed.mp (List.mem_of_mem_take hevent)).2.1
          exact Or.inr ((hmem event.id).mpr ⟨event, hpage, htype, hafter, rfl⟩)

lemma recordRespawn_eq (signals : List InstanceSignalRow) (respawn : RespawnSighting)
    (observedAt : Int) :
    (recordRespawn signals respawn observedAt = signals ∧
        ∃ signal ∈ signals, signal.identity = .respawn respawn.eventId) ∨
      (recordRespawn signals respawn observedAt = signals ++ [respawn.signal observedAt] ∧
        ∀ signal ∈ signals, signal.identity ≠ .respawn respawn.eventId) := by
  unfold recordRespawn
  by_cases hany : (signals.any fun row => row.identity == .respawn respawn.eventId) = true
  · rw [if_pos hany]
    obtain ⟨signal, hsignal, hidentity⟩ := List.any_eq_true.mp hany
    exact Or.inl ⟨rfl, signal, hsignal, beq_iff_eq.mp hidentity⟩
  · rw [if_neg hany]
    refine Or.inr ⟨rfl, fun signal hsignal hidentity => hany ?_⟩
    exact List.any_eq_true.mpr ⟨signal, hsignal, beq_iff_eq.mpr hidentity⟩

/-- Recording a respawn adds it, and nothing else, to what is recorded. -/
lemma recorded_recordRespawn (respawn : RespawnSighting) (observedAt eventId : Int) :
    (∃ signal ∈ recordRespawn s.signals respawn observedAt, signal.identity = .respawn eventId) ↔
      s.Recorded eventId ∨ eventId = respawn.eventId := by
  rcases recordRespawn_eq s.signals respawn observedAt with ⟨heq, hknown⟩ | ⟨heq, -⟩
  · rw [heq]
    constructor
    · exact Or.inl
    · rintro (hrecorded | rfl)
      · exact hrecorded
      · exact hknown
  · rw [heq]
    unfold Recorded
    simp only [List.mem_append, List.mem_singleton, or_and_right, exists_or, exists_eq_left,
      RespawnSighting.signal, SignalIdentity.respawn.injEq]
    rw [eq_comm (a := eventId)]

/-- What a transaction of a respawn leaves. -/
lemma records_eq_some (h : s.records = some t) : ∃ instant reading respawn left,
    s.observation = some ⟨instant, reading, respawn :: left⟩ ∧
    t = { s with
      signals := recordRespawn s.signals respawn instant
      observation := some ⟨instant, reading, left⟩ } := by
  unfold RespawnState.records at h
  split at h
  · rename_i instant reading respawn left hobservation
    exact ⟨instant, reading, respawn, left, hobservation, (Option.some.inj h).symm⟩
  · cases h

lemma RespawnInv.records (hs : RespawnInv s) (h : s.records = some t) : RespawnInv t := by
  obtain ⟨instant, reading, respawn, left, hobservation, rfl⟩ := records_eq_some h
  have hread := hs.reading _ hobservation
  rcases hs.seeded with ⟨hnone, -, -⟩ | ⟨seed, cursor, hseed, hcursor, hle, hlast, hall⟩
  · have hleft := (hread.seeds hnone).2
    cases hleft
  · obtain ⟨hseeded, hforward, hsources, hcovers⟩ := hread.resumes cursor hcursor
    obtain ⟨source, hsource, htype, hafter, hid⟩ := hsources respawn (List.mem_cons_self ..)
    have hgrows : ∀ eventId, s.Recorded eventId →
        ∃ signal ∈ recordRespawn s.signals respawn instant,
          signal.identity = .respawn eventId := fun eventId hrecorded =>
      (recorded_recordRespawn respawn instant eventId).mpr (Or.inl hrecorded)
    refine ⟨⟨hs.numbered.increasing, hs.numbered.positive, hs.numbered.le_latest⟩,
      Or.inr ⟨seed, cursor, hseed, hcursor, hle, hlast, ?_⟩, ?_, ?_, ?_⟩
    · intro event hevent hrespawn hfrom hto
      exact hgrows event.id (hall event hevent hrespawn hfrom hto)
    · show ((recordRespawn s.signals respawn instant).map InstanceSignalRow.identity).Nodup
      rcases recordRespawn_eq s.signals respawn instant with ⟨heq, -⟩ | ⟨heq, hfresh⟩
      · rw [heq]
        exact hs.once
      · rw [heq, List.map_append, List.nodup_append]
        refine ⟨hs.once, List.nodup_singleton _, ?_⟩
        intro identity hidentity other hother
        obtain ⟨signal, hsignal, rfl⟩ := List.mem_map.mp hidentity
        rw [List.map_singleton, List.mem_singleton] at hother
        rw [hother]
        exact hfresh signal hsignal
    · intro signal hsignal
      rcases recordRespawn_eq s.signals respawn instant with ⟨heq, -⟩ | ⟨heq, -⟩
      · exact hs.sighted signal (heq ▸ hsignal)
      · have hmem : signal ∈ s.signals ++ [respawn.signal instant] := heq ▸ hsignal
        rcases List.mem_append.mp hmem with hold | hnew
        · exact hs.sighted signal hold
        · rw [List.mem_singleton.mp hnew]
          refine ⟨seed, hseed, source, hsource, htype, by omega, ?_⟩
          rw [hid]
          rfl
    · intro observation hsome
      obtain rfl := Option.some.inj hsome
      refine ⟨hread.le_latest, fun hnone => ?_, fun other hother => ?_⟩
      · rw [show s.cursor = none from hnone] at hcursor
        cases hcursor
      · obtain rfl : cursor = other := Option.some.inj (hcursor.symm.trans hother)
        refine ⟨hseeded, hforward, fun next hnext => hsources next (List.mem_cons_of_mem _ hnext),
          fun event hevent hrespawn => ?_⟩
        rcases hcovers event hevent hrespawn with hrecorded | ⟨found, hfound, hfoundId⟩
        · exact Or.inl (hgrows event.id hrecorded)
        · rcases List.mem_cons.mp hfound with rfl | hlater
          · exact Or.inl
              ((recorded_recordRespawn found instant event.id).mpr (Or.inr hfoundId.symm))
          · exact Or.inr ⟨found, hlater, hfoundId⟩

/-- What a transaction of the cursor leaves. -/
lemma concludes_eq_some (h : s.concludes = some t) : ∃ instant reading,
    s.observation = some ⟨instant, reading, []⟩ ∧
    t = { s with
      cursor := some reading.cursor
      observation := none
      seededAt := if reading.seeded then some reading.cursor else s.seededAt } := by
  unfold RespawnState.concludes at h
  split at h
  · rename_i instant reading hobservation
    exact ⟨instant, reading, hobservation, (Option.some.inj h).symm⟩
  · cases h

lemma RespawnInv.concludes (hs : RespawnInv s) (hG : meets passesPages s .concludes)
    (h : s.concludes = some t) : RespawnInv t := by
  obtain ⟨instant, reading, hobservation, rfl⟩ := concludes_eq_some h
  have hread := hs.reading _ hobservation
  have hlatest : reading.cursor ≤ s.latestId := hread.le_latest
  have hnumbered : RespawnState.Numbered { s with
      cursor := some reading.cursor
      observation := none
      seededAt := if reading.seeded then some reading.cursor else s.seededAt } :=
    ⟨hs.numbered.increasing, hs.numbered.positive, hs.numbered.le_latest⟩
  rcases hs.seeded with ⟨hnone, -, hempty⟩ | ⟨seed, cursor, hseed, hcursor, hle, hlast, hall⟩
  · have hseeds : reading.seeded = true := (hread.seeds hnone).1
    refine ⟨hnumbered, Or.inr ⟨reading.cursor, reading.cursor, ?_, rfl, Int.le_refl _, hlatest,
      ?_⟩, hs.once, ?_, ?_⟩
    · show (if reading.seeded = true then some reading.cursor else s.seededAt) = _
      rw [if_pos hseeds]
    · intro event _ _ hfrom hto
      omega
    · show ∀ signal ∈ s.signals, _
      rw [hempty]
      simp
    · intro observation hsome
      cases hsome
  · obtain ⟨hseeded, hforward, -, hcovers⟩ := hread.resumes cursor hcursor
    have hseedAt : (if reading.seeded = true then some reading.cursor else s.seededAt) =
        some seed := by
      rw [if_neg (by rw [show reading.seeded = false from hseeded]; decide), hseed]
    have hforward' : cursor ≤ reading.cursor := hforward
    refine ⟨hnumbered, Or.inr ⟨seed, reading.cursor, hseedAt, rfl, by omega, hlatest,
      ?_⟩, hs.once, ?_, ?_⟩
    · intro event hevent htype hfrom hto
      by_cases hbefore : event.id ≤ cursor
      · exact hall event hevent htype hfrom hbefore
      · have hpassed : event ∈ s.passed cursor reading.cursor :=
          mem_passed.mpr ⟨hevent, by omega, hto⟩
        rw [← List.take_append_drop respawnPageMax (s.passed cursor reading.cursor)] at hpassed
        rcases List.mem_append.mp hpassed with hpage | hcut
        · rcases hcovers event hpage htype with hrecorded | ⟨_, hleft, -⟩
          · exact hrecorded
          · cases hleft
        · have hfits : fitsPage (s.passed cursor reading.cursor) = true := by
            unfold meets passesPages at hG
            rw [hobservation, hcursor] at hG
            exact hG
          have hother := List.all_eq_true.mp hfits event hcut
          rw [htype] at hother
          simp at hother
    · intro signal hsignal
      obtain ⟨other, hother, hrest⟩ := hs.sighted signal hsignal
      obtain rfl : seed = other := Option.some.inj (hseed.symm.trans hother)
      exact ⟨seed, hseedAt, hrest⟩
    · intro observation hsome
      cases hsome

lemma RespawnInv.crashes (hs : RespawnInv s) (h : s.crashes = some t) : RespawnInv t := by
  unfold RespawnState.crashes at h
  cases hobservation : s.observation with
  | none =>
    rw [hobservation] at h
    cases h
  | some observation =>
    rw [hobservation] at h
    obtain rfl := Option.some.inj h
    refine ⟨⟨hs.numbered.increasing, hs.numbered.positive, hs.numbered.le_latest⟩, hs.seeded,
      hs.once, hs.sighted, fun other hsome => ?_⟩
    cases hsome

/-- **Every step keeps the respawns.** -/
lemma RespawnInv.step {parseDate : Text → Option Int} (hs : RespawnInv s) {e : RespawnEvent}
    (hG : meets passesPages s e) (h : (respawnReadings parseDate).step s e = some t) :
    RespawnInv t := by
  cases e with
  | issues event => exact hs.issues h
  | reads instant => exact hs.reads h
  | records => exact hs.records h
  | concludes => exact hs.concludes hG h
  | crashes => exact hs.crashes h

lemma RespawnInv.kept (hs : RespawnInv s) : s.RespawnsKept := by
  refine ⟨fun seed hseed => ?_, hs.once, hs.sighted⟩
  rcases hs.seeded with ⟨-, hnone, -⟩ | ⟨other, cursor, hother, hcursor, hle, -, hall⟩
  · rw [hnone] at hseed
    cases hseed
  · obtain rfl : other = seed := Option.some.inj (hother.symm.trans hseed)
    exact ⟨cursor, hcursor, hle, hall⟩

end Steps

/-! ## A whole reading -/

/-- A reading that nothing interrupts, and whose cursor passes no respawn past the page, ends with
its cursor stored. -/
lemma exec_finishing (parseDate : Text → Option Int) {cursor : Int} :
    ∀ (left : List RespawnSighting) (s : RespawnState) (instant : Int) (reading : RespawnReading),
    s.cursor = some cursor → fitsPage (s.passed cursor reading.cursor) = true →
    s.observation = some ⟨instant, reading, left⟩ → reading.seeded = false →
    ∃ t, (respawnReadings parseDate).execUnder passesPages s (finishing left.length) = some t ∧
      t.events = s.events ∧ t.seededAt = s.seededAt ∧ t.cursor = some reading.cursor
  | [], s, instant, reading, hcursor, hfits, hobservation, hseeded => by
    have hG : passesPages s .concludes = true := by
      unfold passesPages
      rw [hobservation, hcursor]
      exact hfits
    have hstep : s.concludes = some { s with
        cursor := some reading.cursor
        observation := none
        seededAt := if reading.seeded then some reading.cursor else s.seededAt } := by
      unfold RespawnState.concludes
      rw [hobservation]
    refine ⟨{ s with
        cursor := some reading.cursor
        observation := none
        seededAt := if reading.seeded then some reading.cursor else s.seededAt }, ?_, rfl, ?_, rfl⟩
    · show (respawnReadings parseDate).execUnder passesPages s [.concludes] = _
      rw [execUnder, if_pos hG]
      show s.concludes.bind _ = _
      rw [hstep]
      rfl
    · show (if reading.seeded = true then some reading.cursor else s.seededAt) = s.seededAt
      rw [hseeded]
      rfl
  | respawn :: left, s, instant, reading, hcursor, hfits, hobservation, hseeded => by
    have hstep : s.records = some { s with
        signals := recordRespawn s.signals respawn instant
        observation := some ⟨instant, reading, left⟩ } := by
      unfold RespawnState.records
      rw [hobservation]
    obtain ⟨t, hrun, hevents, hseededAt, hreached⟩ := exec_finishing parseDate left { s with
      signals := recordRespawn s.signals respawn instant
      observation := some ⟨instant, reading, left⟩ } instant reading hcursor hfits rfl hseeded
    refine ⟨t, ?_, hevents, hseededAt, hreached⟩
    show (s.records.bind fun t =>
      (respawnReadings parseDate).execUnder passesPages t (finishing left.length)) = _
    rw [hstep]
    exact hrun

/-- A reading that is not cut off from a respawn, and that nothing interrupts, records every
respawn issued before it. -/
lemma RespawnInv.reads_all {parseDate : Text → Option Int} {s : RespawnState} {seed : Int}
    (hs : RespawnInv s) (hseed : s.seededAt = some seed) (hidle : s.observation = none)
    (instant : Int)
    (hfits : ∀ cursor, s.cursor = some cursor → fitsPage (s.pending cursor) = true) :
    ∃ left t,
      (respawnReadings parseDate).execUnder passesPages s (.reads instant :: finishing left) =
        some t ∧
      t.events = s.events ∧ ∀ event ∈ s.events, event.type = respawnEventType →
        seed < event.id → t.Recorded event.id := by
  rcases hs.seeded with ⟨-, hnone, -⟩ | ⟨other, cursor, -, hcursor, -, -, -⟩
  · rw [hnone] at hseed
    cases hseed
  let reading := s.readRespawnSightings parseDate instant
  let asked : RespawnState :=
    { s with observation := some ⟨instant, reading, reading.respawns⟩ }
  have hstep : s.reads parseDate instant = some asked := by
    unfold RespawnState.reads
    rw [hidle]
  have hseeded : reading.seeded = false := by
    show (s.readRespawnSightings parseDate instant).seeded = false
    unfold readRespawnSightings respawnsFrom
    rw [hcursor]
  have hlatest : s.latestId ≤ reading.cursor := by
    have hnext := readRespawnSightings_cursor parseDate hs.numbered instant
    show s.latestId ≤ (s.readRespawnSightings parseDate instant).cursor
    omega
  have hpassed : fitsPage (asked.passed cursor reading.cursor) = true := by
    show fitsPage (s.passed cursor reading.cursor) = true
    rw [hs.numbered.passed_eq hlatest]
    exact hfits cursor hcursor
  obtain ⟨t, hrun, hevents, hseededAt, hreached⟩ :=
    exec_finishing parseDate reading.respawns asked instant reading hcursor hpassed rfl hseeded
  have hwhole : (respawnReadings parseDate).execUnder passesPages s
      (.reads instant :: finishing reading.respawns.length) = some t := by
    have hG : passesPages s (.reads instant) = true := rfl
    rw [execUnder, if_pos hG]
    show (s.reads parseDate instant).bind _ = _
    rw [hstep]
    exact hrun
  have ht : RespawnInv t :=
    (path_of_execUnder hwhole).invariant hs fun t e u ht hG hstep => ht.step hG hstep
  obtain ⟨last, hlast, -, hall⟩ := ht.kept.noneLost seed (hseededAt.trans hseed)
  obtain rfl : reading.cursor = last := Option.some.inj (hreached.symm.trans hlast)
  refine ⟨reading.respawns.length, t, hwhole, hevents, fun event hevent htype hafter => ?_⟩
  have hle := hs.numbered.le_latest event hevent
  exact hall event (hevents ▸ hevent) htype hafter (by omega)

/-- **Respawns are recorded once.**  In a run whose readings are not cut off from a respawn, no
respawn after the seeding reading and up to the stored cursor is missing, none is recorded twice,
and nothing else is recorded.  And the next such reading, when it is not interrupted, records every
respawn issued before it. -/
theorem respawns_recorded_once {parseDate : Text → Option Int} {s : RespawnState}
    (h : (respawnReadings parseDate).Reachable (meets passesPages) s) :
    s.RespawnsKept ∧ ∀ seed instant, s.seededAt = some seed → s.observation = none →
      (∀ cursor, s.cursor = some cursor → fitsPage (s.pending cursor) = true) →
      ∃ left t,
        (respawnReadings parseDate).execUnder passesPages s (.reads instant :: finishing left) =
          some t ∧
        t.events = s.events ∧ ∀ event ∈ s.events, event.type = respawnEventType →
          seed < event.id → t.Recorded event.id := by
  have hs : RespawnInv s :=
    h.invariant (fun s hinit => RespawnInv.of_init hinit) fun t e u ht hG hstep => ht.step hG hstep
  exact ⟨hs.kept, fun seed instant hseed hidle hfits => hs.reads_all hseed hidle instant hfits⟩

/-! ## A reading that is cut off -/

/-- An event of this type, issued under this number. -/
def eventOf (type : Text) (id : Nat) : McpEvent := ⟨id, [], type⟩

/-- The first reading, then two hundred changes of the weather and a respawn, then the next
reading. -/
def cutOffReading : List RespawnEvent :=
  [.reads 0, .concludes] ++
    ((List.range 200).map fun number => .issues (eventOf "weather_rain".toList (number + 1))) ++
    [.issues (eventOf respawnEventType 201), .reads 30000, .concludes]

/-- A bot whose respawns were never read. -/
def unread : RespawnState where
  events := []
  cursor := none
  signals := []
  observation := none
  seededAt := none

/-- What is looked at of the run: the two cursors, whether nothing is recorded, and the last event
issued. -/
def outline (s : RespawnState) : Option Int × Option Int × Bool × Option McpEvent :=
  (s.seededAt, s.cursor, s.signals.isEmpty, s.events.getLast?)

lemma exists_outline (events : List RespawnEvent)
    (view : Option Int × Option Int × Bool × Option McpEvent)
    (h : ((respawnReadings fun _ => none).exec unread events).map outline = some view) :
    ∃ s, (respawnReadings fun _ => none).exec unread events = some s ∧ outline s = view :=
  Option.map_eq_some_iff.mp h

/-- **A respawn that is passed over.**  The answer holds the two hundred changes of the weather, the
cursor is stored as the respawn's own id, and nothing is recorded. -/
theorem cut_off_respawn_is_lost :
    ¬ ∀ (parseDate : Text → Option Int) (s : RespawnState),
      (respawnReadings parseDate).Reachable free s → s.RespawnsKept := by
  intro hclaim
  obtain ⟨s, hrun, houtline⟩ := exists_outline cutOffReading
    (some 0, some 201, true, some (eventOf respawnEventType 201)) (by decide +kernel)
  simp only [outline, Prod.mk.injEq] at houtline
  obtain ⟨hseed, hcursor, hempty, hlast⟩ := houtline
  have hkept := hclaim (fun _ => none) s (.of_exec ⟨rfl, rfl, rfl, rfl, rfl⟩ hrun)
  obtain ⟨cursor, hstored, -, hall⟩ := hkept.noneLost 0 hseed
  obtain rfl : 201 = cursor := Option.some.inj (hcursor.symm.trans hstored)
  obtain ⟨signal, hsignal, -⟩ := hall (eventOf respawnEventType 201)
    (List.mem_of_getLast? hlast) rfl (by decide) (by decide)
  rw [List.isEmpty_iff.mp hempty] at hsignal
  cases hsignal

/-- A respawn that the next reading finds at once, and a process that stops before the cursor is
stored. -/
def repeatedReading : List RespawnEvent :=
  [.reads 0, .concludes, .issues (eventOf respawnEventType 1), .reads 30000, .records, .crashes]

/-- It is recorded once, and the reading after that records no other. -/
theorem repeated_reading_records_once :
    ∃ s, (respawnReadings fun _ => none).execUnder passesPages unread repeatedReading = some s ∧
      s.signals.length = 1 ∧ s.RespawnsKept ∧
      ∃ left t, (respawnReadings fun _ => none).execUnder passesPages s
          (.reads 60000 :: finishing left) = some t ∧
        t.events = s.events ∧ ∀ event ∈ s.events, event.type = respawnEventType →
          0 < event.id → t.Recorded event.id := by
  obtain ⟨s, hrun, hone, hseed, hidle, hevents⟩ : ∃ s,
      (respawnReadings fun _ => none).execUnder passesPages unread repeatedReading = some s ∧
      s.signals.length = 1 ∧ s.seededAt = some 0 ∧ s.observation = none ∧
      s.events.length = 1 := ⟨_, rfl, rfl, rfl, rfl, rfl⟩
  have hfits : ∀ cursor, s.cursor = some cursor → fitsPage (s.pending cursor) = true := by
    intro cursor _
    have hfew : (s.pending cursor).length ≤ s.events.length := List.length_filter_le _ _
    exact fitsPage_of_length (hfew.trans (by rw [hevents]; decide))
  obtain ⟨hkept, hnext⟩ :=
    respawns_recorded_once (.of_execUnder ⟨rfl, rfl, rfl, rfl, rfl⟩ hrun)
  exact ⟨s, hrun, hone, hkept, hnext 0 60000 hseed hidle hfits⟩

end OpenMcc
