import Mathlib.Data.List.Nodup
import Mathlib.Data.List.Perm.Subperm
import OpenMcc.Construction.LivePorts

/-!
# Ports are given out once

With any number of calls at work, no port is recorded twice, and a row gets a port of the range that
was not recorded when its call began.  A call that gives up after its tries has met a port each time
that another call took after it had read the rows, so five rows at the least were inserted in the
meantime.  A call that finds no port has heard an answer from each one that was not recorded and
that it had not tried (`ports_claimed`).
-/

namespace OpenMcc

namespace LivePorts

open TransitionSystem

variable {s t : State} {i : Nat} {c c' : Call} {rows rows' : List Nat}
  {log more : List Inserted} {met met' : Nat → Prop}

/-- A port that may be given out. -/
def InRange (port : Nat) : Prop := defaultLiveControlPort ≤ port ∧ port ≤ liveControlPortLimit

lemma mem_freeLiveControlPorts {taken : List Nat} {port : Nat} :
    port ∈ freeLiveControlPorts taken ↔ InRange port ∧ port ∉ taken := by
  have hrange : port ∈ List.range' defaultLiveControlPort
      (liveControlPortLimit + 1 - defaultLiveControlPort) ↔ InRange port := by
    rw [List.mem_range'_1, InRange, defaultLiveControlPort, liveControlPortLimit]
    omega
  rw [freeLiveControlPorts, List.mem_filter, hrange, Bool.not_eq_true', ← Bool.not_eq_true,
    List.contains_iff_mem]

/-! ## One call -/

/-- What holds of a call where it stands; `met` are the ports that others took since it began. -/
def StageInv (met : Nat → Prop) (c : Call) : Stage → Prop
  | .probes ports =>
    (∀ port ∈ c.tried, met port) ∧ c.tried.length < livePortClaimAttempts ∧
      (∀ port ∈ ports, InRange port ∧ port ∉ c.claimed) ∧
      ∀ port, InRange port → port ∈ c.claimed ∨ port ∈ c.answered ∨ port ∈ ports
  | .inserts port =>
    (∃ before, c.tried = before ++ [port] ∧ ∀ port ∈ before, met port) ∧
      c.tried.length ≤ livePortClaimAttempts
  | .created port => port ∈ c.tried
  | .exhausted => (∀ port ∈ c.tried, met port) ∧ c.tried.length = livePortClaimAttempts
  | .noPort => ∀ port, InRange port → port ∈ c.claimed ∨ port ∈ c.answered
  | .failed => True

lemma StageInv.mono (hmet : ∀ port, met port → met' port) {stage : Stage}
    (h : StageInv met c stage) : StageInv met' c stage := by
  cases stage with
  | probes ports => exact ⟨fun port hport => hmet port (h.1 port hport), h.2⟩
  | inserts port =>
    obtain ⟨⟨before, htried, hbefore⟩, hlength⟩ := h
    exact ⟨⟨before, htried, fun port hport => hmet port (hbefore port hport)⟩, hlength⟩
  | created port => exact h
  | exhausted => exact ⟨fun port hport => hmet port (h.1 port hport), h.2⟩
  | noPort => exact h
  | failed => exact h

/-- A port that was inserted after so many rows. -/
def Met (log : List Inserted) (since port : Nat) : Prop := ∃ e ∈ log.drop since, e.port = port

/-- What holds of a call. -/
structure CallInv (rows : List Nat) (log : List Inserted) (i : Nat) (c : Call) : Prop where
  since : c.since ≤ log.length
  /-- What is recorded was recorded when the call began, or was inserted since. -/
  covered : ∀ port ∈ rows, port ∈ c.taken ∨ Met log c.since port
  nodup : c.tried.Nodup
  fresh : ∀ port ∈ c.tried, InRange port ∧ port ∉ c.taken
  own : ∀ e ∈ log, e.call = i → ∃ port, c.stage = .created port
  stage : StageInv (Met log c.since) c c.stage

lemma Met.append {since port : Nat} (hsince : since ≤ log.length) (more : List Inserted)
    (h : Met log since port) : Met (log ++ more) since port := by
  obtain ⟨e, he, hport⟩ := h
  refine ⟨e, ?_, hport⟩
  rw [List.drop_append_of_le_length hsince]
  exact List.mem_append_left _ he

lemma Met.of_append {since : Nat} (hsince : since ≤ log.length) {e : Inserted} (he : e ∈ more) :
    Met (log ++ more) since e.port := by
  refine ⟨e, ?_, rfl⟩
  rw [List.drop_append_of_le_length hsince]
  exact List.mem_append_right _ he

/-- A call is as it was when rows go away, and when others insert rows. -/
lemma CallInv.mono (h : CallInv rows log i c) (hcall : ∀ e ∈ more, e.call ≠ i)
    (hrows : ∀ port ∈ rows', port ∈ rows ∨ ∃ e ∈ more, e.port = port) :
    CallInv rows' (log ++ more) i c where
  since := by
    have hsince := h.since
    rw [List.length_append]
    omega
  covered port hport := by
    obtain hold | ⟨e, he, rfl⟩ := hrows port hport
    · exact (h.covered port hold).imp_right (Met.append h.since more)
    · exact Or.inr (Met.of_append h.since he)
  nodup := h.nodup
  fresh := h.fresh
  own e he hi := by
    obtain he | he := List.mem_append.1 he
    · exact h.own e he hi
    · exact absurd hi (hcall e he)
  stage := h.stage.mono fun _ => Met.append h.since more

lemma not_own (h : CallInv rows log i c) (hstage : ∀ port, c.stage ≠ .created port) :
    ∀ e ∈ log, e.call ≠ i := fun e he hi =>
  (h.own e he hi).elim fun port heq => hstage port heq

/-- A call that begins to probe again. -/
lemma CallInv.probe (h : CallInv rows log i c) (hstage : ∀ port, c.stage ≠ .created port)
    (hmet : ∀ port ∈ c.tried, Met log c.since port)
    (hlength : c.tried.length < livePortClaimAttempts) : CallInv rows log i c.probe where
  since := h.since
  covered := h.covered
  nodup := h.nodup
  fresh := h.fresh
  own e he hi := absurd hi (not_own h hstage e he)
  stage := by
    refine ⟨hmet, hlength, fun port hport => mem_freeLiveControlPorts.1 hport, fun port hport => ?_⟩
    by_cases hclaimed : port ∈ c.claimed
    · exact Or.inl hclaimed
    · exact Or.inr (Or.inr (mem_freeLiveControlPorts.2 ⟨hport, hclaimed⟩))

/-- A port answers, or it does not. -/
lemma CallInv.hears {answers : Bool} (h : CallInv rows log i c)
    (hhears : c.hears answers = some c') : CallInv rows log i c' := by
  have hstage := h.stage
  rw [Call.hears] at hhears
  split at hhears
  · rename_i heq
    rw [heq] at hstage
    have hown := not_own h fun port hcreated => by
      rw [heq] at hcreated
      cases hcreated
    split at hhears
    · cases hhears
    · cases hhears
      refine ⟨h.since, h.covered, h.nodup, h.fresh, fun e he hi => absurd hi (hown e he), ?_⟩
      intro port hport
      obtain hclaimed | hanswered | hnone := hstage.2.2.2 port hport
      · exact Or.inl hclaimed
      · exact Or.inr hanswered
      · exact absurd hnone List.not_mem_nil
  · rename_i port rest heq
    rw [heq] at hstage
    obtain ⟨hmet, hlength, hports, hall⟩ := hstage
    have hown := not_own h fun port hcreated => by
      rw [heq] at hcreated
      cases hcreated
    split at hhears
    · cases hhears
      refine ⟨h.since, h.covered, h.nodup, h.fresh, fun e he hi => absurd hi (hown e he), ?_⟩
      refine ⟨hmet, hlength, fun p hp => hports p (List.mem_cons_of_mem _ hp), fun p hp => ?_⟩
      obtain hclaimed | hanswered | hlater := hall p hp
      · exact Or.inl hclaimed
      · exact Or.inr (Or.inl (List.mem_cons_of_mem _ hanswered))
      · obtain rfl | hlater := List.mem_cons.1 hlater
        · exact Or.inr (Or.inl List.mem_cons_self)
        · exact Or.inr (Or.inr hlater)
    · cases hhears
      have hport := hports port List.mem_cons_self
      have hnew : port ∉ c.taken ∧ port ∉ c.tried := by
        rw [Call.claimed, List.mem_append, not_or] at hport
        exact hport.2
      refine ⟨h.since, h.covered, ?_, fun p hp => ?_, fun e he hi => absurd hi (hown e he), ?_⟩
      · exact List.nodup_append.2 ⟨h.nodup, List.nodup_singleton port, fun p hp q hq heq =>
          hnew.2 (List.mem_singleton.1 hq ▸ heq ▸ hp)⟩
      · obtain hp | hp := List.mem_append.1 hp
        · exact h.fresh p hp
        · rw [List.mem_singleton.1 hp]
          exact ⟨hport.1, hnew.1⟩
      · refine ⟨⟨c.tried, rfl, hmet⟩, ?_⟩
        rw [List.length_append, List.length_singleton]
        omega
  · cases hhears

/-- The insert meets a port that another call took since. -/
lemma CallInv.violated {port : Nat} (h : CallInv rows log i c) (hc : c.stage = .inserts port)
    (hport : port ∈ rows) : CallInv rows log i c.violated := by
  have hstage := h.stage
  have hcreated : ∀ port, c.stage ≠ .created port := fun port hcreated => by
    rw [hc] at hcreated
    cases hcreated
  rw [hc] at hstage
  obtain ⟨⟨before, htried, hbefore⟩, hlength⟩ := hstage
  have hlast : port ∈ c.tried := by
    rw [htried]
    exact List.mem_append_right _ (List.mem_singleton.2 rfl)
  have hmet : ∀ p ∈ c.tried, Met log c.since p := by
    intro p hp
    rw [htried] at hp
    obtain hp | hp := List.mem_append.1 hp
    · exact hbefore p hp
    · rw [List.mem_singleton.1 hp]
      exact (h.covered port hport).resolve_left (h.fresh port hlast).2
  rw [Call.violated]
  split
  · rename_i hfive
    exact ⟨h.since, h.covered, h.nodup, h.fresh,
      fun e he hi => absurd hi (not_own h hcreated e he), hmet, hfive⟩
  · rename_i hfew
    exact h.probe hcreated hmet (by omega)

/-! ## All calls -/

/-- What holds of a host. -/
structure Inv (s : State) : Prop where
  rows : s.rows.Nodup
  log : ∀ e ∈ s.log, e.call < s.calls.length
  calls : ∀ i c, s.calls[i]? = some c → CallInv s.rows s.log i c

lemma inv_of_init (h : system.init s) : Inv s where
  rows := h.1
  log e he := by
    rw [h.2.2] at he
    exact absurd he List.not_mem_nil
  calls i c hc := by
    rw [h.2.1] at hc
    cases hc

/-- A call that stands somewhere else, where nothing is inserted. -/
lemma Inv.set (h : Inv s) (hc : s.calls[i]? = some c) (hcall : CallInv s.rows s.log i c') :
    Inv { s with calls := s.calls.set i c' } where
  rows := h.rows
  log e he := by
    rw [List.length_set]
    exact h.log e he
  calls j d hd := by
    obtain ⟨hlt, -⟩ := List.getElem?_eq_some_iff.1 hc
    by_cases hj : j = i
    · subst hj
      rw [List.getElem?_set_self hlt] at hd
      cases hd
      exact hcall
    · rw [List.getElem?_set_ne (Ne.symm hj)] at hd
      exact h.calls j d hd

/-- A call begins. -/
lemma Inv.begins (h : Inv s) : Inv { s with calls := s.calls ++ [s.begin] } where
  rows := h.rows
  log e he := by
    have hlt := h.log e he
    rw [List.length_append]
    omega
  calls i c hc := by
    by_cases hlt : i < s.calls.length
    · rw [List.getElem?_append_left hlt] at hc
      exact h.calls i c hc
    · have hle := Nat.le_of_not_lt hlt
      rw [List.getElem?_append_right hle] at hc
      obtain ⟨hone, rfl⟩ := List.getElem?_eq_some_iff.1 hc
      rw [List.getElem_singleton]
      have hraw : CallInv s.rows s.log i (Call.mk s.rows [] .failed s.log.length []) :=
        { since := Nat.le_refl _
          covered := fun port hport => Or.inl hport
          nodup := List.nodup_nil
          fresh := fun _ hp => absurd hp List.not_mem_nil
          own := fun e he hi => absurd (h.log e he) (by omega)
          stage := trivial }
      exact hraw.probe (fun _ => Stage.noConfusion) (fun _ hp => absurd hp List.not_mem_nil)
        (show 0 < livePortClaimAttempts by decide)

/-- A call inserts its row. -/
lemma Inv.inserts {port : Nat} (h : Inv s) (hc : s.calls[i]? = some c)
    (hstage : c.stage = .inserts port) (hport : port ∉ s.rows) :
    Inv
      { rows := s.rows ++ [port]
        calls := s.calls.set i { c with stage := .created port }
        log := s.log ++ [⟨i, port⟩] } where
  rows := List.nodup_append.2 ⟨h.rows, List.nodup_singleton port, fun p hp q hq heq =>
    hport (List.mem_singleton.1 hq ▸ heq ▸ hp)⟩
  log e he := by
    rw [List.length_set]
    obtain he | he := List.mem_append.1 he
    · exact h.log e he
    · rw [List.mem_singleton.1 he]
      exact (List.getElem?_eq_some_iff.1 hc).1
  calls j d hd := by
    obtain ⟨hlt, -⟩ := List.getElem?_eq_some_iff.1 hc
    have hrows : ∀ p ∈ s.rows ++ [port], p ∈ s.rows ∨ ∃ e ∈ [Inserted.mk i port], e.port = p := by
      intro p hp
      obtain hp | hp := List.mem_append.1 hp
      · exact Or.inl hp
      · exact Or.inr ⟨_, List.mem_singleton.2 rfl, (List.mem_singleton.1 hp).symm⟩
    by_cases hj : j = i
    · subst hj
      rw [List.getElem?_set_self hlt] at hd
      cases hd
      have hcall := h.calls j c hc
      have hlast : port ∈ c.tried := by
        have hinserts := hcall.stage
        rw [hstage] at hinserts
        obtain ⟨⟨before, htried, -⟩, -⟩ := hinserts
        rw [htried]
        exact List.mem_append_right _ (List.mem_singleton.2 rfl)
      refine ⟨?_, fun p hp => ?_, hcall.nodup, hcall.fresh, fun _ _ _ => ⟨port, rfl⟩, hlast⟩
      · have hsince := hcall.since
        rw [List.length_append]
        exact Nat.le_add_right_of_le hsince
      · obtain hold | ⟨e, he, rfl⟩ := hrows p hp
        · exact (hcall.covered p hold).imp_right (Met.append hcall.since _)
        · exact Or.inr (Met.of_append hcall.since he)
    · rw [List.getElem?_set_ne (Ne.symm hj)] at hd
      refine (h.calls j d hd).mono (fun e he heq => hj ?_) hrows
      rw [List.mem_singleton.1 he] at heq
      exact heq.symm

/-- A row goes away. -/
lemma Inv.removes (h : Inv s) (port : Nat) : Inv { s with rows := s.rows.filter (· ≠ port) } where
  rows := h.rows.filter _
  log := h.log
  calls i c hc := by
    have hcall := @CallInv.mono i c s.rows (s.rows.filter (· ≠ port)) s.log [] (h.calls i c hc)
      (fun e he => absurd he List.not_mem_nil) fun p hp => Or.inl (List.mem_of_mem_filter hp)
    rwa [List.append_nil] at hcall

/-- **One step** keeps the invariant. -/
lemma Inv.step {e : Event} (h : Inv s) (hstep : s.step e = some t) : Inv t := by
  cases e with
  | begins =>
    cases hstep
    exact h.begins
  | hears i answers =>
    obtain ⟨c', hc', rfl⟩ := Option.map_eq_some_iff.1 hstep
    obtain ⟨c, hc, hhears⟩ := Option.bind_eq_some_iff.1 hc'
    exact h.set hc ((h.calls i c hc).hears hhears)
  | inserts i =>
    obtain ⟨c, hc, hnext⟩ := Option.bind_eq_some_iff.1 hstep
    split at hnext
    · rename_i port hstage
      split at hnext
      · rename_i htaken
        cases hnext
        exact h.set hc ((h.calls i c hc).violated hstage (List.contains_iff_mem.1 htaken))
      · rename_i hfree
        cases hnext
        exact h.inserts hc hstage fun hmem => hfree (List.contains_iff_mem.2 hmem)
    · cases hnext
  | fails i =>
    obtain ⟨c, hc, hnext⟩ := Option.bind_eq_some_iff.1 hstep
    have hcall := h.calls i c hc
    have hfailed : (∀ port, c.stage ≠ .created port) →
        CallInv s.rows s.log i { c with stage := .failed } := fun hstage =>
      ⟨hcall.since, hcall.covered, hcall.nodup, hcall.fresh,
        fun e he hi => absurd hi (not_own hcall hstage e he), trivial⟩
    split at hnext
    · rename_i ports hstage
      cases hnext
      exact h.set hc (hfailed fun port heq => Stage.noConfusion (hstage.symm.trans heq))
    · rename_i port hstage
      cases hnext
      exact h.set hc (hfailed fun port heq => Stage.noConfusion (hstage.symm.trans heq))
    · cases hnext
  | removes port =>
    cases hstep
    exact h.removes port

/-- What holds of the ports of a host. -/
structure Claimed (s : State) : Prop where
  /-- No port is recorded twice. -/
  rows : s.rows.Nodup
  /-- A call creates a row with a port of the range that it had not found recorded. -/
  created : ∀ (i : Nat) (c : Call) (port : Nat), s.calls[i]? = some c → c.stage = .created port →
    InRange port ∧ port ∉ c.taken
  /-- A call that gave up has met five ports, each inserted by another call since it began. -/
  exhausted : ∀ (i : Nat) (c : Call), s.calls[i]? = some c → c.stage = .exhausted →
    c.tried.Nodup ∧ c.tried.length = livePortClaimAttempts ∧
      (∀ port ∈ c.tried, ∃ e ∈ s.log.drop c.since, e.port = port ∧ e.call ≠ i) ∧
      livePortClaimAttempts ≤ (s.log.drop c.since).length
  /-- A call that found no port has heard each one that it had neither found recorded nor tried. -/
  noPort : ∀ (i : Nat) (c : Call), s.calls[i]? = some c → c.stage = .noPort →
    ∀ port, InRange port → port ∈ c.taken ∨ port ∈ c.tried ∨ port ∈ c.answered

lemma Inv.claimed (h : Inv s) : Claimed s where
  rows := h.rows
  created i c port hc hstage := by
    have hcall := h.calls i c hc
    have hcreated := hcall.stage
    rw [hstage] at hcreated
    exact hcall.fresh port hcreated
  exhausted i c hc hstage := by
    have hcall := h.calls i c hc
    obtain ⟨hmet, hlength⟩ : StageInv (Met s.log c.since) c .exhausted := hstage ▸ hcall.stage
    have hown := not_own hcall fun port heq => Stage.noConfusion (hstage.symm.trans heq)
    refine ⟨hcall.nodup, hlength, fun port hport => ?_, ?_⟩
    · obtain ⟨e, he, heq⟩ := hmet port hport
      exact ⟨e, he, heq, hown e (List.mem_of_mem_drop he)⟩
    · -- The five ports are different, so they come from five entries.
      have hsubset : c.tried ⊆ (s.log.drop c.since).map Inserted.port := by
        intro port hport
        obtain ⟨e, he, heq⟩ := hmet port hport
        exact List.mem_map.2 ⟨e, he, heq⟩
      have hle := (List.subperm_of_subset hcall.nodup hsubset).length_le
      rw [List.length_map, hlength] at hle
      exact hle
  noPort i c hc hstage port hport := by
    have hnone : StageInv (Met s.log c.since) c .noPort := hstage ▸ (h.calls i c hc).stage
    obtain hclaimed | hanswered := hnone port hport
    · obtain htaken | htried := List.mem_append.1 hclaimed
      · exact Or.inl htaken
      · exact Or.inr (Or.inl htried)
    · exact Or.inr (Or.inr hanswered)

/-- **Ports are given out once**, in any state that any number of calls reach. -/
theorem ports_claimed (h : system.Reachable free s) : Claimed s := by
  have hinv : Inv s := by
    refine h.invariant (fun s hinit => inv_of_init hinit) fun t e u hinv _ hstep => ?_
    exact Inv.step hinv hstep
  exact hinv.claimed

/-- Two calls that want the same port, the second of which goes on with the next. -/
def race : List Event :=
  [.begins, .begins, .hears 0 false, .hears 1 false, .inserts 0, .inserts 1, .hears 1 false,
    .inserts 1]

/-- Both have a row. -/
theorem ports_claimed_race : ∃ s : State, s.rows = [33333, 33334] ∧
    s.calls.map Call.stage = [.created 33333, .created 33334] ∧ Claimed s := by
  have hrun : (system.exec { rows := [] } race).map (fun s => (s.rows, s.calls.map Call.stage)) =
      some ([33333, 33334], [.created 33333, .created 33334]) := by decide +kernel
  obtain ⟨s, hs, heq⟩ := Option.map_eq_some_iff.1 hrun
  simp only [Prod.mk.injEq] at heq
  have hinit : system.init { rows := [] } := ⟨List.nodup_nil, rfl, rfl⟩
  exact ⟨s, heq.1, heq.2, ports_claimed (.of_exec hinit hs)⟩

end LivePorts

end OpenMcc
