import OpenMcc.Properties.ReadChannels

/-!
# Transports of the read connections

A transport is opened once and ended once.  While its opening is in flight nothing ends it; a
failed or stale opening ends it, and so does the end of its connection, whose hard-age timer is
armed until then (`transports_end_once`).
-/

namespace OpenMcc

open TransitionSystem

namespace Register

variable {r r' : Register} {mapped : Prop}

lemma ends_endTransport (r : Register) (id i : Nat) (how : ShutDownHow) :
    (r.endTransport id how).ends i = if i = id then r.ends i + 1 else r.ends i := by
  cases how <;>
  · simp only [ends, endTransport, Function.update_apply]
    grind

/-- What leaves the openings, the links and the ends. -/
lemma Tallied.same (h : Tallied r) (hopens : r'.opens = r.opens)
    (hopenings : r'.openingAt = r.openingAt) (hlinks : r'.linkAt = r.linkAt)
    (hends : r'.ends = r.ends) : Tallied r' where
  opened hpos hle := hopenings ▸ h.opened hpos (hopens ▸ hle)
  inFlight hid hstatus := hends ▸ h.inFlight (hopenings ▸ hid) hstatus
  gaveUp hid hstatus := hends ▸ h.gaveUp (hopenings ▸ hid) hstatus
  connected hlink := hends ▸ h.connected (hlinks ▸ hlink)

lemma Tallied.shutDown (h : Tallied r) (hinv : Coherent r) {c : Nat} {link : Link}
    (how : ShutDownHow) (hlink : r.linkAt c = some link) (hopen : link.closed = false) :
    Tallied (r.shutDown c link how) := by
  have hends : ∀ i, (r.shutDown c link how).ends i = if i = c then r.ends i + 1 else r.ends i :=
    fun i => r.ends_endTransport c i how
  obtain ⟨installed, hc, hinstalled, -⟩ := hinv.link_opening hlink
  have hopenings : (r.shutDown c link how).openingAt = r.openingAt := by cases how <;> rfl
  have hopens : (r.shutDown c link how).opens = r.opens := by cases how <;> rfl
  have hlinks : (r.shutDown c link how).linkAt =
      Function.update r.linkAt c (some { link with closed := true }) := by
    cases how <;> rfl
  exact {
    opened := by
      intro id hpos hle
      exact hopenings ▸ h.opened hpos (hopens ▸ hle)
    inFlight := by
      intro id opening hid hstatus
      rw [hopenings] at hid
      have hne : id ≠ c := (hinv.ne_of_link hid hstatus hlink).symm
      rw [hends, if_neg hne]
      exact h.inFlight hid hstatus
    gaveUp := by
      intro id opening hid hstatus
      rw [hopenings] at hid
      have hne : id ≠ c := by
        rintro rfl
        obtain rfl := Option.some.inj (hc.symm.trans hid)
        rw [hinstalled] at hstatus
        cases hstatus
      rw [hends, if_neg hne]
      exact h.gaveUp hid hstatus
    connected := by
      intro c' link' hlink'
      rw [hlinks, Function.update_apply] at hlink'
      rw [hends]
      split at hlink'
      · next heq =>
        obtain ⟨rfl⟩ := hlink'
        have hwas := h.connected hlink
        rw [heq, if_pos rfl, hwas, hopen]
        rfl
      · next hne =>
        rw [if_neg hne]
        exact h.connected hlink' }

lemma Tallied.startOpen (h : Tallied r) (hinv : Coherent r) (key : Text) (entry : Nat)
    (identity : ConnectionIdentity) : Tallied (r.startOpen key entry identity) := by
  have hends : ∀ i, (r.startOpen key entry identity).ends i =
      if i = r.opens + 1 then 0 else r.ends i := by
    intro i
    simp only [ends, Register.startOpen, setSlot, Function.update_apply]
    split <;> rfl
  have hold : ∀ {i opening}, (r.startOpen key entry identity).openingAt i = some opening →
      i = r.opens + 1 ∧ opening.status = .inFlight ∨
        i ≠ r.opens + 1 ∧ r.openingAt i = some opening := by
    intro i opening hi
    obtain ⟨heq, rfl⟩ | hbefore := Heap.put_eq_some hi
    · exact .inl ⟨heq, rfl⟩
    · exact .inr hbefore
  exact {
    opened := by
      intro id hpos hle
      refine Heap.exists_put fun hne => h.opened hpos ?_
      have hbound : id ≤ r.opens + 1 := hle
      omega
    inFlight := by
      intro id opening hid hstatus
      rw [hends]
      obtain ⟨heq, -⟩ | ⟨hne, hid⟩ := hold hid
      · exact if_pos heq
      · rw [if_neg hne]
        exact h.inFlight hid hstatus
    gaveUp := by
      intro id opening hid hstatus
      obtain ⟨-, hflight⟩ | ⟨hne, hid⟩ := hold hid
      · rw [hflight] at hstatus
        cases hstatus
      · rw [hends, if_neg hne]
        exact h.gaveUp hid hstatus
    connected := by
      intro c link hlink
      have hle := hinv.link_le hlink
      rw [hends, if_neg (by omega)]
      exact h.connected hlink }

lemma Tallied.giveUp (h : Tallied r) (hinv : Coherent r) {id : Nat} {opening : Opening}
    (hid : r.openingAt id = some opening) (hstatus : opening.status = .inFlight) :
    Tallied (r.giveUp id opening) := by
  have hends : ∀ i, (r.giveUp id opening).ends i = if i = id then r.ends i + 1 else r.ends i :=
    fun i => r.ends_endTransport id i .destroy
  have hold : ∀ {i opening'}, (r.giveUp id opening).openingAt i = some opening' →
      i = id ∧ opening'.status = .gaveUp ∨ i ≠ id ∧ r.openingAt i = some opening' := by
    intro i opening' hi
    obtain ⟨heq, rfl⟩ | hbefore := Heap.put_eq_some hi
    · exact .inl ⟨heq, rfl⟩
    · exact .inr hbefore
  exact {
    opened := fun hpos hle => Heap.exists_put fun _ => h.opened hpos hle
    inFlight := by
      intro i opening' hi hflight
      obtain ⟨-, hgaveUp⟩ | ⟨hne, hi⟩ := hold hi
      · rw [hgaveUp] at hflight
        cases hflight
      · rw [hends, if_neg hne]
        exact h.inFlight hi hflight
    gaveUp := by
      intro i opening' hi hgaveUp
      rw [hends]
      obtain ⟨heq, -⟩ | ⟨hne, hi⟩ := hold hi
      · rw [if_pos heq, heq, h.inFlight hid hstatus]
      · rw [if_neg hne]
        exact h.gaveUp hi hgaveUp
    connected := by
      intro c link hlink
      have hne := hinv.ne_of_link hid hstatus hlink
      rw [hends, if_neg hne]
      exact h.connected hlink }

lemma Tallied.install (h : Tallied r) {id : Nat} {opening : Opening}
    (hid : r.openingAt id = some opening) (hstatus : opening.status = .inFlight) :
    Tallied (r.install id opening) := by
  have hends : (r.install id opening).ends = r.ends := rfl
  have hold : ∀ {i opening'}, (r.install id opening).openingAt i = some opening' →
      i = id ∧ opening'.status = .installed ∨ r.openingAt i = some opening' := by
    intro i opening' hi
    obtain ⟨heq, rfl⟩ | ⟨-, hbefore⟩ := Heap.put_eq_some hi
    · exact .inl ⟨heq, rfl⟩
    · exact .inr hbefore
  exact {
    opened := fun hpos hle => Heap.exists_put fun _ => h.opened hpos hle
    inFlight := by
      intro i opening' hi hflight
      obtain ⟨-, hinstalled⟩ | hi := hold hi
      · rw [hinstalled] at hflight
        cases hflight
      · exact h.inFlight hi hflight
    gaveUp := by
      intro i opening' hi hgaveUp
      obtain ⟨-, hinstalled⟩ | hi := hold hi
      · rw [hinstalled] at hgaveUp
        cases hgaveUp
      · exact h.gaveUp hi hgaveUp
    connected := by
      intro c link hlink
      rw [install_linkAt, Function.update_apply] at hlink
      rw [hends]
      split at hlink
      · next heq =>
        obtain ⟨rfl⟩ := hlink
        exact heq ▸ h.inFlight hid hstatus
      · exact h.connected hlink }

lemma Tallied.effect (h : Tallied r) (hinv : Coherent r) (heffect : Effect mapped r r') :
    Tallied r' := by
  cases heffect with
  | shutDown c link how hlink hopen => exact h.shutDown hinv how hlink hopen
  | startOpen key entry identity => exact h.startOpen hinv key entry identity
  | giveUp id opening hid hstatus => exact h.giveUp hinv hid hstatus
  | install id opening hid hstatus => exact h.install hid hstatus
  | _ => exact h.same rfl rfl rfl rfl

lemma Tallied.effects (h : Tallied r) (hinv : Coherent r) (heffects : Effects mapped r r') :
    Tallied r' := by
  induction heffects with
  | refl => exact h
  | tail hchain heffect ih => exact ih.effect (hinv.effects hchain) heffect

end Register

namespace Pool

variable {s t : Pool} {options : PoolOptions} {lit : Int → Prop}

lemma tallied_of_run (h : (readConnections options).Reachable free s) :
    Register.Tallied s.register := by
  obtain ⟨-, hs⟩ : Register.Coherent s.register ∧ Register.Tallied s.register := by
    refine h.invariant (I := fun s => Register.Coherent s.register ∧ Register.Tallied s.register)
      (fun s hs => ?_) fun t e u ht _ hstep => ?_
    · rw [hs]
      refine ⟨coherent_emptyPool, fun hpos hle => ?_, ?_, ?_, ?_⟩
      · have hnone : emptyPool.register.opens = 0 := rfl
        omega
      all_goals rintro _ _ ⟨⟩
    · have heffects : Register.Effects False t.register u.register :=
        effects_step False ht.1 False.elim hstep
      exact ⟨ht.1.effects heffects, ht.2.effects ht.1 heffects⟩
  exact hs

/-- The transport belongs to a connection that is not closed and whose hard-age timer is armed. -/
def Armed (s : Pool) (transport : Nat) : Prop :=
  ∃ connection, s.connectionAt transport = some connection ∧ connection.closed = false ∧
    connection.hardTimer = true

/-- How often the transport was closed or destroyed. -/
def ends (s : Pool) (transport : Nat) : Nat :=
  (s.transportAt transport).closes + (s.transportAt transport).destroys

lemma armed_iff (h : Ledger.Sound options.channelLimit lit s.ledger) (transport : Nat) :
    s.Armed transport ↔ ∃ link, s.register.linkAt transport = some link ∧ link.closed = false := by
  constructor
  · rintro ⟨connection, hc, hopen, -⟩
    exact ⟨connection.link, by simp [register, hc], hopen⟩
  · rintro ⟨link, hlink, hopen⟩
    obtain ⟨connection, hc, rfl⟩ := Option.map_eq_some_iff.1 hlink
    have hline : s.ledger.lineAt transport = some connection.line := by
      rw [lineAt_ledger, hc]
      rfl
    have htimer : connection.hardTimer = !connection.closed := h.timed.hardTimer hline
    have hopen' : connection.closed = false := hopen
    exact ⟨connection, hc, hopen', by rw [htimer, hopen']; rfl⟩

/-- Where a transport is: its opening is in flight, its connection is open, or it has ended. -/
lemma place_of_tallied {id : Nat} (hinv : Register.Coherent s.register)
    (h : Register.Tallied s.register) (hsound : Ledger.Sound options.channelLimit lit s.ledger)
    (hpos : 0 < id) (hle : id ≤ s.opens) :
    (s.InFlight id ∧ ¬ s.Armed id ∧ s.ends id = 0) ∨
      (¬ s.InFlight id ∧ s.Armed id ∧ s.ends id = 0) ∨
      (¬ s.InFlight id ∧ ¬ s.Armed id ∧ s.ends id = 1) := by
  obtain ⟨opening, hid⟩ := h.opened hpos hle
  have hflight : s.InFlight id ↔ opening.status = .inFlight := by
    constructor
    · rintro ⟨opening', hid', hstatus⟩
      obtain rfl := Option.some.inj (hid.symm.trans hid')
      exact hstatus
    · exact fun hstatus => ⟨opening, hid, hstatus⟩
  have hlinked : ∀ {link}, s.register.linkAt id = some link → opening.status = .installed := by
    intro link hlink
    obtain ⟨opening', hid', hinstalled, -⟩ := hinv.link_opening hlink
    obtain rfl := Option.some.inj (hid.symm.trans hid')
    exact hinstalled
  rw [hflight, armed_iff hsound]
  cases hstatus : opening.status with
  | inFlight =>
    refine .inl ⟨rfl, ?_, h.inFlight hid hstatus⟩
    rintro ⟨link, hlink, -⟩
    rw [hlinked hlink] at hstatus
    cases hstatus
  | gaveUp =>
    refine .inr (.inr ⟨nofun, ?_, h.gaveUp hid hstatus⟩)
    rintro ⟨link, hlink, -⟩
    rw [hlinked hlink] at hstatus
    cases hstatus
  | installed =>
    obtain ⟨link, hlink⟩ := hinv.installed_link hid hstatus
    have hends := h.connected hlink
    cases hclosed : link.closed with
    | false =>
      rw [hclosed] at hends
      exact .inr (.inl ⟨nofun, ⟨link, hlink, hclosed⟩, hends⟩)
    | true =>
      rw [hclosed] at hends
      refine .inr (.inr ⟨nofun, ?_, hends⟩)
      rintro ⟨link', hlink', hopen⟩
      obtain rfl := Option.some.inj (hlink.symm.trans hlink')
      rw [hclosed] at hopen
      cases hopen

/-- The hard-age timer of a connection ends its transport. -/
lemma ages_of_armed {id : Nat} (h : Register.Coherent s.register) (harmed : s.Armed id) :
    ∃ t, (readConnections options).step s (.ages id) = some t ∧ t.Destroyed id := by
  obtain ⟨connection, hc, hopen, htimer⟩ := harmed
  have hlink : s.register.linkAt id = some connection.link := by simp [register, hc]
  refine ⟨s.shutDown id .destroy, ?_, (ended_shutDown h hlink hopen).2⟩
  simp [readConnections, ages, hc, htimer]

end Pool

/-- **Each transport ends once.**  In every run a transport that was made is in one of three
places: its opening is in flight, its connection is open with the hard-age timer armed, or it was
closed or destroyed, once.  The leases that were granted and not yet released are counted.  When
the timers are not late, what is open longer than the hard age after the last opening has ended. -/
theorem transports_end_once {options : PoolOptions} {s : Pool} {es : List PoolEvent}
    (hpath : (readConnections options).Path free emptyPool es s) :
    (∀ id, 0 < id → id ≤ s.opens →
      (s.InFlight id ∧ ¬ s.Armed id ∧ s.ends id = 0) ∨
      (¬ s.InFlight id ∧ s.Armed id ∧ s.ends id = 0) ∨
      (¬ s.InFlight id ∧ ¬ s.Armed id ∧ s.ends id = 1)) ∧
    (∃ n : ℕ, s.leaseCount = n ∧ {lease | s.ledger.Held lease}.encard = n) ∧
    (∀ id, s.Armed id → ∃ t, (readConnections options).step s (.ages id) = some t ∧
      t.Destroyed id) ∧
    ∀ last now : Int, (∀ e ∈ es, Pool.litBy (· ≤ last) e) →
      (∀ c connection, s.connectionAt c = some connection → connection.hardTimer = true →
        now ≤ connection.readyAt + options.hardAgeMs) →
      last + options.hardAgeMs < now → ∀ id, 0 < id → id ≤ s.opens →
      s.InFlight id ∨ s.ends id = 1 := by
  have hreach : (readConnections options).Reachable free s := ⟨emptyPool, es, rfl, hpath⟩
  obtain ⟨hinv, hsound⟩ := Pool.sound_of_run hreach
  have htallied := Pool.tallied_of_run hreach
  refine ⟨fun id hpos hle => Pool.place_of_tallied hinv htallied hsound hpos hle,
    hsound.timed.leaseCount, fun id => Pool.ages_of_armed hinv, ?_⟩
  intro last now hlast htimely hlate id hpos hle
  obtain ⟨hflight, -⟩ | ⟨-, ⟨connection, hc, -, htimer⟩, -⟩ | ⟨-, -, hended⟩ :=
    Pool.place_of_tallied hinv htallied hsound hpos hle
  · exact .inl hflight
  · -- An open connection was installed by the last opening at the latest, and its timer is due.
    have hlit : (readConnections options).Path (fun _ e => Pool.litBy (· ≤ last) e)
        emptyPool es s :=
      (hpath.of_events hlast).mono fun _ _ hguard => hguard.2
    obtain ⟨-, htimed⟩ := Pool.sound_of_path hlit
    have hline : s.ledger.lineAt id = some connection.line := by rw [Pool.lineAt_ledger, hc]; rfl
    have hready : connection.readyAt ≤ last := htimed.timed.readyAt hline
    have hdue := htimely id connection hc htimer
    omega
  · exact .inr hended

/-- The hard-age timer fires after the one lease is released. -/
theorem transports_end_once_aged :
    ∃ s, (readConnections someOptions).exec emptyPool
        [.leases 0 [] someHost 10000 0, .changes 1 .ready, .lands 1 true 0, .resumes 0 0,
          .releases 0, .ages 1] = some s ∧
      (¬ s.InFlight 1 ∧ ¬ s.Armed 1 ∧ s.ends 1 = 1) ∧
      {lease | s.ledger.Held lease}.encard = 0 := by
  obtain ⟨s, hrun, hopens, hcount, hends⟩ : ∃ s, (readConnections someOptions).exec emptyPool
      [.leases 0 [] someHost 10000 0, .changes 1 .ready, .lands 1 true 0, .resumes 0 0,
        .releases 0, .ages 1] = some s ∧ s.opens = 1 ∧ s.leaseCount = 0 ∧ s.ends 1 = 1 :=
    ⟨_, rfl, rfl, rfl, rfl⟩
  obtain ⟨hplace, ⟨n, hn, hcard⟩, -⟩ := transports_end_once (path_of_exec hrun)
  refine ⟨s, hrun, ?_, ?_⟩
  · obtain ⟨-, -, hzero⟩ | ⟨-, -, hzero⟩ | hended := hplace 1 Nat.one_pos (Nat.le_of_eq hopens.symm)
    · omega
    · omega
    · exact hended
  · have hzero : n = 0 := by omega
    rw [hcard, hzero, Nat.cast_zero]

end OpenMcc
