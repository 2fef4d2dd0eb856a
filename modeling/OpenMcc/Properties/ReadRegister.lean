import OpenMcc.Construction.ReadRegister

/-!
# The invariants of the register

Every effect keeps a register `Coherent`.  Where openings begin at mapped entries only, it keeps
it `Mapped` as well: an entry leaves the map only when it has no connection and no pending opening.
A spent transport stays spent under every effect, as openings are numbered afresh, generations only
grow and a closed connection is granted to no lease.
-/

namespace OpenMcc

namespace Register

variable {r r' : Register} {mapped : Prop} {i : Nat}

/-! ## What holds of every register -/

lemma Coherent.entry_bound (h : Coherent r) {c : Nat} {link : Link}
    (hlink : r.linkAt c = some link) : link.entry ≤ r.generations := by
  obtain ⟨opening, hid, -, -, hentry, -⟩ := h.link_opening hlink
  have hle := (h.opening_le hid).2.1
  omega

lemma Coherent.link_le (h : Coherent r) {c : Nat} {link : Link} (hlink : r.linkAt c = some link) :
    c ≤ r.opens := by
  obtain ⟨opening, hid, -⟩ := h.link_opening hlink
  exact (h.opening_le hid).1

/-- An opening in flight has no connection yet. -/
lemma Coherent.ne_of_link (h : Coherent r) {id c : Nat} {opening : Opening} {link : Link}
    (hid : r.openingAt id = some opening) (hstatus : opening.status = .inFlight)
    (hlink : r.linkAt c = some link) : c ≠ id := by
  rintro rfl
  obtain ⟨opening', hid', hinstalled, -⟩ := h.link_opening hlink
  obtain rfl : opening = opening' := Option.some.inj (hid.symm.trans hid')
  rw [hinstalled] at hstatus
  cases hstatus

lemma comesOut_of_ne {id i : Nat} (opening : Opening) (status : OpeningStatus) (hne : i ≠ id) :
    (r.comesOut id opening status).openingAt i = r.openingAt i :=
  Function.update_of_ne hne ..

lemma Coherent.enter (h : Coherent r) (key : Text) : Coherent (r.enter key) where
  entry_le {k e} hk := by
    have hle : r.entries k = some e → e ≤ r.generations := h.entry_le
    simp only [Register.enter, Function.update_apply] at hk ⊢
    grind
  entry_inj {k k' e} hk hk' := by
    have hle : r.entries k = some e → e ≤ r.generations := h.entry_le
    have hle' : r.entries k' = some e → e ≤ r.generations := h.entry_le
    have hinj : r.entries k = some e → r.entries k' = some e → k = k' := h.entry_inj
    simp only [Register.enter, Function.update_apply] at hk hk'
    grind
  generation_le e := by
    have hle := h.generation_le e
    simp only [Register.enter, Function.update_apply]
    grind
  opening_le hid := by
    have hle := h.opening_le hid
    simp only [Register.enter]
    omega
  pending_opening {e p} hp := by
    simp only [Register.enter, Function.update_apply] at hp
    split at hp
    · cases hp
    · exact h.pending_opening hp
  link_opening := h.link_opening
  installed_link := h.installed_link
  connected {c link} hlink hopen := by
    have hle := h.entry_bound hlink
    have hmem := h.connected hlink hopen
    simp only [Register.enter, Function.update_apply]
    rw [if_neg (by omega)]
    exact hmem
  installed_open {e c} hc := by
    simp only [Register.enter, Function.update_apply] at hc
    split at hc
    · cases hc
    · exact h.installed_open hc
  closed_ended := h.closed_ended
  gaveUp_destroyed := h.gaveUp_destroyed
  granted := h.granted
  op_granted := h.op_granted

lemma Coherent.leave (h : Coherent r) (key : Text) : Coherent (r.leave key) where
  entry_le {k e} hk := by
    simp only [Register.leave, Function.update_apply] at hk
    split at hk
    · cases hk
    · exact h.entry_le hk
  entry_inj {k k' e} hk hk' := by
    simp only [Register.leave, Function.update_apply] at hk hk'
    split at hk
    · cases hk
    · split at hk'
      · cases hk'
      · exact h.entry_inj hk hk'
  generation_le := h.generation_le
  opening_le := h.opening_le
  pending_opening := h.pending_opening
  link_opening := h.link_opening
  installed_link := h.installed_link
  connected := h.connected
  installed_open := h.installed_open
  closed_ended := h.closed_ended
  gaveUp_destroyed := h.gaveUp_destroyed
  granted := h.granted
  op_granted := h.op_granted

lemma endTransport_eq (r : Register) (id : Nat) (how : ShutDownHow) :
    ∃ closes destroys, r.endTransport id how = { r with closes := closes, destroys := destroys } ∧
      (∀ i, r.closes i ≤ closes i) ∧ (∀ i, r.destroys i ≤ destroys i) ∧
      (0 < closes id ∨ 0 < destroys id) ∧ (how = .destroy → 0 < destroys id) := by
  cases how with
  | close =>
    refine ⟨_, _, rfl, fun i => ?_, fun i => Nat.le_refl _, .inl ?_, by simp⟩
    · rw [Function.update_apply]
      grind
    · rw [Function.update_self]
      omega
  | destroy =>
    refine ⟨_, _, rfl, fun i => Nat.le_refl _, fun i => ?_, .inr ?_, fun _ => ?_⟩
    · rw [Function.update_apply]
      grind
    all_goals
      rw [Function.update_self]
      omega

/-- Ends of transports are only added. -/
lemma Coherent.raise (h : Coherent r) {closes destroys : Nat → Nat}
    (hcloses : ∀ i, r.closes i ≤ closes i) (hdestroys : ∀ i, r.destroys i ≤ destroys i) :
    Coherent { r with closes := closes, destroys := destroys } where
  entry_le := h.entry_le
  entry_inj := h.entry_inj
  generation_le := h.generation_le
  opening_le := h.opening_le
  pending_opening := h.pending_opening
  link_opening := h.link_opening
  installed_link := h.installed_link
  connected := h.connected
  installed_open := h.installed_open
  closed_ended {c link} hlink hclosed := by
    have hended := h.closed_ended hlink hclosed
    have hcle := hcloses c
    have hdle := hdestroys c
    show 0 < closes c ∨ 0 < destroys c
    omega
  gaveUp_destroyed {id opening} hid hstatus :=
    Nat.lt_of_lt_of_le (h.gaveUp_destroyed hid hstatus) (hdestroys id)
  granted := h.granted
  op_granted := h.op_granted

lemma Coherent.closeLink (h : Coherent r) {c : Nat} {link : Link} (hlink : r.linkAt c = some link)
    (hended : 0 < r.closes c ∨ 0 < r.destroys c) : Coherent (r.closeLink c link) where
  entry_le := h.entry_le
  entry_inj := h.entry_inj
  generation_le e := by
    have hle := h.generation_le e
    simp only [Register.closeLink, setSlot, Function.update_apply]
    grind
  opening_le := h.opening_le
  pending_opening {e p} hp := by
    apply h.pending_opening
    simp only [Register.closeLink, setSlot, Function.update_apply] at hp
    grind
  link_opening {c' link'} hlink' := by
    simp only [Register.closeLink, setSlot, Function.update_apply] at hlink'
    split at hlink'
    · next heq =>
      obtain ⟨rfl⟩ := hlink'
      obtain ⟨opening, hid, hrest⟩ := h.link_opening hlink
      exact ⟨opening, heq ▸ hid, hrest⟩
    · exact h.link_opening hlink'
  installed_link {id opening} hid hstatus := by
    obtain ⟨link', hlink'⟩ := h.installed_link hid hstatus
    simp only [Register.closeLink, setSlot, Function.update_apply]
    split
    · exact ⟨_, rfl⟩
    · exact ⟨link', hlink'⟩
  connected {c' link'} hlink' hopen := by
    simp only [Register.closeLink, setSlot, Function.update_apply] at hlink' ⊢
    split at hlink'
    · obtain ⟨rfl⟩ := hlink'
      cases hopen
    · next hne =>
      have hmem := h.connected hlink' hopen
      split
      · next heq => exact (List.mem_erase_of_ne hne).2 (heq ▸ hmem)
      · exact hmem
  installed_open {e c'} hc' := by
    have hwas : (r.slotAt e).installed = some c' ∧ (e = link.entry → c' ≠ c) := by
      simp only [Register.closeLink, setSlot, Function.update_apply] at hc'
      grind
    obtain ⟨link', hlink', hentry, hopen⟩ := h.installed_open hwas.1
    have hne : c' ≠ c := by
      rintro rfl
      obtain rfl : link' = link := Option.some.inj (hlink'.symm.trans hlink)
      exact hwas.2 hentry.symm rfl
    exact ⟨link', (Function.update_of_ne hne ..).trans hlink', hentry, hopen⟩
  closed_ended {c' link'} hlink' hclosed := by
    simp only [Register.closeLink, setSlot, Function.update_apply] at hlink'
    split at hlink'
    · next heq => exact heq ▸ hended
    · exact h.closed_ended hlink' hclosed
  gaveUp_destroyed := h.gaveUp_destroyed
  granted {call c'} hover := by
    obtain ⟨link', hlink', hasked⟩ := h.granted hover
    simp only [Register.closeLink, setSlot, Function.update_apply]
    split
    · next heq =>
      have hsame : link' = link := by
        rw [heq] at hlink'
        exact Option.some.inj (hlink'.symm.trans hlink)
      exact ⟨_, rfl, hsame ▸ hasked⟩
    · exact ⟨link', hlink', hasked⟩
  op_granted := h.op_granted

lemma Coherent.shutDown (h : Coherent r) {c : Nat} {link : Link} (how : ShutDownHow)
    (hlink : r.linkAt c = some link) : Coherent (r.shutDown c link how) := by
  obtain ⟨closes, destroys, heq, hcloses, hdestroys, hended, -⟩ := r.endTransport_eq c how
  rw [Register.shutDown, heq]
  exact (h.raise hcloses hdestroys).closeLink hlink hended

lemma Coherent.retire (h : Coherent r) (entry : Nat) : Coherent (r.retire entry) where
  entry_le := h.entry_le
  entry_inj := h.entry_inj
  generation_le e := by
    have hle := h.generation_le e
    simp only [Register.retire, setSlot, Function.update_apply]
    grind
  opening_le := h.opening_le
  pending_opening {e p} hp := by
    apply h.pending_opening
    simp only [Register.retire, setSlot, Function.update_apply] at hp
    grind
  link_opening := h.link_opening
  installed_link := h.installed_link
  connected {c link} hlink hopen := by
    have hmem := h.connected hlink hopen
    simp only [Register.retire, setSlot, Function.update_apply]
    grind
  installed_open {e c} hc := by
    apply h.installed_open
    simp only [Register.retire, setSlot, Function.update_apply] at hc
    grind
  closed_ended := h.closed_ended
  gaveUp_destroyed := h.gaveUp_destroyed
  granted := h.granted
  op_granted := h.op_granted

lemma Coherent.startOpen (h : Coherent r) (key : Text) {entry : Nat} (identity : ConnectionIdentity)
    (hentry : entry ≤ r.generations) : Coherent (r.startOpen key entry identity) where
  entry_le := h.entry_le
  entry_inj := h.entry_inj
  generation_le e := by
    have hle := h.generation_le e
    simp only [Register.startOpen, setSlot, Function.update_apply]
    grind
  opening_le {id opening} hid := by
    simp only [Register.startOpen, setSlot, Function.update_apply] at hid ⊢
    split at hid
    · next heq =>
      obtain ⟨rfl⟩ := hid
      exact ⟨Nat.le_of_eq heq, hentry, h.generation_le entry⟩
    · have hle := h.opening_le hid
      omega
  pending_opening {e p} hp := by
    simp only [Register.startOpen, setSlot, Function.update_apply] at hp ⊢
    split at hp
    · next heq =>
      obtain ⟨rfl⟩ := hp
      exact ⟨_, if_pos rfl, heq.symm, rfl⟩
    · obtain ⟨opening, hid, hrest⟩ := h.pending_opening hp
      have hle := (h.opening_le hid).1
      exact ⟨opening, by rw [if_neg (by omega), hid], hrest⟩
  link_opening {c link} hlink := by
    obtain ⟨opening, hid, hrest⟩ := h.link_opening hlink
    have hle := (h.opening_le hid).1
    simp only [Register.startOpen, setSlot, Function.update_apply]
    exact ⟨opening, by rw [if_neg (by omega), hid], hrest⟩
  installed_link {id opening} hid hstatus := by
    simp only [Register.startOpen, setSlot, Function.update_apply] at hid
    split at hid
    · obtain ⟨rfl⟩ := hid
      cases hstatus
    · exact h.installed_link hid hstatus
  connected {c link} hlink hopen := by
    have hmem := h.connected hlink hopen
    simp only [Register.startOpen, setSlot, Function.update_apply]
    grind
  installed_open {e c} hc := by
    apply h.installed_open
    simp only [Register.startOpen, setSlot, Function.update_apply] at hc
    grind
  closed_ended {c link} hlink hclosed := by
    have hle := h.link_le hlink
    have hended := h.closed_ended hlink hclosed
    simp only [Register.startOpen, setSlot, Function.update_apply]
    rw [if_neg (by omega), if_neg (by omega)]
    exact hended
  gaveUp_destroyed {id opening} hid hstatus := by
    simp only [Register.startOpen, setSlot, Function.update_apply] at hid ⊢
    split at hid
    · obtain ⟨rfl⟩ := hid
      cases hstatus
    · next hne =>
      rw [if_neg hne]
      exact h.gaveUp_destroyed hid hstatus
  granted := h.granted
  op_granted := h.op_granted

lemma Coherent.settle (h : Coherent r) (entry : Nat) : Coherent (r.settle entry) where
  entry_le := h.entry_le
  entry_inj := h.entry_inj
  generation_le e := by
    have hle := h.generation_le e
    simp only [Register.settle, setSlot, Function.update_apply]
    grind
  opening_le := h.opening_le
  pending_opening {e p} hp := by
    simp only [Register.settle, setSlot, Function.update_apply] at hp
    split at hp
    · cases hp
    · exact h.pending_opening hp
  link_opening := h.link_opening
  installed_link := h.installed_link
  connected {c link} hlink hopen := by
    have hmem := h.connected hlink hopen
    simp only [Register.settle, setSlot, Function.update_apply]
    grind
  installed_open {e c} hc := by
    apply h.installed_open
    simp only [Register.settle, setSlot, Function.update_apply] at hc
    grind
  closed_ended := h.closed_ended
  gaveUp_destroyed := h.gaveUp_destroyed
  granted := h.granted
  op_granted := h.op_granted

/-- A destroyed transport that no entry waits for is given up. -/
lemma Coherent.comesOut (h : Coherent r) {id : Nat} {opening : Opening}
    (hid : r.openingAt id = some opening) (hstatus : opening.status = .inFlight)
    (hpending : ¬ r.IsPending opening.entry id) (hdestroyed : 0 < r.destroys id) :
    Coherent (r.comesOut id opening .gaveUp) where
  entry_le := h.entry_le
  entry_inj := h.entry_inj
  generation_le := h.generation_le
  opening_le {id' opening'} hid' := by
    have hle := h.opening_le hid
    simp only [Register.comesOut, Function.update_apply] at hid' ⊢
    split at hid'
    · next heq =>
      obtain ⟨rfl⟩ := hid'
      exact ⟨heq ▸ hle.1, hle.2⟩
    · exact h.opening_le hid'
  pending_opening {e p} hp := by
    obtain ⟨opening', hid', hentry, hflight⟩ := h.pending_opening hp
    have hne : p.id ≠ id := by
      intro heq
      obtain rfl : opening' = opening := Option.some.inj (hid'.symm.trans (heq ▸ hid))
      exact hpending ⟨p, hentry ▸ hp, heq⟩
    exact ⟨opening', (comesOut_of_ne _ _ hne).trans hid', hentry, hflight⟩
  link_opening {c link} hlink := by
    obtain ⟨opening', hid', hinstalled, hrest⟩ := h.link_opening hlink
    have hne : c ≠ id := h.ne_of_link hid hstatus hlink
    exact ⟨opening', (comesOut_of_ne _ _ hne).trans hid', hinstalled, hrest⟩
  installed_link {id' opening'} hid' hinstalled := by
    simp only [Register.comesOut, Function.update_apply] at hid'
    split at hid'
    · obtain ⟨rfl⟩ := hid'
      cases hinstalled
    · exact h.installed_link hid' hinstalled
  connected := h.connected
  installed_open := h.installed_open
  closed_ended := h.closed_ended
  gaveUp_destroyed {id' opening'} hid' hgaveUp := by
    simp only [Register.comesOut, Function.update_apply] at hid'
    split at hid'
    · next heq => exact heq ▸ hdestroyed
    · exact h.gaveUp_destroyed hid' hgaveUp
  granted := h.granted
  op_granted := h.op_granted

lemma Coherent.giveUp (h : Coherent r) {id : Nat} {opening : Opening}
    (hid : r.openingAt id = some opening) (hstatus : opening.status = .inFlight)
    (hpending : ¬ r.IsPending opening.entry id) : Coherent (r.giveUp id opening) := by
  obtain ⟨closes, destroys, heq, hcloses, hdestroys, -, hdestroyed⟩ :=
    r.endTransport_eq id .destroy
  rw [Register.giveUp, heq]
  exact (h.raise hcloses hdestroys).comesOut hid hstatus hpending (hdestroyed rfl)

lemma install_slotAt (id : Nat) (opening : Opening) :
    (r.install id opening).slotAt = Function.update r.slotAt opening.entry {
      generation := (r.slotAt opening.entry).generation
      installed := some id
      pending := none
      connections := (r.slotAt opening.entry).connections ++ [id] } := by
  simp [Register.install, connect, Register.settle, Register.comesOut, setSlot]

lemma install_openingAt (id : Nat) (opening : Opening) :
    (r.install id opening).openingAt = (r.comesOut id opening .installed).openingAt := rfl

lemma install_linkAt (id : Nat) (opening : Opening) :
    (r.install id opening).linkAt = Function.update r.linkAt id (some {
      key := opening.key
      entry := opening.entry
      identity := opening.identity
      closed := false }) := rfl

lemma Coherent.install (h : Coherent r) {id : Nat} {opening : Opening}
    (hid : r.openingAt id = some opening) (hstatus : opening.status = .inFlight) :
    Coherent (r.install id opening) where
  entry_le := h.entry_le
  entry_inj := h.entry_inj
  generation_le e := by
    have hle := h.generation_le e
    show ((r.install id opening).slotAt e).generation ≤ r.generations
    rw [install_slotAt, Function.update_apply]
    grind
  opening_le {id' opening'} hid' := by
    have hle := h.opening_le hid
    simp only [install_openingAt, Register.comesOut, Function.update_apply] at hid' ⊢
    split at hid'
    · next heq =>
      obtain ⟨rfl⟩ := hid'
      exact ⟨heq ▸ hle.1, hle.2⟩
    · exact h.opening_le hid'
  pending_opening {e p} hp := by
    simp only [install_slotAt, install_openingAt, Register.comesOut, Function.update_apply] at hp ⊢
    split at hp
    · cases hp
    · next hne =>
      obtain ⟨opening', hid', hentry, hflight⟩ := h.pending_opening hp
      have hother : p.id ≠ id := by
        intro heq
        have hsame : opening' = opening := Option.some.inj (hid'.symm.trans (heq ▸ hid))
        exact hne (hentry.symm.trans (by rw [hsame]))
      exact ⟨opening', by rw [if_neg hother, hid'], hentry, hflight⟩
  link_opening {c link} hlink := by
    simp only [install_openingAt, install_linkAt, Register.comesOut, Function.update_apply]
      at hlink ⊢
    split at hlink
    · next heq =>
      obtain ⟨rfl⟩ := hlink
      exact ⟨_, if_pos heq, rfl, rfl, rfl, rfl⟩
    · next hne =>
      obtain ⟨opening', hid', hrest⟩ := h.link_opening hlink
      exact ⟨opening', by rw [if_neg hne, hid'], hrest⟩
  installed_link {id' opening'} hid' hinstalled := by
    simp only [install_openingAt, install_linkAt, Register.comesOut, Function.update_apply]
      at hid' ⊢
    split
    · exact ⟨_, rfl⟩
    · next hne =>
      rw [if_neg hne] at hid'
      exact h.installed_link hid' hinstalled
  connected {c link} hlink hopen := by
    simp only [install_slotAt, install_linkAt, Function.update_apply] at hlink ⊢
    split at hlink
    · next heq =>
      obtain ⟨rfl⟩ := hlink
      rw [if_pos rfl, heq]
      exact List.mem_append_right _ (List.mem_singleton_self id)
    · have hmem := h.connected hlink hopen
      grind
  installed_open {e c} hc := by
    rw [install_slotAt, Function.update_apply] at hc
    rw [install_linkAt]
    split at hc
    · next heq =>
      obtain ⟨rfl⟩ := hc
      exact ⟨_, Function.update_self .., heq.symm, rfl⟩
    · obtain ⟨link, hlink, hrest⟩ := h.installed_open hc
      have hne : c ≠ id := h.ne_of_link hid hstatus hlink
      exact ⟨link, (Function.update_of_ne hne ..).trans hlink, hrest⟩
  closed_ended {c link} hlink hclosed := by
    simp only [install_linkAt, Function.update_apply] at hlink
    split at hlink
    · obtain ⟨rfl⟩ := hlink
      cases hclosed
    · exact h.closed_ended hlink hclosed
  gaveUp_destroyed {id' opening'} hid' hgaveUp := by
    simp only [install_openingAt, Register.comesOut, Function.update_apply] at hid'
    split at hid'
    · obtain ⟨rfl⟩ := hid'
      cases hgaveUp
    · exact h.gaveUp_destroyed hid' hgaveUp
  granted {call c} hover := by
    obtain ⟨link, hlink, hasked⟩ := h.granted hover
    have hne : c ≠ id := h.ne_of_link hid hstatus hlink
    simp only [install_linkAt, Function.update_apply]
    exact ⟨link, by rw [if_neg hne, hlink], hasked⟩
  op_granted := h.op_granted

lemma Coherent.ask (h : Coherent r) {call : Nat} {identity : ConnectionIdentity}
    (hasked : ∀ asked, r.asked call = some asked → asked = identity) :
    Coherent (r.ask call identity) where
  entry_le := h.entry_le
  entry_inj := h.entry_inj
  generation_le := h.generation_le
  opening_le := h.opening_le
  pending_opening := h.pending_opening
  link_opening := h.link_opening
  installed_link := h.installed_link
  connected := h.connected
  installed_open := h.installed_open
  closed_ended := h.closed_ended
  gaveUp_destroyed := h.gaveUp_destroyed
  granted {call' c} hover := by
    obtain ⟨link, hlink, hcall⟩ := h.granted hover
    refine ⟨link, hlink, ?_⟩
    simp only [Register.ask, Function.update_apply]
    split
    · next heq => rw [hasked link.identity (heq ▸ hcall)]
    · exact hcall
  op_granted := h.op_granted

lemma Coherent.checkout (h : Coherent r) {c : Nat} {link : Link} (call : Nat)
    (hlink : r.linkAt c = some link) : Coherent (r.checkout call link.identity c) where
  entry_le := h.entry_le
  entry_inj := h.entry_inj
  generation_le := h.generation_le
  opening_le := h.opening_le
  pending_opening := h.pending_opening
  link_opening := h.link_opening
  installed_link := h.installed_link
  connected := h.connected
  installed_open := h.installed_open
  closed_ended := h.closed_ended
  gaveUp_destroyed := h.gaveUp_destroyed
  granted {call' c'} hover := by
    simp only [Register.checkout, Register.ask, Function.update_apply] at hover ⊢
    split at hover
    · next heq =>
      obtain ⟨rfl⟩ := hover
      exact ⟨link, hlink, if_pos heq⟩
    · next hne =>
      obtain ⟨link', hlink', hcall⟩ := h.granted hover
      exact ⟨link', hlink', by rw [if_neg hne, hcall]⟩
  op_granted {op lease} hop := by
    obtain ⟨c', hover⟩ := h.op_granted hop
    simp only [Register.checkout, Register.ask, Function.update_apply]
    split
    · exact ⟨c, rfl⟩
    · exact ⟨c', hover⟩

lemma Coherent.advance (h : Coherent r) (entry : Nat) : Coherent (r.advance entry) where
  entry_le hk := Nat.le_succ_of_le (h.entry_le hk)
  entry_inj := h.entry_inj
  generation_le e := by
    have hle := h.generation_le e
    simp only [Register.advance, setSlot, Function.update_apply]
    grind
  opening_le hid := by
    have hle := h.opening_le hid
    simp only [Register.advance, setSlot]
    omega
  pending_opening {e p} hp := by
    apply h.pending_opening
    simp only [Register.advance, setSlot, Function.update_apply] at hp
    grind
  link_opening := h.link_opening
  installed_link := h.installed_link
  connected {c link} hlink hopen := by
    have hmem := h.connected hlink hopen
    simp only [Register.advance, setSlot, Function.update_apply]
    grind
  installed_open {e c} hc := by
    apply h.installed_open
    simp only [Register.advance, setSlot, Function.update_apply] at hc
    grind
  closed_ended := h.closed_ended
  gaveUp_destroyed := h.gaveUp_destroyed
  granted := h.granted
  op_granted := h.op_granted

lemma Coherent.begin (h : Coherent r) {lease c : Nat} (op : Nat)
    (hover : r.leaseOver lease = some c) : Coherent (r.begin op lease) where
  entry_le := h.entry_le
  entry_inj := h.entry_inj
  generation_le := h.generation_le
  opening_le := h.opening_le
  pending_opening := h.pending_opening
  link_opening := h.link_opening
  installed_link := h.installed_link
  connected := h.connected
  installed_open := h.installed_open
  closed_ended := h.closed_ended
  gaveUp_destroyed := h.gaveUp_destroyed
  granted := h.granted
  op_granted {op' lease'} hop := by
    simp only [Register.begin, Function.update_apply] at hop
    split at hop
    · obtain ⟨rfl⟩ := hop
      exact ⟨c, hover⟩
    · exact h.op_granted hop

lemma Coherent.effect (h : Coherent r) (heffect : Effect mapped r r') : Coherent r' := by
  cases heffect with
  | enter key => exact h.enter key
  | leave key => exact h.leave key
  | shutDown c link how hlink => exact h.shutDown how hlink
  | retire entry => exact h.retire entry
  | startOpen key entry identity hentry => exact h.startOpen key identity hentry
  | settle entry => exact h.settle entry
  | giveUp id opening hid hstatus hpending => exact h.giveUp hid hstatus hpending
  | install id opening hid hstatus => exact h.install hid hstatus
  | ask call identity hasked => exact h.ask hasked
  | checkout call link c hlink => exact h.checkout call hlink
  | advance key entry => exact h.advance entry
  | begin op lease c hover => exact h.begin op hover

lemma Coherent.effects (h : Coherent r) (heffects : Effects mapped r r') : Coherent r' :=
  TransitionSystem.invariant_of_chain (fun _ _ => Coherent.effect) heffects h

/-! ## Openings at mapped entries -/

lemma Mapped.enter (hm : Mapped r) {key : Text} (hkey : r.entries key = none) :
    Mapped (r.enter key) where
  open_mapped {c link} hlink hopen := by
    have hin := hm.open_mapped hlink hopen
    have hne : link.key ≠ key := by
      rintro rfl
      rw [hkey] at hin
      cases hin
    simp only [Register.enter, Function.update_apply]
    rw [if_neg hne, hin]
  pending_mapped {e p opening} hp hid := by
    simp only [Register.enter, Function.update_apply] at hp ⊢
    split at hp
    · cases hp
    · have hin := hm.pending_mapped hp hid
      have hne : opening.key ≠ key := by
        rintro rfl
        rw [hkey] at hin
        cases hin
      rw [if_neg hne, hin]

/-- An entry without connections and without a pending opening leaves the map. -/
lemma Mapped.leave (hm : Mapped r) (h : Coherent r) {key : Text} {entry : Nat}
    (hkey : r.entries key = some entry) (hpending : (r.slotAt entry).pending = none)
    (hconnections : (r.slotAt entry).connections = []) : Mapped (r.leave key) where
  open_mapped {c link} hlink hopen := by
    have hin := hm.open_mapped hlink hopen
    have hmem := h.connected hlink hopen
    have hne : link.key ≠ key := by
      rintro rfl
      obtain rfl : link.entry = entry := Option.some.inj (hin.symm.trans hkey)
      rw [hconnections] at hmem
      cases hmem
    simp only [Register.leave, Function.update_apply]
    rw [if_neg hne, hin]
  pending_mapped {e p opening} hp hid := by
    have hin := hm.pending_mapped hp hid
    have hne : opening.key ≠ key := by
      rintro rfl
      obtain rfl : e = entry := Option.some.inj (hin.symm.trans hkey)
      exact absurd (hp.symm.trans hpending) (by simp)
    simp only [Register.leave, Function.update_apply]
    rw [if_neg hne, hin]

lemma Mapped.closeLink (hm : Mapped r) {c : Nat} {link : Link} :
    Mapped (r.closeLink c link) where
  open_mapped {c' link'} hlink' hopen := by
    simp only [Register.closeLink, setSlot, Function.update_apply] at hlink'
    split at hlink'
    · obtain ⟨rfl⟩ := hlink'
      cases hopen
    · exact hm.open_mapped hlink' hopen
  pending_mapped {e p opening} hp hid := by
    have hslot : (r.slotAt e).pending = some p := by
      simp only [Register.closeLink, setSlot, Function.update_apply] at hp
      grind
    exact hm.pending_mapped hslot hid

lemma Mapped.shutDown (hm : Mapped r) (c : Nat) (link : Link) (how : ShutDownHow) :
    Mapped (r.shutDown c link how) := by
  obtain ⟨closes, destroys, heq, -⟩ := r.endTransport_eq c how
  have hraised : Mapped (r.endTransport c how) := by
    rw [heq]
    exact ⟨hm.open_mapped, hm.pending_mapped⟩
  exact hraised.closeLink

lemma Mapped.retire (hm : Mapped r) (entry : Nat) : Mapped (r.retire entry) where
  open_mapped := hm.open_mapped
  pending_mapped {e p opening} hp hid := by
    have hslot : (r.slotAt e).pending = some p := by
      simp only [Register.retire, setSlot, Function.update_apply] at hp
      grind
    exact hm.pending_mapped hslot hid

lemma Mapped.startOpen (hm : Mapped r) (h : Coherent r) {key : Text} {entry : Nat}
    (identity : ConnectionIdentity) (hkey : r.entries key = some entry) :
    Mapped (r.startOpen key entry identity) where
  open_mapped := hm.open_mapped
  pending_mapped {e p opening} hp hid := by
    simp only [Register.startOpen, setSlot, Function.update_apply] at hp hid ⊢
    split at hp
    · next heq =>
      obtain ⟨rfl⟩ := hp
      rw [if_pos rfl] at hid
      obtain ⟨rfl⟩ := hid
      exact heq ▸ hkey
    · obtain ⟨opening', hid', -⟩ := h.pending_opening hp
      have hle := (h.opening_le hid').1
      rw [if_neg (by omega)] at hid
      exact hm.pending_mapped hp hid

lemma Mapped.settle (hm : Mapped r) (entry : Nat) : Mapped (r.settle entry) where
  open_mapped := hm.open_mapped
  pending_mapped {e p opening} hp hid := by
    simp only [Register.settle, setSlot, Function.update_apply] at hp
    split at hp
    · cases hp
    · exact hm.pending_mapped hp hid

lemma Mapped.comesOut (hm : Mapped r) {id : Nat} {opening : Opening}
    (hid : r.openingAt id = some opening) (status : OpeningStatus) :
    Mapped (r.comesOut id opening status) where
  open_mapped := hm.open_mapped
  pending_mapped {e p opening'} hp hid' := by
    simp only [Register.comesOut, Function.update_apply] at hid'
    split at hid'
    · next heq =>
      obtain ⟨rfl⟩ := hid'
      have hin := hm.pending_mapped hp (heq ▸ hid)
      exact hin
    · exact hm.pending_mapped hp hid'

lemma Mapped.giveUp (hm : Mapped r) {id : Nat} {opening : Opening}
    (hid : r.openingAt id = some opening) : Mapped (r.giveUp id opening) := by
  have hraised : Mapped (r.endTransport id .destroy) := ⟨hm.open_mapped, hm.pending_mapped⟩
  exact hraised.comesOut hid .gaveUp

/-- The connection is installed where its opening was pending. -/
lemma Mapped.install (hm : Mapped r) {id : Nat} {opening : Opening}
    (hid : r.openingAt id = some opening) (hpending : r.IsPending opening.entry id) :
    Mapped (r.install id opening) where
  open_mapped {c link} hlink hopen := by
    simp only [install_linkAt, Function.update_apply] at hlink
    split at hlink
    · obtain ⟨rfl⟩ := hlink
      obtain ⟨p, hp, heq⟩ := hpending
      exact hm.pending_mapped hp (heq ▸ hid)
    · exact hm.open_mapped hlink hopen
  pending_mapped {e p opening'} hp hid' := by
    simp only [install_slotAt, Function.update_apply] at hp
    split at hp
    · cases hp
    · exact (hm.comesOut hid .installed).pending_mapped hp hid'

lemma Mapped.advance (hm : Mapped r) (entry : Nat) : Mapped (r.advance entry) where
  open_mapped := hm.open_mapped
  pending_mapped {e p opening} hp hid := by
    have hslot : (r.slotAt e).pending = some p := by
      simp only [Register.advance, setSlot, Function.update_apply] at hp
      grind
    exact hm.pending_mapped hslot hid

lemma Mapped.effect (hm : Mapped r) (h : Coherent r) (heffect : Effect True r r') : Mapped r' := by
  cases heffect with
  | enter key hkey => exact hm.enter hkey
  | leave key entry hkey hpending hconnections => exact hm.leave h hkey hpending hconnections
  | shutDown c link how => exact hm.shutDown c link how
  | retire entry => exact hm.retire entry
  | startOpen key entry identity _ hkey => exact hm.startOpen h identity (hkey trivial)
  | settle entry => exact hm.settle entry
  | giveUp id opening hid => exact hm.giveUp hid
  | install id opening hid _ hpending => exact hm.install hid hpending
  | ask call identity => exact ⟨hm.open_mapped, hm.pending_mapped⟩
  | checkout call link c => exact ⟨hm.open_mapped, hm.pending_mapped⟩
  | advance key entry => exact hm.advance entry
  | begin op lease c => exact ⟨hm.open_mapped, hm.pending_mapped⟩

lemma Mapped.effects (hm : Mapped r) (h : Coherent r) (heffects : Effects True r r') :
    Mapped r' := by
  induction heffects with
  | refl => exact hm
  | tail hbefore heffect ih => exact ih.effect (h.effects hbefore) heffect

/-! ## Spent transports -/

/-- What the entries and the links must keep for a transport to stay spent. -/
lemma Spent.of_keep (hspent : Spent r i) (hopening : r'.openingAt i = r.openingAt i)
    (hlink : r'.linkAt i = r.linkAt i)
    (hslot : ∀ opening, r.openingAt i = some opening → r'.IsPending opening.entry i →
      (r'.slotAt opening.entry).generation = opening.generation →
      r.IsPending opening.entry i ∧
        (r.slotAt opening.entry).generation = opening.generation) : Spent r' i := by
  obtain ⟨opening, hid, hclosed, hstale⟩ := hspent
  refine ⟨opening, hopening.trans hid, fun hinstalled => ?_, fun hnot hpending hgeneration => ?_⟩
  · rw [hlink]
    exact hclosed hinstalled
  · have hwas := hslot opening hid hpending hgeneration
    exact hstale hnot hwas.1 hwas.2

lemma Spent.enter (hspent : Spent r i) (h : Coherent r) (key : Text) : Spent (r.enter key) i := by
  refine hspent.of_keep rfl rfl fun opening hid hpending hgeneration => ?_
  have hle := (h.opening_le hid).2.1
  have hslot : (r.enter key).slotAt opening.entry = r.slotAt opening.entry :=
    Function.update_of_ne (by omega) ..
  rw [IsPending, hslot] at hpending
  rw [hslot] at hgeneration
  exact ⟨hpending, hgeneration⟩

/-- A connection that is closed leaves the other openings of its entry as they are. -/
lemma Spent.closeLink (hspent : Spent r i) (c : Nat) (link : Link) :
    Spent (r.closeLink c link) i := by
  obtain ⟨opening, hid, hclosed, hstale⟩ := hspent
  refine ⟨opening, hid, fun hinstalled => ?_, fun hnot hpending => ?_⟩
  · simp only [Register.closeLink, setSlot, Function.update_apply]
    split
    · exact ⟨_, rfl, rfl⟩
    · exact hclosed hinstalled
  · obtain ⟨p, hp, heq⟩ := hpending
    simp only [Register.closeLink, setSlot, Function.update_apply] at hp ⊢
    have hwas : r.IsPending opening.entry i := ⟨p, by grind, heq⟩
    have hne := hstale hnot hwas
    grind

lemma Spent.endTransport (hspent : Spent r i) (id : Nat) (how : ShutDownHow) :
    Spent (r.endTransport id how) i := by
  obtain ⟨closes, destroys, heq, -⟩ := r.endTransport_eq id how
  rw [heq]
  exact hspent

lemma Spent.retire (hspent : Spent r i) (entry : Nat) : Spent (r.retire entry) i := by
  refine hspent.of_keep rfl rfl fun opening hid hpending hgeneration => ?_
  obtain ⟨p, hp, heq⟩ := hpending
  simp only [Register.retire, setSlot, Function.update_apply] at hp hgeneration
  have hwas : (r.slotAt opening.entry).pending = some p := by grind
  exact ⟨⟨p, hwas, heq⟩, by grind⟩

/-- A new opening is what its entry waits for, and no other. -/
lemma Spent.startOpen (hspent : Spent r i) (h : Coherent r) (key : Text) (entry : Nat)
    (identity : ConnectionIdentity) : Spent (r.startOpen key entry identity) i := by
  obtain ⟨opening, hid, -⟩ := id hspent
  have hle := (h.opening_le hid).1
  have hopening : (r.startOpen key entry identity).openingAt i = r.openingAt i :=
    Function.update_of_ne (by omega) ..
  refine hspent.of_keep hopening rfl fun opening' hid' hpending hgeneration => ?_
  obtain ⟨p, hp, heq⟩ := hpending
  simp only [Register.startOpen, setSlot, Function.update_apply] at hp hgeneration
  split at hp
  · obtain ⟨rfl⟩ := hp
    simp only at heq
    omega
  · next hne =>
    rw [if_neg hne] at hgeneration
    exact ⟨⟨p, hp, heq⟩, hgeneration⟩

lemma Spent.settle (hspent : Spent r i) (entry : Nat) : Spent (r.settle entry) i := by
  refine hspent.of_keep rfl rfl fun opening hid hpending hgeneration => ?_
  obtain ⟨p, hp, heq⟩ := hpending
  simp only [Register.settle, setSlot, Function.update_apply] at hp hgeneration
  split at hp
  · cases hp
  · next hne =>
    rw [if_neg hne] at hgeneration
    exact ⟨⟨p, hp, heq⟩, hgeneration⟩

lemma Spent.giveUp (hspent : Spent r i) {id : Nat} {opening : Opening}
    (hid : r.openingAt id = some opening) (hpending : ¬ r.IsPending opening.entry id) :
    Spent (r.giveUp id opening) i := by
  by_cases heq : i = id
  · subst heq
    refine ⟨{ opening with status := .gaveUp }, Function.update_self .., nofun, fun _ hwas => ?_⟩
    exact absurd hwas hpending
  · exact hspent.of_keep (comesOut_of_ne opening .gaveUp heq) rfl
      fun opening' _ hwas hgeneration => ⟨hwas, hgeneration⟩

/-- A spent transport is not what is installed. -/
lemma Spent.install (hspent : Spent r i) {id : Nat} {opening : Opening}
    (hid : r.openingAt id = some opening) (hstatus : opening.status = .inFlight)
    (hpending : r.IsPending opening.entry id)
    (hgeneration : (r.slotAt opening.entry).generation = opening.generation) :
    i ≠ id ∧ Spent (r.install id opening) i := by
  have hne : i ≠ id := by
    rintro rfl
    obtain ⟨opening', hid', -, hstale⟩ := hspent
    obtain rfl : opening' = opening := Option.some.inj (hid'.symm.trans hid)
    exact hstale (by simp [hstatus]) hpending hgeneration
  have hlink : (r.install id opening).linkAt i = r.linkAt i := Function.update_of_ne hne ..
  refine ⟨hne, hspent.of_keep (comesOut_of_ne opening .installed hne) hlink
    fun opening' hid' hwas hsame => ?_⟩
  obtain ⟨p, hp, heq⟩ := hwas
  simp only [install_slotAt, Function.update_apply] at hp hsame
  split at hp
  · cases hp
  · next hother =>
    rw [if_neg hother] at hsame
    exact ⟨⟨p, hp, heq⟩, hsame⟩

lemma Spent.advance (hspent : Spent r i) (h : Coherent r) (entry : Nat) :
    Spent (r.advance entry) i := by
  refine hspent.of_keep rfl rfl fun opening hid hpending hgeneration => ?_
  have hle := (h.opening_le hid).2.2
  obtain ⟨p, hp, heq⟩ := hpending
  simp only [Register.advance, setSlot, Function.update_apply] at hp hgeneration
  split at hgeneration
  · simp only at hgeneration
    omega
  · next hne =>
    rw [if_neg hne] at hp
    exact ⟨⟨p, hp, heq⟩, hgeneration⟩

lemma Spent.effect (hspent : Spent r i) (h : Coherent r) (heffect : Effect mapped r r') :
    Spent r' i := by
  cases heffect with
  | enter key => exact hspent.enter h key
  | shutDown c link how => exact (hspent.endTransport c how).closeLink c link
  | retire entry => exact hspent.retire entry
  | startOpen key entry identity => exact hspent.startOpen h key entry identity
  | settle entry => exact hspent.settle entry
  | giveUp id opening hid _ hpending => exact hspent.giveUp hid hpending
  | install id opening hid hstatus hpending hgeneration =>
    exact (hspent.install hid hstatus hpending hgeneration).2
  | advance key entry => exact hspent.advance h entry
  | leave key | ask call identity | checkout call link c | begin op lease c => exact hspent

lemma Spent.effects (hspent : Spent r i) (h : Coherent r) (heffects : Effects mapped r r') :
    Spent r' i := by
  induction heffects with
  | refl => exact hspent
  | tail hbefore heffect ih => exact ih.effect (h.effects hbefore) heffect

/-- A spent transport that was never installed never is. -/
lemma Spent.linkAt_effect (hspent : Spent r i) (heffect : Effect mapped r r')
    (hlink : r.linkAt i = none) : r'.linkAt i = none := by
  cases heffect with
  | shutDown c link how hc =>
    have hne : i ≠ c := by
      rintro rfl
      rw [hlink] at hc
      cases hc
    obtain ⟨closes, destroys, heq, -⟩ := r.endTransport_eq c how
    rw [Register.shutDown, heq]
    exact (Function.update_of_ne hne ..).trans hlink
  | install id opening hid hstatus hpending hgeneration =>
    have hne := (hspent.install hid hstatus hpending hgeneration).1
    exact (Function.update_of_ne hne ..).trans hlink
  | giveUp id opening => exact hlink
  | _ => exact hlink

/-- No lease is granted over a spent transport. -/
lemma Spent.over_effect (hspent : Spent r i) (h : Coherent r) (heffect : Effect mapped r r')
    {l : Nat} (hover : r'.leaseOver l = some i) : r.leaseOver l = some i := by
  cases heffect with
  | checkout call link c hlink hopen =>
    simp only [Register.checkout, Register.ask, Function.update_apply] at hover
    split at hover
    · obtain ⟨rfl⟩ := hover
      obtain ⟨opening, hid, hclosed, -⟩ := hspent
      obtain ⟨opening', hid', hinstalled, -⟩ := h.link_opening hlink
      obtain rfl : opening = opening' := Option.some.inj (hid.symm.trans hid')
      obtain ⟨link', hlink', hclosed'⟩ := hclosed hinstalled
      obtain rfl : link' = link := Option.some.inj (hlink'.symm.trans hlink)
      rw [hopen] at hclosed'
      cases hclosed'
    · exact hover
  | shutDown c link how =>
    obtain ⟨closes, destroys, heq, -⟩ := r.endTransport_eq c how
    rw [Register.shutDown, heq] at hover
    exact hover
  | _ => exact hover

/-- What a spent transport is not yet, it never becomes: installed, or leased. -/
lemma Spent.keeps (hspent : Spent r i) (h : Coherent r) (heffects : Effects mapped r r') :
    (r.linkAt i = none → r'.linkAt i = none) ∧
      ∀ l, r'.leaseOver l = some i → r.leaseOver l = some i := by
  induction heffects with
  | refl => exact ⟨fun hlink => hlink, fun _ hover => hover⟩
  | tail hbefore heffect ih =>
    have hthen := hspent.effects h hbefore
    exact ⟨fun hlink => hthen.linkAt_effect heffect (ih.1 hlink),
      fun l hover => ih.2 l (hthen.over_effect (h.effects hbefore) heffect hover)⟩

/-- An opening that is not installed and not pending can be installed no more. -/
lemma spent_of_not_pending {opening : Opening} (hid : r.openingAt i = some opening)
    (hstatus : opening.status ≠ .installed) (hpending : ¬ r.IsPending opening.entry i) :
    Spent r i :=
  ⟨opening, hid, fun hinstalled => absurd hinstalled hstatus, fun _ hwas => absurd hwas hpending⟩

/-- An evict moves on the generation that a pending opening began in. -/
lemma spent_advance {opening : Opening} (h : Coherent r) (hid : r.openingAt i = some opening)
    (hstatus : opening.status ≠ .installed) : Spent (r.advance opening.entry) i := by
  refine ⟨opening, hid, fun hinstalled => absurd hinstalled hstatus, fun _ _ => ?_⟩
  have hle := (h.opening_le hid).2.2
  simp only [Register.advance, setSlot, Function.update_self]
  omega

/-! ## Stranded openings -/

lemma startOpen_slotAt (key : Text) (entry : Nat) (identity : ConnectionIdentity) :
    (r.startOpen key entry identity).slotAt entry = {
      generation := (r.slotAt entry).generation
      installed := (r.slotAt entry).installed
      pending := some {
        id := r.opens + 1
        identity := identity
        generation := (r.slotAt entry).generation }
      connections := (r.slotAt entry).connections } :=
  Function.update_self ..

lemma shutDown_slotAt (c : Nat) (link : Link) (how : ShutDownHow) :
    (r.shutDown c link how).slotAt link.entry = {
      generation := (r.slotAt link.entry).generation
      installed := if (r.slotAt link.entry).installed = some c then none
        else (r.slotAt link.entry).installed
      pending := (r.slotAt link.entry).pending
      connections := (r.slotAt link.entry).connections.erase c } := by
  cases how <;> exact Function.update_self ..

/-- An opening that begins at an entry that has left the map is stranded. -/
lemma stranded_startOpen {key : Text} {entry : Nat} (identity : ConnectionIdentity)
    (hkey : r.entries key = none) (huninstalled : (r.slotAt entry).installed = none) :
    ∃ opening, Stranded (r.startOpen key entry identity) (r.opens + 1) opening := by
  have hslot := r.startOpen_slotAt key entry identity
  refine ⟨_, {
    began := Function.update_self ..
    inFlight := rfl
    unmapped := hkey
    pending := ⟨_, by rw [hslot], rfl⟩
    generation := by rw [hslot]
    uninstalled := by rw [hslot, huninstalled]
    unclosed := Function.update_self ..
    undestroyed := Function.update_self .. }⟩

/-! ## Destroyed connections -/

/-- The connection is closed and its transport destroyed. -/
def Ended (r : Register) (c : Nat) : Prop :=
  (∃ link, r.linkAt c = some link ∧ link.closed = true) ∧ 0 < r.destroys c

lemma ended_shutDown {c : Nat} {link : Link} : Ended (r.shutDown c link .destroy) c := by
  refine ⟨⟨_, Function.update_self .., rfl⟩, ?_⟩
  show 0 < Function.update r.destroys c (r.destroys c + 1) c
  rw [Function.update_self]
  omega

lemma Ended.shutDown {c : Nat} (hended : Ended r c) (c' : Nat) (link' : Link)
    (how : ShutDownHow) : Ended (r.shutDown c' link' how) c := by
  obtain ⟨⟨link, hlink, hclosed⟩, hdestroyed⟩ := hended
  obtain ⟨closes, destroys, heq, -, hle, -⟩ := r.endTransport_eq c' how
  refine ⟨?_, ?_⟩
  · simp only [Register.shutDown, heq, Register.closeLink, setSlot, Function.update_apply]
    split
    · exact ⟨_, rfl, rfl⟩
    · exact ⟨link, hlink, hclosed⟩
  · rw [Register.shutDown, heq]
    exact Nat.lt_of_lt_of_le hdestroyed (hle c)

lemma Ended.effect {c : Nat} (hended : Ended r c) (h : Coherent r) (heffect : Effect mapped r r') :
    Ended r' c := by
  obtain ⟨link, hlink, hclosed⟩ := hended.1
  have hle := h.link_le hlink
  cases heffect with
  | shutDown c' link' how => exact hended.shutDown c' link' how
  | startOpen key entry identity =>
    refine ⟨hended.1, ?_⟩
    show 0 < Function.update r.destroys (r.opens + 1) 0 c
    rw [Function.update_of_ne (by omega)]
    exact hended.2
  | giveUp id opening =>
    refine ⟨hended.1, ?_⟩
    show 0 < Function.update r.destroys id (r.destroys id + 1) c
    rw [Function.update_apply]
    have hdestroyed := hended.2
    grind
  | install id opening hid hstatus =>
    have hne : c ≠ id := h.ne_of_link hid hstatus hlink
    exact ⟨⟨link, (Function.update_of_ne hne ..).trans hlink, hclosed⟩, hended.2⟩
  | _ => exact hended

lemma Ended.effects {c : Nat} (hended : Ended r c) (h : Coherent r)
    (heffects : Effects mapped r r') : Ended r' c := by
  induction heffects with
  | refl => exact hended
  | tail hbefore heffect ih => exact ih.effect (h.effects hbefore) heffect

lemma Ended.spent {c : Nat} (hended : Ended r c) (h : Coherent r) : Spent r c := by
  obtain ⟨⟨link, hlink, hclosed⟩, -⟩ := hended
  obtain ⟨opening, hid, hinstalled, -⟩ := h.link_opening hlink
  exact ⟨opening, hid, fun _ => ⟨link, hlink, hclosed⟩, fun hnot => absurd hinstalled hnot⟩

end Register

end OpenMcc
