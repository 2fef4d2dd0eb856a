import OpenMcc.Framework.Heap
import OpenMcc.Properties.ReadRegister

/-!
# Evicting a host from the read connections

Each step of the pool is a chain of effects on its register, so the invariants of the register
hold in every run: an operation runs over a transport that was opened for the identity its lease
was asked for.  An evict reaches what belongs to the entry that the map holds for the key.  A
lease call that finds the installed connection unusable shuts it down, which takes the entry out
of the map when nothing else holds it there, and opens at the entry it still has; an evict then
misses the opening (`evict_misses_opening`).  Where no call does so, an evict reaches every
opening of the key (`evict_reaches_openings`).
-/

namespace OpenMcc

open TransitionSystem Register

namespace Pool

/-- A lease call would open at an entry that it takes out of the map itself: it cannot use the
installed connection, and the entry has neither another connection nor a pending opening. -/
def strands (s : Pool) (key : Text) (identity : ConnectionIdentity) : Bool :=
  (s.entries key).any fun entry =>
    (s.entryAt entry).installed.any fun c =>
      !s.usable c identity && (s.entryAt entry).pending.isNone &&
        ((s.entryAt entry).connections.erase c).isEmpty

/-- The call goes another turn when it resumes. -/
def turnsAgain (s : Pool) (call : LeaseCall) : Bool :=
  match call.stage with
  | .waiting id => (s.openingAt id).any fun opening =>
      opening.status == .installed && !s.usable id call.identity
  | _ => false

end Pool

/-- The step opens no connection at an entry that it takes out of the map. -/
def keepsEntry (options : PoolOptions) (s : Pool) : PoolEvent → Bool
  | .leases _ key identity deadlineMs _ =>
    !(Pool.takesDeadline options deadlineMs && s.strands key identity)
  | .resumes callId _ =>
    !(s.calls callId).any fun call => s.turnsAgain call && s.strands call.key call.identity
  | _ => true

namespace Pool

variable {s t : Pool} {options : PoolOptions} {mapped : Prop}

/-! ## What leaves the register as it is -/

lemma register_onEntry (s : Pool) (entry : Nat) (f : Entry → Entry) :
    (s.onEntry entry f).register = s.register.setSlot entry (f (s.entryAt entry)).slot := by
  simp only [onEntry, register, setSlot, Function.comp_update]

lemma register_onConnection_of_link (s : Pool) (c : Nat) {f : Connection → Connection}
    (hf : ∀ connection, (f connection).link = connection.link) :
    (s.onConnection c f).register = s.register := by
  simp only [onConnection, register, Heap.map_comp_change _ _ _ hf]

lemma register_onLease_of_connection (s : Pool) (lease : Nat) {f : Lease → Lease}
    (hf : ∀ l, (f l).connection = l.connection) : (s.onLease lease f).register = s.register := by
  simp only [onLease, register, Heap.map_comp_change _ _ _ hf]

lemma register_onOp_of_lease (s : Pool) (op : Nat) {f : Op → Op}
    (hf : ∀ o, (f o).lease = o.lease) : (s.onOp op f).register = s.register := by
  simp only [onOp, register, Heap.map_comp_change _ _ _ hf]

@[simp] lemma register_releaseSlot (s : Pool) (c : Nat) :
    (s.releaseSlot c).register = s.register := by
  unfold releaseSlot
  split
  · rfl
  · dsimp only
    split
    · exact register_onConnection_of_link s c fun _ => rfl
    · exact Eq.trans (register_onOp_of_lease _ _ fun _ => rfl)
        (register_onConnection_of_link s c fun _ => rfl)

@[simp] lemma register_finishOp (s : Pool) (op : Nat) : (s.finishOp op).register = s.register := by
  unfold finishOp
  split
  · rfl
  · split
    · rfl
    · dsimp only
      have hfinished : ∀ (l c : Nat), ((s.onLease l fun lease =>
          { lease with ops := lease.ops.erase op }).onConnection c fun connection =>
          { connection with ops := connection.ops.erase op }).register = s.register := fun l c =>
        Eq.trans (register_onConnection_of_link _ c fun _ => rfl)
          (register_onLease_of_connection s l fun _ => rfl)
      split
      · rw [register_releaseSlot]
        exact Eq.trans (register_onOp_of_lease _ _ fun _ => rfl) (hfinished _ _)
      · exact hfinished _ _

@[simp] lemma register_abandon (s : Pool) (op : Nat) : (s.abandon op).register = s.register := by
  unfold abandon
  split
  · rfl
  · split
    · rfl
    · dsimp only
      rw [register_finishOp]
      exact Eq.trans (register_onConnection_of_link _ _ fun _ => rfl)
        (register_onOp_of_lease _ _ fun _ => rfl)

@[simp] lemma register_abandon_all (ops : List Nat) (s : Pool) :
    (ops.foldl abandon s).register = s.register := by
  induction ops generalizing s with
  | nil => rfl
  | cons op ops ih => rw [List.foldl_cons, ih, register_abandon]

/-! ## Connections on the register -/

lemma register_endTransport (s : Pool) (id : Nat) (how : ShutDownHow) :
    (s.endTransport id how).register = s.register.endTransport id how := by
  have hcloses : (s.transportAt id).closes = (Transport.closes ∘ s.transportAt) id := rfl
  have hdestroys : (s.transportAt id).destroys = (Transport.destroys ∘ s.transportAt) id := rfl
  cases how with
  | close =>
    simp only [endTransport, register, Register.endTransport, Function.comp_update, hdestroys,
      Function.update_eq_self, hcloses]
  | destroy =>
    simp only [endTransport, register, Register.endTransport, Function.comp_update, hcloses,
      Function.update_eq_self, hdestroys]

/-- `prune` takes the entry out of the map only if nothing holds it there. -/
lemma register_prune (s : Pool) (key : Text) (entry : Nat) :
    (s.prune key entry).register = s.register ∨
      s.register.entries key = some entry ∧ (s.register.slotAt entry).pending = none ∧
        (s.register.slotAt entry).connections = [] ∧
        (s.prune key entry).register = s.register.leave key := by
  unfold prune
  split
  · exact .inl rfl
  · next hempty =>
    rw [not_or, not_not, Bool.not_eq_true, Option.isSome_eq_false_iff, Option.isNone_iff_eq_none]
      at hempty
    split
    · next hin => exact .inr ⟨hin, hempty.2, hempty.1, rfl⟩
    · exact .inl rfl

lemma effects_prune (mapped : Prop) (s : Pool) (key : Text) (entry : Nat) :
    Effects mapped s.register (s.prune key entry).register := by
  obtain heq | ⟨hin, hpending, hconnections, heq⟩ := s.register_prune key entry
  · rw [heq]
    exact .refl
  · rw [heq]
    exact .single (.leave _ key entry hin hpending hconnections)

/-- `shutDown` of an open connection, up to its `prune`. -/
lemma shutDown_eq {c : Nat} {connection : Connection} (how : ShutDownHow)
    (hc : s.connectionAt c = some connection) (hopen : connection.closed = false) :
    ∃ s₁ : Pool, s₁.register = s.register.shutDown c connection.link how ∧
      s.shutDown c how = s₁.prune connection.key connection.entry := by
  have hdef : s.shutDown c how = (((connection.ops.foldl abandon
      ((s.onConnection c fun connection =>
        { connection with closed := true, idleTimer := false, hardTimer := false }).onEntry
        connection.entry fun entry => { entry with
          installed := if entry.installed = some c then none else entry.installed
          connections := entry.connections.erase c })).endTransport c how).prune connection.key
      connection.entry) := by
    simp [shutDown, hc, hopen]
  refine ⟨_, ?_, hdef⟩
  rw [register_endTransport, register_abandon_all, register_onEntry]
  cases how
  all_goals
    simp only [onConnection, register, Register.shutDown, Register.endTransport, Register.closeLink,
      setSlot, Function.comp_update, hc, Option.map_some]
    rfl

lemma effects_shutDown (s : Pool) (c : Nat) (how : ShutDownHow) :
    Effects mapped s.register (s.shutDown c how).register := by
  cases hc : s.connectionAt c with
  | none =>
    have hsame : s.shutDown c how = s := by simp [shutDown, hc]
    rw [hsame]
    exact .refl
  | some connection =>
    cases hopen : connection.closed with
    | true =>
      have hsame : s.shutDown c how = s := by simp [shutDown, hc, hopen]
      rw [hsame]
      exact .refl
    | false =>
      obtain ⟨s₁, hs₁, heq⟩ := shutDown_eq how hc hopen
      have hlink : s.register.linkAt c = some connection.link := by simp [register, hc]
      have hdown : Effect mapped s.register s₁.register :=
        hs₁ ▸ .shutDown _ c connection.link how hlink hopen
      rw [heq]
      exact .head hdown (effects_prune mapped s₁ connection.key connection.entry)

/-- Shutting a connection down touches the map, its entry, its link and its transport. -/
lemma shutDown_frame (s : Pool) (c : Nat) (how : ShutDownHow) :
    (s.shutDown c how).register.asked = s.register.asked ∧
      (s.shutDown c how).register.generations = s.register.generations ∧
      (s.shutDown c how).register.openingAt = s.register.openingAt ∧
      (s.shutDown c how).register.leaseOver = s.register.leaseOver := by
  cases hc : s.connectionAt c with
  | none => simp [shutDown, hc]
  | some connection =>
    cases hopen : connection.closed with
    | true => simp [shutDown, hc, hopen]
    | false =>
      obtain ⟨s₁, hs₁, heq⟩ := shutDown_eq how hc hopen
      have hdown : s₁.register.asked = s.register.asked ∧
          s₁.register.generations = s.register.generations ∧
          s₁.register.openingAt = s.register.openingAt ∧
          s₁.register.leaseOver = s.register.leaseOver := by
        rw [hs₁]
        cases how <;> exact ⟨rfl, rfl, rfl, rfl⟩
      rw [heq]
      obtain hprune | ⟨-, -, -, hprune⟩ := s₁.register_prune connection.key connection.entry
      all_goals
        rw [hprune]
        exact hdown

lemma effects_afterLastLease (s : Pool) (c : Nat) :
    Effects mapped s.register (s.afterLastLease c).register := by
  unfold afterLastLease
  split
  · exact .refl
  · split
    · exact .refl
    · split
      · exact s.effects_shutDown c .destroy
      · split
        · exact s.effects_shutDown c .close
        · rw [register_onConnection_of_link]
          · exact .refl
          · exact fun _ => rfl

lemma effects_retire (s : Pool) (c : Nat) :
    Effects mapped s.register (s.retire c).register := by
  unfold retire
  split
  · exact .refl
  · next connection _ =>
    have hkeep : (s.onConnection c fun connection =>
        { connection with retired := true }).register = s.register :=
      register_onConnection_of_link s c fun _ => rfl
    rw [register_onEntry, hkeep]
    simp only [Entry.slot]
    split
    · exact .single (.retire _ connection.entry)
    · have hsame : s.register.setSlot connection.entry (s.entryAt connection.entry).slot =
          s.register := by
        rw [setSlot]
        exact congrArg (fun slots => { s.register with slotAt := slots })
          (Function.update_eq_self connection.entry s.register.slotAt)
      have hrefl : Effects mapped s.register
          (s.register.setSlot connection.entry (s.entryAt connection.entry).slot) := by
        rw [hsame]
        exact .refl
      exact hrefl

lemma effects_expireOp (c : Nat) (s : Pool) (op : Nat) :
    Effects mapped s.register (expireOp c s op).register := by
  unfold expireOp
  split
  · exact .refl
  · split
    · rw [register_abandon]
      exact .refl
    · rw [register_abandon]
      exact s.effects_retire c

lemma effects_expire (s : Pool) (leaseId : Nat) (lease : Lease) :
    Effects mapped s.register (s.expire leaseId lease).register := by
  have hops : ∀ (ops : List Nat) (s : Pool), Effects mapped s.register
      (ops.foldl (expireOp lease.connection) s).register := by
    intro ops
    induction ops with
    | nil => exact fun _ => .refl
    | cons op ops ih => exact fun s => (effects_expireOp lease.connection s op).trans (ih _)
  have hkeep : (s.onLease leaseId fun lease =>
      { lease with expired := true, timer := false }).register = s.register :=
    register_onLease_of_connection s leaseId fun _ => rfl
  have hexpired := hops lease.ops (s.onLease leaseId fun lease =>
    { lease with expired := true, timer := false })
  rw [hkeep] at hexpired
  exact hexpired

/-! ## Openings on the register -/

lemma isPending_iff (s : Pool) (entry id : Nat) :
    s.isPending entry id = true ↔ s.register.IsPending entry id := by
  rw [isPending, Option.any_eq_true]
  simp only [beq_iff_eq]
  rfl

lemma effects_giveUp {id : Nat} {opening : Opening} (hid : s.openingAt id = some opening)
    (hstatus : opening.status = .inFlight) :
    Effects mapped s.register (s.giveUp id opening).register := by
  have hgiveUp : ((s.comesOut id .gaveUp).endTransport id .destroy).register =
      s.register.giveUp id opening := by
    rw [register_endTransport]
    simp [comesOut, register, Register.giveUp, Register.endTransport, Register.comesOut, hid]
  have hsame : ((s.comesOut id .gaveUp).endTransport id .destroy).isPending opening.entry id =
      s.isPending opening.entry id := rfl
  unfold giveUp
  dsimp only
  split
  · next hpending =>
    have hsettle : (((s.comesOut id .gaveUp).endTransport id .destroy).onEntry opening.entry
        fun entry => { entry with pending := none }).register =
        (s.register.settle opening.entry).giveUp id opening := by
      rw [register_onEntry, hgiveUp]
      rfl
    have hnot : ¬ (s.register.settle opening.entry).IsPending opening.entry id := by
      rintro ⟨p, hp, -⟩
      simp [Register.settle, setSlot] at hp
    have hfirst : Effect mapped s.register (s.register.settle opening.entry) := .settle _ _
    have hnext : Effect mapped (s.register.settle opening.entry)
        ((s.register.settle opening.entry).giveUp id opening) :=
      .giveUp _ id opening hid hstatus hnot
    refine .head hfirst (.head hnext ?_)
    rw [← hsettle]
    exact effects_prune mapped _ _ _
  · next hpending =>
    rw [hgiveUp]
    rw [hsame, isPending_iff] at hpending
    exact .single (.giveUp _ id opening hid hstatus hpending)

/-- `install`, up to what becomes of the previous connection. -/
def joining (s : Pool) (id : Nat) (opening : Opening) (now : Int) : Pool :=
  ({ s with connectionAt := Function.update s.connectionAt id (some (connectionOf opening now))
    } : Pool).onEntry opening.entry fun entry => { entry with
      installed := some id
      connections := entry.connections ++ [id] }

lemma register_joining (s : Pool) (id : Nat) (opening : Opening) (now : Int) :
    (s.joining id opening now).register = s.register.connect id opening := by
  rw [joining, register_onEntry]
  simp only [register, connect, setSlot, Function.comp_update, Option.map_some]
  rfl

lemma install_of_none {id : Nat} {opening : Opening} (now : Int)
    (hprevious : (s.entryAt opening.entry).installed = none) :
    s.install id opening now = s.joining id opening now := by
  simp only [install, hprevious]
  rfl

lemma effects_install (s : Pool) (id : Nat) (opening : Opening) (now : Int) :
    Effects mapped (s.register.connect id opening) (s.install id opening now).register := by
  rw [← register_joining s id opening now]
  unfold install
  dsimp only
  split
  · exact .refl
  · split
    · exact effects_shutDown _ _ _
    · exact effects_afterLastLease _ _

lemma register_comesOut {id : Nat} {opening : Opening} (status : OpeningStatus)
    (hid : s.openingAt id = some opening) :
    ((s.comesOut id status).onEntry opening.entry fun entry =>
      { entry with pending := none }).register =
      (s.register.comesOut id opening status).settle opening.entry := by
  rw [register_onEntry]
  simp only [comesOut, register, Register.comesOut, Register.settle, setSlot, hid, Option.map_some]
  rfl

lemma effects_lands {id : Nat} {opened : Bool} {now : Int} (h : s.lands id opened now = some t) :
    Effects mapped s.register t.register := by
  unfold lands at h
  split at h
  · cases h
  · next opening hid =>
    split at h
    · cases h
    · next hstatus =>
      rw [ne_eq, not_not] at hstatus
      split at h
      · next hcurrent =>
        obtain ⟨rfl⟩ := h
        rw [Bool.and_eq_true, Bool.and_eq_true, isCurrent, Bool.and_eq_true, isPending_iff,
          beq_iff_eq] at hcurrent
        have hinstall : Effect mapped s.register (s.register.install id opening) :=
          .install _ id opening hid hstatus hcurrent.1.2.1 hcurrent.1.2.2
        refine .head hinstall ?_
        rw [Register.install, ← register_comesOut .installed hid]
        exact effects_install _ id opening now
      · obtain ⟨rfl⟩ := h
        exact effects_giveUp hid hstatus

/-! ## Leases on the register -/

lemma sameConnectionIdentity_iff (a b : ConnectionIdentity) :
    sameConnectionIdentity a b = true ↔ a = b := by
  obtain ⟨_, _, _, _, _⟩ := a
  obtain ⟨_, _, _, _, _⟩ := b
  simp [sameConnectionIdentity, and_assoc]

/-- A lease is granted over an open connection of the identity it is asked for. -/
lemma effects_checkout {c : Nat} {call : LeaseCall} (callId : Nat)
    (husable : s.usable c call.identity = true) :
    Effects mapped s.register (s.checkout c callId call).register := by
  rw [usable, Option.any_eq_true] at husable
  obtain ⟨connection, hc, hrest⟩ := husable
  simp only [Bool.and_eq_true, Bool.not_eq_true', sameConnectionIdentity_iff] at hrest
  obtain ⟨⟨⟨hopen, -⟩, -⟩, hidentity⟩ := hrest
  have hlink : s.register.linkAt c = some connection.link := by simp [register, hc]
  have hkeep : (s.onConnection c fun connection => { connection with
      idleTimer := false
      leases := connection.leases ++ [callId] }).register = s.register :=
    register_onConnection_of_link s c fun _ => rfl
  have hcheckout : (s.checkout c callId call).register =
      s.register.checkout callId connection.link.identity c := by
    rw [← hkeep]
    simp [checkout, register, Register.checkout, Register.ask, Function.comp_update,
      Connection.link, hidentity]
  rw [hcheckout]
  exact .single (.checkout _ callId connection.link c hlink hopen)

lemma register_ask (s : Pool) (callId : Nat) (call : LeaseCall) :
    ({ s with calls := Function.update s.calls callId (some call) } : Pool).register =
      s.register.ask callId call.identity := by
  simp [register, Register.ask, Function.comp_update]

lemma effects_ask {callId : Nat} {call : LeaseCall}
    (hasked : ∀ asked, s.register.asked callId = some asked → asked = call.identity) :
    Effects mapped s.register
      ({ s with calls := Function.update s.calls callId (some call) } : Pool).register := by
  rw [register_ask]
  exact .single (.ask _ callId call.identity hasked)

lemma register_startOpen (s : Pool) (key : Text) (entry : Nat) (identity : ConnectionIdentity) :
    (s.startOpen key entry identity).2.register = s.register.startOpen key entry identity := by
  rw [startOpen, register_onEntry]
  simp [register, Register.startOpen, setSlot, Function.comp_update, Entry.slot]

lemma effects_joinOrOpen {callId entry : Nat} {call : LeaseCall}
    (hasked : ∀ asked, s.register.asked callId = some asked → asked = call.identity)
    (hentry : entry ≤ s.generations) (hin : mapped → s.entries call.key = some entry) :
    Effects mapped s.register (s.joinOrOpen callId call entry).register := by
  unfold joinOrOpen
  split
  · exact effects_ask hasked
  · dsimp only
    have hopens : Effect mapped s.register (s.startOpen call.key entry call.identity).2.register :=
      register_startOpen .. ▸ .startOpen _ call.key entry call.identity hentry hin
    refine .head hopens (effects_ask fun asked hcall => hasked asked ?_)
    rw [register_startOpen] at hcall
    exact hcall

/-- `entryFor` finds or makes the entry of the key. -/
lemma entryFor_spec (mapped : Prop) (s : Pool) (key : Text) :
    Effects mapped s.register (s.entryFor key).2.register ∧
      (s.entryFor key).2.entries key = some (s.entryFor key).1 ∧
      (s.entryFor key).2.calls = s.calls := by
  unfold entryFor
  split
  · next found hfound => exact ⟨.refl, hfound, rfl⟩
  · next hnone =>
    refine ⟨?_, Function.update_self .., rfl⟩
    have henter : Effects mapped s.register (s.register.enter key) := .single (.enter _ key hnone)
    convert henter using 1
    simp [register, Register.enter, Function.comp_update, Entry.slot]

/-- Shutting a connection down leaves the entry of the key in the map if something else holds it
there. -/
lemma entries_shutDown {c entry : Nat} {key : Text} (how : ShutDownHow)
    (hin : s.entries key = some entry)
    (hheld : (s.entryAt entry).pending.isSome ∨ (s.entryAt entry).connections.erase c ≠ []) :
    (s.shutDown c how).entries key = some entry := by
  cases hc : s.connectionAt c with
  | none => simpa [shutDown, hc] using hin
  | some connection =>
    cases hopen : connection.closed with
    | true => simpa [shutDown, hc, hopen] using hin
    | false =>
      obtain ⟨s₁, hs₁, heq⟩ := shutDown_eq how hc hopen
      have hin₁ : s₁.register.entries key = some entry := by
        rw [hs₁]
        cases how <;> exact hin
      have hslot₁ : s₁.register.slotAt = (s.register.shutDown c connection.link how).slotAt := by
        rw [hs₁]
      rw [heq]
      obtain hkeep | ⟨hin', hpending, hconnections, hleave⟩ :=
        s₁.register_prune connection.key connection.entry
      · exact (congrFun (congrArg Register.entries hkeep) key).trans hin₁
      · have hne : key ≠ connection.key := by
          rintro rfl
          obtain rfl : entry = connection.entry := Option.some.inj (hin₁.symm.trans hin')
          rw [hslot₁] at hpending hconnections
          cases how <;>
            simp [Register.shutDown, Register.closeLink, setSlot, Register.endTransport, register,
              Connection.link, Entry.slot] at hpending hconnections <;>
            simp [hpending, hconnections] at hheld
        have hother : (s₁.register.leave connection.key).entries key = s₁.register.entries key :=
          Function.update_of_ne hne ..
        exact ((congrFun (congrArg Register.entries hleave) key).trans hother).trans hin₁

/-- An entry with an installed connection was found in the map. -/
lemma entryFor_of_installed {key : Text} {c : Nat}
    (hc : ((s.entryFor key).2.entryAt (s.entryFor key).1).installed = some c) :
    (s.entryFor key).2 = s := by
  unfold entryFor at hc ⊢
  split at hc
  · rfl
  · simp at hc

lemma effects_turn {callId : Nat} {call : LeaseCall} {now : Int} (h : Coherent s.register)
    (hasked : ∀ asked, s.register.asked callId = some asked → asked = call.identity)
    (hkeeps : mapped → s.strands call.key call.identity = false) :
    Effects mapped s.register (s.turn options callId call now).register := by
  obtain ⟨heffects, hin, hcalls⟩ := entryFor_spec mapped s call.key
  have hinv := h.effects heffects
  have hentry := hinv.entry_le hin
  have hasked₁ : ∀ asked, (s.entryFor call.key).2.register.asked callId = some asked →
      asked = call.identity := by
    intro asked hcall
    refine hasked asked ?_
    simpa only [register, hcalls] using hcall
  refine heffects.trans ?_
  unfold turn
  dsimp only
  split
  · exact effects_joinOrOpen hasked₁ hentry fun _ => hin
  · next c hc =>
    split
    · next husable =>
      have hsame : (s.entryFor call.key).2 = s := entryFor_of_installed hc
      rw [hsame] at hin hc husable hasked₁ hinv hentry ⊢
      have hdown : Effects mapped s.register (s.shutDown c .destroy).register :=
        s.effects_shutDown c .destroy
      refine hdown.trans (effects_joinOrOpen ?_ ?_ fun hmapped => ?_)
      · rw [(s.shutDown_frame c .destroy).1]
        exact hasked
      · exact Nat.le_trans hentry (Nat.le_of_eq (s.shutDown_frame c .destroy).2.1.symm)
      · refine entries_shutDown .destroy hin ?_
        have hheld := hkeeps hmapped
        simp only [strands, hin, Option.any_some, hc, husable, Bool.true_and,
          Bool.and_eq_false_iff] at hheld
        simpa [List.isEmpty_iff] using hheld
    · next husable =>
      split
      · rw [Bool.not_eq_true, Bool.not_eq_false'] at husable
        exact effects_checkout callId husable
      · exact effects_joinOrOpen hasked₁ hentry fun _ => hin

/-- A call that has not begun has asked for nothing. -/
lemma asked_of_fresh {callId : Nat} {identity : ConnectionIdentity}
    (hfresh : ¬(s.calls callId).isSome = true) :
    ∀ asked, s.register.asked callId = some asked → asked = identity := by
  intro asked hasked
  rw [Bool.not_eq_true, Option.isSome_eq_false_iff, Option.isNone_iff_eq_none] at hfresh
  simp [register, hfresh] at hasked

/-- A call has asked for the identity it began with. -/
lemma asked_of_call {callId : Nat} {call : LeaseCall} (hcall : s.calls callId = some call) :
    ∀ asked, s.register.asked callId = some asked → asked = call.identity := by
  intro asked hasked
  have heq : some call.identity = some asked := by simpa [register, hcall] using hasked
  exact (Option.some.inj heq).symm

lemma effects_leases {callId : Nat} {key : Text} {identity : ConnectionIdentity}
    {deadlineMs now : Int} (h : Coherent s.register)
    (hkeeps : mapped → keepsEntry options s (.leases callId key identity deadlineMs now) = true)
    (ht : s.leases options callId key identity deadlineMs now = some t) :
    Effects mapped s.register t.register := by
  unfold leases at ht
  split at ht
  · cases ht
  · next hfresh =>
    have hasked : ∀ asked, s.register.asked callId = some asked → asked = identity :=
      asked_of_fresh hfresh
    dsimp only at ht
    split at ht
    · next hdeadline =>
      obtain ⟨rfl⟩ := ht
      refine effects_turn h hasked fun hmapped => ?_
      simpa [keepsEntry, hdeadline] using hkeeps hmapped
    · obtain ⟨rfl⟩ := ht
      exact effects_ask hasked

lemma effects_resumes {callId : Nat} {now : Int} (h : Coherent s.register)
    (hkeeps : mapped → keepsEntry options s (.resumes callId now) = true)
    (ht : s.resumes options callId now = some t) : Effects mapped s.register t.register := by
  unfold resumes at ht
  split at ht
  · cases ht
  · next call hcall =>
    have hasked := asked_of_call hcall
    split at ht
    · next id hstage =>
      split at ht
      · obtain ⟨rfl⟩ := ht
        exact effects_ask hasked
      · next hstatus =>
        split at ht
        · next husable =>
          obtain ⟨rfl⟩ := ht
          exact effects_checkout callId husable
        · next husable =>
          obtain ⟨rfl⟩ := ht
          refine effects_turn h hasked fun hmapped => ?_
          obtain ⟨opening, hid, hinstalled⟩ := Option.map_eq_some_iff.1 hstatus
          simpa [keepsEntry, hcall, turnsAgain, hstage, hid, hinstalled, husable]
            using hkeeps hmapped
      · cases ht
    · cases ht

lemma effects_releases {leaseId : Nat} (ht : s.releases leaseId = some t) :
    Effects mapped s.register t.register := by
  unfold releases at ht
  split at ht
  · cases ht
  · next lease hlease =>
    split at ht
    · obtain ⟨rfl⟩ := ht
      exact .refl
    · obtain ⟨rfl⟩ := ht
      have hreleased : ({ (s.onLease leaseId fun lease =>
          { lease with released := true, timer := false }) with
          leaseCount := s.leaseCount - 1 } : Pool).register = s.register :=
        register_onLease_of_connection s leaseId fun _ => rfl
      have hleft : ∀ s₁ : Pool, s₁.register = s.register → ((lease.ops.foldl abandon
          s₁).onConnection lease.connection fun connection =>
          { connection with leases := connection.leases.erase leaseId }).register = s.register :=
        fun s₁ hs₁ => Eq.trans (register_onConnection_of_link _ _ fun _ => rfl)
          ((register_abandon_all _ s₁).trans hs₁)
      rw [← hleft _ hreleased]
      exact effects_afterLastLease _ _

/-! ## Operations on the register -/

lemma register_begin (s : Pool) (opId : Nat) (op : Op) :
    ({ s with opAt := Function.update s.opAt opId (some op) } : Pool).register =
      s.register.begin opId op.lease := by
  simp [register, Register.begin, Function.comp_update]

lemma effects_begins {opId leaseId : Nat} {kind : OpKind}
    (ht : s.begins options opId leaseId kind = some t) :
    Effects mapped s.register t.register := by
  unfold begins at ht
  split at ht
  · cases ht
  · split at ht
    · cases ht
    · next lease hlease =>
      split at ht
      · cases ht
      · next connection hconnection =>
        split at ht
        · obtain ⟨rfl⟩ := ht
          exact .refl
        · obtain ⟨rfl⟩ := ht
          have hkeep : ((s.onLease leaseId fun lease =>
              { lease with ops := lease.ops ++ [opId] }).onConnection lease.connection
              fun started => { started with
                ops := started.ops ++ [opId]
                limiter := (connection.limiter.acquire options.channelLimit opId).2 }).register =
              s.register :=
            Eq.trans (register_onConnection_of_link _ _ fun _ => rfl)
              (register_onLease_of_connection s leaseId fun _ => rfl)
          have hover : s.register.leaseOver leaseId = some lease.connection := by
            simp [register, hlease]
          have hbegin : Effects mapped s.register (s.register.begin opId leaseId) :=
            .single (.begin _ opId leaseId lease.connection hover)
          convert hbegin using 1
          rw [← hkeep]
          exact register_begin _ opId _

lemma register_admits {opId : Nat} (ht : s.admits opId = some t) : t.register = s.register := by
  unfold admits at ht
  split at ht
  · cases ht
  · next op hop =>
    split at ht
    · cases ht
    · have hadmitted : (s.onOp opId fun op => { op with admitted := false }).register =
          s.register := register_onOp_of_lease s opId fun _ => rfl
      dsimp only at ht
      split at ht
      · obtain ⟨rfl⟩ := ht
        have hfreed : ∀ (s₁ : Pool) (lease : Option Lease),
            (lease.elim s₁ fun lease => s₁.releaseSlot lease.connection).register =
              s₁.register := by
          intro s₁ lease
          cases lease with
          | none => rfl
          | some lease => exact register_releaseSlot _ _
        exact (hfreed _ _).trans hadmitted
      · obtain ⟨rfl⟩ := ht
        exact Eq.trans (register_onOp_of_lease _ _ fun _ => rfl) hadmitted

lemma register_answers {opId : Nat} {stream : Bool} (ht : s.answers opId stream = some t) :
    t.register = s.register := by
  unfold answers at ht
  split at ht
  · cases ht
  · split at ht
    · cases ht
    · split at ht
      · obtain ⟨rfl⟩ := ht
        rfl
      · split at ht
        · obtain ⟨rfl⟩ := ht
          exact register_onOp_of_lease s opId fun _ => rfl
        · obtain ⟨rfl⟩ := ht
          exact (register_finishOp _ _).trans (register_onOp_of_lease s opId fun _ => rfl)

lemma register_closesStream {opId : Nat} (ht : s.closesStream opId = some t) :
    t.register = s.register := by
  unfold closesStream at ht
  split at ht
  · cases ht
  · split at ht
    · obtain ⟨rfl⟩ := ht
      exact register_finishOp s opId
    · cases ht

/-! ## Timers and evicts on the register -/

lemma effects_deadlines {leaseId : Nat} (ht : s.deadlines leaseId = some t) :
    Effects mapped s.register t.register := by
  unfold deadlines at ht
  split at ht
  · cases ht
  · next lease _ =>
    split at ht
    · obtain ⟨rfl⟩ := ht
      exact s.effects_expire leaseId lease
    · cases ht

lemma effects_idles {c : Nat} (ht : s.idles c = some t) :
    Effects mapped s.register t.register := by
  unfold idles at ht
  split at ht
  · cases ht
  · split at ht
    · obtain ⟨rfl⟩ := ht
      exact s.effects_shutDown c .close
    · cases ht

lemma effects_ages {c : Nat} (ht : s.ages c = some t) :
    Effects mapped s.register t.register := by
  unfold ages at ht
  split at ht
  · cases ht
  · split at ht
    · obtain ⟨rfl⟩ := ht
      exact s.effects_shutDown c .destroy
    · cases ht

lemma register_changes (s : Pool) (transport : Nat) (state : TransportState) :
    ({ s with
      transportAt := Function.update s.transportAt transport
        { s.transportAt transport with state := state } } : Pool).register = s.register := by
  have hcloses : (s.transportAt transport).closes =
      (Transport.closes ∘ s.transportAt) transport := rfl
  have hdestroys : (s.transportAt transport).destroys =
      (Transport.destroys ∘ s.transportAt) transport := rfl
  simp only [register, Function.comp_update, hcloses, hdestroys, Function.update_eq_self]

lemma effects_shutDown_all (mapped : Prop) (cs : List Nat) (s : Pool) :
    Effects mapped s.register (cs.foldl (fun s c => s.shutDown c .destroy) s).register := by
  induction cs generalizing s with
  | nil => exact .refl
  | cons c cs ih => exact (s.effects_shutDown c .destroy).trans (ih _)

/-- `evict`, up to the connections that it destroys. -/
def evicting (s : Pool) (entry : Nat) : Pool :=
  ({ s with generations := s.generations + 1 } : Pool).onEntry entry fun entry =>
    { entry with generation := s.generations + 1 }

lemma effects_evicting (mapped : Prop) {key : Text} {entry : Nat}
    (hin : s.entries key = some entry) :
    Effects mapped s.register (s.evicting entry).register := by
  have hadvance : Effects mapped s.register (s.register.advance entry) :=
    .single (.advance _ key entry hin)
  convert hadvance using 1
  rw [evicting, register_onEntry]
  rfl

lemma evict_eq {key : Text} {entry : Nat} (hin : s.entries key = some entry) :
    s.evict key = (((s.evicting entry).entryAt entry).connections.foldl
      (fun s c => s.shutDown c .destroy) (s.evicting entry)).prune key entry := by
  simp only [evict, hin]
  rfl

lemma effects_evict (s : Pool) (key : Text) :
    Effects mapped s.register (s.evict key).register := by
  cases hin : s.entries key with
  | none =>
    have hsame : s.evict key = s := by simp [evict, hin]
    rw [hsame]
    exact .refl
  | some entry =>
    rw [evict_eq hin]
    exact ((effects_evicting mapped hin).trans (effects_shutDown_all mapped _ _)).trans
      (effects_prune mapped _ key entry)

/-! ## Runs -/

/-- **Each step is a chain of effects.**  No opening of it begins outside the map where it takes
no entry out of the map that it opens at. -/
lemma effects_step (mapped : Prop) {e : PoolEvent} (h : Coherent s.register)
    (hkeeps : mapped → keepsEntry options s e = true)
    (ht : (readConnections options).step s e = some t) :
    Effects mapped s.register t.register := by
  cases e with
  | leases callId key identity deadlineMs now => exact effects_leases h hkeeps ht
  | lands opening opened now => exact effects_lands ht
  | resumes callId now => exact effects_resumes h hkeeps ht
  | releases leaseId => exact effects_releases ht
  | evicts key =>
    obtain ⟨rfl⟩ := ht
    exact s.effects_evict key
  | begins opId leaseId kind => exact effects_begins ht
  | admits opId =>
    rw [register_admits ht]
    exact .refl
  | answers opId stream =>
    rw [register_answers ht]
    exact .refl
  | closesStream opId =>
    rw [register_closesStream ht]
    exact .refl
  | deadlines leaseId => exact effects_deadlines ht
  | idles connection => exact effects_idles ht
  | ages connection => exact effects_ages ht
  | changes transport state =>
    obtain ⟨rfl⟩ := ht
    exact s.register_changes transport state ▸ .refl

lemma coherent_emptyPool : Coherent emptyPool.register where
  entry_le := by rintro _ _ ⟨⟩
  entry_inj := by rintro _ _ _ ⟨⟩
  generation_le _ := Nat.le_refl _
  opening_le := by rintro _ _ ⟨⟩
  pending_opening := by rintro _ _ ⟨⟩
  link_opening := by rintro _ _ ⟨⟩
  installed_link := by rintro _ _ ⟨⟩
  connected := by rintro _ _ ⟨⟩
  installed_open := by rintro _ _ ⟨⟩
  closed_ended := by rintro _ _ ⟨⟩
  gaveUp_destroyed := by rintro _ _ ⟨⟩
  granted := by rintro _ _ ⟨⟩
  op_granted := by rintro _ _ ⟨⟩

lemma mapped_emptyPool : Mapped emptyPool.register where
  open_mapped := by rintro _ _ ⟨⟩
  pending_mapped := by rintro _ _ _ ⟨⟩

lemma coherent_of_run (h : (readConnections options).Reachable free s) : Coherent s.register := by
  refine h.invariant (I := fun s => Coherent s.register) (fun s hs => ?_) fun t e u ht _ hstep => ?_
  · rw [hs]
    exact coherent_emptyPool
  · exact ht.effects (effects_step False ht False.elim hstep)

lemma mapped_of_run (h : (readConnections options).Reachable (meets (keepsEntry options)) s) :
    Coherent s.register ∧ Mapped s.register := by
  refine h.invariant (I := fun s => Coherent s.register ∧ Mapped s.register) (fun s hs => ?_)
    fun t e u ht hguard hstep => ?_
  · rw [hs]
    exact ⟨coherent_emptyPool, mapped_emptyPool⟩
  · have heffects : Effects True t.register u.register :=
      effects_step True ht.1 (fun _ => hguard) hstep
    exact ⟨ht.1.effects heffects, ht.2.effects ht.1 heffects⟩

lemma effects_path {es : List PoolEvent} (h : Coherent s.register)
    (hpath : (readConnections options).Path free s es t) :
    Effects False s.register t.register :=
  hpath.simulates (fun _ _ => Coherent.effect) h fun _ _ _ hinv _ hstep =>
    effects_step False hinv False.elim hstep

/-! ## What an evict reaches -/

lemma ended_shutDown {c : Nat} {link : Link} (h : Coherent s.register)
    (hlink : s.register.linkAt c = some link) (hopen : link.closed = false) :
    Ended (s.shutDown c .destroy).register c := by
  obtain ⟨connection, hc, rfl⟩ := Option.map_eq_some_iff.1 hlink
  obtain ⟨s₁, hs₁, heq⟩ := shutDown_eq .destroy hc hopen
  have hended : Ended s₁.register c := hs₁ ▸ Register.ended_shutDown
  have hinv : Coherent s₁.register := hs₁ ▸ h.shutDown .destroy hlink
  have hprune : Effects False s₁.register (s.shutDown c .destroy).register :=
    heq ▸ effects_prune False s₁ connection.key connection.entry
  exact hended.effects hinv hprune

lemma linkAt_shutDown_of_ne {c c' : Nat} (how : ShutDownHow) (hne : c ≠ c') :
    (s.shutDown c' how).register.linkAt c = s.register.linkAt c := by
  cases hc : s.connectionAt c' with
  | none => simp [shutDown, hc]
  | some connection =>
    cases hopen : connection.closed with
    | true => simp [shutDown, hc, hopen]
    | false =>
      obtain ⟨s₁, hs₁, heq⟩ := shutDown_eq how hc hopen
      have hdown : s₁.register.linkAt c = s.register.linkAt c := by
        rw [hs₁]
        cases how <;> exact Function.update_of_ne hne ..
      rw [heq]
      obtain hprune | ⟨-, -, -, hprune⟩ := s₁.register_prune connection.key connection.entry
      all_goals
        rw [hprune]
        exact hdown

/-- The open ones of the connections are destroyed. -/
lemma ended_shutDown_all {cs : List Nat} {c : Nat} {link : Link} (h : Coherent s.register)
    (hmem : c ∈ cs) (hlink : s.register.linkAt c = some link) (hopen : link.closed = false) :
    Ended (cs.foldl (fun s c => s.shutDown c .destroy) s).register c := by
  induction cs generalizing s with
  | nil => cases hmem
  | cons c' cs ih =>
    have hdown : Effects False s.register (s.shutDown c' .destroy).register :=
      s.effects_shutDown c' .destroy
    have hinv := h.effects hdown
    by_cases heq : c = c'
    · subst heq
      exact (ended_shutDown h hlink hopen).effects hinv (effects_shutDown_all False _ _)
    · have hrest : c ∈ cs := List.mem_of_ne_of_mem heq hmem
      exact ih hinv hrest ((linkAt_shutDown_of_ne .destroy heq).trans hlink)

/-- An evict leaves the openings as they came out, and grants no lease. -/
lemma evict_frame (s : Pool) (key : Text) :
    (s.evict key).register.openingAt = s.register.openingAt ∧
      (s.evict key).register.leaseOver = s.register.leaseOver := by
  cases hin : s.entries key with
  | none => simp [evict, hin]
  | some entry =>
    have hall : ∀ (cs : List Nat) (s : Pool),
        (cs.foldl (fun s c => s.shutDown c .destroy) s).register.openingAt =
            s.register.openingAt ∧
          (cs.foldl (fun s c => s.shutDown c .destroy) s).register.leaseOver =
            s.register.leaseOver := by
      intro cs
      induction cs with
      | nil => exact fun _ => ⟨rfl, rfl⟩
      | cons c cs ih =>
        intro s
        obtain ⟨-, -, hopening, hover⟩ := s.shutDown_frame c .destroy
        obtain ⟨hopenings, hovers⟩ := ih (s.shutDown c .destroy)
        exact ⟨hopenings.trans hopening, hovers.trans hover⟩
    rw [evict_eq hin]
    have hrest := hall ((s.evicting entry).entryAt entry).connections (s.evicting entry)
    obtain hprune | ⟨-, -, -, hprune⟩ := register_prune _ key entry
    all_goals
      rw [hprune]
      exact hrest

/-- **What an evict does to an opening of its key.**  It is spent; and where its connection was
open, the transport is destroyed. -/
lemma evict_spends {key : Text} {o : Nat} {opening : Opening} (h : Coherent s.register)
    (hm : Mapped s.register) (hid : s.openingAt o = some opening) (hkey : opening.key = key) :
    Spent (s.evict key).register o ∧
      (opening.status = .installed → s.Gone o ∨ (s.evict key).Destroyed o) := by
  have heffects : Effects False s.register (s.evict key).register := s.effects_evict key
  by_cases hstatus : opening.status = .installed
  · obtain ⟨link, hlink⟩ := h.installed_link hid hstatus
    obtain ⟨opening', hid', -, hkey', hentry', -⟩ := h.link_opening hlink
    obtain rfl : opening = opening' := Option.some.inj (hid.symm.trans hid')
    cases hclosed : link.closed with
    | true =>
      have hspent : Spent s.register o :=
        ⟨opening, hid, fun _ => ⟨link, hlink, hclosed⟩, fun hnot => absurd hstatus hnot⟩
      exact ⟨hspent.effects h heffects, fun _ => .inl (h.closed_ended hlink hclosed)⟩
    | false =>
      -- The entry of an open connection is mapped, and the evict goes over its connections.
      have hin : s.entries key = some link.entry := by
        rw [← hkey, hkey']
        exact hm.open_mapped hlink hclosed
      have hadvance : Effects False s.register (s.evicting link.entry).register :=
        effects_evicting False hin
      have hinv := h.effects hadvance
      have hmem : o ∈ ((s.evicting link.entry).entryAt link.entry).connections := by
        have hwas := h.connected hlink hclosed
        simpa [evicting, onEntry, register, Entry.slot] using hwas
      have hended := ended_shutDown_all hinv hmem hlink hclosed
      have hfinal : Ended (s.evict key).register o := by
        rw [evict_eq hin]
        exact hended.effects (hinv.effects (effects_shutDown_all False _ _))
          (effects_prune False _ key link.entry)
      exact ⟨hfinal.spent (h.effects heffects), fun _ => .inr hfinal.2⟩
  · refine ⟨?_, fun hinstalled => absurd hinstalled hstatus⟩
    by_cases hpending : s.register.IsPending opening.entry o
    · -- The entry of a pending opening is mapped, and the evict moves its generation on.
      have hin : s.entries key = some opening.entry := by
        obtain ⟨p, hp, heq⟩ := hpending
        rw [← hkey]
        exact hm.pending_mapped hp (heq ▸ hid)
      have hspent : Spent (s.evicting opening.entry).register o := by
        have hadvance := spent_advance h hid hstatus
        rwa [evicting, register_onEntry]
      have hinv := h.effects (effects_evicting False hin)
      rw [evict_eq hin]
      exact hspent.effects hinv ((effects_shutDown_all False _ _).trans
        (effects_prune False _ key opening.entry))
    · exact (spent_of_not_pending hid hstatus hpending).effects h heffects

/-- Every operation runs over a transport that was opened for the identity that its lease was
asked for. -/
def OpsMatch (s : Pool) : Prop :=
  ∀ opId op, s.opAt opId = some op → ∃ lease call opening, s.leaseAt op.lease = some lease ∧
    s.calls op.lease = some call ∧ s.openingAt lease.connection = some opening ∧
    opening.identity = call.identity

/-- An evict of the key reaches every opening of it that has begun: the transport is gone, or it
is destroyed when the opening comes out and is never leased.  No further lease is granted over it
in either case. -/
def EvictReaches (options : PoolOptions) (s : Pool) (key : Text) : Prop :=
  ∀ o opening, s.openingAt o = some opening → opening.key = key →
    (s.Gone o ∨ (s.evict key).Destroyed o ∨
      (s.evict key).InFlight o ∧ ∀ es u, (readConnections options).Path free (s.evict key) es u →
        (u.InFlight o ∨ u.Destroyed o) ∧ ∀ lease, ¬ u.LeasedOver lease o) ∧
    ∀ es u, (readConnections options).Path free (s.evict key) es u →
      ∀ lease, u.LeasedOver lease o → s.LeasedOver lease o

lemma leasedOver_iff (s : Pool) (lease o : Nat) :
    s.LeasedOver lease o ↔ s.register.leaseOver lease = some o := by
  simp [LeasedOver, register]

/-- **Granted leases match.**  In every run, under no condition. -/
theorem opsMatch_of_run (h : (readConnections options).Reachable free s) : s.OpsMatch := by
  intro opId op hop
  have hinv := coherent_of_run h
  have hlease : s.register.ops opId = some op.lease := by simp [register, hop]
  obtain ⟨c, hover⟩ := hinv.op_granted hlease
  obtain ⟨link, hlink, hasked⟩ := hinv.granted hover
  obtain ⟨opening, hid, -, -, -, hidentity⟩ := hinv.link_opening hlink
  obtain ⟨lease, hlease, rfl⟩ := Option.map_eq_some_iff.1 hover
  obtain ⟨call, hcall, hsame⟩ := Option.map_eq_some_iff.1 hasked
  exact ⟨lease, call, opening, hlease, hcall, hid, hidentity.trans hsame.symm⟩

/-- What is in flight and spent stays in flight until it is destroyed, and is never leased. -/
lemma stays_spent {o : Nat} {opening : Opening} {es : List PoolEvent} (h : Coherent s.register)
    (hspent : Spent s.register o) (hid : s.openingAt o = some opening)
    (hstatus : opening.status = .inFlight)
    (hpath : (readConnections options).Path free s es t) :
    (t.InFlight o ∨ t.Destroyed o) ∧ ∀ lease, ¬ t.LeasedOver lease o := by
  have heffects := effects_path h hpath
  have hinv := h.effects heffects
  have hnone : s.register.linkAt o = none := by
    cases hlink : s.register.linkAt o with
    | none => rfl
    | some link => exact absurd rfl (h.ne_of_link hid hstatus hlink)
  have hlink : t.register.linkAt o = none := (hspent.keeps h heffects).1 hnone
  refine ⟨?_, fun lease hleased => ?_⟩
  · obtain ⟨opening', hid', -⟩ := hspent.effects h heffects
    cases hout : opening'.status with
    | inFlight => exact .inl ⟨opening', hid', hout⟩
    | gaveUp => exact .inr (hinv.gaveUp_destroyed hid' hout)
    | installed =>
      obtain ⟨link, hsome⟩ := hinv.installed_link hid' hout
      rw [hlink] at hsome
      cases hsome
  · rw [leasedOver_iff] at hleased
    obtain ⟨link, hsome, -⟩ := hinv.granted hleased
    rw [hlink] at hsome
    cases hsome

/-- **An evict reaches what is mapped.** -/
lemma evictReaches_of_mapped {key : Text} (h : Coherent s.register) (hm : Mapped s.register) :
    EvictReaches options s key := by
  intro o opening hid hkey
  obtain ⟨hspent, hdestroyed⟩ := evict_spends h hm hid hkey
  have heffects : Effects False s.register (s.evict key).register := s.effects_evict key
  have hinv := h.effects heffects
  refine ⟨?_, fun es u hpath lease hleased => ?_⟩
  · cases hstatus : opening.status with
    | installed =>
      obtain hgone | hended := hdestroyed hstatus
      · exact .inl hgone
      · exact .inr (.inl hended)
    | gaveUp => exact .inl (.inr (h.gaveUp_destroyed hid hstatus))
    | inFlight =>
      have hid' : (s.evict key).openingAt o = some opening :=
        (congrFun (s.evict_frame key).1 o).trans hid
      exact .inr (.inr ⟨⟨opening, hid', hstatus⟩,
        fun es u hpath => stays_spent hinv hspent hid' hstatus hpath⟩)
  · rw [leasedOver_iff] at hleased ⊢
    rw [← (s.evict_frame key).2]
    exact (hspent.keeps hinv (effects_path hinv hpath)).2 lease hleased

/-! ## What an evict misses -/

/-- `shutDown` of the last connection of a mapped entry that waits for no opening. -/
lemma register_shutDown_last {key : Text} {entry c : Nat} {connection : Connection}
    (hin : s.entries key = some entry) (hc : s.connectionAt c = some connection)
    (hopen : connection.closed = false) (hkey : connection.key = key)
    (hentry : connection.entry = entry) (hpending : (s.entryAt entry).pending = none)
    (hlast : (s.entryAt entry).connections.erase c = []) :
    (s.shutDown c .destroy).register =
      (s.register.shutDown c connection.link .destroy).leave key := by
  obtain ⟨s₁, hs₁, heq⟩ := shutDown_eq .destroy hc hopen
  subst hkey hentry
  have hslot := s.register.shutDown_slotAt c connection.link .destroy
  rw [← hs₁] at hslot
  have hempty : (s₁.entryAt connection.entry).pending = none ∧
      (s₁.entryAt connection.entry).connections = [] :=
    ⟨(congrArg Slot.pending hslot).trans hpending, (congrArg Slot.connections hslot).trans hlast⟩
  have hin₁ : s₁.entries connection.key = some connection.entry :=
    (congrFun (congrArg Register.entries hs₁) connection.key).trans hin
  rw [heq, ← hs₁]
  simp only [prune, hempty.1, hempty.2, hin₁]
  rfl

/-- A lease call that takes the entry of its key out of the map strands its opening. -/
lemma stranded_turn (options : PoolOptions) (callId : Nat) (call : LeaseCall) (now : Int)
    (h : Coherent s.register) (hm : Mapped s.register)
    (hstrands : s.strands call.key call.identity = true) :
    ∃ id opening, Stranded (s.turn options callId call now).register id opening := by
  simp only [strands, Option.any_eq_true, Bool.and_eq_true, Option.isNone_iff_eq_none,
    List.isEmpty_iff] at hstrands
  obtain ⟨entry, hin, c, hinstalled, ⟨hunusable, hpending⟩, hlast⟩ := hstrands
  obtain ⟨link, hlink, hentry, hopen⟩ := h.installed_open hinstalled
  have hkey : link.key = call.key := by
    have hmapped := hm.open_mapped hlink hopen
    rw [hentry] at hmapped
    exact h.entry_inj hmapped hin
  obtain ⟨connection, hc, rfl⟩ := Option.map_eq_some_iff.1 hlink
  have hdown : (s.shutDown c .destroy).register =
      (s.register.shutDown c connection.link .destroy).leave call.key :=
    register_shutDown_last hin hc hopen hkey hentry hpending hlast
  have hslot := s.register.shutDown_slotAt c connection.link .destroy
  have hslot₁ : (s.shutDown c .destroy).register.slotAt entry =
      (s.register.shutDown c connection.link .destroy).slotAt connection.link.entry := by
    rw [hdown, hentry]
    rfl
  have hnone : ((s.shutDown c .destroy).register.slotAt entry).installed = none := by
    rw [hslot₁, hslot]
    exact if_pos (hentry ▸ hinstalled)
  have hidle : ((s.shutDown c .destroy).entryAt entry).pending = none := by
    have hkept := congrArg Slot.pending (hslot₁.trans hslot)
    exact hkept.trans (hentry ▸ hpending)
  have hkey₁ : (s.shutDown c .destroy).register.entries call.key = none := by
    rw [hdown]
    exact Function.update_self ..
  have hturn : s.turn options callId call now =
      ((s.shutDown c .destroy).startOpen call.key entry call.identity).2.awaits callId call
        ((s.shutDown c .destroy).startOpen call.key entry call.identity).1 := by
    simp [turn, entryFor, hin, hinstalled, hunusable, joinOrOpen, joinable, hidle]
  obtain ⟨opening, hstranded⟩ := stranded_startOpen call.identity hkey₁ hnone
  refine ⟨(s.shutDown c .destroy).register.opens + 1, opening, ?_⟩
  rw [hturn, awaits, register_ask, register_startOpen]
  exact ⟨hstranded.began, hstranded.inFlight, hstranded.unmapped, hstranded.pending,
    hstranded.generation, hstranded.uninstalled, hstranded.unclosed, hstranded.undestroyed⟩

/-- A stranded opening is installed when it lands with its transport ready. -/
lemma lands_of_stranded {id : Nat} {opening : Opening} (hstranded : Stranded s.register id opening)
    (hready : (s.transportAt id).state = .ready) :
    ∃ u, s.lands id true 0 = some u ∧ u.register = s.register.install id opening := by
  have hid : s.openingAt id = some opening := hstranded.began
  have hcurrent : s.isCurrent id opening = true := by
    rw [isCurrent, Bool.and_eq_true, isPending_iff, beq_iff_eq]
    exact ⟨hstranded.pending, hstranded.generation⟩
  have hprevious : (((s.comesOut id .installed).onEntry opening.entry fun entry =>
      { entry with pending := none }).entryAt opening.entry).installed = none := by
    simp only [onEntry, Function.update_self]
    exact hstranded.uninstalled
  refine ⟨((s.comesOut id .installed).onEntry opening.entry fun entry =>
    { entry with pending := none }).joining id opening 0, ?_, ?_⟩
  · simp [lands, hid, hstranded.inFlight, hcurrent, hready, install_of_none 0 hprevious]
  · rw [register_joining, register_comesOut .installed hid]
    rfl

/-- **An evict misses a stranded opening.**  Its transport is installed when it is ready. -/
lemma not_evictReaches_of_stranded {id : Nat} {opening : Opening}
    (hstranded : Stranded s.register id opening) : ¬ EvictReaches options s opening.key := by
  intro hreaches
  have hsame : s.evict opening.key = s := by
    have hin : s.entries opening.key = none := hstranded.unmapped
    simp only [evict, hin]
  have hreached := (hreaches id opening hstranded.began rfl).1
  rw [hsame] at hreached
  obtain ⟨s₁, hstep, hs₁, hready⟩ : ∃ s₁, (readConnections options).step s (.changes id .ready) =
      some s₁ ∧ s₁.register = s.register ∧ (s₁.transportAt id).state = .ready :=
    ⟨_, rfl, s.register_changes id .ready, by simp only [Function.update_self]⟩
  obtain ⟨u, hlands, hu⟩ := lands_of_stranded (hs₁.symm ▸ hstranded) hready
  rw [hs₁] at hu
  have hpath : (readConnections options).Path free s [.changes id .ready, .lands id true 0] u :=
    (Path.single trivial hstep).trans (Path.single trivial hlands)
  have hundestroyed : ¬ s.Destroyed id := Nat.not_lt.2 (Nat.le_of_eq hstranded.undestroyed)
  obtain (hclosed | hdestroyed) | hdestroyed | ⟨-, hlater⟩ := hreached
  · exact absurd hstranded.unclosed (Nat.ne_of_gt hclosed)
  · exact hundestroyed hdestroyed
  · exact hundestroyed hdestroyed
  · obtain ⟨opening', hid', hflight⟩ | hdestroyed := (hlater _ u hpath).1
    · have hinstalled : u.openingAt id = some { opening with status := .installed } := by
        have hopenings := congrFun (congrArg Register.openingAt hu) id
        exact hopenings.trans (Function.update_self ..)
      obtain rfl := Option.some.inj (hid'.symm.trans hinstalled)
      cases hflight
    · have hsame : (u.transportAt id).destroys = (s.transportAt id).destroys :=
        congrFun (congrArg Register.destroys hu) id
      exact hundestroyed (Nat.lt_of_lt_of_eq hdestroyed hsame)

/-- A step that does not meet the condition strands an opening. -/
lemma stranded_of_step {e : PoolEvent} (h : Coherent s.register) (hm : Mapped s.register)
    (hkeeps : keepsEntry options s e = false)
    (hstep : (readConnections options).step s e = some t) :
    ∃ id opening, Stranded t.register id opening := by
  cases e with
  | leases callId key identity deadlineMs now =>
    rw [keepsEntry, Bool.not_eq_false', Bool.and_eq_true] at hkeeps
    have hleases : s.leases options callId key identity deadlineMs now = some t := hstep
    simp only [leases, hkeeps.1, if_true] at hleases
    split at hleases
    · cases hleases
    · have hturn := Option.some.inj hleases
      rw [← hturn]
      exact stranded_turn options callId _ now h hm hkeeps.2
  | resumes callId now =>
    rw [keepsEntry, Bool.not_eq_false', Option.any_eq_true] at hkeeps
    obtain ⟨call, hcall, hboth⟩ := hkeeps
    obtain ⟨hagain, hstrands⟩ := Bool.and_eq_true_iff.1 hboth
    have hturn : t = s.turn options callId call now := by
      unfold turnsAgain at hagain
      split at hagain
      · next id hstage =>
        obtain ⟨opening, hid, hrest⟩ := (Option.any_eq_true _ _).1 hagain
        simp only [Bool.and_eq_true, beq_iff_eq, Bool.not_eq_true'] at hrest
        have hresumes : s.resumes options callId now = some t := hstep
        simpa [resumes, hcall, hstage, hid, hrest.1, hrest.2] using hresumes.symm
      · cases hagain
    rw [hturn]
    exact stranded_turn options callId call now h hm hstrands
  | _ => cases hkeeps

end Pool

/-- **Evicting a host.**  In a run in which no lease call opens at an entry that it takes out of
the map, operations run over transports of their leases' identities, and an evict reaches every
opening of its key.  A next step keeps that if and only if it meets the condition. -/
theorem evict_reaches_openings {options : PoolOptions} {s : Pool}
    (h : (readConnections options).Reachable (meets (keepsEntry options)) s) :
    (s.OpsMatch ∧ ∀ key, Pool.EvictReaches options s key) ∧
      ∀ e t, (readConnections options).step s e = some t →
        ((t.OpsMatch ∧ ∀ key, Pool.EvictReaches options t key) ↔
          keepsEntry options s e = true) := by
  have hreaches : ∀ u, (readConnections options).Reachable (meets (keepsEntry options)) u →
      u.OpsMatch ∧ ∀ key, Pool.EvictReaches options u key := by
    intro u hu
    obtain ⟨hinv, hmapped⟩ := Pool.mapped_of_run hu
    exact ⟨Pool.opsMatch_of_run (hu.mono fun _ _ _ => trivial),
      fun key => Pool.evictReaches_of_mapped hinv hmapped⟩
  refine ⟨hreaches s h, fun e t hstep => ⟨fun hkept => ?_, fun hkeeps => ?_⟩⟩
  · by_contra hstrays
    obtain ⟨hinv, hmapped⟩ := Pool.mapped_of_run h
    obtain ⟨id, opening, hstranded⟩ :=
      Pool.stranded_of_step hinv hmapped (Bool.not_eq_true _ ▸ hstrays) hstep
    exact Pool.not_evictReaches_of_stranded hstranded (hkept.2 opening.key)
  · exact hreaches t (h.step hkeeps hstep)

/-- A host to read from, and the options of the pool. -/
def someHost : ConnectionIdentity where
  hostname := []
  port := 22
  username := []
  sshKeyId := []
  hostKeyFingerprint := []

def someOptions : PoolOptions where
  hardAgeMs := 120000
  channelLimit := 6

/-- The host is evicted while its first connection opens. -/
theorem evict_reaches_openings_pending :
    ∃ s, (readConnections someOptions).exec emptyPool [.leases 0 [] someHost 10000 0] = some s ∧
      (s.evict []).InFlight 1 ∧
      ∀ es u, (readConnections someOptions).Path free (s.evict []) es u →
        (u.InFlight 1 ∨ u.Destroyed 1) ∧ ∀ lease, ¬ u.LeasedOver lease 1 := by
  obtain ⟨s, opening, hrun, hexec, hid, hkey, hcloses, hdestroys, hevicted⟩ : ∃ s opening,
      (readConnections someOptions).execUnder (keepsEntry someOptions) emptyPool
        [.leases 0 [] someHost 10000 0] = some s ∧
      (readConnections someOptions).exec emptyPool [.leases 0 [] someHost 10000 0] = some s ∧
      s.openingAt 1 = some opening ∧ opening.key = [] ∧ (s.transportAt 1).closes = 0 ∧
      (s.transportAt 1).destroys = 0 ∧ ((s.evict []).transportAt 1).destroys = 0 :=
    ⟨_, _, rfl, rfl, rfl, rfl, rfl, rfl, rfl⟩
  have hreaches := (evict_reaches_openings (.of_execUnder rfl hrun)).1.2 [] 1 opening hid hkey
  refine ⟨s, hexec, ?_⟩
  obtain hgone | hdestroyed | hflight := hreaches.1
  · have hnot : ¬ s.Gone 1 := by simp [Pool.Gone, Pool.Destroyed, hcloses, hdestroys]
    exact absurd hgone hnot
  · have hnot : ¬ (s.evict []).Destroyed 1 := by simp [Pool.Destroyed, hevicted]
    exact absurd hdestroyed hnot
  · exact hflight

/-- The installed connection drops, and a lease call takes its entry out of the map before it opens
at it.  The evict finds no entry, and the opening is leased after it. -/
theorem evict_misses_opening :
    ¬∀ s, (readConnections someOptions).Reachable free s →
      s.OpsMatch ∧ ∀ key, Pool.EvictReaches someOptions s key := by
  intro hclaim
  obtain ⟨s, opening, u, hrun, hid, hkey, hcloses, hdestroys, hevicted, hrest, hleased⟩ :
      ∃ s opening u, (readConnections someOptions).exec emptyPool
        [.leases 0 [] someHost 10000 0, .changes 1 .ready, .lands 1 true 0, .resumes 0 0,
          .releases 0, .changes 1 .failed, .leases 1 [] someHost 10000 1] = some s ∧
      s.openingAt 2 = some opening ∧ opening.key = [] ∧ (s.transportAt 2).closes = 0 ∧
      (s.transportAt 2).destroys = 0 ∧ ((s.evict []).transportAt 2).destroys = 0 ∧
      (readConnections someOptions).exec (s.evict [])
        [.changes 2 .ready, .lands 2 true 2, .resumes 1 2] = some u ∧ u.LeasedOver 1 2 :=
    ⟨_, _, _, rfl, rfl, rfl, rfl, rfl, rfl, rfl, _, rfl, rfl⟩
  have hreaches := ((hclaim s (.of_exec rfl hrun)).2 [] 2 opening hid hkey).1
  obtain hgone | hdestroyed | ⟨-, hflight⟩ := hreaches
  · simp [Pool.Gone, Pool.Destroyed, hcloses, hdestroys] at hgone
  · simp [Pool.Destroyed, hevicted] at hdestroyed
  · exact (hflight _ u (path_of_exec hrest)).2 1 hleased

end OpenMcc
