import OpenMcc.Properties.ReadConnections
import OpenMcc.Properties.ReadLedger

/-!
# Channels of the read connections

Each step of the pool is a chain of effects on its ledger, so what holds of the ledger holds in
every run: the operations that have a slot are never more than the channel limit, an operation
waits only while all slots are taken, and a slot is given back once (`channels_counted`).
-/

namespace OpenMcc

open TransitionSystem

namespace Pool

variable {s t : Pool} {options : PoolOptions} {lit : Int → Prop}

/-! ## What leaves the ledger as it is -/

@[simp] lemma ledger_onEntry (s : Pool) (entry : Nat) (f : Entry → Entry) :
    (s.onEntry entry f).ledger = s.ledger := rfl

@[simp] lemma ledger_endTransport (s : Pool) (id : Nat) (how : ShutDownHow) :
    (s.endTransport id how).ledger = s.ledger := rfl

@[simp] lemma ledger_prune (s : Pool) (key : Text) (entry : Nat) :
    (s.prune key entry).ledger = s.ledger := by
  unfold prune
  split
  · rfl
  · split <;> rfl

@[simp] lemma ledger_entryFor (s : Pool) (key : Text) : (s.entryFor key).2.ledger = s.ledger := by
  unfold entryFor
  split <;> rfl

@[simp] lemma ledger_startOpen (s : Pool) (key : Text) (entry : Nat)
    (identity : ConnectionIdentity) :
    (s.startOpen key entry identity).2.ledger = s.ledger := rfl

lemma ledger_onConnection (s : Pool) (c : Nat) {f : Connection → Connection} {g : Line → Line}
    (hfg : ∀ connection, (f connection).line = g connection.line) :
    (s.onConnection c f).ledger = s.ledger.onLine c g := by
  have hcomp : Connection.line ∘ f = g ∘ Connection.line := funext hfg
  simp only [onConnection, ledger, Ledger.onLine, Function.comp_update, Option.map_map, hcomp,
    Function.comp_apply]

lemma ledger_onConnection_of_line (s : Pool) (c : Nat) {f : Connection → Connection}
    (hf : ∀ connection, (f connection).line = connection.line) :
    (s.onConnection c f).ledger = s.ledger := by
  simp only [onConnection, ledger, Heap.map_comp_change _ _ _ hf]

lemma ledger_retire (s : Pool) (c : Nat) : (s.retire c).ledger = s.ledger := by
  unfold retire
  split
  · rfl
  · exact s.ledger_onConnection_of_line c fun _ => rfl

/-! ## Operations on the ledger -/

lemma lineAt_ledger (s : Pool) (c : Nat) :
    s.ledger.lineAt c = (s.connectionAt c).map Connection.line := rfl

lemma ledger_releaseSlot (s : Pool) (c : Nat) :
    (s.releaseSlot c).ledger = s.ledger.releaseSlot c := by
  cases hc : s.connectionAt c with
  | none => simp [releaseSlot, Ledger.releaseSlot, lineAt_ledger, hc]
  | some connection =>
    have hlimiter : (s.onConnection c fun connection' =>
        { connection' with limiter := connection.limiter.release.2 }).ledger =
        s.ledger.onLine c fun line => { line with limiter := connection.limiter.release.2 } :=
      s.ledger_onConnection c fun _ => rfl
    have hline : connection.line.limiter = connection.limiter := rfl
    simp only [releaseSlot, Ledger.releaseSlot, lineAt_ledger, hc, Option.map_some, hline]
    cases connection.limiter.release.1 with
    | none => exact hlimiter
    | some next => exact congrArg (fun l => Ledger.onOp l next _) hlimiter

lemma ledger_finishOp (s : Pool) (opId : Nat) :
    (s.finishOp opId).ledger = s.ledger.finishOp opId := by
  have hop : s.ledger.opAt opId = s.opAt opId := rfl
  cases ho : s.opAt opId with
  | none => simp [finishOp, Ledger.finishOp, hop, ho]
  | some op =>
    have hlease : s.ledger.leaseAt op.lease = s.leaseAt op.lease := rfl
    cases hl : s.leaseAt op.lease with
    | none => simp [finishOp, Ledger.finishOp, hop, ho, hlease, hl]
    | some lease =>
      have hunlist : ((s.onLease op.lease fun lease =>
          { lease with ops := lease.ops.erase opId }).onConnection lease.connection
          fun connection => { connection with ops := connection.ops.erase opId }).ledger =
          s.ledger.unlist opId op.lease lease.connection :=
        ledger_onConnection _ lease.connection fun _ => rfl
      simp only [finishOp, Ledger.finishOp, hop, ho, hlease, hl]
      split
      · rw [ledger_releaseSlot, Ledger.giveUp, ← hunlist]
        rfl
      · exact hunlist

lemma ledger_abandon (s : Pool) (opId : Nat) :
    (s.abandon opId).ledger = s.ledger.abandon opId := by
  have hop : s.ledger.opAt opId = s.opAt opId := rfl
  cases ho : s.opAt opId with
  | none => simp [abandon, Ledger.abandon, hop, ho]
  | some op =>
    have hlease : s.ledger.leaseAt op.lease = s.leaseAt op.lease := rfl
    cases hl : s.leaseAt op.lease with
    | none => simp [abandon, Ledger.abandon, hop, ho, hlease, hl]
    | some lease =>
      have hsettle : ((s.onOp opId fun op => { op with settled := true }).onConnection
          lease.connection fun connection =>
          { connection with limiter := connection.limiter.abort opId }).ledger =
          s.ledger.settle opId lease.connection :=
        ledger_onConnection _ lease.connection fun _ => rfl
      simp only [abandon, Ledger.abandon, hop, ho, hlease, hl]
      rw [ledger_finishOp, hsettle]

lemma ledger_abandon_all (ops : List Nat) (s : Pool) :
    (ops.foldl abandon s).ledger = ops.foldl Ledger.abandon s.ledger := by
  induction ops generalizing s with
  | nil => rfl
  | cons op ops ih => rw [List.foldl_cons, ih, ledger_abandon, List.foldl_cons]

/-! ## Connections on the ledger -/

lemma effects_ledger_shutDown (s : Pool) (c : Nat) (how : ShutDownHow) :
    Ledger.Effects options.channelLimit lit s.ledger (s.shutDown c how).ledger := by
  cases hc : s.connectionAt c with
  | none =>
    have hsame : s.shutDown c how = s := by simp [shutDown, hc]
    rw [hsame]
    exact .refl
  | some connection =>
    cases hopen : connection.closed with
    | true =>
      have hsame : s.shutDown c how = s := by simp [shutDown, hc, hopen]
      rw [hsame]
      exact .refl
    | false =>
      have hline : s.ledger.lineAt c = some connection.line := by rw [lineAt_ledger, hc]; rfl
      have hclose : Ledger.Effect options.channelLimit lit s.ledger
          (s.ledger.close c connection.line) := .close _ c connection.line hline hopen
      have hflag : ((s.onConnection c fun connection =>
          { connection with closed := true, idleTimer := false, hardTimer := false })).ledger =
          s.ledger.onLine c fun line => { line with closed := true, hardTimer := false } :=
        s.ledger_onConnection c fun _ => rfl
      have hshut : (s.shutDown c how).ledger = s.ledger.close c connection.line := by
        simp only [shutDown, hc, hopen, Bool.false_eq_true, if_false, ledger_prune,
          ledger_endTransport, ledger_abandon_all, ledger_onEntry, hflag]
        rfl
      exact hshut ▸ .single hclose

lemma effects_ledger_shutDown_all (cs : List Nat) (s : Pool) :
    Ledger.Effects options.channelLimit lit s.ledger
      (cs.foldl (fun s c => s.shutDown c .destroy) s).ledger := by
  induction cs generalizing s with
  | nil => exact .refl
  | cons c cs ih => exact (s.effects_ledger_shutDown c .destroy).trans (ih _)

lemma effects_ledger_afterLastLease (s : Pool) (c : Nat) :
    Ledger.Effects options.channelLimit lit s.ledger (s.afterLastLease c).ledger := by
  unfold afterLastLease
  split
  · exact .refl
  · split
    · exact .refl
    · split
      · exact s.effects_ledger_shutDown c .destroy
      · split
        · exact s.effects_ledger_shutDown c .close
        · rw [ledger_onConnection_of_line]
          · exact .refl
          · exact fun _ => rfl

lemma ledger_expireOp (c : Nat) (s : Pool) (opId : Nat) :
    (expireOp c s opId).ledger = s.ledger.abandon opId := by
  cases ho : s.opAt opId with
  | none =>
    have hop : s.ledger.opAt opId = none := ho
    simp [expireOp, Ledger.abandon, ho, hop]
  | some op =>
    simp only [expireOp, ho]
    split
    · exact s.ledger_abandon opId
    · rw [ledger_abandon, ledger_retire]

lemma ledger_expire (s : Pool) (leaseId : Nat) (lease : Lease) :
    (s.expire leaseId lease).ledger = s.ledger.expire leaseId lease := by
  have hops : ∀ (ops : List Nat) (s : Pool), (ops.foldl (expireOp lease.connection) s).ledger =
      ops.foldl Ledger.abandon s.ledger := by
    intro ops
    induction ops with
    | nil => exact fun _ => rfl
    | cons op ops ih =>
      intro s
      rw [List.foldl_cons, ih, ledger_expireOp, List.foldl_cons]
  exact hops lease.ops _

/-! ## Openings on the ledger -/

lemma effects_ledger_install {id : Nat} {opening : Opening} {now : Int}
    (hnone : s.connectionAt id = none) (hlit : lit now) :
    Ledger.Effects options.channelLimit lit s.ledger (s.install id opening now).ledger := by
  have hline : s.ledger.lineAt id = none := by rw [lineAt_ledger, hnone]; rfl
  have hjoining : (s.joining id opening now).ledger = s.ledger.connect id now := by
    simp only [joining, ledger_onEntry]
    simp only [ledger, Ledger.connect, Function.comp_update, Option.map_some]
    rfl
  have hconnect : Ledger.Effects options.channelLimit lit s.ledger
      (s.joining id opening now).ledger := hjoining ▸ .single (.connect _ id now hline hlit)
  refine hconnect.trans ?_
  unfold install
  dsimp only
  split
  · exact .refl
  · split
    · exact effects_ledger_shutDown _ _ _
    · exact effects_ledger_afterLastLease _ _

lemma ledger_giveUp (s : Pool) (id : Nat) (opening : Opening) :
    (s.giveUp id opening).ledger = s.ledger := by
  unfold giveUp
  dsimp only
  split
  · exact ledger_prune ..
  · rfl

/-- An opening in flight has no connection yet. -/
lemma connectionAt_of_inFlight {id : Nat} {opening : Opening} (h : Register.Coherent s.register)
    (hid : s.openingAt id = some opening) (hstatus : opening.status = .inFlight) :
    s.connectionAt id = none := by
  cases hc : s.connectionAt id with
  | none => rfl
  | some connection =>
    have hlink : s.register.linkAt id = some connection.link := by simp [register, hc]
    exact absurd rfl (h.ne_of_link hid hstatus hlink)

lemma effects_ledger_lands {id : Nat} {opened : Bool} {now : Int}
    (h : Register.Coherent s.register) (hlit : lit now) (ht : s.lands id opened now = some t) :
    Ledger.Effects options.channelLimit lit s.ledger t.ledger := by
  unfold lands at ht
  split at ht
  · cases ht
  · next opening hid =>
    split at ht
    · cases ht
    · next hstatus =>
      rw [ne_eq, not_not] at hstatus
      split at ht
      · obtain ⟨rfl⟩ := ht
        have hnone := connectionAt_of_inFlight h hid hstatus
        have hsettled : ((s.comesOut id .installed).onEntry opening.entry fun entry =>
            { entry with pending := none }).connectionAt id = none := hnone
        exact effects_ledger_install hsettled hlit
      · obtain ⟨rfl⟩ := ht
        rw [ledger_giveUp]
        exact .refl

/-! ## Leases on the ledger -/

lemma ledger_await (s : Pool) (callId : Nat) (call : LeaseCall) :
    ({ s with calls := Function.update s.calls callId (some call) } : Pool).ledger =
      s.ledger.await callId call.stage := by
  simp [ledger, Ledger.await, Function.comp_update]

lemma effects_ledger_await {callId : Nat} {call : LeaseCall}
    (hnot : s.ledger.stageAt callId ≠ some .granted) :
    Ledger.Effects options.channelLimit lit s.ledger
      ({ s with calls := Function.update s.calls callId (some call) } : Pool).ledger := by
  rw [ledger_await]
  exact .single (.await _ callId call.stage hnot)

lemma effects_ledger_checkout {c callId : Nat} {call : LeaseCall}
    (hnot : s.ledger.stageAt callId ≠ some .granted) (husable : s.usable c call.identity = true) :
    Ledger.Effects options.channelLimit lit s.ledger (s.checkout c callId call).ledger := by
  rw [usable, Option.any_eq_true] at husable
  obtain ⟨connection, hc, hrest⟩ := husable
  simp only [Bool.and_eq_true, Bool.not_eq_true'] at hrest
  have hline : s.ledger.lineAt c = some connection.line := by rw [lineAt_ledger, hc]; rfl
  have hcheckout : (s.checkout c callId call).ledger = s.ledger.checkout callId c := by
    have hkeep : (s.onConnection c fun connection => { connection with
        idleTimer := false
        leases := connection.leases ++ [callId] }).ledger = s.ledger :=
      s.ledger_onConnection_of_line c fun _ => rfl
    rw [← hkeep]
    simp [checkout, ledger, Ledger.checkout, Function.comp_update]
  rw [hcheckout]
  exact .single (.checkout _ callId c connection.line hnot hline hrest.1.1.1)

lemma effects_ledger_joinOrOpen {callId entry : Nat} {call : LeaseCall}
    (hnot : s.ledger.stageAt callId ≠ some .granted) :
    Ledger.Effects options.channelLimit lit s.ledger (s.joinOrOpen callId call entry).ledger := by
  unfold joinOrOpen
  split
  · exact effects_ledger_await hnot
  · dsimp only
    have hopened : (s.startOpen call.key entry call.identity).2.ledger = s.ledger := rfl
    rw [← hopened] at hnot ⊢
    exact effects_ledger_await hnot

/-- No effect of shutting a connection down touches the calls. -/
lemma stageAt_shutDown (s : Pool) (c : Nat) (how : ShutDownHow) :
    (s.shutDown c how).ledger.stageAt = s.ledger.stageAt := by
  cases hc : s.connectionAt c with
  | none => simp [shutDown, hc]
  | some connection =>
    cases hopen : connection.closed with
    | true => simp [shutDown, hc, hopen]
    | false =>
      simp only [shutDown, hc, hopen, Bool.false_eq_true, if_false, ledger_prune,
        ledger_endTransport, ledger_abandon_all, ledger_onEntry]
      exact (Ledger.shrinks_abandon_all connection.ops _).stageAt

lemma effects_ledger_turn {callId : Nat} {call : LeaseCall} {now : Int}
    (hnot : s.ledger.stageAt callId ≠ some .granted) :
    Ledger.Effects options.channelLimit lit s.ledger (s.turn options callId call now).ledger := by
  have hentry : (s.entryFor call.key).2.ledger = s.ledger := ledger_entryFor ..
  rw [← hentry] at hnot ⊢
  unfold turn
  dsimp only
  split
  · exact effects_ledger_joinOrOpen hnot
  · next c hc =>
    split
    · have hdown : Ledger.Effects options.channelLimit lit (s.entryFor call.key).2.ledger
          ((s.entryFor call.key).2.shutDown c .destroy).ledger :=
        effects_ledger_shutDown _ c .destroy
      refine hdown.trans (effects_ledger_joinOrOpen ?_)
      rw [stageAt_shutDown]
      exact hnot
    · next husable =>
      rw [Bool.not_eq_true, Bool.not_eq_false'] at husable
      split
      · exact effects_ledger_checkout hnot husable
      · exact effects_ledger_joinOrOpen hnot

lemma effects_ledger_leases {callId : Nat} {key : Text} {identity : ConnectionIdentity}
    {deadlineMs now : Int} (ht : s.leases options callId key identity deadlineMs now = some t) :
    Ledger.Effects options.channelLimit lit s.ledger t.ledger := by
  unfold leases at ht
  split at ht
  · cases ht
  · next hfresh =>
    rw [Bool.not_eq_true, Option.isSome_eq_false_iff, Option.isNone_iff_eq_none] at hfresh
    have hnot : s.ledger.stageAt callId ≠ some .granted := by simp [ledger, hfresh]
    dsimp only at ht
    split at ht
    · obtain ⟨rfl⟩ := ht
      exact effects_ledger_turn hnot
    · obtain ⟨rfl⟩ := ht
      exact effects_ledger_await hnot

lemma effects_ledger_resumes {callId : Nat} {now : Int}
    (ht : s.resumes options callId now = some t) :
    Ledger.Effects options.channelLimit lit s.ledger t.ledger := by
  unfold resumes at ht
  split at ht
  · cases ht
  · next call hcall =>
    split at ht
    · next id hstage =>
      have hnot : s.ledger.stageAt callId ≠ some .granted := by simp [ledger, hcall, hstage]
      split at ht
      · obtain ⟨rfl⟩ := ht
        exact effects_ledger_await hnot
      · split at ht
        · next husable =>
          obtain ⟨rfl⟩ := ht
          exact effects_ledger_checkout hnot husable
        · obtain ⟨rfl⟩ := ht
          exact effects_ledger_turn hnot
      · cases ht
    · cases ht

lemma effects_ledger_releases {leaseId : Nat} (ht : s.releases leaseId = some t) :
    Ledger.Effects options.channelLimit lit s.ledger t.ledger := by
  unfold releases at ht
  split at ht
  · cases ht
  · next lease hlease =>
    split at ht
    · obtain ⟨rfl⟩ := ht
      exact .refl
    · next hheld =>
      obtain ⟨rfl⟩ := ht
      have hrelease : Ledger.Effect options.channelLimit lit s.ledger
          (s.ledger.release leaseId lease) :=
        .release _ leaseId lease hlease (Bool.not_eq_true _ ▸ hheld)
      have hleft : ∀ s₁ : Pool, ((lease.ops.foldl abandon s₁).onConnection lease.connection
          fun connection => { connection with leases := connection.leases.erase leaseId }).ledger =
          lease.ops.foldl Ledger.abandon s₁.ledger := by
        intro s₁
        rw [← ledger_abandon_all]
        exact ledger_onConnection_of_line _ lease.connection fun _ => rfl
      refine .head hrelease ?_
      have hreleased : s.ledger.release leaseId lease = ((lease.ops.foldl abandon
          ({ (s.onLease leaseId fun lease => { lease with released := true, timer := false }) with
            leaseCount := s.leaseCount - 1 } : Pool)).onConnection lease.connection
          fun connection => { connection with leases := connection.leases.erase leaseId }).ledger :=
        by rw [hleft]; rfl
      rw [hreleased]
      exact effects_ledger_afterLastLease _ lease.connection

/-! ## Operations as effects -/

lemma effects_ledger_begins {opId leaseId : Nat} {kind : OpKind}
    (ht : s.begins options opId leaseId kind = some t) :
    Ledger.Effects options.channelLimit lit s.ledger t.ledger := by
  unfold begins at ht
  split at ht
  · cases ht
  · next hfresh =>
    rw [Bool.not_eq_true, Option.isSome_eq_false_iff, Option.isNone_iff_eq_none] at hfresh
    split at ht
    · cases ht
    · next lease hlease =>
      split at ht
      · cases ht
      · next connection hc =>
        split at ht
        · obtain ⟨rfl⟩ := ht
          exact .refl
        · next hopen =>
          obtain ⟨rfl⟩ := ht
          simp only [not_or, Bool.not_eq_true] at hopen
          have hline : s.ledger.lineAt lease.connection = some connection.line := by
            rw [lineAt_ledger, hc]
            rfl
          have hbegin : Ledger.Effect options.channelLimit lit s.ledger
              (s.ledger.begin options.channelLimit opId leaseId kind lease.connection
                connection.line) :=
            .begin _ opId leaseId kind lease connection.line hfresh hlease hline hopen.1
              hopen.2.2 hopen.2.1
          have hjoined : ((s.onLease leaseId fun lease =>
              { lease with ops := lease.ops ++ [opId] }).onConnection lease.connection
              fun started => { started with
                ops := started.ops ++ [opId]
                limiter := (connection.limiter.acquire options.channelLimit opId).2 }).ledger =
              (s.ledger.onLease leaseId fun lease =>
                { lease with ops := lease.ops ++ [opId] }).onLine lease.connection
                fun started => { started with
                  ops := started.ops ++ [opId]
                  limiter := (connection.limiter.acquire options.channelLimit opId).2 } :=
            ledger_onConnection _ lease.connection fun _ => rfl
          refine .single ?_
          convert hbegin using 1
          exact congrArg (fun l : Ledger => { l with
            opAt := Function.update l.opAt opId (some (Ledger.begun options.channelLimit leaseId
              kind connection.line opId)) }) hjoined

lemma effects_ledger_admits {opId : Nat} (h : Ledger.Counted options.channelLimit s.ledger)
    (ht : s.admits opId = some t) :
    Ledger.Effects options.channelLimit lit s.ledger t.ledger := by
  unfold admits at ht
  split at ht
  · cases ht
  · next op hop =>
    split at ht
    · cases ht
    · next hadmitted =>
      rw [Bool.not_eq_true, Bool.not_eq_false'] at hadmitted
      dsimp only at ht
      split at ht
      · next hsettled =>
        obtain ⟨lease, hlease⟩ := h.op_lease hop
        have hlease' : s.leaseAt op.lease = some lease := hlease
        obtain ⟨rfl⟩ := ht
        have hrefuse : Ledger.Effect options.channelLimit lit s.ledger
            (s.ledger.refuse opId lease.connection) :=
          .refuse _ opId op lease hop hadmitted hsettled hlease
        refine .single ?_
        convert hrefuse using 1
        simp only [onOp, hlease', Option.elim_some]
        exact ledger_releaseSlot _ lease.connection
      · next hsettled =>
        obtain ⟨rfl⟩ := ht
        have hgrant : Ledger.Effect options.channelLimit lit s.ledger (s.ledger.grant opId) :=
          .grant _ opId op hop hadmitted (Bool.not_eq_true _ ▸ hsettled)
        refine .single ?_
        convert hgrant using 1
        simp [onOp, ledger, Ledger.grant, Ledger.onOp, hop]

lemma effects_ledger_answers {opId : Nat} {stream : Bool} (ht : s.answers opId stream = some t) :
    Ledger.Effects options.channelLimit lit s.ledger t.ledger := by
  unfold answers at ht
  split at ht
  · cases ht
  · next op hop =>
    split at ht
    · cases ht
    · next hstate =>
      have hrequested : op.state ≠ .queued := by
        intro hqueued
        simp [hqueued] at hstate
      split at ht
      · obtain ⟨rfl⟩ := ht
        exact .refl
      · split at ht
        · obtain ⟨rfl⟩ := ht
          exact .single (.answer _ opId op hop hrequested)
        · obtain ⟨rfl⟩ := ht
          rw [ledger_finishOp]
          exact .single (.complete _ opId op hop hrequested)

lemma effects_ledger_closesStream {opId : Nat} (ht : s.closesStream opId = some t) :
    Ledger.Effects options.channelLimit lit s.ledger t.ledger := by
  unfold closesStream at ht
  split at ht
  · cases ht
  · next op hop =>
    split at ht
    · next hopened =>
      obtain ⟨rfl⟩ := ht
      rw [ledger_finishOp]
      exact .single (.finishOp _ opId op hop (by simp [hopened]))
    · cases ht

/-! ## Timers and evicts as effects -/

lemma effects_ledger_deadlines {leaseId : Nat} (ht : s.deadlines leaseId = some t) :
    Ledger.Effects options.channelLimit lit s.ledger t.ledger := by
  unfold deadlines at ht
  split at ht
  · cases ht
  · next lease hlease =>
    split at ht
    · obtain ⟨rfl⟩ := ht
      rw [ledger_expire]
      exact .single (.expire _ leaseId lease hlease)
    · cases ht

lemma effects_ledger_idles {c : Nat} (ht : s.idles c = some t) :
    Ledger.Effects options.channelLimit lit s.ledger t.ledger := by
  unfold idles at ht
  split at ht
  · cases ht
  · split at ht
    · obtain ⟨rfl⟩ := ht
      exact s.effects_ledger_shutDown c .close
    · cases ht

lemma effects_ledger_ages {c : Nat} (ht : s.ages c = some t) :
    Ledger.Effects options.channelLimit lit s.ledger t.ledger := by
  unfold ages at ht
  split at ht
  · cases ht
  · split at ht
    · obtain ⟨rfl⟩ := ht
      exact s.effects_ledger_shutDown c .destroy
    · cases ht

lemma effects_ledger_evict (s : Pool) (key : Text) :
    Ledger.Effects options.channelLimit lit s.ledger (s.evict key).ledger := by
  cases hin : s.entries key with
  | none =>
    have hsame : s.evict key = s := by simp [evict, hin]
    rw [hsame]
    exact .refl
  | some entry =>
    rw [evict_eq hin, ledger_prune]
    exact effects_ledger_shutDown_all _ (s.evicting entry)

/-! ## Runs -/

/-- The connections that the step installs are installed at the times `lit`. -/
def litBy (lit : Int → Prop) : PoolEvent → Prop
  | .lands _ _ now => lit now
  | _ => True

lemma litBy_true (e : PoolEvent) : litBy (fun _ => True) e := by
  cases e <;> trivial

/-- **Each step is a chain of effects on the ledger.** -/
lemma effects_ledger_step {e : PoolEvent} (h : Register.Coherent s.register)
    (hl : Ledger.Counted options.channelLimit s.ledger) (hlit : litBy lit e)
    (ht : (readConnections options).step s e = some t) :
    Ledger.Effects options.channelLimit lit s.ledger t.ledger := by
  cases e with
  | leases callId key identity deadlineMs now => exact effects_ledger_leases ht
  | lands opening opened now => exact effects_ledger_lands h hlit ht
  | resumes callId now => exact effects_ledger_resumes ht
  | releases leaseId => exact effects_ledger_releases ht
  | evicts key =>
    obtain ⟨rfl⟩ := ht
    exact s.effects_ledger_evict key
  | begins opId leaseId kind => exact effects_ledger_begins ht
  | admits opId => exact effects_ledger_admits hl ht
  | answers opId stream => exact effects_ledger_answers ht
  | closesStream opId => exact effects_ledger_closesStream ht
  | deadlines leaseId => exact effects_ledger_deadlines ht
  | idles connection => exact effects_ledger_idles ht
  | ages connection => exact effects_ledger_ages ht
  | changes transport state =>
    obtain ⟨rfl⟩ := ht
    exact .refl

lemma sound_emptyPool (limit : Nat) (lit : Int → Prop) :
    Ledger.Sound limit lit emptyPool.ledger where
  counted := {
    lease_line := by rintro _ _ ⟨⟩
    op_lease := by rintro _ _ ⟨⟩
    admitted_queued := by rintro _ _ ⟨⟩
    holds_requested := by rintro _ _ ⟨⟩
    waiting := by rintro _ _ ⟨⟩
    waiting_nodup := by rintro _ _ ⟨⟩
    active := by rintro _ _ ⟨⟩
    active_le := by rintro _ _ ⟨⟩
    waiting_full := by rintro _ _ ⟨⟩ }
  listed := {
    lease_ops := by rintro _ _ _ ⟨⟩
    line_ops := by rintro _ _ _ ⟨⟩
    lease_nodup := by rintro _ _ ⟨⟩
    line_nodup := by rintro _ _ ⟨⟩
    listed := by rintro _ _ _ _ ⟨⟩ }
  returned := by rintro _ _ ⟨⟩
  emptied := {
    closed := by rintro _ _ ⟨⟩
    ended := by rintro _ _ ⟨⟩ }
  timed := {
    hardTimer := by rintro _ _ ⟨⟩
    readyAt := by rintro _ _ ⟨⟩
    granted := by rintro _ _ ⟨⟩
    leaseCount := by
      refine ⟨0, rfl, ?_⟩
      rw [Nat.cast_zero, Set.encard_eq_zero, Set.eq_empty_iff_forall_notMem]
      rintro lease ⟨_, ⟨⟩, -⟩ }

/-- What holds in every run whose connections are installed at the times `lit`. -/
lemma sound_of_path {es : List PoolEvent}
    (hpath : (readConnections options).Path (fun _ e => litBy lit e) emptyPool es s) :
    Register.Coherent s.register ∧ Ledger.Sound options.channelLimit lit s.ledger := by
  refine hpath.invariant (I := fun s => Register.Coherent s.register ∧
    Ledger.Sound options.channelLimit lit s.ledger)
    ⟨coherent_emptyPool, sound_emptyPool _ lit⟩ fun t e u ht hlit hstep => ?_
  exact ⟨ht.1.effects (effects_step False ht.1 False.elim hstep),
    ht.2.effects (effects_ledger_step ht.1 ht.2.counted hlit hstep)⟩

lemma sound_of_run (h : (readConnections options).Reachable free s) :
    Register.Coherent s.register ∧ Ledger.Sound options.channelLimit (fun _ => True) s.ledger := by
  obtain ⟨s₀, es, hinit, hpath⟩ := h
  have hstart : s₀ = emptyPool := hinit
  subst hstart
  exact sound_of_path (hpath.mono fun _ e _ => litBy_true e)

lemma advances_of_path {es : List PoolEvent} (h : (readConnections options).Reachable free s)
    (hpath : (readConnections options).Path free s es t) :
    Ledger.Advances s.ledger t.ledger := by
  induction hpath with
  | refl => exact .refl s.ledger
  | snoc hp _ hstep ih =>
    obtain ⟨hinv, hsound⟩ := sound_of_run (h.path hp)
    have heffects : Ledger.Effects options.channelLimit (fun _ => True) _ _ :=
      effects_ledger_step hinv hsound.counted (litBy_true _) hstep
    exact ih.trans (hsound.advances_all heffects)

/-- What holds a slot is under way. -/
lemma underWay_of_holds {op : Nat} {o : Op} (h : Ledger.Sound options.channelLimit lit s.ledger)
    (ho : s.opAt op = some o) (hholds : o.holdsSlot = true) :
    (o.settled = true → o.state = .opened) ∧ ∃ lease connection,
      s.leaseAt o.lease = some lease ∧ s.connectionAt lease.connection = some connection ∧
      lease.released = false ∧ lease.expired = false ∧ connection.closed = false := by
  obtain ⟨lease, hlease⟩ := h.counted.op_lease ho
  obtain ⟨line, hline⟩ := h.counted.lease_line hlease
  obtain ⟨connection, hc, rfl⟩ := Option.map_eq_some_iff.1 hline
  obtain ⟨hin, hin'⟩ := h.listed.listed ho hlease hline ⟨o, ho, .inl hholds⟩
  refine ⟨fun hsettled => ?_, lease, connection, hlease, hc, ?_, ?_, ?_⟩
  · by_contra hstate
    rw [h.returned op o ho hsettled hstate] at hholds
    cases hholds
  · rw [← Bool.not_eq_true]
    intro hreleased
    rw [h.emptied.ended hlease (.inl hreleased)] at hin
    cases hin
  · rw [← Bool.not_eq_true]
    intro hexpired
    rw [h.emptied.ended hlease (.inr hexpired)] at hin
    cases hin
  · rw [← Bool.not_eq_true]
    intro hclosed
    rw [h.emptied.closed hline hclosed] at hin'
    cases hin'

/-- What was granted a slot takes it over, or gives it back if it is over already. -/
lemma admits_of_admitted {op : Nat} {o : Op} (h : Ledger.Sound options.channelLimit lit s.ledger)
    (ho : s.opAt op = some o) (hadmitted : o.admitted = true) :
    ∃ t, (readConnections options).step s (.admits op) = some t ∧
      ((∃ o', t.opAt op = some o' ∧ o'.holdsSlot = true ∧ o'.admitted = false) ∨
        t.ledger.Done op) := by
  obtain ⟨lease, hlease⟩ := h.counted.op_lease ho
  obtain ⟨line, hline⟩ := h.counted.lease_line hlease
  have hlease' : s.leaseAt o.lease = some lease := hlease
  cases hsettled : o.settled with
  | false =>
    refine ⟨(s.onOp op fun op => { op with admitted := false }).onOp op fun op =>
      { op with holdsSlot := true, state := .requested }, ?_, .inl ?_⟩
    · simp [readConnections, admits, ho, hadmitted, hsettled]
    · exact ⟨{ o with admitted := false, holdsSlot := true, state := .requested },
        by simp [onOp, ho], rfl, rfl⟩
  | true =>
    refine ⟨(s.onOp op fun op => { op with admitted := false }).releaseSlot lease.connection,
      ?_, .inr ?_⟩
    · simp [readConnections, admits, ho, hadmitted, hsettled, onOp, hlease']
    · have hover : o.state = .queued → o.settled = true := fun _ => hsettled
      have hgone : (s.ledger.freed op lease.connection).Done op :=
        h.counted.done_freed hline ho hover ho (.inl rfl)
      rw [ledger_releaseSlot]
      rw [← h.counted.refuse_eq ho hadmitted] at hgone
      exact hgone

end Pool

/-- The options of a pool whose connections have one channel. -/
def oneChannel : PoolOptions where
  hardAgeMs := 120000
  channelLimit := 1

end OpenMcc
