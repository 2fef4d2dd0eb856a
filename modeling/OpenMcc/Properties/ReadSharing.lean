import OpenMcc.Properties.ReadConnections

/-!
# Reads of one host share a connection

A lease opens a transport only where the pool holds none that it could take: no installed
connection of its identity with enough life left, and no pending opening of its identity begun
since the last evict.  It looks at the entry the map holds for its key, so what the pool holds has
to be there: `Mapped` says so, in the runs in which no lease opens at an entry it takes out of the
map (`keepsEntry`).  In other runs two reads of one host open two transports
(`reads_open_apart`).

An entry's generation moves on with the counter of the pool, and only an evict and a new entry
move that.  So a pending opening begun since the last evict of its key is still in the generation
of its entry, which is what makes it joinable.
-/

namespace OpenMcc

open TransitionSystem Register

/-! ## What the pool holds -/

namespace Pool

/-- The pool holds an installed connection of the key that a lease with this deadline may take.
A connection that a newer one has replaced only finishes its leases, and is not held. -/
def HoldsConnection (options : PoolOptions) (s : Pool) (call : LeaseCall) (now : Int) : Prop :=
  ∃ entry c connection, (s.entryAt entry).installed = some c ∧
    s.connectionAt c = some connection ∧ connection.key = call.key ∧
    s.usable c call.identity = true ∧
    now + call.deadlineMs ≤ connection.readyAt + options.hardAgeMs

/-- The pool waits for an opening of the key and the identity that began after `since` others.  An
opening that a newer one has replaced is given up when it lands, and is not held. -/
def HoldsOpening (s : Pool) (call : LeaseCall) (since : Nat) : Prop :=
  ∃ entry pending opening, (s.entryAt entry).pending = some pending ∧
    s.openingAt pending.id = some opening ∧ opening.key = call.key ∧
    sameConnectionIdentity pending.identity call.identity = true ∧ since < pending.id

/-- The call that looks for a connection in an event, and when. -/
def looks (s : Pool) : PoolEvent → Option (LeaseCall × Int)
  | .leases _ key identity deadlineMs now =>
    some ({ key := key, identity := identity, deadlineMs := deadlineMs, stage := .rejected }, now)
  | .resumes callId now => (s.calls callId).map fun call => (call, now)
  | _ => none

/-- How many openings had begun when an event evicts the key. -/
def evicted (key : Text) (s : Pool) : PoolEvent → List Nat
  | .evicts evicted => if evicted = key then [s.opens] else []
  | _ => []

end Pool

/-- How many openings had begun at the last evict of the key. -/
def openedAtEvict (options : PoolOptions) (key : Text) (es : List PoolEvent) : Nat :=
  ((readConnections options).log (Pool.evicted key) emptyPool es).getLastD 0

/-- After these events, the next one opens a transport for a lease only where the pool holds
nothing that the lease could take. -/
def OpensOnlyIfAlone (options : PoolOptions) (es : List PoolEvent) (s : Pool) (e : PoolEvent)
    (t : Pool) : Prop :=
  ∀ call now, s.looks e = some (call, now) → t.opens ≠ s.opens →
    ¬s.HoldsConnection options call now ∧
      ¬s.HoldsOpening call (openedAtEvict options call.key es)

/-! ## What a step keeps of the entries -/

/-- The entries keep their generations, nothing that was made before enters the map, and an
opening that an entry comes to wait for is of its generation. -/
structure KeepsEntries (r r' : Register) : Prop where
  grows : r.generations ≤ r'.generations
  generation : ∀ e ≤ r.generations, (r'.slotAt e).generation = (r.slotAt e).generation
  pending : ∀ e p, (r'.slotAt e).pending = some p → (r.slotAt e).pending = some p ∨
    e ≤ r'.generations ∧ p.generation = (r'.slotAt e).generation
  entries : ∀ key e, r'.entries key = some e → r.entries key = some e ∨ r.generations < e

variable {r r' r'' : Register} {mapped : Prop}

lemma KeepsEntries.refl (r : Register) : KeepsEntries r r where
  grows := Nat.le_refl _
  generation _ _ := rfl
  pending _ _ h := .inl h
  entries _ _ h := .inl h

lemma KeepsEntries.trans (h : KeepsEntries r r') (h' : KeepsEntries r' r'') :
    KeepsEntries r r'' where
  grows := Nat.le_trans h.grows h'.grows
  generation e he :=
    (h'.generation e (Nat.le_trans he h.grows)).trans (h.generation e he)
  pending e p hp := by
    obtain hold | hnew := h'.pending e p hp
    · obtain hold | ⟨hle, hsame⟩ := h.pending e p hold
      · exact .inl hold
      · exact .inr ⟨Nat.le_trans hle h'.grows, hsame.trans (h'.generation e hle).symm⟩
    · exact .inr hnew
  entries key e he := by
    obtain hold | hnew := h'.entries key e he
    · exact h.entries key e hold
    · exact .inr (Nat.lt_of_le_of_lt h.grows hnew)

/-- Where the slots keep generation and opening, and nothing enters the map. -/
lemma KeepsEntries.of_slots (hgenerations : r'.generations = r.generations)
    (hslots : ∀ e, (r'.slotAt e).generation = (r.slotAt e).generation ∧
      ((r'.slotAt e).pending = none ∨ (r'.slotAt e).pending = (r.slotAt e).pending))
    (hentries : ∀ key e, r'.entries key = some e → r.entries key = some e) :
    KeepsEntries r r' where
  grows := Nat.le_of_eq hgenerations.symm
  generation e _ := (hslots e).1
  pending e p hp := by
    obtain hnone | hsame := (hslots e).2
    · rw [hnone] at hp
      cases hp
    · exact .inl (hsame ▸ hp)
  entries key e he := .inl (hentries key e he)

/-- A slot that changes keeps its generation, and its opening if it keeps one. -/
lemma KeepsEntries.setSlot {r₁ : Register} {entry : Nat} {slot : Slot}
    (hgenerations : r₁.generations = r.generations) (hslots : r₁.slotAt = r.slotAt)
    (hentries : r₁.entries = r.entries)
    (hgeneration : slot.generation = (r.slotAt entry).generation)
    (hpending : slot.pending = none ∨ slot.pending = (r.slotAt entry).pending) :
    KeepsEntries r (r₁.setSlot entry slot) := by
  refine KeepsEntries.of_slots hgenerations (fun e => ?_) fun key e he => ?_
  · simp only [Register.setSlot, hslots]
    by_cases he : e = entry
    · subst he
      rw [Function.update_self]
      exact ⟨hgeneration, hpending⟩
    · rw [Function.update_of_ne he]
      exact ⟨rfl, .inr rfl⟩
  · exact hentries ▸ he

lemma KeepsEntries.enter (r : Register) (key : Text) : KeepsEntries r (r.enter key) where
  grows := Nat.le_succ _
  generation e he := by
    have hne : e ≠ r.generations + 1 := by omega
    simp only [Register.enter, Function.update_of_ne hne]
  pending e p hp := by
    by_cases he : e = r.generations + 1
    · subst he
      simp [Register.enter] at hp
    · simp only [Register.enter, Function.update_of_ne he] at hp
      exact .inl hp
  entries key' e he := by
    obtain ⟨-, rfl⟩ | ⟨-, hbefore⟩ := Heap.put_eq_some he
    · exact .inr (Nat.lt_succ_self _)
    · exact .inl hbefore

lemma KeepsEntries.startOpen {key : Text} {entry : Nat} {identity : ConnectionIdentity}
    (hentry : entry ≤ r.generations) : KeepsEntries r (r.startOpen key entry identity) where
  grows := Nat.le_refl _
  generation e _ := by
    by_cases he : e = entry
    · subst he
      simp [Register.startOpen, Register.setSlot]
    · simp [Register.startOpen, Register.setSlot, Function.update_of_ne he]
  pending e p hp := by
    by_cases he : e = entry
    · subst he
      simp only [Register.startOpen, Register.setSlot, Function.update_self,
        Option.some.injEq] at hp
      subst hp
      exact .inr ⟨hentry, by simp [Register.startOpen, Register.setSlot]⟩
    · simp only [Register.startOpen, Register.setSlot, Function.update_of_ne he] at hp
      exact .inl hp
  entries _ _ he := .inl he

/-- An effect that leaves the counter of the generations alone keeps the entries. -/
lemma KeepsEntries.of_effect (heffect : Effect mapped r r')
    (hgenerations : r'.generations = r.generations) : KeepsEntries r r' := by
  cases heffect with
  | enter key hnone => exact absurd hgenerations (Nat.succ_ne_self _)
  | leave key entry hin hpending hconnections =>
    refine KeepsEntries.of_slots hgenerations (fun e => ⟨rfl, .inr rfl⟩) fun key' e he => ?_
    exact (Heap.take_eq_some he).2
  | shutDown c link how hlink hopen =>
    cases how
    all_goals exact KeepsEntries.setSlot rfl rfl rfl rfl (.inr rfl)
  | retire entry => exact KeepsEntries.setSlot rfl rfl rfl rfl (.inr rfl)
  | startOpen key entry identity hentry hin => exact KeepsEntries.startOpen hentry
  | settle entry => exact KeepsEntries.setSlot rfl rfl rfl rfl (.inl rfl)
  | giveUp id opening hid hstatus hpending =>
    exact KeepsEntries.of_slots rfl (fun e => ⟨rfl, .inr rfl⟩) fun _ _ h => h
  | install id opening hid hstatus hpending hgeneration =>
    have hsettle : KeepsEntries r ((r.comesOut id opening .installed).settle opening.entry) :=
      KeepsEntries.setSlot rfl rfl rfl rfl (.inl rfl)
    exact hsettle.trans (KeepsEntries.setSlot rfl rfl rfl rfl (.inr rfl))
  | ask call identity hasked =>
    exact KeepsEntries.of_slots rfl (fun e => ⟨rfl, .inr rfl⟩) fun _ _ h => h
  | checkout call link c hlink hopen =>
    exact KeepsEntries.of_slots rfl (fun e => ⟨rfl, .inr rfl⟩) fun _ _ h => h
  | advance key entry hin => exact absurd hgenerations (Nat.succ_ne_self _)
  | begin op lease c hover =>
    exact KeepsEntries.of_slots rfl (fun e => ⟨rfl, .inr rfl⟩) fun _ _ h => h

lemma generations_le_effect (heffect : Effect mapped r r') : r.generations ≤ r'.generations := by
  cases heffect with
  | enter key hnone => exact Nat.le_succ _
  | advance key entry hin => exact Nat.le_succ _
  | shutDown c link how hlink hopen =>
    cases how
    all_goals exact Nat.le_refl _
  | _ => exact Nat.le_refl _

/-- **Effects that leave the counter of the generations alone keep the entries.** -/
lemma KeepsEntries.of_effects (heffects : Effects mapped r r')
    (hgenerations : r'.generations = r.generations) : KeepsEntries r r' := by
  have hle : ∀ {a b : Register}, Effects mapped a b → a.generations ≤ b.generations := by
    intro a b hab
    induction hab with
    | refl => exact Nat.le_refl _
    | tail _ heffect ih => exact Nat.le_trans ih (generations_le_effect heffect)
  induction heffects using Relation.ReflTransGen.head_induction_on with
  | refl => exact KeepsEntries.refl _
  | @head a b heffect hrest ih =>
    have hfirst := generations_le_effect heffect
    have hlater := hle hrest
    have hsame : b.generations = a.generations := by omega
    exact (KeepsEntries.of_effect heffect hsame).trans (ih (by omega))

/-! ## The counter of the generations -/

namespace Pool

variable {s t : Pool} {options : PoolOptions}

@[simp] lemma generations_prune (s : Pool) (key : Text) (entry : Nat) :
    (s.prune key entry).generations = s.generations := by
  unfold prune
  split
  · rfl
  · split
    · rfl
    · rfl

@[simp] lemma generations_shutDown (s : Pool) (c : Nat) (how : ShutDownHow) :
    (s.shutDown c how).generations = s.generations :=
  (s.shutDown_frame c how).2.1

@[simp] lemma generations_afterLastLease (s : Pool) (c : Nat) :
    (s.afterLastLease c).generations = s.generations := by
  unfold afterLastLease
  split
  · rfl
  · split
    · rfl
    · split
      · exact s.generations_shutDown c .destroy
      · split
        · exact s.generations_shutDown c .close
        · rfl

@[simp] lemma generations_abandon (s : Pool) (op : Nat) :
    (s.abandon op).generations = s.generations :=
  congrArg Register.generations (s.register_abandon op)

lemma generations_abandon_all (ops : List Nat) (s : Pool) :
    (ops.foldl abandon s).generations = s.generations :=
  congrArg Register.generations (register_abandon_all ops s)

lemma generations_expireOp (c : Nat) (s : Pool) (op : Nat) :
    (expireOp c s op).generations = s.generations := by
  unfold expireOp
  split
  · rfl
  · split
    · exact s.generations_abandon op
    · rw [generations_abandon]
      unfold retire
      split
      · rfl
      · rfl

lemma generations_expire (s : Pool) (leaseId : Nat) (lease : Lease) :
    (s.expire leaseId lease).generations = s.generations := by
  have hops : ∀ (ops : List Nat) (s : Pool),
      (ops.foldl (expireOp lease.connection) s).generations = s.generations := by
    intro ops
    induction ops with
    | nil => exact fun _ => rfl
    | cons op ops ih => exact fun s => (ih _).trans (generations_expireOp lease.connection s op)
  exact hops lease.ops _

lemma generations_giveUp (s : Pool) (id : Nat) (opening : Opening) :
    (s.giveUp id opening).generations = s.generations := by
  unfold giveUp
  dsimp only
  split
  · exact generations_prune ..
  · rfl

lemma generations_install (s : Pool) (id : Nat) (opening : Opening) (now : Int) :
    (s.install id opening now).generations = s.generations := by
  unfold install
  dsimp only
  split
  · rfl
  · split
    · exact generations_shutDown ..
    · exact generations_afterLastLease ..

lemma generations_lands {id : Nat} {opened : Bool} {now : Int}
    (h : s.lands id opened now = some t) : t.generations = s.generations := by
  unfold lands at h
  split at h
  · cases h
  · split at h
    · cases h
    · split at h
      · obtain ⟨rfl⟩ := h
        exact generations_install ..
      · obtain ⟨rfl⟩ := h
        exact generations_giveUp ..

lemma generations_releases {leaseId : Nat} (h : s.releases leaseId = some t) :
    t.generations = s.generations := by
  unfold releases at h
  split at h
  · cases h
  · split at h
    · obtain ⟨rfl⟩ := h
      rfl
    · obtain ⟨rfl⟩ := h
      rw [generations_afterLastLease]
      exact generations_abandon_all _ _

lemma generations_begins {opId leaseId : Nat} {kind : OpKind}
    (h : s.begins options opId leaseId kind = some t) : t.generations = s.generations := by
  unfold begins at h
  split at h
  · cases h
  · split at h
    · cases h
    · split at h
      · cases h
      · split at h
        · obtain ⟨rfl⟩ := h
          rfl
        · obtain ⟨rfl⟩ := h
          rfl

lemma generations_joinOrOpen (s : Pool) (callId : Nat) (call : LeaseCall) (entry : Nat) :
    (s.joinOrOpen callId call entry).generations = s.generations := by
  unfold joinOrOpen
  split
  · rfl
  · rfl

/-- After its entry is found or made, a turn leaves the counter alone. -/
lemma generations_turn (s : Pool) (callId : Nat) (call : LeaseCall) (now : Int) :
    (s.turn options callId call now).generations = (s.entryFor call.key).2.generations := by
  unfold turn
  dsimp only
  split
  · exact generations_joinOrOpen ..
  · split
    · exact (generations_joinOrOpen ..).trans (generations_shutDown ..)
    · split
      · rfl
      · exact generations_joinOrOpen ..

/-! ## What a step keeps of the entries -/

lemma keepsEntries_entryFor (s : Pool) (key : Text) :
    KeepsEntries s.register (s.entryFor key).2.register := by
  unfold entryFor
  split
  · exact KeepsEntries.refl _
  · have henter := KeepsEntries.enter s.register key
    convert henter using 1
    simp [register, Register.enter, Function.comp_update, Entry.slot]

lemma keepsEntries_turn {callId : Nat} {call : LeaseCall} {now : Int} (h : Coherent s.register)
    (hasked : ∀ asked, s.register.asked callId = some asked → asked = call.identity) :
    KeepsEntries s.register (s.turn options callId call now).register := by
  obtain hnone | ⟨entry, hin⟩ := (s.entries call.key).eq_none_or_eq_some
  · -- A new entry waits for nothing and has nothing installed.
    obtain ⟨heffects, hin, hcalls⟩ := entryFor_spec False s call.key
    have hentry := (h.effects heffects).entry_le hin
    have hturn : s.turn options callId call now =
        (s.entryFor call.key).2.joinOrOpen callId call (s.entryFor call.key).1 := by
      simp [turn, entryFor, hnone]
    have hasked₁ : ∀ asked, (s.entryFor call.key).2.register.asked callId = some asked →
        asked = call.identity := by
      intro asked hcall
      refine hasked asked ?_
      simpa only [register, hcalls] using hcall
    rw [hturn]
    exact (s.keepsEntries_entryFor call.key).trans
      (KeepsEntries.of_effects (effects_joinOrOpen hasked₁ hentry False.elim)
        (generations_joinOrOpen ..))
  · have hfound : (s.entryFor call.key).2 = s := by simp [entryFor, hin]
    have heffects : Effects False s.register (s.turn options callId call now).register :=
      effects_turn h hasked False.elim
    refine KeepsEntries.of_effects heffects ?_
    exact (s.generations_turn callId call now).trans (congrArg Pool.generations hfound)

lemma keepsEntries_leases {callId : Nat} {key : Text} {identity : ConnectionIdentity}
    {deadlineMs now : Int} (h : Coherent s.register)
    (ht : s.leases options callId key identity deadlineMs now = some t) :
    KeepsEntries s.register t.register := by
  have heffects : Effects False s.register t.register := effects_leases h False.elim ht
  unfold leases at ht
  split at ht
  · cases ht
  · next hfresh =>
    have hasked : ∀ asked, s.register.asked callId = some asked → asked = identity :=
      asked_of_fresh hfresh
    dsimp only at ht
    split at ht
    · obtain ⟨rfl⟩ := ht
      exact keepsEntries_turn h hasked
    · obtain ⟨rfl⟩ := ht
      exact KeepsEntries.of_effects heffects rfl

lemma keepsEntries_resumes {callId : Nat} {now : Int} (h : Coherent s.register)
    (ht : s.resumes options callId now = some t) : KeepsEntries s.register t.register := by
  have heffects : Effects False s.register t.register := effects_resumes h False.elim ht
  unfold resumes at ht
  split at ht
  · cases ht
  · next call hcall =>
    have hasked := asked_of_call hcall
    split at ht
    · split at ht
      · obtain ⟨rfl⟩ := ht
        exact KeepsEntries.of_effects heffects rfl
      · split at ht
        · obtain ⟨rfl⟩ := ht
          exact KeepsEntries.of_effects heffects rfl
        · obtain ⟨rfl⟩ := ht
          exact keepsEntries_turn h hasked
      · cases ht
    · cases ht

/-- **What is not an evict keeps the entries.** -/
lemma keepsEntries_step {e : PoolEvent} (h : Coherent s.register)
    (hevict : ∀ key, e ≠ .evicts key) (ht : (readConnections options).step s e = some t) :
    KeepsEntries s.register t.register := by
  have heffects : Effects False s.register t.register := effects_step False h False.elim ht
  cases e with
  | leases callId key identity deadlineMs now => exact keepsEntries_leases h ht
  | lands opening opened now => exact KeepsEntries.of_effects heffects (generations_lands ht)
  | resumes callId now => exact keepsEntries_resumes h ht
  | releases leaseId => exact KeepsEntries.of_effects heffects (generations_releases ht)
  | evicts key => exact absurd rfl (hevict key)
  | begins opId leaseId kind => exact KeepsEntries.of_effects heffects (generations_begins ht)
  | admits opId => exact register_admits ht ▸ KeepsEntries.refl _
  | answers opId stream => exact register_answers ht ▸ KeepsEntries.refl _
  | closesStream opId => exact register_closesStream ht ▸ KeepsEntries.refl _
  | deadlines leaseId =>
    have hdeadlines : s.deadlines leaseId = some t := ht
    unfold deadlines at hdeadlines
    split at hdeadlines
    · cases hdeadlines
    · split at hdeadlines
      · obtain ⟨rfl⟩ := hdeadlines
        exact KeepsEntries.of_effects heffects (generations_expire ..)
      · cases hdeadlines
  | idles connection =>
    have hidles : s.idles connection = some t := ht
    unfold idles at hidles
    split at hidles
    · cases hidles
    · split at hidles
      · obtain ⟨rfl⟩ := hidles
        exact KeepsEntries.of_effects heffects (generations_shutDown ..)
      · cases hidles
  | ages connection =>
    have hages : s.ages connection = some t := ht
    unfold ages at hages
    split at hages
    · cases hages
    · split at hages
      · obtain ⟨rfl⟩ := hages
        exact KeepsEntries.of_effects heffects (generations_shutDown ..)
      · cases hages
  | changes transport state =>
    obtain ⟨rfl⟩ := ht
    exact KeepsEntries.of_effects heffects rfl

/-! ## What may be joined -/

/-- What the entry of the key waits for, and began after `since` others, is of its generation. -/
def PendingJoinable (key : Text) (since : Nat) (r : Register) : Prop :=
  ∀ e p, r.entries key = some e → (r.slotAt e).pending = some p → since < p.id →
    p.generation = (r.slotAt e).generation

lemma PendingJoinable.keeps {key : Text} {since : Nat} {r r' : Register}
    (hj : PendingJoinable key since r) (h : Coherent r) (hkeeps : KeepsEntries r r') :
    PendingJoinable key since r' := by
  intro e p hin hp hsince
  obtain hold | ⟨-, hnew⟩ := hkeeps.pending e p hp
  · obtain ⟨opening, hid, hentry, -⟩ := h.pending_opening hold
    have hle : e ≤ r.generations := hentry ▸ (h.opening_le hid).2.1
    obtain hin | hlater := hkeeps.entries key e hin
    · exact (hj e p hin hold hsince).trans (hkeeps.generation e hle).symm
    · omega
  · exact hnew

lemma keepsEntries_evict {key : Text} {entry : Nat} (hin : s.entries key = some entry) :
    KeepsEntries (s.evicting entry).register (s.evict key).register := by
  have hall : ∀ (cs : List Nat) (s : Pool),
      (cs.foldl (fun s c => s.shutDown c .destroy) s).generations = s.generations := by
    intro cs
    induction cs with
    | nil => exact fun _ => rfl
    | cons c cs ih => exact fun s => (ih _).trans (s.generations_shutDown c .destroy)
  rw [evict_eq hin]
  refine KeepsEntries.of_effects ((effects_shutDown_all False _ _).trans
    (effects_prune False _ key entry)) ?_
  exact (generations_prune ..).trans (hall _ _)

/-- After an evict of the key, only openings that begin later are asked about. -/
lemma pendingJoinable_evict (h : Coherent s.register) (key : Text) :
    PendingJoinable key s.opens (s.evict key).register := by
  intro e p _ hp hsince
  have heffects : Effects False s.register (s.evict key).register := s.effects_evict key
  obtain ⟨opening, hid, -⟩ := (h.effects heffects).pending_opening hp
  rw [(s.evict_frame key).1] at hid
  have hle : p.id ≤ s.opens := (h.opening_le hid).1
  omega

/-- An evict of another key leaves the entry of the key alone. -/
lemma PendingJoinable.evict_of_ne {key key' : Text} {since : Nat}
    (hj : PendingJoinable key since s.register) (h : Coherent s.register) (hne : key' ≠ key) :
    PendingJoinable key since (s.evict key').register := by
  obtain hnone | ⟨entry, hin⟩ := (s.entries key').eq_none_or_eq_some
  · have hsame : s.evict key' = s := by simp [evict, hnone]
    rwa [hsame]
  · have hinv := h.effects (effects_evicting False hin)
    refine PendingJoinable.keeps ?_ hinv (keepsEntries_evict hin)
    intro e p hin' hp hsince
    have hother : e ≠ entry := by
      rintro rfl
      exact hne (h.entry_inj hin hin')
    rw [evicting, register_onEntry] at hp ⊢
    simp only [Register.setSlot, Function.update_of_ne hother] at hp ⊢
    exact hj e p hin' hp hsince

/-! ## Looking for a connection -/

/-- Shutting a connection down leaves what entries wait for, and begins no opening. -/
lemma shutDown_keeps_pending (s : Pool) (c : Nat) (how : ShutDownHow) :
    (s.shutDown c how).opens = s.opens ∧ ∀ e,
      ((s.shutDown c how).entryAt e).pending = (s.entryAt e).pending ∧
      ((s.shutDown c how).entryAt e).generation = (s.entryAt e).generation := by
  have hopens : ∀ s₁ : Pool, ∀ key entry, (s₁.prune key entry).opens = s₁.opens ∧
      (s₁.prune key entry).entryAt = s₁.entryAt := by
    intro s₁ key entry
    unfold prune
    split
    · exact ⟨rfl, rfl⟩
    · split
      · exact ⟨rfl, rfl⟩
      · exact ⟨rfl, rfl⟩
  obtain hnone | ⟨connection, hc⟩ := (s.connectionAt c).eq_none_or_eq_some
  · have hsame : s.shutDown c how = s := by simp [shutDown, hnone]
    rw [hsame]
    exact ⟨rfl, fun _ => ⟨rfl, rfl⟩⟩
  · by_cases hopen : connection.closed = true
    · have hsame : s.shutDown c how = s := by simp [shutDown, hc, hopen]
      rw [hsame]
      exact ⟨rfl, fun _ => ⟨rfl, rfl⟩⟩
    · rw [Bool.not_eq_true] at hopen
      obtain ⟨s₁, hs₁, heq⟩ := shutDown_eq how hc hopen
      have hslots : ∀ e, (s₁.register.slotAt e).pending = (s.register.slotAt e).pending ∧
          (s₁.register.slotAt e).generation = (s.register.slotAt e).generation := by
        intro e
        rw [hs₁, Register.shutDown, Register.closeLink, Register.setSlot]
        by_cases he : e = connection.link.entry
        · subst he
          cases how
          all_goals simp [Register.endTransport]
        · cases how
          all_goals simp [Function.update_of_ne he, Register.endTransport]
      have hopens₁ : s₁.opens = s.opens := by
        have hall := congrArg Register.opens hs₁
        cases how
        all_goals exact hall
      rw [heq, (hopens ..).1, (hopens ..).2]
      exact ⟨hopens₁, hslots⟩

/-- A call that may join what its entry waits for opens nothing. -/
lemma opens_joinOrOpen (callId : Nat) {entry : Nat} {call : LeaseCall} {p : Pending}
    (hp : (s.entryAt entry).pending = some p)
    (hgeneration : p.generation = (s.entryAt entry).generation)
    (hidentity : sameConnectionIdentity p.identity call.identity = true) :
    (s.joinOrOpen callId call entry).opens = s.opens := by
  have hjoin : s.joinable entry call.identity = some p.id := by
    simp [joinable, hp, hgeneration, hidentity]
  rw [joinOrOpen, hjoin]
  rfl

variable {call : LeaseCall} {callId since : Nat} {now : Int}

/-- **A turn takes the installed connection it may take.** -/
lemma opens_turn_of_holdsConnection (h : Coherent s.register) (hm : Mapped s.register)
    (hholds : s.HoldsConnection options call now) :
    (s.turn options callId call now).opens = s.opens := by
  obtain ⟨entry, c, connection, hinstalled, hc, hkey, husable, hlife⟩ := hholds
  obtain ⟨link, hlink, hentry, hopen⟩ := h.installed_open hinstalled
  have hlink' : link = connection.link := by
    have hsame : s.register.linkAt c = some connection.link := by simp [register, hc]
    exact Option.some.inj (hlink.symm.trans hsame)
  have hin : s.entries call.key = some entry := by
    have hmapped := hm.open_mapped hlink hopen
    rw [hentry, hlink'] at hmapped
    exact hkey ▸ hmapped
  have hturn : s.turn options callId call now = s.checkout c callId call := by
    simp [turn, entryFor, hin, hinstalled, husable, hc, hlife]
  rw [hturn]
  rfl

/-- **A turn joins the opening it may join.** -/
lemma opens_turn_of_holdsOpening (hm : Mapped s.register)
    (hj : PendingJoinable call.key since s.register) (hholds : s.HoldsOpening call since) :
    (s.turn options callId call now).opens = s.opens := by
  obtain ⟨entry, p, opening, hp, hid, hkey, hidentity, hsince⟩ := hholds
  have hin : s.entries call.key = some entry := hkey ▸ hm.pending_mapped hp hid
  have hgeneration : p.generation = (s.entryAt entry).generation := hj entry p hin hp hsince
  have hentry : s.entryFor call.key = (entry, s) := by simp [entryFor, hin]
  have hjoins := opens_joinOrOpen callId hp hgeneration hidentity
  unfold turn
  rw [hentry]
  dsimp only
  split
  · exact hjoins
  · next c _ =>
    split
    · obtain ⟨hopens, hpending⟩ := s.shutDown_keeps_pending c .destroy
      have hp₁ : ((s.shutDown c .destroy).entryAt entry).pending = some p :=
        (hpending entry).1.trans hp
      have hgeneration₁ := hgeneration.trans (hpending entry).2.symm
      exact (opens_joinOrOpen callId hp₁ hgeneration₁ hidentity).trans hopens
    · split
      · rfl
      · exact hjoins

/-- A step that opens a transport for a lease is a turn of its call. -/
lemma turn_of_opens {e : PoolEvent} (hlooks : s.looks e = some (call, now))
    (ht : (readConnections options).step s e = some t) (hopens : t.opens ≠ s.opens) :
    ∃ callId, t = s.turn options callId call now := by
  cases e with
  | leases callId key identity deadlineMs now' =>
    obtain ⟨rfl, rfl⟩ := Prod.mk.inj (Option.some.inj hlooks)
    have hleases : s.leases options callId key identity deadlineMs now' = some t := ht
    unfold leases at hleases
    split at hleases
    · cases hleases
    · dsimp only at hleases
      split at hleases
      · exact ⟨callId, (Option.some.inj hleases).symm⟩
      · obtain ⟨rfl⟩ := hleases
        exact absurd rfl hopens
  | resumes callId now' =>
    rw [looks, Option.map_eq_some_iff] at hlooks
    obtain ⟨call', hcall, heq⟩ := hlooks
    obtain ⟨rfl, rfl⟩ := Prod.mk.inj heq
    have hresumes : s.resumes options callId now' = some t := ht
    unfold resumes at hresumes
    rw [hcall] at hresumes
    dsimp only at hresumes
    split at hresumes
    · split at hresumes
      · obtain ⟨rfl⟩ := hresumes
        exact absurd rfl hopens
      · split at hresumes
        · obtain ⟨rfl⟩ := hresumes
          exact absurd rfl hopens
        · exact ⟨callId, (Option.some.inj hresumes).symm⟩
      · cases hresumes
    · cases hresumes
  | _ => cases hlooks

/-- In a run that opens nowhere outside the map, what an entry waits for since the last evict may
be joined. -/
lemma pendingJoinable_of_path {es : List PoolEvent} (key : Text)
    (hpath : (readConnections options).Path (meets (keepsEntry options)) emptyPool es s) :
    Coherent s.register ∧ Mapped s.register ∧
      PendingJoinable key (openedAtEvict options key es) s.register := by
  have hempty : PendingJoinable key 0 emptyPool.register := by
    intro e p hin
    cases hin
  refine hpath.logged (I := fun l s => Coherent s.register ∧ Mapped s.register ∧
    PendingJoinable key (l.getLastD 0) s.register)
    ⟨coherent_emptyPool, mapped_emptyPool, ?_⟩ fun l s e t ht hguard hstep => ?_
  · exact hempty
  · obtain ⟨h, hm, hj⟩ := ht
    have heffects : Effects True s.register t.register :=
      effects_step True h (fun _ => hguard) hstep
    refine ⟨h.effects heffects, hm.effects h heffects, ?_⟩
    by_cases hevict : ∃ key', e = .evicts key'
    · obtain ⟨key', rfl⟩ := hevict
      obtain rfl := Option.some.inj hstep
      by_cases hkey : key' = key
      · subst hkey
        rw [evicted, if_pos rfl, List.getLastD_concat]
        exact pendingJoinable_evict h key'
      · rw [evicted, if_neg hkey, List.append_nil]
        exact hj.evict_of_ne h hkey
    · rw [not_exists] at hevict
      have hnone : evicted key s e = [] := by
        cases e with
        | evicts key' => exact absurd rfl (hevict key')
        | _ => rfl
      rw [hnone, List.append_nil]
      exact hj.keeps h (keepsEntries_step h hevict hstep)

end Pool

/-- **Reads of one host share one connection.**  In every run in which no lease call opens at an
entry that it takes out of the map, and with any step after it, a lease opens a transport only where
the pool holds for its key neither an installed connection it could take nor a pending opening of
its identity begun since the last evict. -/
theorem opens_only_if_alone {options : PoolOptions} {s t : Pool} {es : List PoolEvent}
    {e : PoolEvent}
    (hpath : (readConnections options).Path (meets (keepsEntry options)) emptyPool es s)
    (hstep : (readConnections options).step s e = some t) :
    OpensOnlyIfAlone options es s e t := by
  intro call now hlooks hopens
  obtain ⟨h, hm, hj⟩ := Pool.pendingJoinable_of_path call.key hpath
  obtain ⟨callId, rfl⟩ := Pool.turn_of_opens hlooks hstep hopens
  constructor
  · intro hholds
    exact hopens (Pool.opens_turn_of_holdsConnection h hm hholds)
  · intro hholds
    exact hopens (Pool.opens_turn_of_holdsOpening hm hj hholds)

/-- A second host key replaces the first while its connection opens. -/
theorem opens_only_if_alone_rekeyed : ∃ s t,
    (readConnections someOptions).exec emptyPool [.leases 0 [] someHost 10000 0] = some s ∧
    (readConnections someOptions).step s
      (.leases 1 [] { someHost with sshKeyId := ['k'] } 10000 1) = some t ∧ t.opens ≠ s.opens ∧
    OpensOnlyIfAlone someOptions [.leases 0 [] someHost 10000 0] s
      (.leases 1 [] { someHost with sshKeyId := ['k'] } 10000 1) t := by
  obtain ⟨s, t, hexec, hrun, hstep, hs, ht⟩ : ∃ s t,
      (readConnections someOptions).exec emptyPool [.leases 0 [] someHost 10000 0] = some s ∧
      (readConnections someOptions).execUnder (keepsEntry someOptions) emptyPool
        [.leases 0 [] someHost 10000 0] = some s ∧
      (readConnections someOptions).step s
        (.leases 1 [] { someHost with sshKeyId := ['k'] } 10000 1) = some t ∧
      s.opens = 1 ∧ t.opens = 2 :=
    ⟨_, _, rfl, rfl, rfl, rfl, rfl⟩
  exact ⟨s, t, hexec, hstep, by omega, opens_only_if_alone (path_of_execUnder hrun) hstep⟩

/-- The installed connection drops.  The lease that finds it so opens at the entry it has taken out
of the map, and a further read of the host does not find that opening and opens another. -/
theorem reads_open_apart :
    ¬∀ es s e t, (readConnections someOptions).Path free emptyPool es s →
      (readConnections someOptions).step s e = some t → OpensOnlyIfAlone someOptions es s e t := by
  intro hclaim
  obtain ⟨s, t, opening, hrun, hstep, hs, ht, hpending, hid, hkey, hnever⟩ : ∃ s t opening,
      (readConnections someOptions).exec emptyPool
        [.leases 0 [] someHost 10000 0, .changes 1 .ready, .lands 1 true 0, .resumes 0 0,
          .releases 0, .changes 1 .failed, .leases 1 [] someHost 10000 1] = some s ∧
      (readConnections someOptions).step s (.leases 2 [] someHost 10000 2) = some t ∧
      s.opens = 2 ∧ t.opens = 3 ∧
      (s.entryAt 1).pending = some { id := 2, identity := someHost, generation := 1 } ∧
      s.openingAt 2 = some opening ∧ opening.key = [] ∧
      openedAtEvict someOptions [] [.leases 0 [] someHost 10000 0, .changes 1 .ready,
        .lands 1 true 0, .resumes 0 0, .releases 0, .changes 1 .failed,
        .leases 1 [] someHost 10000 1] = 0 :=
    ⟨_, _, _, rfl, rfl, rfl, rfl, rfl, rfl, rfl, rfl⟩
  have halone := (hclaim _ s _ t (path_of_exec hrun) hstep _ 2 rfl (by omega)).2
  apply halone
  rw [hnever]
  exact ⟨1, _, opening, hpending, hid, hkey, rfl, by decide⟩

end OpenMcc
