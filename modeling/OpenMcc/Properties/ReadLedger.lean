import OpenMcc.Construction.ReadLedger
import OpenMcc.Framework.Heap

/-!
# The invariants of the ledger

Every slot of a connection is accounted for: the limiter counts the operations that were granted
a slot or hold one, and an operation waits only while all are taken.  A slot that is given back
goes to the first operation that waits, and an operation that had one and lost it gets none again.
-/

namespace OpenMcc

namespace Ledger

variable {l l' : Ledger} {limit : Nat} {lit : Int → Prop} {opId leaseId c : Nat}

/-! ## Reading the heaps -/

lemma lineAt_onLine {f : Line → Line} {i : Nat} {line : Line} :
    (l.onLine c f).lineAt i = some line ↔
      ∃ was, l.lineAt i = some was ∧ (if i = c then f was else was) = line :=
  Heap.change_eq_some

lemma leaseAt_onLease {f : Lease → Lease} {i : Nat} {lease : Lease} :
    (l.onLease leaseId f).leaseAt i = some lease ↔
      ∃ was, l.leaseAt i = some was ∧ (if i = leaseId then f was else was) = lease :=
  Heap.change_eq_some

lemma opAt_onOp {f : Op → Op} {i : Nat} {op : Op} :
    (l.onOp opId f).opAt i = some op ↔
      ∃ was, l.opAt i = some was ∧ (if i = opId then f was else was) = op :=
  Heap.change_eq_some

/-! ## What the slots depend on -/

/-- The two ledgers have the same operations, over the same connections with the same limiters. -/
structure SameSlots (l l' : Ledger) : Prop where
  ops : l'.opAt = l.opAt
  leases : ∀ i, (l'.leaseAt i).map Lease.connection = (l.leaseAt i).map Lease.connection
  limiters : ∀ i, (l'.lineAt i).map Line.limiter = (l.lineAt i).map Line.limiter

lemma SameSlots.over (hsame : SameSlots l l') (op c : Nat) : l'.Over op c ↔ l.Over op c := by
  have hconnection : ∀ (l : Ledger) o, (∃ lease, l.leaseAt o = some lease ∧
      lease.connection = c) ↔ (l.leaseAt o).map Lease.connection = some c := by
    intro l o
    rw [Option.map_eq_some_iff]
  simp only [Over, exists_and_left, hsame.ops, hconnection, hsame.leases]

lemma SameSlots.line (hsame : SameSlots l l') {line : Line} (hline : l'.lineAt c = some line) :
    ∃ was, l.lineAt c = some was ∧ was.limiter = line.limiter := by
  rw [← Option.map_eq_some_iff, ← hsame.limiters, hline, Option.map_some]

lemma Counted.same (h : Counted limit l) (hsame : SameSlots l l') : Counted limit l' where
  lease_line {leaseId lease} hlease := by
    have hwas : (l.leaseAt leaseId).map Lease.connection = some lease.connection := by
      rw [← hsame.leases, hlease, Option.map_some]
    obtain ⟨was, hwas, hconnection⟩ := Option.map_eq_some_iff.1 hwas
    obtain ⟨line, hline⟩ := h.lease_line hwas
    have hlimiter := hsame.limiters lease.connection
    rw [← hconnection, hline, Option.map_some, hconnection] at hlimiter
    obtain ⟨line', hline', -⟩ := Option.map_eq_some_iff.1 hlimiter
    exact ⟨line', hline'⟩
  op_lease {op o} hop := by
    rw [hsame.ops] at hop
    obtain ⟨lease, hlease⟩ := h.op_lease hop
    have hconnection := hsame.leases o.lease
    rw [hlease, Option.map_some] at hconnection
    obtain ⟨lease', hlease', -⟩ := Option.map_eq_some_iff.1 hconnection
    exact ⟨lease', hlease'⟩
  admitted_queued hop := h.admitted_queued (hsame.ops ▸ hop)
  holds_requested hop := h.holds_requested (hsame.ops ▸ hop)
  waiting hline op := by
    obtain ⟨was, hwas, hlimiter⟩ := hsame.line hline
    rw [← hlimiter, h.waiting hwas, hsame.over]
    simp only [Waits, hsame.ops]
  waiting_nodup hline := by
    obtain ⟨was, hwas, hlimiter⟩ := hsame.line hline
    exact hlimiter ▸ h.waiting_nodup hwas
  active hline := by
    obtain ⟨was, hwas, hlimiter⟩ := hsame.line hline
    rw [← hlimiter, ← h.active hwas]
    simp only [hsame.over, Occupies, hsame.ops]
  active_le hline := by
    obtain ⟨was, hwas, hlimiter⟩ := hsame.line hline
    exact hlimiter ▸ h.active_le hwas
  waiting_full hline := by
    obtain ⟨was, hwas, hlimiter⟩ := hsame.line hline
    exact hlimiter ▸ h.waiting_full hwas

lemma sameSlots_onLine (l : Ledger) (c : Nat) {f : Line → Line}
    (hf : ∀ line, (f line).limiter = line.limiter) : SameSlots l (l.onLine c f) where
  ops := rfl
  leases _ := rfl
  limiters i := Heap.map_change Line.limiter l.lineAt c i hf

lemma sameSlots_onLease (l : Ledger) (leaseId : Nat) {f : Lease → Lease}
    (hf : ∀ lease, (f lease).connection = lease.connection) :
    SameSlots l (l.onLease leaseId f) where
  ops := rfl
  leases i := Heap.map_change Lease.connection l.leaseAt leaseId i hf
  limiters _ := rfl

/-! ## One operation changes -/

lemma over_onOp {f : Op → Op} (hf : ∀ op, (f op).lease = op.lease) (op c : Nat) :
    (l.onOp opId f).Over op c ↔ l.Over op c := by
  constructor
  · rintro ⟨o, lease, hop, hlease, hconnection⟩
    obtain ⟨was, hwas, rfl⟩ := opAt_onOp.1 hop
    refine ⟨was, lease, hwas, ?_, hconnection⟩
    split at hlease
    · exact hf was ▸ hlease
    · exact hlease
  · rintro ⟨o, lease, hop, hlease, hconnection⟩
    refine ⟨_, lease, opAt_onOp.2 ⟨o, hop, rfl⟩, ?_, hconnection⟩
    split
    · exact (hf o).symm ▸ hlease
    · exact hlease

lemma over_of_op {op : Nat} {o : Op} {lease : Lease} (hop : l.opAt op = some o)
    (hlease : l.leaseAt o.lease = some lease) : l.Over op lease.connection :=
  ⟨o, lease, hop, hlease, rfl⟩

/-- An operation runs over one connection. -/
lemma Over.unique {op c c' : Nat} (h : l.Over op c) (h' : l.Over op c') : c = c' := by
  obtain ⟨o, lease, hop, hlease, rfl⟩ := h
  obtain ⟨o', lease', hop', hlease', rfl⟩ := h'
  obtain rfl := Option.some.inj (hop.symm.trans hop')
  obtain rfl := Option.some.inj (hlease.symm.trans hlease')
  rfl

/-- What leaves every operation's lease, slots and wait as they are leaves the count. -/
lemma Counted.onOp (h : Counted limit l) {f : Op → Op} (hlease : ∀ op, (f op).lease = op.lease)
    (hadmitted : ∀ o, l.opAt opId = some o → (f o).admitted = true → (f o).state = .queued)
    (hholds : ∀ o, l.opAt opId = some o → (f o).holdsSlot = true → (f o).state ≠ .queued)
    (hwaits : (l.onOp opId f).Waits opId ↔ l.Waits opId)
    (hoccupies : (l.onOp opId f).Occupies opId ↔ l.Occupies opId) :
    Counted limit (l.onOp opId f) where
  lease_line := h.lease_line
  op_lease {op o} hop := by
    obtain ⟨was, hwas, rfl⟩ := opAt_onOp.1 hop
    split
    · exact hlease was ▸ h.op_lease hwas
    · exact h.op_lease hwas
  admitted_queued {op o} hop := by
    obtain ⟨was, hwas, rfl⟩ := opAt_onOp.1 hop
    split
    · next heq => exact hadmitted was (heq ▸ hwas)
    · exact h.admitted_queued hwas
  holds_requested {op o} hop := by
    obtain ⟨was, hwas, rfl⟩ := opAt_onOp.1 hop
    split
    · next heq => exact hholds was (heq ▸ hwas)
    · exact h.holds_requested hwas
  waiting hline op := by
    rw [over_onOp hlease, h.waiting hline]
    by_cases heq : op = opId
    · rw [heq, hwaits]
    · simp [Waits, Ledger.onOp, Function.update_of_ne heq]
  waiting_nodup := h.waiting_nodup
  active {c line} hline := by
    rw [← h.active hline]
    congr 1
    ext op
    simp only [Set.mem_ofPred_eq, over_onOp hlease]
    by_cases heq : op = opId
    · rw [heq, hoccupies]
    · simp [Occupies, Ledger.onOp, Function.update_of_ne heq]
  active_le := h.active_le
  waiting_full := h.waiting_full

lemma waits_onOp_iff {f : Op → Op} {o : Op} (hop : l.opAt opId = some o) :
    (l.onOp opId f).Waits opId ↔
      (f o).state = .queued ∧ (f o).settled = false ∧ (f o).admitted = false := by
  simp [Waits, Ledger.onOp, hop]

lemma occupies_onOp_iff {f : Op → Op} {o : Op} (hop : l.opAt opId = some o) :
    (l.onOp opId f).Occupies opId ↔ (f o).admitted = true ∨ (f o).holdsSlot = true := by
  simp [Occupies, Ledger.onOp, hop]

lemma waits_iff {op : Nat} {o : Op} (hop : l.opAt op = some o) :
    l.Waits op ↔ o.state = .queued ∧ o.settled = false ∧ o.admitted = false := by
  simp [Waits, hop]

lemma occupies_iff {op : Nat} {o : Op} (hop : l.opAt op = some o) :
    l.Occupies op ↔ o.admitted = true ∨ o.holdsSlot = true := by
  simp [Occupies, hop]

/-- The operation runs. -/
lemma Counted.grant (h : Counted limit l) {op : Op} (hop : l.opAt opId = some op)
    (hadmitted : op.admitted = true) : Counted limit (l.grant opId) := by
  refine h.onOp (fun _ => rfl) (fun o _ hnot => ?_) (fun o _ _ => ?_) ?_ ?_
  · cases hnot
  · exact nofun
  · rw [waits_onOp_iff hop, waits_iff hop]
    simp [hadmitted]
  · rw [occupies_onOp_iff hop, occupies_iff hop]
    simp [hadmitted]

lemma Counted.answer (h : Counted limit l) {op : Op} (hop : l.opAt opId = some op)
    (hwas : op.state ≠ .queued) : Counted limit (l.answer opId) := by
  refine h.onOp (fun _ => rfl) (fun o ho hadmitted => ?_) (fun o _ _ => nofun) ?_ ?_
  · obtain rfl := Option.some.inj (hop.symm.trans ho)
    exact absurd (h.admitted_queued hop hadmitted) hwas
  · rw [waits_onOp_iff hop, waits_iff hop]
    simp [hwas]
  · rw [occupies_onOp_iff hop, occupies_iff hop]

/-! ## An operation has its outcome -/

lemma opAt_settle {i : Nat} {op : Op} : (l.settle opId c).opAt i = some op ↔
    ∃ was, l.opAt i = some was ∧ (if i = opId then { was with settled := true } else was) = op :=
  Heap.change_eq_some

lemma lineAt_settle {i : Nat} {line : Line} : (l.settle opId c).lineAt i = some line ↔
    ∃ was, l.lineAt i = some was ∧
      (if i = c then { was with limiter := was.limiter.abort opId } else was) = line :=
  Heap.change_eq_some

lemma over_settle (op i : Nat) : (l.settle opId c).Over op i ↔ l.Over op i :=
  have hkept : ∀ op : Op, { op with settled := true }.lease = op.lease := fun _ => rfl
  over_onOp hkept op i

lemma waits_settle {op : Op} (hop : l.opAt opId = some op) (i : Nat) :
    (l.settle opId c).Waits i ↔ l.Waits i ∧ i ≠ opId := by
  by_cases heq : i = opId
  · subst heq
    simp [Waits, settle, Ledger.onOp, Ledger.onLine, hop]
  · simp [Waits, settle, Ledger.onOp, Ledger.onLine, heq]

lemma occupies_settle (i : Nat) : (l.settle opId c).Occupies i ↔ l.Occupies i := by
  by_cases heq : i = opId
  · subst heq
    cases hop : l.opAt i <;> simp [Occupies, settle, Ledger.onOp, Ledger.onLine, hop]
  · simp [Occupies, settle, Ledger.onOp, Ledger.onLine, Function.update_of_ne heq]

lemma Counted.settle (h : Counted limit l) {op : Op} {lease : Lease}
    (hop : l.opAt opId = some op) (hlease : l.leaseAt op.lease = some lease) :
    Counted limit (l.settle opId lease.connection) where
  lease_line hlease' := by
    obtain ⟨line, hline⟩ := h.lease_line hlease'
    exact ⟨_, lineAt_settle.2 ⟨line, hline, rfl⟩⟩
  op_lease ho := by
    obtain ⟨was, hwas, rfl⟩ := opAt_settle.1 ho
    have hfound := h.op_lease hwas
    split <;> exact hfound
  admitted_queued ho := by
    obtain ⟨was, hwas, rfl⟩ := opAt_settle.1 ho
    have hqueued := h.admitted_queued hwas
    split <;> exact hqueued
  holds_requested ho := by
    obtain ⟨was, hwas, rfl⟩ := opAt_settle.1 ho
    have hrequested := h.holds_requested hwas
    split <;> exact hrequested
  waiting {i line} hline j := by
    obtain ⟨was, hwas, rfl⟩ := lineAt_settle.1 hline
    have hmem := h.waiting hwas j
    rw [over_settle, waits_settle hop]
    split
    · rw [Limiter.abort, (h.waiting_nodup hwas).mem_erase_iff, hmem]
      tauto
    · next hne =>
      have hother : l.Over j i → j ≠ opId := by
        rintro hj rfl
        exact hne (hj.unique (over_of_op hop hlease))
      rw [hmem]
      tauto
  waiting_nodup hline := by
    obtain ⟨was, hwas, rfl⟩ := lineAt_settle.1 hline
    have hnodup := h.waiting_nodup hwas
    split
    · exact hnodup.erase opId
    · exact hnodup
  active hline := by
    obtain ⟨was, hwas, rfl⟩ := lineAt_settle.1 hline
    have hactive := h.active hwas
    simp only [over_settle, occupies_settle]
    split <;> exact hactive
  active_le hline := by
    obtain ⟨was, hwas, rfl⟩ := lineAt_settle.1 hline
    have hle := h.active_le hwas
    split <;> exact hle
  waiting_full hline := by
    obtain ⟨was, hwas, rfl⟩ := lineAt_settle.1 hline
    have hfull := h.waiting_full hwas
    split
    · intro hne
      refine hfull fun hnil => hne ?_
      simp [Limiter.abort, hnil]
    · exact hfull

/-! ## A slot is given back -/

lemma opAt_releaseSlot {line : Line} (hline : l.lineAt c = some line) (i : Nat) (op : Op) :
    (l.releaseSlot c).opAt i = some op ↔ ∃ was, l.opAt i = some was ∧
      (if line.limiter.release.1 = some i then { was with admitted := true } else was) = op := by
  simp only [releaseSlot, hline]
  cases line.limiter.release.1 with
  | none => simp [Ledger.onLine]
  | some next =>
    simp only [Option.some.injEq, eq_comm (a := next)]
    exact Heap.change_eq_some

lemma lineAt_releaseSlot {line : Line} (hline : l.lineAt c = some line) {i : Nat} {found : Line} :
    (l.releaseSlot c).lineAt i = some found ↔ ∃ was, l.lineAt i = some was ∧
      (if i = c then { was with limiter := line.limiter.release.2 } else was) = found := by
  simp only [releaseSlot, hline]
  cases line.limiter.release.1 <;> exact Heap.change_eq_some

lemma leaseAt_releaseSlot (l : Ledger) (c : Nat) : (l.releaseSlot c).leaseAt = l.leaseAt := by
  unfold releaseSlot
  split
  · rfl
  · dsimp only
    split <;> rfl

/-- An operation that has its slot and does not wait loses the slot. -/
def freed (l : Ledger) (opId c : Nat) : Ledger :=
  (l.onOp opId fun op => { op with admitted := false, holdsSlot := false }).releaseSlot c

lemma onOp_congr {f g : Op → Op} {op : Op} (hop : l.opAt opId = some op) (hfg : f op = g op) :
    l.onOp opId f = l.onOp opId g := by
  simp only [Ledger.onOp, hop, Option.map_some, hfg]

section

variable {op : Op} {lease : Lease} {line : Line}

lemma opAt_freed (hline : l.lineAt c = some line) {i : Nat} {o : Op} :
    (l.freed opId c).opAt i = some o ↔ ∃ was, l.opAt i = some was ∧
      (if line.limiter.release.1 = some i then
        { (if i = opId then { was with admitted := false, holdsSlot := false } else was) with
          admitted := true }
      else if i = opId then { was with admitted := false, holdsSlot := false } else was) = o := by
  have hreleased := opAt_releaseSlot (l := l.onOp opId fun op =>
    { op with admitted := false, holdsSlot := false }) hline i o
  refine hreleased.trans ⟨?_, ?_⟩
  · rintro ⟨freed, hfreed, rfl⟩
    obtain ⟨was, hwas, rfl⟩ := opAt_onOp.1 hfreed
    exact ⟨was, hwas, rfl⟩
  · rintro ⟨was, hwas, rfl⟩
    exact ⟨_, opAt_onOp.2 ⟨was, hwas, rfl⟩, rfl⟩

lemma lineAt_freed (hline : l.lineAt c = some line) {i : Nat} {found : Line} :
    (l.freed opId c).lineAt i = some found ↔ ∃ was, l.lineAt i = some was ∧
      (if i = c then { was with limiter := line.limiter.release.2 } else was) = found :=
  lineAt_releaseSlot (l := l.onOp opId _) hline

lemma over_freed (hline : l.lineAt c = some line) (i j : Nat) :
    (l.freed opId c).Over i j ↔ l.Over i j := by
  have hleases : (l.freed opId c).leaseAt = l.leaseAt := leaseAt_releaseSlot _ c
  constructor
  · rintro ⟨o, lease, ho, hlease, hconnection⟩
    obtain ⟨was, hwas, rfl⟩ := (opAt_freed hline).1 ho
    refine ⟨was, lease, hwas, ?_, hconnection⟩
    rw [hleases] at hlease
    split at hlease <;> split at hlease <;> exact hlease
  · rintro ⟨o, lease, ho, hlease, hconnection⟩
    refine ⟨_, lease, (opAt_freed hline).2 ⟨o, ho, rfl⟩, ?_, hconnection⟩
    rw [hleases]
    split <;> split <;> exact hlease

/-- The first operation that waits is not the one that gives back. -/
lemma next_waits (h : Counted limit l) (hline : l.lineAt c = some line) {next : Nat}
    (hnext : line.limiter.release.1 = some next) : l.Over next c ∧ l.Waits next := by
  refine (h.waiting hline next).1 ?_
  cases hwaiting : line.limiter.waiting with
  | nil => simp [Limiter.release, hwaiting] at hnext
  | cons first rest =>
    simp only [Limiter.release, hwaiting, Option.some.injEq] at hnext
    simp [hnext]

lemma waits_freed (hline : l.lineAt c = some line)
    (hop : l.opAt opId = some op) (hover : op.state = .queued → op.settled = true) (i : Nat) :
    (l.freed opId c).Waits i ↔ l.Waits i ∧ line.limiter.release.1 ≠ some i := by
  have hnot : ¬ l.Waits opId := by
    rw [waits_iff hop]
    grind
  constructor
  · rintro ⟨o, ho, hqueued, hsettled, hadmitted⟩
    obtain ⟨was, hwas, rfl⟩ := (opAt_freed hline).1 ho
    split at hadmitted
    · cases hadmitted
    · next hnext =>
      rw [if_neg hnext] at hqueued hsettled
      by_cases heq : i = opId
      · subst heq
        obtain rfl := Option.some.inj (hop.symm.trans hwas)
        simp only [if_true] at hqueued hsettled
        grind
      · simp only [heq, if_false] at hqueued hsettled hadmitted
        exact ⟨⟨was, hwas, hqueued, hsettled, hadmitted⟩, hnext⟩
  · rintro ⟨⟨o, ho, hqueued, hsettled, hadmitted⟩, hnext⟩
    have hne : i ≠ opId := by
      rintro rfl
      exact hnot ⟨o, ho, hqueued, hsettled, hadmitted⟩
    refine ⟨o, (opAt_freed hline).2 ⟨o, ho, ?_⟩, hqueued, hsettled, hadmitted⟩
    rw [if_neg hnext, if_neg hne]

lemma occupies_freed (h : Counted limit l) (hline : l.lineAt c = some line) (i : Nat) :
    (l.freed opId c).Occupies i ↔
      (l.Occupies i ∧ i ≠ opId) ∨ line.limiter.release.1 = some i := by
  constructor
  · rintro ⟨o, ho, hslot⟩
    obtain ⟨was, hwas, rfl⟩ := (opAt_freed hline).1 ho
    by_cases hnext : line.limiter.release.1 = some i
    · exact .inr hnext
    · rw [if_neg hnext] at hslot
      by_cases heq : i = opId
      · simp [heq] at hslot
      · rw [if_neg heq] at hslot
        exact .inl ⟨⟨was, hwas, hslot⟩, heq⟩
  · rintro (⟨⟨o, ho, hslot⟩, hne⟩ | hnext)
    · refine ⟨_, (opAt_freed hline).2 ⟨o, ho, rfl⟩, ?_⟩
      split
      · exact .inl rfl
      · exact hslot
    · obtain ⟨-, o, ho, -⟩ := next_waits h hline hnext
      refine ⟨_, (opAt_freed hline).2 ⟨o, ho, rfl⟩, ?_⟩
      rw [if_pos hnext]
      exact .inl rfl

/-- An operation that waits has no slot. -/
lemma Counted.not_occupies (h : Counted limit l) {i : Nat} (hwaits : l.Waits i) :
    ¬ l.Occupies i := by
  obtain ⟨o, ho, hqueued, -, hadmitted⟩ := hwaits
  rw [occupies_iff ho]
  rintro (hslot | hslot)
  · rw [hadmitted] at hslot
    cases hslot
  · exact h.holds_requested ho hslot hqueued

/-- The slot is handed on or free again. -/
lemma Counted.active_freed (h : Counted limit l) (hline : l.lineAt c = some line)
    (hin : l.Over opId c) (hslot : l.Occupies opId) :
    {i | (l.freed opId c).Over i c ∧ (l.freed opId c).Occupies i}.encard =
      line.limiter.release.2.active := by
  have hmem : opId ∈ {i | l.Over i c ∧ l.Occupies i} := ⟨hin, hslot⟩
  have hless : ({i | l.Over i c ∧ l.Occupies i} \ {opId}).encard =
      ((line.limiter.active - 1 : ℕ) : ℕ∞) := by
    rw [Set.encard_sdiff_singleton_of_mem hmem, h.active hline]
    norm_cast
  cases hwaiting : line.limiter.waiting with
  | nil =>
    have hnone : line.limiter.release.1 = none := by simp [Limiter.release, hwaiting]
    have hactive : line.limiter.release.2.active = line.limiter.active - 1 := by
      simp [Limiter.release, hwaiting]
    rw [hactive, ← hless]
    congr 1
    ext i
    simp only [Set.mem_ofPred_eq, over_freed hline, occupies_freed h hline, hnone,
      Set.mem_sdiff, Set.mem_singleton_iff]
    simp [and_assoc]
  | cons next rest =>
    have hnext : line.limiter.release.1 = some next := by simp [Limiter.release, hwaiting]
    have hactive : line.limiter.release.2.active = line.limiter.active - 1 + 1 := by
      simp [Limiter.release, hwaiting]
    obtain ⟨hnextOver, hnextWaits⟩ := next_waits h hline hnext
    have hnotin : next ∉ {i | l.Over i c ∧ l.Occupies i} \ {opId} :=
      fun hmem => h.not_occupies hnextWaits hmem.1.2
    rw [hactive, Nat.cast_add, ← hless, Nat.cast_one, ← Set.encard_insert_of_notMem hnotin]
    congr 1
    ext i
    simp only [Set.mem_ofPred_eq, over_freed hline, occupies_freed h hline, hnext,
      Set.mem_insert_iff, Set.mem_sdiff, Set.mem_singleton_iff, Option.some.injEq]
    constructor
    · rintro ⟨hi, ⟨hi', hne⟩ | rfl⟩
      · exact .inr ⟨⟨hi, hi'⟩, hne⟩
      · exact .inl rfl
    · rintro (rfl | ⟨⟨hi, hi'⟩, hne⟩)
      · exact ⟨hnextOver, .inr rfl⟩
      · exact ⟨hi, .inl ⟨hi', hne⟩⟩

lemma Counted.active_pos (h : Counted limit l) (hline : l.lineAt c = some line)
    (hin : l.Over opId c) (hslot : l.Occupies opId) : 0 < line.limiter.active := by
  refine Nat.pos_of_ne_zero fun hzero => ?_
  have hactive := h.active hline
  rw [hzero, Nat.cast_zero, Set.encard_eq_zero] at hactive
  have hmem : opId ∈ {i | l.Over i c ∧ l.Occupies i} := ⟨hin, hslot⟩
  simp [hactive] at hmem

lemma Counted.freed (h : Counted limit l) (hline : l.lineAt c = some line)
    (hop : l.opAt opId = some op) (hover : op.state = .queued → op.settled = true)
    (hin : l.Over opId c) (hslot : l.Occupies opId) : Counted limit (l.freed opId c) where
  lease_line hlease := by
    rw [Ledger.freed, leaseAt_releaseSlot] at hlease
    obtain ⟨was, hwas⟩ := h.lease_line hlease
    exact ⟨_, (lineAt_freed hline).2 ⟨was, hwas, rfl⟩⟩
  op_lease ho := by
    obtain ⟨was, hwas, rfl⟩ := (opAt_freed hline).1 ho
    rw [Ledger.freed, leaseAt_releaseSlot]
    have hfound := h.op_lease hwas
    split <;> split <;> exact hfound
  admitted_queued {i o} ho hadmitted := by
    obtain ⟨was, hwas, rfl⟩ := (opAt_freed hline).1 ho
    by_cases hnext : line.limiter.release.1 = some i
    · obtain ⟨-, o, ho, hqueued, -⟩ := next_waits h hline hnext
      obtain rfl := Option.some.inj (hwas.symm.trans ho)
      split <;> split <;> exact hqueued
    · rw [if_neg hnext] at hadmitted ⊢
      split at hadmitted
      · cases hadmitted
      · next hne =>
        rw [if_neg hne]
        exact h.admitted_queued hwas hadmitted
  holds_requested {i o} ho hholds := by
    obtain ⟨was, hwas, rfl⟩ := (opAt_freed hline).1 ho
    have hrequested := h.holds_requested hwas
    by_cases heq : i = opId
    · simp only [heq, if_true] at hholds
      split at hholds <;> cases hholds
    · simp only [heq, if_false] at hholds ⊢
      split at hholds <;> split <;> exact hrequested hholds
  waiting {i found} hfound j := by
    obtain ⟨was, hwas, rfl⟩ := (lineAt_freed hline).1 hfound
    rw [over_freed hline, waits_freed hline hop hover]
    have hmem := h.waiting hwas j
    by_cases heq : i = c
    · subst heq
      obtain rfl := Option.some.inj (hline.symm.trans hwas)
      have hnodup := h.waiting_nodup hline
      rw [if_pos rfl, ← and_assoc, ← hmem]
      cases hwaiting : line.limiter.waiting with
      | nil => simp [Limiter.release, hwaiting]
      | cons next rest =>
        rw [hwaiting, List.nodup_cons] at hnodup
        simp only [Limiter.release, hwaiting, List.mem_cons]
        grind
    · rw [if_neg heq, hmem]
      have hother : l.Over j i → line.limiter.release.1 ≠ some j := by
        intro hj hnext
        exact heq (hj.unique (next_waits h hline hnext).1)
      tauto
  waiting_nodup {i found} hfound := by
    obtain ⟨was, hwas, rfl⟩ := (lineAt_freed hline).1 hfound
    split
    · have hnodup := h.waiting_nodup hline
      cases hwaiting : line.limiter.waiting with
      | nil => simp [Limiter.release, hwaiting]
      | cons next rest =>
        rw [hwaiting, List.nodup_cons] at hnodup
        simpa [Limiter.release, hwaiting] using hnodup.2
    · exact h.waiting_nodup hwas
  active {i found} hfound := by
    obtain ⟨was, hwas, rfl⟩ := (lineAt_freed hline).1 hfound
    by_cases heq : i = c
    · subst heq
      rw [if_pos rfl]
      exact h.active_freed hline hin hslot
    · rw [if_neg heq, ← h.active hwas]
      congr 1
      ext j
      simp only [Set.mem_ofPred_eq, over_freed hline, occupies_freed h hline]
      refine and_congr_right fun hj => ⟨?_, fun hj' => .inl ⟨hj', ?_⟩⟩
      · rintro (⟨hj', -⟩ | hnext)
        · exact hj'
        · exact absurd (hj.unique (next_waits h hline hnext).1) heq
      · rintro rfl
        exact heq (hj.unique hin)
  active_le {i found} hfound := by
    obtain ⟨was, hwas, rfl⟩ := (lineAt_freed hline).1 hfound
    split
    · have hle := h.active_le hline
      have hfull := h.waiting_full hline
      cases hwaiting : line.limiter.waiting with
      | nil =>
        simp only [Limiter.release, hwaiting]
        omega
      | cons next rest =>
        have hpos := h.active_pos hline hin hslot
        simp only [Limiter.release, hwaiting]
        omega
    · exact h.active_le hwas
  waiting_full {i found} hfound := by
    obtain ⟨was, hwas, rfl⟩ := (lineAt_freed hline).1 hfound
    split
    · intro hne
      have hfull := h.waiting_full hline
      cases hwaiting : line.limiter.waiting with
      | nil => simp [Limiter.release, hwaiting] at hne
      | cons next rest =>
        have hpos := h.active_pos hline hin hslot
        simp only [Limiter.release, hwaiting]
        have hall : line.limiter.active = limit := hfull (by simp [hwaiting])
        omega
    · exact h.waiting_full hwas

end

/-! ## Operations that are over -/

lemma sameSlots_unlist (l : Ledger) (opId leaseId c : Nat) :
    SameSlots l (l.unlist opId leaseId c) where
  ops := rfl
  leases i := Heap.map_change Lease.connection l.leaseAt leaseId i fun _ => rfl
  limiters i := Heap.map_change Line.limiter l.lineAt c i fun _ => rfl

lemma giveUp_eq_freed {op : Op} (hop : l.opAt opId = some op) (hadmitted : op.admitted = false) :
    l.giveUp opId c = l.freed opId c := by
  rw [giveUp, freed]
  exact congrArg (fun l => releaseSlot l c) (onOp_congr hop (by rw [hadmitted]))

lemma refuse_eq_freed {op : Op} (hop : l.opAt opId = some op) (hholds : op.holdsSlot = false) :
    l.refuse opId c = l.freed opId c := by
  rw [refuse, freed]
  exact congrArg (fun l => releaseSlot l c) (onOp_congr hop (by rw [hholds]))

/-- What has begun to run was taken over from its grant. -/
lemma Counted.not_admitted (h : Counted limit l) {op : Op} (hop : l.opAt opId = some op)
    (hholds : op.holdsSlot = true) : op.admitted = false := by
  rw [← Bool.not_eq_true]
  exact fun hadmitted => h.holds_requested hop hholds (h.admitted_queued hop hadmitted)

/-- What `finishOp` does: the operation leaves the lists, and gives back the slot it holds. -/
lemma Counted.finishOp_eq (h : Counted limit l) {op : Op} (hop : l.opAt opId = some op) :
    ∃ lease line, l.leaseAt op.lease = some lease ∧ l.lineAt lease.connection = some line ∧
      l.finishOp opId = if op.holdsSlot = true
        then (l.unlist opId op.lease lease.connection).freed opId lease.connection
        else l.unlist opId op.lease lease.connection := by
  obtain ⟨lease, hlease⟩ := h.op_lease hop
  obtain ⟨line, hline⟩ := h.lease_line hlease
  refine ⟨lease, line, hlease, hline, ?_⟩
  simp only [Ledger.finishOp, hop, hlease]
  split
  · next hholds => exact giveUp_eq_freed hop (h.not_admitted hop hholds)
  · rfl

lemma Counted.finishOp (h : Counted limit l) {op : Op} (hop : l.opAt opId = some op)
    (hover : op.state = .queued → op.settled = true) : Counted limit (l.finishOp opId) := by
  obtain ⟨lease, line, hlease, hline, heq⟩ := h.finishOp_eq hop
  have hleft := h.same (sameSlots_unlist l opId op.lease lease.connection)
  rw [heq]
  split
  · next hholds =>
    have hin : (l.unlist opId op.lease lease.connection).Over opId lease.connection :=
      ((sameSlots_unlist l opId op.lease lease.connection).over opId lease.connection).2
        (over_of_op hop hlease)
    obtain ⟨line', hline'⟩ : ∃ line',
        (l.unlist opId op.lease lease.connection).lineAt lease.connection = some line' :=
      ⟨_, lineAt_onLine.2 ⟨line, hline, rfl⟩⟩
    exact hleft.freed hline' hop hover hin ⟨op, hop, .inr hholds⟩
  · exact hleft

lemma Counted.abandon (h : Counted limit l) (opId : Nat) : Counted limit (l.abandon opId) := by
  unfold Ledger.abandon
  split
  · exact h
  · next op hop =>
    split
    · exact h
    · next lease hlease =>
      have hsettled : (l.settle opId lease.connection).opAt opId =
          some { op with settled := true } := opAt_settle.2 ⟨op, hop, if_pos rfl⟩
      exact (h.settle hop hlease).finishOp hsettled fun _ => rfl

lemma Counted.abandon_all (h : Counted limit l) (ops : List Nat) :
    Counted limit (ops.foldl Ledger.abandon l) := by
  induction ops generalizing l with
  | nil => exact h
  | cons op ops ih => exact ih (h.abandon op)

/-! ## What becomes of a slot -/

/-- A slot is given back at most once: an operation that has one has it still or gets none any
more, and one that gets none any more stays so.  One that was abandoned while it waited does not
come back. -/
structure Advances (l l' : Ledger) : Prop where
  occupies : ∀ op, l.Occupies op → l'.Occupies op ∨ l'.Done op
  done : ∀ op, l.Done op → l'.Done op
  quit : ∀ op, l.Quit op → l'.Quit op

lemma Advances.refl (l : Ledger) : Advances l l where
  occupies _ := .inl
  done _ := id
  quit _ := id

lemma Advances.trans {l'' : Ledger} (h : Advances l l') (h' : Advances l' l'') :
    Advances l l'' where
  occupies op hslot := by
    obtain hslot' | hdone := h.occupies op hslot
    · exact h'.occupies op hslot'
    · exact .inr (h'.done op hdone)
  done op hdone := h'.done op (h.done op hdone)
  quit op hquit := h'.quit op (h.quit op hquit)

lemma Done.not_occupies {op : Nat} (h : l.Done op) : ¬ l.Occupies op := by
  obtain ⟨o, ho, hadmitted, hholds, -⟩ := h
  rw [occupies_iff ho, hadmitted, hholds]
  simp

/-- What leaves an operation as it is leaves its slot. -/
lemma advances_of_ops (hops : l'.opAt = l.opAt) : Advances l l' := by
  constructor
  · simp only [Occupies, Done, hops]
    exact fun op => .inl
  · simp only [Done, hops]
    exact fun op => id
  · simp only [Quit, hops]
    exact fun op => id

/-- One operation changes. -/
lemma advances_onOp {f : Op → Op}
    (hslot : ∀ o, l.opAt opId = some o → o.admitted = true ∨ o.holdsSlot = true →
      (f o).admitted = true ∨ (f o).holdsSlot = true)
    (hdone : ∀ o, l.opAt opId = some o → o.admitted = false → o.holdsSlot = false →
      (o.state = .queued → o.settled = true) → (f o).admitted = false ∧ (f o).holdsSlot = false ∧
        ((f o).state = .queued → (f o).settled = true))
    (hquit : ∀ o, l.opAt opId = some o → o.state = .queued → o.settled = true →
      (f o).state = .queued ∧ (f o).settled = true) : Advances l (l.onOp opId f) := by
  have hself : ∀ {o}, l.opAt opId = some o → (l.onOp opId f).opAt opId = some (f o) := by
    intro o ho
    exact opAt_onOp.2 ⟨o, ho, if_pos rfl⟩
  have hsame : ∀ {op o}, op ≠ opId → l.opAt op = some o → (l.onOp opId f).opAt op = some o := by
    intro op o hne ho
    exact opAt_onOp.2 ⟨o, ho, if_neg hne⟩
  constructor
  · rintro op ⟨o, ho, hslots⟩
    by_cases heq : op = opId
    · subst heq
      exact .inl ⟨f o, hself ho, hslot o ho hslots⟩
    · exact .inl ⟨o, hsame heq ho, hslots⟩
  · rintro op ⟨o, ho, hadmitted, hholds, hover⟩
    by_cases heq : op = opId
    · subst heq
      exact ⟨f o, hself ho, hdone o ho hadmitted hholds hover⟩
    · exact ⟨o, hsame heq ho, hadmitted, hholds, hover⟩
  · rintro op ⟨o, ho, hqueued, hsettled⟩
    by_cases heq : op = opId
    · subst heq
      exact ⟨f o, hself ho, hquit o ho hqueued hsettled⟩
    · exact ⟨o, hsame heq ho, hqueued, hsettled⟩

lemma advances_settled (l : Ledger) (opId : Nat) :
    Advances l (l.onOp opId fun op => { op with settled := true }) :=
  advances_onOp (fun _ _ hslot => hslot)
    (fun _ _ hadmitted hholds _ => ⟨hadmitted, hholds, fun _ => rfl⟩)
    fun _ _ hqueued _ => ⟨hqueued, rfl⟩

lemma advances_settle (l : Ledger) (opId c : Nat) : Advances l (l.settle opId c) :=
  (advances_settled l opId).trans (advances_of_ops rfl)

lemma Counted.done_freed (h : Counted limit l) {op : Op} {line : Line}
    (hline : l.lineAt c = some line) (hop : l.opAt opId = some op)
    (hover : op.state = .queued → op.settled = true) {i : Nat} {o : Op} (ho : l.opAt i = some o)
    (hgone : i = opId ∨ o.admitted = false ∧ o.holdsSlot = false ∧
      (o.state = .queued → o.settled = true)) : (l.freed opId c).Done i := by
  have hnext : line.limiter.release.1 ≠ some i := by
    intro hnext
    obtain ⟨-, hwaits⟩ := next_waits h hline hnext
    have hwait := (waits_iff ho).1 hwaits
    grind
  refine ⟨_, (opAt_freed hline).2 ⟨o, ho, rfl⟩, ?_⟩
  rw [if_neg hnext]
  grind

lemma Counted.advances_freed (h : Counted limit l) {op : Op} {line : Line}
    (hline : l.lineAt c = some line) (hop : l.opAt opId = some op)
    (hover : op.state = .queued → op.settled = true) : Advances l (l.freed opId c) := by
  constructor
  · intro i hslot
    by_cases heq : i = opId
    · exact .inr (h.done_freed hline hop hover (heq ▸ hop) (.inl heq))
    · exact .inl ((occupies_freed h hline i).2 (.inl ⟨hslot, heq⟩))
  · rintro i ⟨o, ho, hgone⟩
    exact h.done_freed hline hop hover ho (.inr hgone)
  · rintro i ⟨o, ho, hqueued, hsettled⟩
    refine ⟨_, (opAt_freed hline).2 ⟨o, ho, rfl⟩, ?_⟩
    split <;> split <;> exact ⟨hqueued, hsettled⟩

lemma Counted.advances_finishOp (h : Counted limit l) {op : Op} (hop : l.opAt opId = some op)
    (hover : op.state = .queued → op.settled = true) : Advances l (l.finishOp opId) := by
  obtain ⟨lease, line, hlease, hline, heq⟩ := h.finishOp_eq hop
  have hleft := h.same (sameSlots_unlist l opId op.lease lease.connection)
  have hunlisted : Advances l (l.unlist opId op.lease lease.connection) := advances_of_ops rfl
  rw [heq]
  split
  · obtain ⟨line', hline'⟩ : ∃ line',
        (l.unlist opId op.lease lease.connection).lineAt lease.connection = some line' :=
      ⟨_, lineAt_onLine.2 ⟨line, hline, rfl⟩⟩
    exact hunlisted.trans (hleft.advances_freed hline' hop hover)
  · exact hunlisted

lemma Counted.advances_abandon (h : Counted limit l) (opId : Nat) :
    Advances l (l.abandon opId) := by
  unfold Ledger.abandon
  split
  · exact .refl l
  · next op hop =>
    split
    · exact .refl l
    · next lease hlease =>
      have hsettled : (l.settle opId lease.connection).opAt opId =
          some { op with settled := true } := opAt_settle.2 ⟨op, hop, if_pos rfl⟩
      exact (advances_settle l opId lease.connection).trans
        ((h.settle hop hlease).advances_finishOp hsettled fun _ => rfl)

lemma Counted.advances_abandon_all (h : Counted limit l) (ops : List Nat) :
    Advances l (ops.foldl Ledger.abandon l) := by
  induction ops generalizing l with
  | nil => exact .refl l
  | cons op ops ih => exact (h.advances_abandon op).trans (ih (h.abandon op))

/-! ## Lists only shrink -/

/-- Abandoning operations changes limiters, operations and lists, and the lists only shrink. -/
structure Shrinks (l l' : Ledger) : Prop where
  leaseCount : l'.leaseCount = l.leaseCount
  stageAt : l'.stageAt = l.stageAt
  opAt : ∀ i, (l'.opAt i).map Op.lease = (l.opAt i).map Op.lease
  leaseAt : ∀ i, ∃ f : List Nat → List Nat, (∀ ops, (f ops).Sublist ops) ∧
    l'.leaseAt i = (l.leaseAt i).map fun lease => { lease with ops := f lease.ops }
  lineAt : ∀ i, ∃ (f : List Nat → List Nat) (g : Limiter → Limiter), (∀ ops, (f ops).Sublist ops) ∧
    l'.lineAt i = (l.lineAt i).map fun line =>
      { line with ops := f line.ops, limiter := g line.limiter }

lemma Shrinks.refl (l : Ledger) : Shrinks l l where
  leaseCount := rfl
  stageAt := rfl
  opAt _ := rfl
  leaseAt i := ⟨id, fun _ => .refl _, by simp⟩
  lineAt i := ⟨id, id, fun _ => .refl _, by simp⟩

lemma Shrinks.trans {l'' : Ledger} (h : Shrinks l l') (h' : Shrinks l' l'') : Shrinks l l'' where
  leaseCount := h'.leaseCount.trans h.leaseCount
  stageAt := h'.stageAt.trans h.stageAt
  opAt i := (h'.opAt i).trans (h.opAt i)
  leaseAt i := by
    obtain ⟨f, hf, heq⟩ := h.leaseAt i
    obtain ⟨f', hf', heq'⟩ := h'.leaseAt i
    refine ⟨f' ∘ f, fun ops => (hf' _).trans (hf ops), ?_⟩
    rw [heq', heq, Option.map_map]
    rfl
  lineAt i := by
    obtain ⟨f, g, hf, heq⟩ := h.lineAt i
    obtain ⟨f', g', hf', heq'⟩ := h'.lineAt i
    refine ⟨f' ∘ f, g' ∘ g, fun ops => (hf' _).trans (hf ops), ?_⟩
    rw [heq', heq, Option.map_map]
    rfl

lemma Shrinks.lease (h : Shrinks l l') {i : Nat} {lease' : Lease}
    (hlease' : l'.leaseAt i = some lease') : ∃ lease, l.leaseAt i = some lease ∧
      lease'.ops.Sublist lease.ops ∧ lease'.connection = lease.connection ∧
      lease'.released = lease.released ∧ lease'.expired = lease.expired := by
  obtain ⟨f, hf, heq⟩ := h.leaseAt i
  rw [heq] at hlease'
  obtain ⟨lease, hlease, rfl⟩ := Option.map_eq_some_iff.1 hlease'
  exact ⟨lease, hlease, hf _, rfl, rfl, rfl⟩

lemma Shrinks.line (h : Shrinks l l') {i : Nat} {line' : Line}
    (hline' : l'.lineAt i = some line') : ∃ line, l.lineAt i = some line ∧
      line'.ops.Sublist line.ops ∧ line'.closed = line.closed ∧
      line'.hardTimer = line.hardTimer ∧ line'.readyAt = line.readyAt := by
  obtain ⟨f, g, hf, heq⟩ := h.lineAt i
  rw [heq] at hline'
  obtain ⟨line, hline, rfl⟩ := Option.map_eq_some_iff.1 hline'
  exact ⟨line, hline, hf _, rfl, rfl, rfl⟩

lemma shrinks_onOp (l : Ledger) (opId : Nat) {f : Op → Op} (hf : ∀ op, (f op).lease = op.lease) :
    Shrinks l (l.onOp opId f) where
  leaseCount := rfl
  stageAt := rfl
  opAt i := Heap.map_change Op.lease l.opAt opId i hf
  leaseAt := (Shrinks.refl l).leaseAt
  lineAt := (Shrinks.refl l).lineAt

lemma shrinks_onLine (l : Ledger) (c : Nat) (f : List Nat → List Nat) (g : Limiter → Limiter)
    (hf : ∀ ops, (f ops).Sublist ops) :
    Shrinks l (l.onLine c fun line => { line with ops := f line.ops, limiter := g line.limiter })
    where
  leaseCount := rfl
  stageAt := rfl
  opAt _ := rfl
  leaseAt := (Shrinks.refl l).leaseAt
  lineAt i := by
    by_cases heq : i = c
    · subst heq
      exact ⟨f, g, hf, Function.update_self ..⟩
    · refine ⟨id, id, fun _ => .refl _, ?_⟩
      simp [Ledger.onLine, Function.update_of_ne heq]

lemma shrinks_onLease (l : Ledger) (leaseId opId : Nat) :
    Shrinks l (l.onLease leaseId fun lease => { lease with ops := lease.ops.erase opId }) where
  leaseCount := rfl
  stageAt := rfl
  opAt _ := rfl
  leaseAt i := by
    by_cases heq : i = leaseId
    · subst heq
      exact ⟨fun ops => ops.erase opId, fun _ => List.erase_sublist, Function.update_self ..⟩
    · refine ⟨id, fun _ => .refl _, ?_⟩
      simp [Ledger.onLease, Function.update_of_ne heq]
  lineAt := (Shrinks.refl l).lineAt

lemma shrinks_releaseSlot (l : Ledger) (c : Nat) : Shrinks l (l.releaseSlot c) := by
  unfold releaseSlot
  split
  · exact .refl l
  · next line hline =>
    have hlimiter : Shrinks l (l.onLine c fun started =>
        { started with limiter := line.limiter.release.2 }) :=
      shrinks_onLine l c id (fun _ => line.limiter.release.2) fun _ => .refl _
    dsimp only
    split
    · exact hlimiter
    · exact hlimiter.trans (shrinks_onOp _ _ fun _ => rfl)

lemma shrinks_unlist (l : Ledger) (opId leaseId c : Nat) :
    Shrinks l (l.unlist opId leaseId c) :=
  (shrinks_onLease l leaseId opId).trans
    (shrinks_onLine _ c (fun ops => ops.erase opId) id fun _ => List.erase_sublist)

lemma shrinks_finishOp (l : Ledger) (opId : Nat) : Shrinks l (l.finishOp opId) := by
  unfold finishOp
  split
  · exact .refl l
  · split
    · exact .refl l
    · split
      · have honOp : ∀ l : Ledger, Shrinks l (l.onOp opId fun op =>
            { op with holdsSlot := false }) := fun l => shrinks_onOp l opId fun _ => rfl
        exact (shrinks_unlist l ..).trans ((honOp _).trans (shrinks_releaseSlot _ _))
      · exact shrinks_unlist l ..

lemma shrinks_settle (l : Ledger) (opId c : Nat) : Shrinks l (l.settle opId c) := by
  have honOp : Shrinks l (l.onOp opId fun op => { op with settled := true }) :=
    shrinks_onOp l opId fun _ => rfl
  exact honOp.trans (shrinks_onLine _ c id (fun limiter => limiter.abort opId) fun _ => .refl _)

lemma shrinks_abandon (l : Ledger) (opId : Nat) : Shrinks l (l.abandon opId) := by
  unfold abandon
  split
  · exact .refl l
  · split
    · exact .refl l
    · exact (shrinks_settle l ..).trans (shrinks_finishOp _ _)

lemma shrinks_abandon_all (ops : List Nat) (l : Ledger) : Shrinks l (ops.foldl abandon l) := by
  induction ops generalizing l with
  | nil => exact .refl l
  | cons op ops ih => exact (shrinks_abandon l op).trans (ih _)

lemma Emptied.shrinks (h : Emptied l) (hshrinks : Shrinks l l') : Emptied l' where
  closed hline hclosed := by
    obtain ⟨was, hwas, hsub, hsame, -⟩ := hshrinks.line hline
    have hnil := h.closed hwas (hsame ▸ hclosed)
    rw [hnil] at hsub
    exact List.sublist_nil.1 hsub
  ended hlease hended := by
    obtain ⟨was, hwas, hsub, -, hreleased, hexpired⟩ := hshrinks.lease hlease
    have hnil := h.ended hwas (hreleased ▸ hexpired ▸ hended)
    rw [hnil] at hsub
    exact List.sublist_nil.1 hsub

lemma Shrinks.held (h : Shrinks l l') (lease : Nat) : l'.Held lease ↔ l.Held lease := by
  obtain ⟨f, -, heq⟩ := h.leaseAt lease
  simp [Held, heq]

lemma Timed.shrinks (h : Timed lit l) (hshrinks : Shrinks l l') : Timed lit l' where
  hardTimer hline := by
    obtain ⟨was, hwas, -, hclosed, htimer, -⟩ := hshrinks.line hline
    rw [hclosed, htimer]
    exact h.hardTimer hwas
  readyAt hline := by
    obtain ⟨was, hwas, -, -, -, hready⟩ := hshrinks.line hline
    exact hready ▸ h.readyAt hwas
  granted hlease := by
    obtain ⟨was, hwas, -⟩ := hshrinks.lease hlease
    exact hshrinks.stageAt ▸ h.granted hwas
  leaseCount := by
    obtain ⟨n, hn, hcard⟩ := h.leaseCount
    refine ⟨n, hshrinks.leaseCount.trans hn, ?_⟩
    simpa only [hshrinks.held] using hcard

/-! ## What lives is listed -/

lemma Shrinks.over (h : Shrinks l l') (op c : Nat) : l'.Over op c ↔ l.Over op c := by
  have hread : ∀ l : Ledger, l.Over op c ↔ ∃ leaseId, (l.opAt op).map Op.lease = some leaseId ∧
      ∃ lease, l.leaseAt leaseId = some lease ∧ lease.connection = c := by
    intro l
    constructor
    · rintro ⟨o, lease, ho, hlease, hconnection⟩
      exact ⟨o.lease, Option.map_eq_some_iff.2 ⟨o, ho, rfl⟩, lease, hlease, hconnection⟩
    · rintro ⟨leaseId, hmap, lease, hlease, hconnection⟩
      obtain ⟨o, ho, rfl⟩ := Option.map_eq_some_iff.1 hmap
      exact ⟨o, lease, ho, hlease, hconnection⟩
  rw [hread, hread, h.opAt]
  refine exists_congr fun leaseId => and_congr_right fun _ => ?_
  obtain ⟨f, -, heq⟩ := h.leaseAt leaseId
  simp [heq]

/-- The lists may lose what does not live any more. -/
lemma Listed.shrinks (h : Listed l) (hshrinks : Shrinks l l')
    (hlives : ∀ op, l'.Lives op → l.Lives op)
    (hlease : ∀ {i lease lease' op}, l.leaseAt i = some lease → l'.leaseAt i = some lease' →
      op ∈ lease.ops → l'.Lives op → op ∈ lease'.ops)
    (hline : ∀ {i line line' op}, l.lineAt i = some line → l'.lineAt i = some line' →
      op ∈ line.ops → l'.Lives op → op ∈ line'.ops) : Listed l' where
  lease_ops {i lease' op} hlease' hmem := by
    obtain ⟨was, hwas, hsub, -⟩ := hshrinks.lease hlease'
    obtain ⟨o, ho, hleaseOf⟩ := h.lease_ops hwas (hsub.subset hmem)
    have hmap := hshrinks.opAt op
    rw [ho, Option.map_some, hleaseOf] at hmap
    exact Option.map_eq_some_iff.1 hmap
  line_ops hline' hmem := by
    obtain ⟨was, hwas, hsub, -⟩ := hshrinks.line hline'
    exact (hshrinks.over _ _).2 (h.line_ops hwas (hsub.subset hmem))
  lease_nodup hlease' := by
    obtain ⟨was, hwas, hsub, -⟩ := hshrinks.lease hlease'
    exact (h.lease_nodup hwas).sublist hsub
  line_nodup hline' := by
    obtain ⟨was, hwas, hsub, -⟩ := hshrinks.line hline'
    exact (h.line_nodup hwas).sublist hsub
  listed {op o lease' line'} ho hlease' hline' hlive := by
    have hmap := hshrinks.opAt op
    rw [ho, Option.map_some] at hmap
    obtain ⟨was, hwas, hsame⟩ := Option.map_eq_some_iff.1 hmap.symm
    obtain ⟨lease, hleaseAt, -, hconnection, -⟩ := hshrinks.lease hlease'
    obtain ⟨line, hlineAt, -⟩ := hshrinks.line hline'
    obtain ⟨hin, hin'⟩ := h.listed hwas (hsame ▸ hleaseAt) (hconnection ▸ hlineAt)
      (hlives op hlive)
    exact ⟨hlease hleaseAt hlease' hin hlive, hline hlineAt hline' hin' hlive⟩

/-- A change of one operation that revives nothing. -/
lemma Listed.onOp (h : Listed l) {f : Op → Op} (hlease : ∀ op, (f op).lease = op.lease)
    (hlives : ∀ o, l.opAt opId = some o → (f o).holdsSlot = true ∨ (f o).state = .queued ∧
      (f o).settled = false → o.holdsSlot = true ∨ o.state = .queued ∧ o.settled = false) :
    Listed (l.onOp opId f) := by
  refine h.shrinks (shrinks_onOp l opId hlease) ?_ ?_ ?_
  · rintro op ⟨o, ho, hlive⟩
    obtain ⟨was, hwas, rfl⟩ := opAt_onOp.1 ho
    refine ⟨was, hwas, ?_⟩
    split at hlive
    · next heq => exact hlives was (heq ▸ hwas) hlive
    · exact hlive
  · intro i lease lease' op hlease hlease' hmem _
    obtain rfl := Option.some.inj (hlease.symm.trans hlease')
    exact hmem
  · intro i line line' op hline hline' hmem _
    obtain rfl := Option.some.inj (hline.symm.trans hline')
    exact hmem

lemma lives_freed {op : Op} {line : Line} (hline : l.lineAt c = some line)
    (hop : l.opAt opId = some op) (hover : op.state = .queued → op.settled = true) (i : Nat)
    (hlive : (l.freed opId c).Lives i) : l.Lives i ∧ i ≠ opId := by
  obtain ⟨o, ho, hslot⟩ := hlive
  obtain ⟨was, hwas, rfl⟩ := (opAt_freed hline).1 ho
  have hne : i ≠ opId := by
    rintro rfl
    obtain rfl := Option.some.inj (hop.symm.trans hwas)
    grind
  refine ⟨⟨was, hwas, ?_⟩, hne⟩
  simp only [hne, if_false] at hslot
  split at hslot <;> exact hslot

lemma shrinks_freed (l : Ledger) (opId c : Nat) : Shrinks l (l.freed opId c) := by
  have honOp : Shrinks l
      (l.onOp opId fun op => { op with admitted := false, holdsSlot := false }) :=
    shrinks_onOp l opId fun _ => rfl
  exact honOp.trans (shrinks_releaseSlot _ c)

lemma Listed.freed (h : Listed l) {op : Op} {line : Line} (hline : l.lineAt c = some line)
    (hop : l.opAt opId = some op) (hover : op.state = .queued → op.settled = true) :
    Listed (l.freed opId c) := by
  refine h.shrinks (shrinks_freed l opId c) (fun i hlive => (lives_freed hline hop hover i hlive).1)
    ?_ ?_
  · intro i lease lease' j hlease hlease' hmem _
    rw [Ledger.freed, leaseAt_releaseSlot] at hlease'
    obtain rfl := Option.some.inj (hlease.symm.trans hlease')
    exact hmem
  · intro i found found' j hfound hfound' hmem _
    obtain ⟨was, hwas, rfl⟩ := (lineAt_freed hline).1 hfound'
    obtain rfl := Option.some.inj (hfound.symm.trans hwas)
    split <;> exact hmem

lemma leaseAt_unlist {i : Nat} {lease : Lease} : (l.unlist opId leaseId c).leaseAt i = some lease ↔
    ∃ was, l.leaseAt i = some was ∧
      (if i = leaseId then { was with ops := was.ops.erase opId } else was) = lease :=
  Heap.change_eq_some

lemma lineAt_unlist {i : Nat} {line : Line} : (l.unlist opId leaseId c).lineAt i = some line ↔
    ∃ was, l.lineAt i = some was ∧
      (if i = c then { was with ops := was.ops.erase opId } else was) = line :=
  Heap.change_eq_some

lemma leaseAt_freed (l : Ledger) (opId c : Nat) : (l.freed opId c).leaseAt = l.leaseAt :=
  leaseAt_releaseSlot _ c

/-- The lists of an operation that is over: it leaves those of its lease and its connection. -/
lemma Counted.lists_finishOp (h : Counted limit l) {op : Op} (hop : l.opAt opId = some op) :
    ∃ lease line, l.leaseAt op.lease = some lease ∧ l.lineAt lease.connection = some line ∧
      (∀ {i lease'}, (l.finishOp opId).leaseAt i = some lease' → ∃ was, l.leaseAt i = some was ∧
        lease'.ops = if i = op.lease then was.ops.erase opId else was.ops) ∧
      ∀ {i line'}, (l.finishOp opId).lineAt i = some line' → ∃ was, l.lineAt i = some was ∧
        line'.ops = if i = lease.connection then was.ops.erase opId else was.ops := by
  obtain ⟨lease, line, hlease, hline, heq⟩ := h.finishOp_eq hop
  have hleases : ∀ {i lease'}, (l.unlist opId op.lease lease.connection).leaseAt i = some lease' →
      ∃ was, l.leaseAt i = some was ∧
        lease'.ops = if i = op.lease then was.ops.erase opId else was.ops := by
    intro i lease' hlease'
    obtain ⟨was, hwas, rfl⟩ := leaseAt_unlist.1 hlease'
    exact ⟨was, hwas, apply_ite Lease.ops ..⟩
  have hlines : ∀ {i line'}, (l.unlist opId op.lease lease.connection).lineAt i = some line' →
      ∃ was, l.lineAt i = some was ∧
        line'.ops = if i = lease.connection then was.ops.erase opId else was.ops := by
    intro i line' hline'
    obtain ⟨was, hwas, rfl⟩ := lineAt_unlist.1 hline'
    exact ⟨was, hwas, apply_ite Line.ops ..⟩
  refine ⟨lease, line, hlease, hline, fun hlease' => ?_, fun hline' => ?_⟩
  · rw [heq] at hlease'
    split at hlease'
    · rw [leaseAt_freed] at hlease'
      exact hleases hlease'
    · exact hleases hlease'
  · rw [heq] at hline'
    split at hline'
    · obtain ⟨line₁, hline₁⟩ : ∃ line₁,
          (l.unlist opId op.lease lease.connection).lineAt lease.connection = some line₁ :=
        ⟨_, lineAt_unlist.2 ⟨line, hline, rfl⟩⟩
      obtain ⟨was, hwas, rfl⟩ := (lineAt_freed hline₁).1 hline'
      obtain ⟨was', hwas', hops⟩ := hlines hwas
      refine ⟨was', hwas', ?_⟩
      rw [← hops]
      split <;> rfl
    · exact hlines hline'

lemma Counted.lives_finishOp (h : Counted limit l) {op : Op} (hop : l.opAt opId = some op)
    (hover : op.state = .queued → op.settled = true) {i : Nat}
    (hlive : (l.finishOp opId).Lives i) : l.Lives i ∧ i ≠ opId := by
  obtain ⟨lease, line, hlease, hline, heq⟩ := h.finishOp_eq hop
  rw [heq] at hlive
  split at hlive
  · obtain ⟨line₁, hline₁⟩ : ∃ line₁,
        (l.unlist opId op.lease lease.connection).lineAt lease.connection = some line₁ :=
      ⟨_, lineAt_unlist.2 ⟨line, hline, rfl⟩⟩
    exact lives_freed hline₁ hop hover i hlive
  · next hholds =>
    refine ⟨hlive, ?_⟩
    rintro rfl
    obtain ⟨o, ho, hslot⟩ := hlive
    obtain rfl := Option.some.inj (hop.symm.trans ho)
    grind

lemma Listed.finishOp (hl : Listed l) (h : Counted limit l) {op : Op}
    (hop : l.opAt opId = some op) (hover : op.state = .queued → op.settled = true) :
    Listed (l.finishOp opId) := by
  obtain ⟨lease, line, -, -, hleases, hlines⟩ := h.lists_finishOp hop
  refine hl.shrinks (shrinks_finishOp l opId)
    (fun i hlive => (h.lives_finishOp hop hover hlive).1) ?_ ?_
  · intro i was lease' j hwas hlease' hmem hlive
    obtain ⟨was', hwas', hops⟩ := hleases hlease'
    obtain rfl := Option.some.inj (hwas.symm.trans hwas')
    have hne := (h.lives_finishOp hop hover hlive).2
    rw [hops]
    split
    · exact (List.mem_erase_of_ne hne).2 hmem
    · exact hmem
  · intro i was line' j hwas hline' hmem hlive
    obtain ⟨was', hwas', hops⟩ := hlines hline'
    obtain rfl := Option.some.inj (hwas.symm.trans hwas')
    have hne := (h.lives_finishOp hop hover hlive).2
    rw [hops]
    split
    · exact (List.mem_erase_of_ne hne).2 hmem
    · exact hmem

/-- An operation that is over is in no list. -/
lemma Listed.unlisted_finishOp (hl : Listed l) (h : Counted limit l) {op : Op}
    (hop : l.opAt opId = some op) :
    (∀ {i lease}, (l.finishOp opId).leaseAt i = some lease → opId ∉ lease.ops) ∧
      ∀ {i line}, (l.finishOp opId).lineAt i = some line → opId ∉ line.ops := by
  obtain ⟨lease, line, hlease, hline, hleases, hlines⟩ := h.lists_finishOp hop
  refine ⟨fun {i lease'} hlease' hmem => ?_, fun {i line'} hline' hmem => ?_⟩
  · obtain ⟨was, hwas, hops⟩ := hleases hlease'
    rw [hops] at hmem
    split at hmem
    · exact (hl.lease_nodup hwas).not_mem_erase hmem
    · next hne =>
      obtain ⟨o, ho, rfl⟩ := hl.lease_ops hwas hmem
      obtain rfl := Option.some.inj (hop.symm.trans ho)
      exact hne rfl
  · obtain ⟨was, hwas, hops⟩ := hlines hline'
    rw [hops] at hmem
    split at hmem
    · exact (hl.line_nodup hwas).not_mem_erase hmem
    · next hne => exact hne ((hl.line_ops hwas hmem).unique (over_of_op hop hlease))

lemma Listed.settle (hl : Listed l) (opId c : Nat) : Listed (l.settle opId c) := by
  refine hl.shrinks (shrinks_settle l opId c) ?_ ?_ ?_
  · rintro op ⟨o, ho, hlive⟩
    obtain ⟨was, hwas, rfl⟩ := opAt_settle.1 ho
    refine ⟨was, hwas, ?_⟩
    split at hlive
    · exact hlive.imp_right fun hlive => absurd hlive.2 (by simp)
    · exact hlive
  · intro i lease lease' op hlease hlease' hmem _
    obtain rfl := Option.some.inj (hlease.symm.trans hlease')
    exact hmem
  · intro i line line' op hline hline' hmem _
    obtain ⟨was, hwas, rfl⟩ := lineAt_settle.1 hline'
    obtain rfl := Option.some.inj (hline.symm.trans hwas)
    split <;> exact hmem

/-- An abandoned operation is in no list, and what lives is listed as before. -/
lemma Listed.abandon (hl : Listed l) (h : Counted limit l) (opId : Nat) :
    Listed (l.abandon opId) ∧
      (∀ {i lease}, (l.abandon opId).leaseAt i = some lease → opId ∉ lease.ops) ∧
      ∀ {i line}, (l.abandon opId).lineAt i = some line → opId ∉ line.ops := by
  cases hop : l.opAt opId with
  | none =>
    have hsame : l.abandon opId = l := by simp [Ledger.abandon, hop]
    rw [hsame]
    refine ⟨hl, fun hlease hmem => ?_, fun hline hmem => ?_⟩
    · obtain ⟨o, ho, -⟩ := hl.lease_ops hlease hmem
      rw [hop] at ho
      cases ho
    · obtain ⟨o, -, ho, -⟩ := hl.line_ops hline hmem
      rw [hop] at ho
      cases ho
  | some op =>
    obtain ⟨lease, hlease⟩ := h.op_lease hop
    have hsame : l.abandon opId = (l.settle opId lease.connection).finishOp opId := by
      simp [Ledger.abandon, hop, hlease]
    have hsettled : (l.settle opId lease.connection).opAt opId =
        some { op with settled := true } := opAt_settle.2 ⟨op, hop, if_pos rfl⟩
    have hcounted := h.settle hop hlease
    rw [hsame]
    exact ⟨(hl.settle opId lease.connection).finishOp hcounted hsettled fun _ => rfl,
      (hl.settle opId lease.connection).unlisted_finishOp hcounted hsettled⟩

/-- Operations that are abandoned one after another are in no list in the end. -/
lemma Listed.abandon_all (hl : Listed l) (h : Counted limit l) (ops : List Nat) :
    Listed (ops.foldl Ledger.abandon l) ∧ ∀ op ∈ ops,
      (∀ {i lease}, (ops.foldl Ledger.abandon l).leaseAt i = some lease → op ∉ lease.ops) ∧
      ∀ {i line}, (ops.foldl Ledger.abandon l).lineAt i = some line → op ∉ line.ops := by
  induction ops generalizing l with
  | nil => exact ⟨hl, nofun⟩
  | cons first rest ih =>
    obtain ⟨hfirst, hleases, hlines⟩ := hl.abandon h first
    obtain ⟨hrest, hgone⟩ := ih hfirst (h.abandon first)
    refine ⟨hrest, fun op hmem => ?_⟩
    obtain rfl | hmem := List.mem_cons.1 hmem
    · refine ⟨fun hlease => ?_, fun hline => ?_⟩
      · obtain ⟨was, hwas, hsub, -⟩ := (shrinks_abandon_all rest (l.abandon op)).lease hlease
        exact fun hin => hleases hwas (hsub.subset hin)
      · obtain ⟨was, hwas, hsub, -⟩ := (shrinks_abandon_all rest (l.abandon op)).line hline
        exact fun hin => hlines hwas (hsub.subset hin)
    · exact hgone op hmem

/-! ## What is over holds no slot -/

lemma Counted.opAt_finishOp (h : Counted limit l) {op : Op} (hop : l.opAt opId = some op) {i : Nat}
    {o : Op} (ho : (l.finishOp opId).opAt i = some o) : ∃ was, l.opAt i = some was ∧
      o.settled = was.settled ∧ o.state = was.state ∧
      (o.holdsSlot = true → was.holdsSlot = true ∧ i ≠ opId) := by
  obtain ⟨lease, line, hlease, hline, heq⟩ := h.finishOp_eq hop
  rw [heq] at ho
  split at ho
  · obtain ⟨line₁, hline₁⟩ : ∃ line₁,
        (l.unlist opId op.lease lease.connection).lineAt lease.connection = some line₁ :=
      ⟨_, lineAt_unlist.2 ⟨line, hline, rfl⟩⟩
    obtain ⟨was, hwas, rfl⟩ := (opAt_freed hline₁).1 ho
    refine ⟨was, hwas, ?_, ?_, fun hholds => ?_⟩
    · split <;> split <;> rfl
    · split <;> split <;> rfl
    · by_cases hne : i = opId
      · simp only [hne, if_true] at hholds
        split at hholds <;> cases hholds
      · simp only [hne, if_false] at hholds
        split at hholds <;> exact ⟨hholds, hne⟩
  · next hnot =>
    refine ⟨o, ho, rfl, rfl, fun hholds => ⟨hholds, ?_⟩⟩
    rintro rfl
    obtain rfl := Option.some.inj (hop.symm.trans ho)
    exact hnot hholds

lemma Returned.finishOp (hr : Returned l) (h : Counted limit l) {op : Op}
    (hop : l.opAt opId = some op) : Returned (l.finishOp opId) := by
  intro i o ho hsettled hstate
  obtain ⟨was, hwas, heq, heq', hholds⟩ := h.opAt_finishOp hop ho
  have hnot := hr i was hwas (heq ▸ hsettled) (heq' ▸ hstate)
  grind

/-- What is over from here on gives its slot back here. -/
lemma Returned.complete (hr : Returned l) {l₁ : Ledger} (h : Counted limit l₁) {op : Op}
    (hop : l₁.opAt opId = some op) (hothers : ∀ i, i ≠ opId → l₁.opAt i = l.opAt i) :
    Returned (l₁.finishOp opId) := by
  intro i o ho hsettled hstate
  obtain ⟨was, hwas, heq, heq', hholds⟩ := h.opAt_finishOp hop ho
  by_cases hne : i = opId
  · grind
  · rw [hothers i hne] at hwas
    have hnot := hr i was hwas (heq ▸ hsettled) (heq' ▸ hstate)
    grind

lemma Returned.abandon (hr : Returned l) (h : Counted limit l) (opId : Nat) :
    Returned (l.abandon opId) := by
  unfold Ledger.abandon
  split
  · exact hr
  · next op hop =>
    split
    · exact hr
    · next lease hlease =>
      have hsettled : (l.settle opId lease.connection).opAt opId =
          some { op with settled := true } := opAt_settle.2 ⟨op, hop, if_pos rfl⟩
      exact hr.complete (h.settle hop hlease) hsettled fun i hne => Function.update_of_ne hne ..

lemma Returned.abandon_all (hr : Returned l) (h : Counted limit l) (ops : List Nat) :
    Returned (ops.foldl Ledger.abandon l) := by
  induction ops generalizing l with
  | nil => exact hr
  | cons op ops ih => exact ih (hr.abandon h op) (h.abandon op)

lemma Returned.freed (hr : Returned l) {line : Line} (hline : l.lineAt c = some line) :
    Returned (l.freed opId c) := by
  intro i o ho hsettled hstate
  obtain ⟨was, hwas, rfl⟩ := (opAt_freed hline).1 ho
  have hnot := hr i was hwas
  grind

/-! ## Closing, releasing and expiring -/

lemma Listed.same (h : Listed l) (hops : l'.opAt = l.opAt)
    (hleases : ∀ i, (l'.leaseAt i).map (fun lease => (lease.connection, lease.ops)) =
      (l.leaseAt i).map fun lease => (lease.connection, lease.ops))
    (hlines : ∀ i, (l'.lineAt i).map Line.ops = (l.lineAt i).map Line.ops) : Listed l' := by
  have hlease : ∀ {i lease}, l'.leaseAt i = some lease → ∃ was, l.leaseAt i = some was ∧
      was.connection = lease.connection ∧ was.ops = lease.ops := by
    intro i lease hlease
    have hread := hleases i
    rw [hlease, Option.map_some] at hread
    obtain ⟨was, hwas, heq⟩ := Option.map_eq_some_iff.1 hread.symm
    exact ⟨was, hwas, congrArg Prod.fst heq, congrArg Prod.snd heq⟩
  have hline : ∀ {i line}, l'.lineAt i = some line → ∃ was, l.lineAt i = some was ∧
      was.ops = line.ops := by
    intro i line hline
    have hread := hlines i
    rw [hline, Option.map_some] at hread
    exact Option.map_eq_some_iff.1 hread.symm
  have hover : ∀ op c, l.Over op c → l'.Over op c := by
    rintro op c ⟨o, lease, ho, hleaseAt, hconnection⟩
    have hread := hleases o.lease
    rw [hleaseAt, Option.map_some] at hread
    obtain ⟨lease', hlease', heq⟩ := Option.map_eq_some_iff.1 hread
    exact ⟨o, lease', hops ▸ ho, hlease', (congrArg Prod.fst heq).trans hconnection⟩
  exact {
    lease_ops := by
      intro i lease op hlease' hmem
      obtain ⟨was, hwas, -, heq⟩ := hlease hlease'
      exact hops ▸ h.lease_ops hwas (heq ▸ hmem)
    line_ops := by
      intro i line op hline' hmem
      obtain ⟨was, hwas, heq⟩ := hline hline'
      exact hover _ _ (h.line_ops hwas (heq ▸ hmem))
    lease_nodup := by
      intro i lease hlease'
      obtain ⟨was, hwas, -, heq⟩ := hlease hlease'
      exact heq ▸ h.lease_nodup hwas
    line_nodup := by
      intro i line hline'
      obtain ⟨was, hwas, heq⟩ := hline hline'
      exact heq ▸ h.line_nodup hwas
    listed := by
      intro op o lease line ho hlease' hline' hlive
      obtain ⟨was, hwas, hconnection, heq⟩ := hlease hlease'
      obtain ⟨was', hwas', heq'⟩ := hline hline'
      have hlive' : l.Lives op := by
        simpa only [Lives, hops] using hlive
      rw [← heq, ← heq']
      exact h.listed (hops ▸ ho) hwas (hconnection ▸ hwas') hlive' }

lemma eq_nil_of_sublist {xs ys : List Nat} (hsub : xs.Sublist ys) (hgone : ∀ x ∈ ys, x ∉ xs) :
    xs = [] := by
  rw [List.eq_nil_iff_forall_not_mem]
  exact fun x hmem => hgone x (hsub.subset hmem) hmem

/-- A connection is closed, and its operations are not abandoned yet. -/
def closing (l : Ledger) (c : Nat) : Ledger :=
  l.onLine c fun line => { line with closed := true, hardTimer := false }

lemma close_eq (l : Ledger) (c : Nat) (line : Line) :
    l.close c line = line.ops.foldl Ledger.abandon (l.closing c) := rfl

lemma Sound.closing (h : Sound limit lit l) (c : Nat) :
    Counted limit (l.closing c) ∧ Listed (l.closing c) ∧ Timed lit (l.closing c) := by
  refine ⟨h.counted.same (sameSlots_onLine l c fun _ => rfl),
    h.listed.same rfl (fun _ => rfl) fun i => Heap.map_change Line.ops l.lineAt c i fun _ => rfl, ?_⟩
  exact {
    hardTimer := by
      intro i line hline
      obtain ⟨was, hwas, rfl⟩ := lineAt_onLine.1 hline
      split
      · rfl
      · exact h.timed.hardTimer hwas
    readyAt := by
      intro i line hline
      obtain ⟨was, hwas, rfl⟩ := lineAt_onLine.1 hline
      have hlit := h.timed.readyAt hwas
      split <;> exact hlit
    granted := h.timed.granted
    leaseCount := h.timed.leaseCount }

lemma Sound.close (h : Sound limit lit l) {line : Line} (hline : l.lineAt c = some line) :
    Sound limit lit (l.close c line) := by
  obtain ⟨hcounted, hlisted, htimed⟩ := h.closing c
  obtain ⟨hlisted', hgone⟩ := hlisted.abandon_all hcounted line.ops
  have hshrinks := shrinks_abandon_all line.ops (l.closing c)
  rw [close_eq]
  refine ⟨hcounted.abandon_all line.ops, hlisted',
    Returned.abandon_all (l := l.closing c) h.returned hcounted line.ops,
    ⟨fun {i line'} hline' hclosed => ?_,
    fun hlease hended => ?_⟩, htimed.shrinks hshrinks⟩
  · obtain ⟨shut, hshut, hsub, hsame, -⟩ := hshrinks.line hline'
    obtain ⟨was, hwas, rfl⟩ := lineAt_onLine.1 hshut
    by_cases heq : i = c
    · subst heq
      obtain rfl := Option.some.inj (hline.symm.trans hwas)
      rw [if_pos rfl] at hsub
      exact eq_nil_of_sublist hsub fun op hmem => (hgone op hmem).2 hline'
    · rw [if_neg heq] at hsub hsame
      have hnil := h.emptied.closed hwas (hsame ▸ hclosed)
      rw [hnil] at hsub
      exact List.sublist_nil.1 hsub
  · obtain ⟨was, hwas, hsub, -, hreleased, hexpired⟩ := hshrinks.lease hlease
    have hnil := h.emptied.ended hwas (hreleased ▸ hexpired ▸ hended)
    rw [hnil] at hsub
    exact List.sublist_nil.1 hsub

/-- The operations of a lease that ends are abandoned. -/
lemma Sound.ends (h : Sound limit lit l) {lease : Lease} {f : Lease → Lease}
    (hlease : l.leaseAt leaseId = some lease) (hconnection : ∀ lease, (f lease).connection =
      lease.connection) (hops : ∀ lease, (f lease).ops = lease.ops)
    (hlines : l'.lineAt = l.lineAt) (hopAt : l'.opAt = l.opAt)
    (hleases : l'.leaseAt = (l.onLease leaseId f).leaseAt) (htimed : Timed lit l') :
    Sound limit lit (lease.ops.foldl Ledger.abandon l') := by
  have hcounted : Counted limit l' := by
    refine h.counted.same ⟨hopAt, fun i => ?_, fun i => by rw [hlines]⟩
    rw [hleases]
    exact Heap.map_change Lease.connection l.leaseAt leaseId i hconnection
  have hlisted : Listed l' := by
    refine h.listed.same hopAt (fun i => ?_) fun i => by rw [hlines]
    rw [hleases]
    exact Heap.map_change (fun lease => (lease.connection, lease.ops)) l.leaseAt leaseId i fun lease =>
      Prod.ext (hconnection lease) (hops lease)
  obtain ⟨hlisted', hgone⟩ := hlisted.abandon_all hcounted lease.ops
  have hshrinks := shrinks_abandon_all lease.ops l'
  have hreturned : Returned l' := by
    intro op o ho
    exact h.returned op o (hopAt ▸ ho)
  refine ⟨hcounted.abandon_all lease.ops, hlisted', hreturned.abandon_all hcounted lease.ops,
    ⟨fun hline hclosed => ?_,
    fun {i lease'} hlease' hended => ?_⟩, htimed.shrinks hshrinks⟩
  · obtain ⟨was, hwas, hsub, hsame, -⟩ := hshrinks.line hline
    have hnil := h.emptied.closed (hlines ▸ hwas) (hsame ▸ hclosed)
    rw [hnil] at hsub
    exact List.sublist_nil.1 hsub
  · obtain ⟨shut, hshut, hsub, -, hreleased, hexpired⟩ := hshrinks.lease hlease'
    rw [hleases] at hshut
    obtain ⟨was, hwas, rfl⟩ := leaseAt_onLease.1 hshut
    by_cases heq : i = leaseId
    · subst heq
      obtain rfl := Option.some.inj (hlease.symm.trans hwas)
      rw [if_pos rfl, hops] at hsub
      exact eq_nil_of_sublist hsub fun op hmem => (hgone op hmem).1 hlease'
    · rw [if_neg heq] at hsub hreleased hexpired
      have hnil := h.emptied.ended hwas (hreleased ▸ hexpired ▸ hended)
      rw [hnil] at hsub
      exact List.sublist_nil.1 hsub

lemma Sound.expire (h : Sound limit lit l) {lease : Lease}
    (hlease : l.leaseAt leaseId = some lease) : Sound limit lit (l.expire leaseId lease) := by
  refine h.ends (f := fun lease => { lease with expired := true, timer := false }) hlease
    (fun _ => rfl) (fun _ => rfl) rfl rfl rfl ?_
  exact {
    hardTimer := h.timed.hardTimer
    readyAt := h.timed.readyAt
    granted := by
      intro i lease' hlease'
      obtain ⟨was, hwas, -⟩ := leaseAt_onLease.1 hlease'
      exact h.timed.granted hwas
    leaseCount := by
      obtain ⟨n, hn, hcard⟩ := h.timed.leaseCount
      refine ⟨n, hn, hcard ▸ congrArg Set.encard (Set.ext fun i => ?_)⟩
      constructor
      · rintro ⟨lease', hlease', hreleased⟩
        obtain ⟨was, hwas, rfl⟩ := leaseAt_onLease.1 hlease'
        refine ⟨was, hwas, ?_⟩
        split at hreleased <;> exact hreleased
      · rintro ⟨was, hwas, hreleased⟩
        refine ⟨_, leaseAt_onLease.2 ⟨was, hwas, rfl⟩, ?_⟩
        split <;> exact hreleased }

lemma Sound.release (h : Sound limit lit l) {lease : Lease}
    (hlease : l.leaseAt leaseId = some lease) (hheld : lease.released = false) :
    Sound limit lit (l.release leaseId lease) := by
  refine h.ends (f := fun lease => { lease with released := true, timer := false }) hlease
    (fun _ => rfl) (fun _ => rfl) rfl rfl rfl ?_
  exact {
    hardTimer := h.timed.hardTimer
    readyAt := h.timed.readyAt
    granted := by
      intro i lease' hlease'
      obtain ⟨was, hwas, -⟩ := leaseAt_onLease.1 hlease'
      exact h.timed.granted hwas
    leaseCount := by
      obtain ⟨n, hn, hcard⟩ := h.timed.leaseCount
      have hin : leaseId ∈ {lease | l.Held lease} := ⟨lease, hlease, hheld⟩
      have hpos : n ≠ 0 := by
        rintro rfl
        rw [Nat.cast_zero, Set.encard_eq_zero] at hcard
        simp [hcard] at hin
      refine ⟨n - 1, ?_, ?_⟩
      · have hcount : l.leaseCount - 1 = ((n - 1 : ℕ) : ℤ) := by omega
        exact hcount
      · have hless : ({lease | l.Held lease} \ {leaseId}).encard = ((n - 1 : ℕ) : ℕ∞) := by
          rw [Set.encard_sdiff_singleton_of_mem hin, hcard]
          norm_cast
        refine hless ▸ congrArg Set.encard (Set.ext fun i => ?_)
        constructor
        · rintro ⟨lease', hlease', hreleased⟩
          obtain ⟨was, hwas, rfl⟩ := leaseAt_onLease.1 hlease'
          split at hreleased
          · cases hreleased
          · next hne => exact ⟨⟨was, hwas, hreleased⟩, hne⟩
        · rintro ⟨⟨was, hwas, hreleased⟩, hne⟩
          refine ⟨_, leaseAt_onLease.2 ⟨was, hwas, rfl⟩, ?_⟩
          have hother : i ≠ leaseId := hne
          rw [if_neg hother]
          exact hreleased }

/-! ## Connections, leases and operations that are new -/

lemma lineAt_connect {readyAt : Int} {i : Nat} {line : Line}
    (hline : (l.connect c readyAt).lineAt i = some line) :
    l.lineAt i = some line ∨ i = c ∧ line = {
      limiter := { active := 0, waiting := [] }
      ops := []
      closed := false
      hardTimer := true
      readyAt := readyAt } := by
  by_cases heq : i = c
  · subst heq
    have hself : (l.connect i readyAt).lineAt i = some _ := Function.update_self ..
    rw [hself] at hline
    exact .inr ⟨rfl, (Option.some.inj hline).symm⟩
  · have hother : (l.connect c readyAt).lineAt i = l.lineAt i := Function.update_of_ne heq ..
    exact .inl (hother ▸ hline)

/-- No operation runs over a connection that there is not. -/
lemma Counted.not_over (h : Counted limit l) (hnone : l.lineAt c = none) (op : Nat) :
    ¬ l.Over op c := by
  rintro ⟨o, lease, -, hlease, rfl⟩
  obtain ⟨line, hline⟩ := h.lease_line hlease
  rw [hnone] at hline
  cases hline

lemma Sound.connect (h : Sound limit lit l) {readyAt : Int} (hnone : l.lineAt c = none)
    (hlit : lit readyAt) : Sound limit lit (l.connect c readyAt) where
  counted := {
    lease_line := by
      intro i lease hlease
      obtain ⟨line, hline⟩ := h.counted.lease_line hlease
      have hne : lease.connection ≠ c := by
        rintro rfl
        rw [hnone] at hline
        cases hline
      exact ⟨line, (Function.update_of_ne hne ..).trans hline⟩
    op_lease := h.counted.op_lease
    admitted_queued := h.counted.admitted_queued
    holds_requested := h.counted.holds_requested
    waiting := by
      intro i line hline op
      obtain hline | ⟨rfl, rfl⟩ := lineAt_connect hline
      · exact h.counted.waiting hline op
      · have hnot := h.counted.not_over hnone op
        have hsame : (l.connect i readyAt).Over op i ↔ l.Over op i := Iff.rfl
        simp [hsame, hnot]
    waiting_nodup := by
      intro i line hline
      obtain hline | ⟨rfl, rfl⟩ := lineAt_connect hline
      · exact h.counted.waiting_nodup hline
      · exact List.nodup_nil
    active := by
      intro i line hline
      obtain hline | ⟨rfl, rfl⟩ := lineAt_connect hline
      · exact h.counted.active hline
      · have hsame : ∀ op, (l.connect i readyAt).Over op i ↔ l.Over op i := fun _ => Iff.rfl
        simp [hsame, h.counted.not_over hnone]
    active_le := by
      intro i line hline
      obtain hline | ⟨rfl, rfl⟩ := lineAt_connect hline
      · exact h.counted.active_le hline
      · exact Nat.zero_le limit
    waiting_full := by
      intro i line hline hne
      obtain hline | ⟨rfl, rfl⟩ := lineAt_connect hline
      · exact h.counted.waiting_full hline hne
      · exact absurd rfl hne }
  listed := {
    lease_ops := h.listed.lease_ops
    line_ops := by
      intro i line op hline hmem
      obtain hline | ⟨rfl, rfl⟩ := lineAt_connect hline
      · exact h.listed.line_ops hline hmem
      · cases hmem
    lease_nodup := h.listed.lease_nodup
    line_nodup := by
      intro i line hline
      obtain hline | ⟨rfl, rfl⟩ := lineAt_connect hline
      · exact h.listed.line_nodup hline
      · exact List.nodup_nil
    listed := by
      intro op o lease line ho hlease hline hlive
      obtain hline | ⟨heq, rfl⟩ := lineAt_connect hline
      · exact h.listed.listed ho hlease hline hlive
      · exact absurd (over_of_op ho hlease) (h.counted.not_over (heq ▸ hnone) op) }
  returned := h.returned
  emptied := {
    closed := by
      intro i line hline hclosed
      obtain hline | ⟨rfl, rfl⟩ := lineAt_connect hline
      · exact h.emptied.closed hline hclosed
      · rfl
    ended := h.emptied.ended }
  timed := {
    hardTimer := by
      intro i line hline
      obtain hline | ⟨rfl, rfl⟩ := lineAt_connect hline
      · exact h.timed.hardTimer hline
      · rfl
    readyAt := by
      intro i line hline
      obtain hline | ⟨rfl, rfl⟩ := lineAt_connect hline
      · exact h.timed.readyAt hline
      · exact hlit
    granted := h.timed.granted
    leaseCount := h.timed.leaseCount }

lemma Sound.await (h : Sound limit lit l) {call : Nat} {stage : CallStage}
    (hnot : l.stageAt call ≠ some .granted) : Sound limit lit (l.await call stage) where
  counted := ⟨h.counted.lease_line, h.counted.op_lease, h.counted.admitted_queued,
    h.counted.holds_requested, h.counted.waiting, h.counted.waiting_nodup, h.counted.active,
    h.counted.active_le, h.counted.waiting_full⟩
  listed := ⟨h.listed.lease_ops, h.listed.line_ops, h.listed.lease_nodup, h.listed.line_nodup,
    h.listed.listed⟩
  returned := h.returned
  emptied := ⟨h.emptied.closed, h.emptied.ended⟩
  timed := {
    hardTimer := h.timed.hardTimer
    readyAt := h.timed.readyAt
    granted := by
      intro i lease hlease
      have hgranted := h.timed.granted hlease
      have hne : i ≠ call := by
        rintro rfl
        exact hnot hgranted
      exact (Function.update_of_ne hne ..).trans hgranted
    leaseCount := h.timed.leaseCount }

lemma leaseAt_checkout {call i : Nat} {lease : Lease}
    (hlease : (l.checkout call c).leaseAt i = some lease) :
    i ≠ call ∧ l.leaseAt i = some lease ∨ i = call ∧ lease = {
      connection := c
      ops := []
      expired := false
      released := false
      timer := true } := by
  by_cases heq : i = call
  · subst heq
    have hself : (l.checkout i c).leaseAt i = some _ := Function.update_self ..
    rw [hself] at hlease
    exact .inr ⟨rfl, (Option.some.inj hlease).symm⟩
  · have hother : (l.checkout call c).leaseAt i = l.leaseAt i := Function.update_of_ne heq ..
    exact .inl ⟨heq, hother ▸ hlease⟩

lemma leaseAt_checkout_of_some {call i : Nat} {lease : Lease} (hnone : l.leaseAt call = none)
    (hlease : l.leaseAt i = some lease) : (l.checkout call c).leaseAt i = some lease := by
  have hne : i ≠ call := by
    rintro rfl
    rw [hnone] at hlease
    cases hlease
  exact (Function.update_of_ne hne ..).trans hlease

lemma over_checkout (h : Counted limit l) {call : Nat} (hnone : l.leaseAt call = none)
    (op i : Nat) : (l.checkout call c).Over op i ↔ l.Over op i := by
  constructor
  · rintro ⟨o, lease, ho, hlease, hconnection⟩
    have hop : l.opAt op = some o := ho
    obtain ⟨was, hwas⟩ := h.op_lease hop
    have hkept : (l.checkout call c).leaseAt o.lease = some was :=
      leaseAt_checkout_of_some hnone hwas
    obtain rfl := Option.some.inj (hlease.symm.trans hkept)
    exact ⟨o, lease, hop, hwas, hconnection⟩
  · rintro ⟨o, lease, ho, hlease, hconnection⟩
    exact ⟨o, lease, ho, leaseAt_checkout_of_some hnone hlease, hconnection⟩

lemma Sound.checkout (h : Sound limit lit l) {call : Nat} {line : Line}
    (hnot : l.stageAt call ≠ some .granted) (hline : l.lineAt c = some line) :
    Sound limit lit (l.checkout call c) := by
  have hnone : l.leaseAt call = none := by
    cases hlease : l.leaseAt call with
    | none => rfl
    | some lease => exact absurd (h.timed.granted hlease) hnot
  have hover := over_checkout (c := c) h.counted hnone
  have hcounted : Counted limit (l.checkout call c) := {
    lease_line := by
      intro i lease hlease
      obtain ⟨-, hlease⟩ | ⟨-, rfl⟩ := leaseAt_checkout hlease
      · exact h.counted.lease_line hlease
      · exact ⟨line, hline⟩
    op_lease := by
      intro op o ho
      obtain ⟨lease, hlease⟩ := h.counted.op_lease ho
      exact ⟨lease, leaseAt_checkout_of_some hnone hlease⟩
    admitted_queued := h.counted.admitted_queued
    holds_requested := h.counted.holds_requested
    waiting := by
      intro i line' hline' op
      rw [hover]
      exact h.counted.waiting hline' op
    waiting_nodup := h.counted.waiting_nodup
    active := by
      intro i line' hline'
      simp only [hover]
      exact h.counted.active hline'
    active_le := h.counted.active_le
    waiting_full := h.counted.waiting_full }
  have hlisted : Listed (l.checkout call c) := {
    lease_ops := by
      intro i lease op hlease hmem
      obtain ⟨-, hlease⟩ | ⟨-, rfl⟩ := leaseAt_checkout hlease
      · exact h.listed.lease_ops hlease hmem
      · cases hmem
    line_ops := fun hline' hmem => (hover _ _).2 (h.listed.line_ops hline' hmem)
    lease_nodup := by
      intro i lease hlease
      obtain ⟨-, hlease⟩ | ⟨-, rfl⟩ := leaseAt_checkout hlease
      · exact h.listed.lease_nodup hlease
      · exact List.nodup_nil
    line_nodup := h.listed.line_nodup
    listed := by
      intro op o lease line' ho hlease hline' hlive
      have hop : l.opAt op = some o := ho
      obtain ⟨was, hwas⟩ := h.counted.op_lease hop
      have hkept : (l.checkout call c).leaseAt o.lease = some was :=
        leaseAt_checkout_of_some hnone hwas
      obtain rfl := Option.some.inj (hlease.symm.trans hkept)
      exact h.listed.listed hop hwas hline' hlive }
  refine ⟨hcounted, hlisted, h.returned, ⟨h.emptied.closed, ?_⟩,
    ⟨h.timed.hardTimer, h.timed.readyAt, ?_, ?_⟩⟩
  · intro i lease hlease hended
    obtain ⟨-, hlease⟩ | ⟨-, rfl⟩ := leaseAt_checkout hlease
    · exact h.emptied.ended hlease hended
    · rfl
  · intro i lease hlease
    obtain ⟨hne, hlease⟩ | ⟨rfl, -⟩ := leaseAt_checkout hlease
    · exact (Function.update_of_ne hne ..).trans (h.timed.granted hlease)
    · exact Function.update_self ..
  · obtain ⟨n, hn, hcard⟩ := h.timed.leaseCount
    have hnotin : call ∉ {lease | l.Held lease} := by
      rintro ⟨lease, hlease, -⟩
      rw [hnone] at hlease
      cases hlease
    refine ⟨n + 1, ?_, ?_⟩
    · have hcount : l.leaseCount + 1 = ((n + 1 : ℕ) : ℤ) := by omega
      exact hcount
    · rw [Nat.cast_add, Nat.cast_one, ← hcard, ← Set.encard_insert_of_notMem hnotin]
      refine congrArg Set.encard (Set.ext fun i => ?_)
      constructor
      · rintro ⟨lease, hlease, hreleased⟩
        obtain ⟨-, hlease⟩ | ⟨rfl, -⟩ := leaseAt_checkout hlease
        · exact .inr ⟨lease, hlease, hreleased⟩
        · exact .inl rfl
      · rintro (rfl | ⟨lease, hlease, hreleased⟩)
        · exact ⟨_, Function.update_self .., rfl⟩
        · exact ⟨lease, leaseAt_checkout_of_some hnone hlease, hreleased⟩

section

variable {kind : OpKind} {lease : Lease} {line : Line}

/-- The operation that a lease begins. -/
def begun (limit leaseId : Nat) (kind : OpKind) (line : Line) (opId : Nat) : Op where
  lease := leaseId
  kind := kind
  state := .queued
  admitted := (line.limiter.acquire limit opId).1
  holdsSlot := false
  settled := false

lemma opAt_begin {i : Nat} {op : Op}
    (hop : (l.begin limit opId leaseId kind c line).opAt i = some op) :
    i ≠ opId ∧ l.opAt i = some op ∨ i = opId ∧ op = begun limit leaseId kind line opId := by
  by_cases heq : i = opId
  · subst heq
    have hself : (l.begin limit i leaseId kind c line).opAt i = some _ := Function.update_self ..
    rw [hself] at hop
    exact .inr ⟨rfl, (Option.some.inj hop).symm⟩
  · have hother : (l.begin limit opId leaseId kind c line).opAt i = l.opAt i :=
      Function.update_of_ne heq ..
    exact .inl ⟨heq, hother ▸ hop⟩

lemma opAt_begin_of_some {i : Nat} {op : Op} (hnone : l.opAt opId = none)
    (hop : l.opAt i = some op) : (l.begin limit opId leaseId kind c line).opAt i = some op := by
  have hne : i ≠ opId := by
    rintro rfl
    rw [hnone] at hop
    cases hop
  exact (Function.update_of_ne hne ..).trans hop

lemma opAt_begin_self : (l.begin limit opId leaseId kind c line).opAt opId =
    some (begun limit leaseId kind line opId) := Function.update_self ..

lemma leaseAt_begin {i : Nat} {lease : Lease} :
    (l.begin limit opId leaseId kind c line).leaseAt i = some lease ↔
      ∃ was, l.leaseAt i = some was ∧
        (if i = leaseId then { was with ops := was.ops ++ [opId] } else was) = lease :=
  Heap.change_eq_some

lemma lineAt_begin {i : Nat} {found : Line} :
    (l.begin limit opId leaseId kind c line).lineAt i = some found ↔
      ∃ was, l.lineAt i = some was ∧ (if i = c then { was with
        ops := was.ops ++ [opId]
        limiter := (line.limiter.acquire limit opId).2 } else was) = found :=
  Heap.change_eq_some

lemma over_begin (hnone : l.opAt opId = none) (hlease : l.leaseAt leaseId = some lease)
    (op i : Nat) : (l.begin limit opId leaseId kind lease.connection line).Over op i ↔
      l.Over op i ∨ op = opId ∧ i = lease.connection := by
  constructor
  · rintro ⟨o, lease', ho, hlease', rfl⟩
    obtain ⟨was, hwas, rfl⟩ := leaseAt_begin.1 hlease'
    obtain ⟨-, ho⟩ | ⟨rfl, rfl⟩ := opAt_begin ho
    · refine .inl ⟨o, was, ho, hwas, ?_⟩
      split <;> rfl
    · obtain rfl := Option.some.inj (hlease.symm.trans hwas)
      refine .inr ⟨rfl, ?_⟩
      split <;> rfl
  · rintro (⟨o, lease', ho, hlease', rfl⟩ | ⟨rfl, rfl⟩)
    · refine ⟨o, _, opAt_begin_of_some hnone ho, leaseAt_begin.2 ⟨lease', hlease', rfl⟩, ?_⟩
      split <;> rfl
    · refine ⟨_, _, opAt_begin_self, leaseAt_begin.2 ⟨lease, hlease, rfl⟩, ?_⟩
      split <;> rfl

lemma waits_begin (hnone : l.opAt opId = none) (op : Nat) :
    (l.begin limit opId leaseId kind c line).Waits op ↔
      l.Waits op ∨ op = opId ∧ (line.limiter.acquire limit opId).1 = false := by
  constructor
  · rintro ⟨o, ho, hqueued, hsettled, hadmitted⟩
    obtain ⟨-, ho⟩ | ⟨rfl, rfl⟩ := opAt_begin ho
    · exact .inl ⟨o, ho, hqueued, hsettled, hadmitted⟩
    · exact .inr ⟨rfl, hadmitted⟩
  · rintro (⟨o, ho, hwaits⟩ | ⟨rfl, hadmitted⟩)
    · exact ⟨o, opAt_begin_of_some hnone ho, hwaits⟩
    · exact ⟨_, opAt_begin_self, rfl, rfl, hadmitted⟩

lemma occupies_begin (hnone : l.opAt opId = none) (op : Nat) :
    (l.begin limit opId leaseId kind c line).Occupies op ↔
      l.Occupies op ∨ op = opId ∧ (line.limiter.acquire limit opId).1 = true := by
  constructor
  · rintro ⟨o, ho, hslot⟩
    obtain ⟨-, ho⟩ | ⟨rfl, rfl⟩ := opAt_begin ho
    · exact .inl ⟨o, ho, hslot⟩
    · exact .inr ⟨rfl, hslot.resolve_right (by simp [begun])⟩
  · rintro (⟨o, ho, hslot⟩ | ⟨rfl, hadmitted⟩)
    · exact ⟨o, opAt_begin_of_some hnone ho, hslot⟩
    · exact ⟨_, opAt_begin_self, .inl hadmitted⟩

/-- An operation that has not begun waits nowhere and runs over nothing. -/
lemma not_over_of_none (hnone : l.opAt opId = none) (i : Nat) : ¬ l.Over opId i := by
  rintro ⟨o, -, ho, -⟩
  rw [hnone] at ho
  cases ho

lemma not_waits_of_none (hnone : l.opAt opId = none) : ¬ l.Waits opId := by
  rintro ⟨o, ho, -⟩
  rw [hnone] at ho
  cases ho

lemma not_occupies_of_none (hnone : l.opAt opId = none) : ¬ l.Occupies opId := by
  rintro ⟨o, ho, -⟩
  rw [hnone] at ho
  cases ho

/-- The limiter takes the operation in, or queues it while all slots are taken. -/
lemma Counted.begin (h : Counted limit l) (hnone : l.opAt opId = none)
    (hlease : l.leaseAt leaseId = some lease) (hline : l.lineAt lease.connection = some line) :
    Counted limit (l.begin limit opId leaseId kind lease.connection line) where
  lease_line {i lease'} hlease' := by
    obtain ⟨was, hwas, rfl⟩ := leaseAt_begin.1 hlease'
    obtain ⟨found, hfound⟩ := h.lease_line hwas
    refine ⟨_, lineAt_begin.2 ⟨found, ?_, rfl⟩⟩
    split <;> exact hfound
  op_lease ho := by
    obtain ⟨-, ho⟩ | ⟨-, rfl⟩ := opAt_begin ho
    · obtain ⟨was, hwas⟩ := h.op_lease ho
      exact ⟨_, leaseAt_begin.2 ⟨was, hwas, rfl⟩⟩
    · exact ⟨_, leaseAt_begin.2 ⟨lease, hlease, rfl⟩⟩
  admitted_queued ho := by
    obtain ⟨-, ho⟩ | ⟨-, rfl⟩ := opAt_begin ho
    · exact h.admitted_queued ho
    · exact fun _ => rfl
  holds_requested ho hholds := by
    obtain ⟨-, ho⟩ | ⟨-, rfl⟩ := opAt_begin ho
    · exact h.holds_requested ho hholds
    · cases hholds
  waiting {i found} hfound op := by
    obtain ⟨was, hwas, rfl⟩ := lineAt_begin.1 hfound
    have hmem := h.waiting hwas op
    have hnot := not_over_of_none hnone i
    have hidle := not_waits_of_none hnone
    rw [over_begin hnone hlease, waits_begin hnone]
    by_cases heq : i = lease.connection
    · subst heq
      obtain rfl := Option.some.inj (hline.symm.trans hwas)
      rw [if_pos rfl]
      unfold Limiter.acquire
      split <;> grind
    · rw [if_neg heq, hmem]
      grind
  waiting_nodup {i found} hfound := by
    obtain ⟨was, hwas, rfl⟩ := lineAt_begin.1 hfound
    split
    · have hnodup := h.waiting_nodup hline
      have hnotin : opId ∉ line.limiter.waiting := fun hmem =>
        not_over_of_none hnone _ ((h.waiting hline opId).1 hmem).1
      unfold Limiter.acquire
      split
      · exact hnodup
      · exact List.nodup_append.2 ⟨hnodup, List.nodup_singleton opId, by grind⟩
    · exact h.waiting_nodup hwas
  active {i found} hfound := by
    obtain ⟨was, hwas, rfl⟩ := lineAt_begin.1 hfound
    have hnot := not_over_of_none hnone i
    have hidle := not_occupies_of_none hnone
    simp only [over_begin hnone hlease, occupies_begin hnone]
    by_cases heq : i = lease.connection
    · subst heq
      obtain rfl := Option.some.inj (hline.symm.trans hwas)
      rw [if_pos rfl]
      by_cases hfree : line.limiter.active < limit
      · have hacquire : line.limiter.acquire limit opId =
            (true, { line.limiter with active := line.limiter.active + 1 }) := if_pos hfree
        have hnotin : opId ∉ {op | l.Over op lease.connection ∧ l.Occupies op} :=
          fun hmem => hnot hmem.1
        rw [hacquire, Nat.cast_add, Nat.cast_one, ← h.active hline,
          ← Set.encard_insert_of_notMem hnotin]
        refine congrArg Set.encard (Set.ext fun op => ?_)
        simp only [Set.mem_ofPred_eq, Set.mem_insert_iff]
        grind
      · have hacquire : line.limiter.acquire limit opId =
            (false, { line.limiter with waiting := line.limiter.waiting ++ [opId] }) :=
          if_neg hfree
        rw [hacquire, ← h.active hline]
        refine congrArg Set.encard (Set.ext fun op => ?_)
        simp only [Set.mem_ofPred_eq]
        grind
    · rw [if_neg heq, ← h.active hwas]
      refine congrArg Set.encard (Set.ext fun op => ?_)
      simp only [Set.mem_ofPred_eq]
      grind
  active_le {i found} hfound := by
    obtain ⟨was, hwas, rfl⟩ := lineAt_begin.1 hfound
    split
    · have hle := h.active_le hline
      unfold Limiter.acquire
      split
      · next hfree => exact hfree
      · exact hle
    · exact h.active_le hwas
  waiting_full {i found} hfound := by
    obtain ⟨was, hwas, rfl⟩ := lineAt_begin.1 hfound
    split
    · have hle := h.active_le hline
      have hfull := h.waiting_full hline
      unfold Limiter.acquire
      split
      · next hfree =>
        intro hne
        have hall := hfull hne
        omega
      · next hfree =>
        intro _
        dsimp only
        omega
    · exact h.waiting_full hwas

lemma Listed.begin (hl : Listed l) (hnone : l.opAt opId = none)
    (hlease : l.leaseAt leaseId = some lease) :
    Listed (l.begin limit opId leaseId kind lease.connection line) where
  lease_ops {i lease' op} hlease' hmem := by
    obtain ⟨was, hwas, rfl⟩ := leaseAt_begin.1 hlease'
    have hold : op ∈ was.ops → ∃ o,
        (l.begin limit opId leaseId kind lease.connection line).opAt op = some o ∧
          o.lease = i := by
      intro hin
      obtain ⟨o, ho, heq⟩ := hl.lease_ops hwas hin
      exact ⟨o, opAt_begin_of_some hnone ho, heq⟩
    split at hmem
    · next heq =>
      obtain hin | hin := List.mem_append.1 hmem
      · exact hold hin
      · obtain rfl := List.mem_singleton.1 hin
        exact ⟨_, opAt_begin_self, heq.symm⟩
    · exact hold hmem
  line_ops {i found op} hfound hmem := by
    obtain ⟨was, hwas, rfl⟩ := lineAt_begin.1 hfound
    rw [over_begin hnone hlease]
    split at hmem
    · next heq =>
      obtain hin | hin := List.mem_append.1 hmem
      · exact .inl (hl.line_ops hwas hin)
      · exact .inr ⟨List.mem_singleton.1 hin, heq⟩
    · exact .inl (hl.line_ops hwas hmem)
  lease_nodup {i lease'} hlease' := by
    obtain ⟨was, hwas, rfl⟩ := leaseAt_begin.1 hlease'
    have hnodup := hl.lease_nodup hwas
    have hnotin : opId ∉ was.ops := by
      intro hin
      obtain ⟨o, ho, -⟩ := hl.lease_ops hwas hin
      rw [hnone] at ho
      cases ho
    split
    · exact List.nodup_append.2 ⟨hnodup, List.nodup_singleton opId, by grind⟩
    · exact hnodup
  line_nodup {i found} hfound := by
    obtain ⟨was, hwas, rfl⟩ := lineAt_begin.1 hfound
    have hnodup := hl.line_nodup hwas
    have hnotin : opId ∉ was.ops := fun hin => not_over_of_none hnone i (hl.line_ops hwas hin)
    split
    · exact List.nodup_append.2 ⟨hnodup, List.nodup_singleton opId, by grind⟩
    · exact hnodup
  listed {op o lease' line'} ho hlease' hline' hlive := by
    obtain ⟨was, hwas, rfl⟩ := leaseAt_begin.1 hlease'
    obtain ⟨found, hfound, rfl⟩ := lineAt_begin.1 hline'
    have hconnection : (if o.lease = leaseId then
        { was with ops := was.ops ++ [opId] } else was).connection = was.connection := by
      split <;> rfl
    rw [hconnection] at hfound ⊢
    obtain ⟨hne, ho⟩ | ⟨rfl, rfl⟩ := opAt_begin ho
    · have hlived : l.Lives op := by
        obtain ⟨o', ho', hlives⟩ := hlive
        obtain ⟨-, ho'⟩ | ⟨heq, -⟩ := opAt_begin ho'
        · exact ⟨o', ho', hlives⟩
        · exact absurd heq hne
      obtain ⟨hin, hin'⟩ := hl.listed ho hwas hfound hlived
      constructor
      · split
        · exact List.mem_append_left _ hin
        · exact hin
      · split
        · exact List.mem_append_left _ hin'
        · exact hin'
    · obtain rfl := Option.some.inj (hlease.symm.trans hwas)
      have hself : (begun limit leaseId kind line op).lease = leaseId := rfl
      rw [if_pos hself, if_pos rfl]
      exact ⟨List.mem_append_right _ (List.mem_singleton_self op),
        List.mem_append_right _ (List.mem_singleton_self op)⟩

lemma Sound.begin (h : Sound limit lit l) (hnone : l.opAt opId = none)
    (hlease : l.leaseAt leaseId = some lease) (hline : l.lineAt lease.connection = some line)
    (hheld : lease.released = false) (hlasts : lease.expired = false)
    (hopen : line.closed = false) :
    Sound limit lit (l.begin limit opId leaseId kind lease.connection line) := by
  refine ⟨h.counted.begin hnone hlease hline, h.listed.begin hnone hlease,
    fun op o ho hsettled hstate => ?_,
    ⟨fun {i found} hfound hclosed => ?_, fun {i lease'} hlease' hended => ?_⟩,
    ⟨fun {i found} hfound => ?_, fun {i found} hfound => ?_, fun {i lease'} hlease' => ?_, ?_⟩⟩
  · obtain ⟨-, ho⟩ | ⟨-, rfl⟩ := opAt_begin ho
    · exact h.returned op o ho hsettled hstate
    · rfl
  · obtain ⟨was, hwas, rfl⟩ := lineAt_begin.1 hfound
    split at hclosed
    · next heq =>
      subst heq
      obtain rfl := Option.some.inj (hline.symm.trans hwas)
      have hclosed' : line.closed = true := hclosed
      rw [hopen] at hclosed'
      cases hclosed'
    · next hne =>
      rw [if_neg hne]
      exact h.emptied.closed hwas hclosed
  · obtain ⟨was, hwas, rfl⟩ := leaseAt_begin.1 hlease'
    split at hended
    · next heq =>
      subst heq
      obtain rfl := Option.some.inj (hlease.symm.trans hwas)
      have hended' : lease.released = true ∨ lease.expired = true := hended
      rw [hheld, hlasts] at hended'
      simp at hended'
    · next hne =>
      rw [if_neg hne]
      exact h.emptied.ended hwas hended
  · obtain ⟨was, hwas, rfl⟩ := lineAt_begin.1 hfound
    have htimer := h.timed.hardTimer hwas
    split <;> exact htimer
  · obtain ⟨was, hwas, rfl⟩ := lineAt_begin.1 hfound
    have hlit := h.timed.readyAt hwas
    split <;> exact hlit
  · obtain ⟨was, hwas, -⟩ := leaseAt_begin.1 hlease'
    exact h.timed.granted hwas
  · obtain ⟨n, hn, hcard⟩ := h.timed.leaseCount
    refine ⟨n, hn, hcard ▸ congrArg Set.encard (Set.ext fun i => ?_)⟩
    constructor
    · rintro ⟨lease', hlease', hreleased⟩
      obtain ⟨was, hwas, rfl⟩ := leaseAt_begin.1 hlease'
      refine ⟨was, hwas, ?_⟩
      split at hreleased <;> exact hreleased
    · rintro ⟨was, hwas, hreleased⟩
      refine ⟨_, leaseAt_begin.2 ⟨was, hwas, rfl⟩, ?_⟩
      split <;> exact hreleased

lemma advances_begin (hnone : l.opAt opId = none) :
    Advances l (l.begin limit opId leaseId kind c line) := by
  constructor
  · rintro op ⟨o, ho, hslot⟩
    exact .inl ⟨o, opAt_begin_of_some hnone ho, hslot⟩
  · rintro op ⟨o, ho, hdone⟩
    exact ⟨o, opAt_begin_of_some hnone ho, hdone⟩
  · rintro op ⟨o, ho, hquit⟩
    exact ⟨o, opAt_begin_of_some hnone ho, hquit⟩

end

/-! ## Every effect -/

lemma Sound.grant (h : Sound limit lit l) {op : Op} (hop : l.opAt opId = some op)
    (hadmitted : op.admitted = true) (hsettled : op.settled = false) :
    Sound limit lit (l.grant opId) := by
  have hshrinks : Shrinks l (l.grant opId) := shrinks_onOp l opId fun _ => rfl
  refine ⟨h.counted.grant hop hadmitted, h.listed.onOp (fun _ => rfl) fun o ho _ => .inr ?_,
    fun i o ho hover hstate => ?_, h.emptied.shrinks hshrinks, h.timed.shrinks hshrinks⟩
  · obtain rfl := Option.some.inj (hop.symm.trans ho)
    exact ⟨h.counted.admitted_queued hop hadmitted, hsettled⟩
  · obtain ⟨was, hwas, rfl⟩ := opAt_onOp.1 ho
    have hnot := h.returned i was hwas
    grind

lemma Sound.answer (h : Sound limit lit l) {op : Op} (hop : l.opAt opId = some op)
    (hwas : op.state ≠ .queued) : Sound limit lit (l.answer opId) := by
  have hshrinks : Shrinks l (l.answer opId) := shrinks_onOp l opId fun _ => rfl
  refine ⟨h.counted.answer hop hwas, h.listed.onOp (fun _ => rfl) fun o ho hlives => .inl ?_,
    fun i o ho hover hstate => ?_, h.emptied.shrinks hshrinks, h.timed.shrinks hshrinks⟩
  · exact hlives.resolve_right fun hqueued => nomatch hqueued.1
  · obtain ⟨was, hwas, rfl⟩ := opAt_onOp.1 ho
    have hnot := h.returned i was hwas
    grind

lemma Sound.finishOp (h : Sound limit lit l) {op : Op} (hop : l.opAt opId = some op)
    (hstate : op.state ≠ .queued) : Sound limit lit (l.finishOp opId) := by
  have hover : op.state = .queued → op.settled = true := fun hqueued => absurd hqueued hstate
  have hshrinks := shrinks_finishOp l opId
  exact ⟨h.counted.finishOp hop hover, h.listed.finishOp h.counted hop hover,
    h.returned.finishOp h.counted hop, h.emptied.shrinks hshrinks, h.timed.shrinks hshrinks⟩

lemma settled_onOp {op : Op} (hop : l.opAt opId = some op) :
    (l.onOp opId fun op => { op with settled := true }).opAt opId =
      some { op with settled := true } :=
  opAt_onOp.2 ⟨op, hop, if_pos rfl⟩

lemma Counted.settled (h : Counted limit l) {op : Op} (hop : l.opAt opId = some op)
    (hwas : op.state ≠ .queued) :
    Counted limit (l.onOp opId fun op => { op with settled := true }) := by
  refine h.onOp (fun _ => rfl) (fun o ho hadmitted => ?_) (fun o ho hholds => ?_) ?_ ?_
  · have hqueued := h.admitted_queued ho
    exact hqueued hadmitted
  · have hrequested := h.holds_requested ho
    exact hrequested hholds
  · rw [waits_onOp_iff hop, waits_iff hop]
    simp [hwas]
  · rw [occupies_onOp_iff hop, occupies_iff hop]

lemma Sound.complete (h : Sound limit lit l) {op : Op} (hop : l.opAt opId = some op)
    (hwas : op.state ≠ .queued) : Sound limit lit (l.complete opId) := by
  have hcounted := h.counted.settled hop hwas
  have hlisted : Listed (l.onOp opId fun op => { op with settled := true }) :=
    h.listed.onOp (fun _ => rfl) fun o _ hlives => hlives.imp_right fun hqueued => nomatch hqueued.2
  have honOp : Shrinks l (l.onOp opId fun op => { op with settled := true }) :=
    shrinks_onOp l opId fun _ => rfl
  have hshrinks : Shrinks l (l.complete opId) := honOp.trans (shrinks_finishOp _ opId)
  have hover : op.state = .queued → true = true := fun _ => rfl
  exact ⟨hcounted.finishOp (settled_onOp hop) hover,
    hlisted.finishOp hcounted (settled_onOp hop) hover,
    h.returned.complete hcounted (settled_onOp hop) fun i hne => Function.update_of_ne hne ..,
    h.emptied.shrinks hshrinks, h.timed.shrinks hshrinks⟩

lemma Counted.refuse_eq (h : Counted limit l) {op : Op} (hop : l.opAt opId = some op)
    (hadmitted : op.admitted = true) : l.refuse opId c = l.freed opId c := by
  refine refuse_eq_freed hop ?_
  rw [← Bool.not_eq_true]
  intro hholds
  rw [h.not_admitted hop hholds] at hadmitted
  cases hadmitted

lemma Sound.refuse (h : Sound limit lit l) {op : Op} {lease : Lease}
    (hop : l.opAt opId = some op) (hadmitted : op.admitted = true) (hsettled : op.settled = true)
    (hlease : l.leaseAt op.lease = some lease) :
    Sound limit lit (l.refuse opId lease.connection) := by
  have hover : op.state = .queued → op.settled = true := fun _ => hsettled
  obtain ⟨line, hline⟩ := h.counted.lease_line hlease
  have hshrinks := shrinks_freed l opId lease.connection
  rw [h.counted.refuse_eq hop hadmitted]
  exact ⟨h.counted.freed hline hop hover (over_of_op hop hlease) ⟨op, hop, .inl hadmitted⟩,
    h.listed.freed hline hop hover, h.returned.freed hline, h.emptied.shrinks hshrinks,
    h.timed.shrinks hshrinks⟩

lemma Sound.effect (h : Sound limit lit l) (heffect : Effect limit lit l l') :
    Sound limit lit l' := by
  cases heffect with
  | connect c readyAt hnone hlit => exact h.connect hnone hlit
  | close c line hline _ => exact h.close hline
  | await call stage hnot => exact h.await hnot
  | checkout call c line hnot hline _ => exact h.checkout hnot hline
  | release leaseId lease hlease hheld => exact h.release hlease hheld
  | expire leaseId lease hlease => exact h.expire hlease
  | begin opId leaseId kind lease line hnone hlease hline hheld hlasts hopen =>
    exact h.begin hnone hlease hline hheld hlasts hopen
  | grant opId op hop hadmitted hsettled => exact h.grant hop hadmitted hsettled
  | refuse opId op lease hop hadmitted hsettled hlease =>
    exact h.refuse hop hadmitted hsettled hlease
  | answer opId op hop hwas => exact h.answer hop hwas
  | complete opId op hop hwas => exact h.complete hop hwas
  | finishOp opId op hop hstate => exact h.finishOp hop hstate

lemma Sound.effects (h : Sound limit lit l) (heffects : Effects limit lit l l') :
    Sound limit lit l' :=
  TransitionSystem.invariant_of_chain (fun _ _ => Sound.effect) heffects h

/-- No effect gives a slot back twice. -/
lemma Sound.advances (h : Sound limit lit l) (heffect : Effect limit lit l l') :
    Advances l l' := by
  cases heffect with
  | connect | await | checkout => exact advances_of_ops rfl
  | close c line hline _ =>
    have hflag : Advances l (l.closing c) := advances_of_ops rfl
    exact hflag.trans ((h.closing c).1.advances_abandon_all line.ops)
  | release leaseId lease hlease _ =>
    have hcounted : Counted limit { l.onLease leaseId fun lease =>
        { lease with released := true, timer := false } with leaseCount := l.leaseCount - 1 } :=
      h.counted.same ⟨rfl, fun i => Heap.map_change Lease.connection l.leaseAt leaseId i fun _ => rfl,
        fun _ => rfl⟩
    have hflag : Advances l { l.onLease leaseId fun lease =>
        { lease with released := true, timer := false } with leaseCount := l.leaseCount - 1 } :=
      advances_of_ops rfl
    exact hflag.trans (hcounted.advances_abandon_all lease.ops)
  | expire leaseId lease hlease =>
    have hcounted : Counted limit (l.onLease leaseId fun lease =>
        { lease with expired := true, timer := false }) :=
      h.counted.same (sameSlots_onLease l leaseId fun _ => rfl)
    have hflag : Advances l (l.onLease leaseId fun lease =>
        { lease with expired := true, timer := false }) := advances_of_ops rfl
    exact hflag.trans (hcounted.advances_abandon_all lease.ops)
  | begin opId leaseId kind lease line hnone => exact advances_begin hnone
  | grant opId op hop hadmitted hsettled =>
    refine advances_onOp (fun _ _ _ => .inr rfl) (fun o ho hnot _ _ => ?_) fun o ho _ hover => ?_
    · obtain rfl := Option.some.inj (hop.symm.trans ho)
      rw [hadmitted] at hnot
      cases hnot
    · obtain rfl := Option.some.inj (hop.symm.trans ho)
      rw [hsettled] at hover
      cases hover
  | refuse opId op lease hop hadmitted hsettled hlease =>
    obtain ⟨line, hline⟩ := h.counted.lease_line hlease
    rw [h.counted.refuse_eq hop hadmitted]
    exact h.counted.advances_freed hline hop fun _ => hsettled
  | answer opId op hop hwas =>
    refine advances_onOp (fun _ _ hslot => hslot)
      (fun _ _ hadmitted hholds _ => ⟨hadmitted, hholds, fun _ => rfl⟩) fun o ho hqueued _ => ?_
    obtain rfl := Option.some.inj (hop.symm.trans ho)
    exact absurd hqueued hwas
  | complete opId op hop hwas =>
    exact (advances_settled l opId).trans
      ((h.counted.settled hop hwas).advances_finishOp (settled_onOp hop) fun _ => rfl)
  | finishOp opId op hop hstate =>
    exact h.counted.advances_finishOp hop fun hqueued => absurd hqueued hstate

lemma Sound.advances_all (h : Sound limit lit l) (heffects : Effects limit lit l l') :
    Advances l l' := by
  induction heffects with
  | refl => exact .refl l
  | tail hchain heffect ih => exact ih.trans ((h.effects hchain).advances heffect)

end Ledger

end OpenMcc
