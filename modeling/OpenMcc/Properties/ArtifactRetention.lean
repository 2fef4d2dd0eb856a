import Mathlib.Data.List.Perm.Subperm
import Mathlib.Tactic.Linarith
import OpenMcc.Construction.ArtifactRetention

/-!
# How long collected content stays retrievable

Content stays for the retention period after it was collected, unless enough newer content of its
kind arrives, exactly where the row that holds it is dated no earlier than that collection.  A row
is dated by the first collection of its bytes, so content that is collected again is kept for as
long as it would have been without.

What carries the proof is that each row is dated by a collection of its content, and that a
pruning by rank which has selected a row has found enough others of its kind that were collected
since the row was.
-/

namespace OpenMcc

section Table

variable {Id Content Digest : Type}

namespace ArtifactTable

/-! ## The table -/

lemma newer_iff [LinearOrder Id] {a b : ArtifactRow Id Content Digest} : newer a b = true ↔
    b.collectedAt < a.collectedAt ∨ (a.collectedAt = b.collectedAt ∧ b.id ≤ a.id) := by
  simp only [newer, Bool.or_eq_true, Bool.and_eq_true, decide_eq_true_eq, beq_iff_eq]

lemma newer_trans [LinearOrder Id] (a b c : ArtifactRow Id Content Digest)
    (hab : newer a b = true) (hbc : newer b c = true) : newer a c = true := by
  rw [newer_iff] at *
  obtain hab | ⟨hab, hab'⟩ := hab
  · obtain hbc | ⟨hbc, -⟩ := hbc
    · exact .inl (by omega)
    · exact .inl (by omega)
  · obtain hbc | ⟨hbc, hbc'⟩ := hbc
    · exact .inl (by omega)
    · exact .inr ⟨by omega, hbc'.trans hab'⟩

lemma newer_total [LinearOrder Id] (a b : ArtifactRow Id Content Digest) :
    (newer a b || newer b a) = true := by
  rw [Bool.or_eq_true, newer_iff, newer_iff]
  obtain hlt | heq | hlt := lt_trichotomy a.collectedAt b.collectedAt
  · exact .inr (.inl hlt)
  · obtain hid | hid := le_total b.id a.id
    · exact .inl (.inr ⟨heq, hid⟩)
    · exact .inr (.inr ⟨heq.symm, hid⟩)
  · exact .inl (.inl hlt)

lemma collectedAt_of_newer [LinearOrder Id] {a b : ArtifactRow Id Content Digest}
    (h : newer a b = true) : b.collectedAt ≤ a.collectedAt := by
  rw [newer_iff] at h
  omega

@[simp] lemma mem_keeping {table : ArtifactTable Id Content Digest}
    {p : ArtifactRow Id Content Digest → Bool} {row : ArtifactRow Id Content Digest} :
    row ∈ (table.keeping p).rows ↔ row ∈ table.rows ∧ p row = true :=
  List.mem_filter

lemma eq_of_id {table : ArtifactTable Id Content Digest} {a b : ArtifactRow Id Content Digest}
    (ha : a ∈ table.rows) (hb : b ∈ table.rows) (h : a.id = b.id) : a = b :=
  List.inj_on_of_nodup_map table.ids ha hb h

lemma eq_of_digest {table : ArtifactTable Id Content Digest} {a b : ArtifactRow Id Content Digest}
    (ha : a ∈ table.rows) (hb : b ∈ table.rows) (hkind : a.kind = b.kind)
    (hdigest : a.digest = b.digest) : a = b := by
  have hpair : (a.kind, a.digest) = (b.kind, b.digest) := by rw [hkind, hdigest]
  exact List.inj_on_of_nodup_map table.digests ha hb hpair

/-- Content is retrievable where a row holds it. -/
lemma retrievable_iff [LinearOrder Id] {table : ArtifactTable Id Content Digest}
    {kind : InstanceArtifactKind} {content : Content} : table.Retrievable kind content ↔
      ∃ row ∈ table.rows, row.kind = kind ∧ row.content = content := by
  constructor
  · rintro ⟨summary, hlisted, hkind, hcontent⟩
    rw [listSummaries, List.mem_map] at hlisted
    obtain ⟨row, hrow, rfl⟩ := hlisted
    rw [List.mem_mergeSort] at hrow
    rw [contentOf, Option.map_eq_some_iff] at hcontent
    obtain ⟨found, hfound, rfl⟩ := hcontent
    have hid : found.id = row.id := by simpa using List.find?_some hfound
    have hsame := eq_of_id (List.mem_of_find?_eq_some hfound) hrow hid
    exact ⟨row, hrow, hkind, congrArg ArtifactRow.content hsame.symm⟩
  · rintro ⟨row, hrow, rfl, rfl⟩
    refine ⟨(row.id, row.kind, row.collectedAt), ?_, rfl, ?_⟩
    · rw [listSummaries, List.mem_map]
      exact ⟨row, List.mem_mergeSort.2 hrow, rfl⟩
    · have hsome : (table.rows.find? fun r => r.id == row.id).isSome = true :=
        List.find?_isSome.2 ⟨row, hrow, beq_self_eq_true _⟩
      obtain ⟨found, hfound⟩ := Option.isSome_iff_exists.1 hsome
      have hid : found.id = row.id := by simpa using List.find?_some hfound
      have hsame := eq_of_id (List.mem_of_find?_eq_some hfound) hrow hid
      rw [contentOf, hfound, Option.map_some, hsame]

lemma mem_ofKind [LinearOrder Id] {table : ArtifactTable Id Content Digest}
    {kind : InstanceArtifactKind} {row : ArtifactRow Id Content Digest} :
    row ∈ table.ofKind kind ↔ row ∈ table.rows ∧ row.kind = kind := by
  rw [ofKind, List.mem_mergeSort, List.mem_filter, beq_iff_eq]

variable [DecidableEq Digest]

lemma stored_eq_some {table : ArtifactTable Id Content Digest} {kind : InstanceArtifactKind}
    {digest : Digest} {row : ArtifactRow Id Content Digest}
    (h : table.stored kind digest = some row) :
    row ∈ table.rows ∧ row.kind = kind ∧ row.digest = digest := by
  have hfound := List.find?_some h
  simp only [Bool.and_eq_true, beq_iff_eq] at hfound
  exact ⟨List.mem_of_find?_eq_some h, hfound⟩

lemma stored_eq_none {table : ArtifactTable Id Content Digest} {kind : InstanceArtifactKind}
    {digest : Digest} (h : table.stored kind digest = none) :
    (kind, digest) ∉ table.rows.map fun row => (row.kind, row.digest) := by
  rw [List.mem_map]
  rintro ⟨row, hrow, hpair⟩
  have hnot := List.find?_eq_none.1 h row hrow
  rw [Prod.mk.injEq] at hpair
  simp [hpair.1, hpair.2] at hnot

/-- What an insert does: nothing where the digest is stored, else it adds the row. -/
lemma insertArtifact_cases [DecidableEq Id] {table : ArtifactTable Id Content Digest}
    {row : ArtifactRow Id Content Digest} {inserted : ArtifactTable Id Content Digest × Bool}
    (h : table.insertArtifact row = some inserted) :
    (∃ old, table.stored row.kind row.digest = some old ∧ inserted = (table, false)) ∨
    (table.stored row.kind row.digest = none ∧ inserted.1.rows = row :: table.rows) := by
  rw [insertArtifact] at h
  split at h
  · rename_i hdigest
    obtain hnone | ⟨old, hold⟩ := (table.stored row.kind row.digest).eq_none_or_eq_some
    · exact absurd hdigest (stored_eq_none hnone)
    · exact .inl ⟨old, hold, (Option.some.inj h).symm⟩
  · split at h
    · cases h
    · rename_i hdigest _
      refine .inr ⟨?_, by rw [← Option.some.inj h]; rfl⟩
      rw [stored, List.find?_eq_none]
      intro other hother
      simp only [Bool.and_eq_true, beq_iff_eq, not_and]
      intro hkind hsame
      exact hdigest (List.mem_map.2 ⟨other, hother, by rw [hkind, hsame]⟩)

end ArtifactTable

/-! ## The others that were collected since -/

section Others

variable [DecidableEq Content]

lemma mem_othersSince {collected : List (CollectedAt Content)} {c : CollectedAt Content}
    {content : Content} : content ∈ othersSince collected c ↔ ∃ other ∈ collected,
      other.kind = c.kind ∧ c.time ≤ other.time ∧ other.content ≠ c.content ∧
        other.content = content := by
  simp only [othersSince, List.mem_dedup, List.mem_map, List.mem_filter, Bool.and_eq_true,
    beq_iff_eq, decide_eq_true_eq, and_assoc]

/-- Contents of others, each listed once, are no more than were collected. -/
lemma le_length_othersSince {collected : List (CollectedAt Content)} {c : CollectedAt Content}
    {contents : List Content} (hnodup : contents.Nodup)
    (h : ∀ content ∈ contents, content ∈ othersSince collected c) :
    contents.length ≤ (othersSince collected c).length :=
  (hnodup.subperm h).length_le

/-- More collections, and an earlier time, give no fewer others. -/
lemma length_othersSince_mono {collected more : List (CollectedAt Content)}
    {c d : CollectedAt Content} (hkind : c.kind = d.kind) (hcontent : c.content = d.content)
    (htime : d.time ≤ c.time) :
    (othersSince collected c).length ≤ (othersSince (collected ++ more) d).length := by
  apply le_length_othersSince (c := d) (List.nodup_dedup _)
  intro content (hmem : content ∈ othersSince collected c)
  rw [mem_othersSince] at hmem ⊢
  obtain ⟨other, hother, hsame, hsince, hne, heq⟩ := hmem
  exact ⟨other, List.mem_append_left _ hother, hsame.trans hkind, htime.trans hsince,
    hcontent ▸ hne, heq⟩

end Others

/-! ## What a sweep does about replays -/

/-- A sweep counts as collected what it removes from the host, and stored all of it first. -/
structure ReplaySweep.Sound (now : Int) (sweep : ReplaySweep Id Content) : Prop where
  counted : sweep.tally.collected = sweep.removed.length
  collected : ∀ content ∈ sweep.removed, ∃ id, .collects .replay content id now ∈ sweep.stores

lemma ReplaySweep.Sound.collectReplay {now : Int} {sweep : ReplaySweep Id Content}
    (h : sweep.Sound now) (found : ReplayFound Id Content) :
    (collectReplay now sweep found).Sound now := by
  unfold OpenMcc.collectReplay
  split
  · exact ⟨h.counted, h.collected⟩
  · exact h
  · exact ⟨h.counted, h.collected⟩
  · exact ⟨h.counted, h.collected⟩
  · rename_i content _
    split
    · exact ⟨h.counted, h.collected⟩
    · rename_i id _
      have hstored : ∀ old ∈ sweep.removed, ∃ id', .collects .replay old id' now ∈
          sweep.stores ++ [.collects .replay content id now] := by
        intro old hold
        obtain ⟨id', hid'⟩ := h.collected old hold
        exact ⟨id', List.mem_append_left _ hid'⟩
      split
      · refine ⟨by simp [h.counted], fun old hold => ?_⟩
        obtain hold | hnew := List.mem_append.1 hold
        · exact hstored old hold
        · obtain rfl := List.mem_singleton.1 hnew
          exact ⟨id, List.mem_append_right _ (List.mem_singleton_self _)⟩
      · exact ⟨h.counted, hstored⟩

/-- What a sweep counts as collected is gone from the host, and each of it was stored. -/
lemma collectReplays_sound (now : Int) (names : Option (List (ReplayFound Id Content))) :
    (collectReplays now names).Sound now := by
  have hnone : ∀ content ∈ ([] : List Content), ∃ id,
      ArtifactEvent.collects .replay content id now ∈ ([] : List (ArtifactEvent Id Content)) :=
    fun content hmem => absurd hmem List.not_mem_nil
  obtain _ | found := names
  · exact ⟨rfl, hnone⟩
  · exact found.foldlRecOn (collectReplay now) ⟨rfl, hnone⟩ fun _ h found _ => h.collectReplay found

/-! ## What a run keeps -/

variable [DecidableEq Content] (digestOf : Content → Digest)

/-- When a row's content was collected, as its row has it. -/
def ArtifactRow.dated (row : ArtifactRow Id Content Digest) : CollectedAt Content where
  kind := row.kind
  content := row.content
  time := row.collectedAt

/-- What holds of the artifacts in every run, given what was collected in it. -/
structure ArtifactsSound (collected : List (CollectedAt Content))
    (s : ArtifactStore Id Content Digest) : Prop where
  /-- Each row is dated by a collection of its content. -/
  dated : ∀ row ∈ s.table.rows, row.digest = digestOf row.content ∧ row.dated ∈ collected
  issued : ∀ row ∈ s.table.rows, row.id ∈ s.issued
  selected : ∀ stale ∈ s.stale, ∀ id ∈ stale, id ∈ s.issued
  /-- A row that is to be deleted by rank has enough others above it. -/
  outranked : ∀ stale ∈ s.stale, ∀ row ∈ s.table.rows, row.id ∈ stale →
    artifactsKeptPerKind ≤ (othersSince collected row.dated).length

variable {digestOf} {collected : List (CollectedAt Content)} {s t : ArtifactStore Id Content Digest}

/-- What was collected keeps the count of others above a row. -/
lemma ArtifactsSound.outranked_append (h : ArtifactsSound digestOf collected s)
    (more : List (CollectedAt Content)) {stale : List Id} (hstale : stale ∈ s.stale)
    {row : ArtifactRow Id Content Digest} (hrow : row ∈ s.table.rows) (hid : row.id ∈ stale) :
    artifactsKeptPerKind ≤ (othersSince (collected ++ more) row.dated).length :=
  (h.outranked stale hstale row hrow hid).trans (length_othersSince_mono rfl rfl le_rfl)

/-- A delete keeps what holds of the artifacts. -/
lemma ArtifactsSound.keeping (h : ArtifactsSound digestOf collected s)
    (p : ArtifactRow Id Content Digest → Bool) :
    ArtifactsSound digestOf collected { s with table := s.table.keeping p } where
  dated row hrow := h.dated row (ArtifactTable.mem_keeping.1 hrow).1
  issued row hrow := h.issued row (ArtifactTable.mem_keeping.1 hrow).1
  selected := h.selected
  outranked stale hstale row hrow :=
    h.outranked stale hstale row (ArtifactTable.mem_keeping.1 hrow).1

variable [LinearOrder Id]

/-- The rows that rank above another of their kind are as many others, collected since. -/
lemma ArtifactsSound.outranked_of_beyondKept (h : ArtifactsSound digestOf collected s)
    {kind : InstanceArtifactKind} {row : ArtifactRow Id Content Digest} (hrow : row ∈ s.table.rows)
    (hid : row.id ∈ s.table.beyondKept kind artifactsKeptPerKind) :
    artifactsKeptPerKind ≤ (othersSince collected row.dated).length := by
  rw [ArtifactTable.beyondKept, List.mem_map] at hid
  obtain ⟨same, hdrop, hsame⟩ := hid
  have hsorted : (s.table.ofKind kind).Pairwise fun a b => ArtifactTable.newer a b = true :=
    List.pairwise_mergeSort ArtifactTable.newer_trans ArtifactTable.newer_total _
  have hrows := List.take_append_drop artifactsKeptPerKind (s.table.ofKind kind)
  have hmem : ∀ r ∈ s.table.ofKind kind, r ∈ s.table.rows ∧ r.kind = kind :=
    fun r hr => ArtifactTable.mem_ofKind.1 hr
  have hsame' : same = row :=
    ArtifactTable.eq_of_id (hmem same (List.mem_of_mem_drop hdrop)).1 hrow hsame
  rw [hsame'] at hdrop
  have hnodup : (s.table.ofKind kind).Nodup :=
    (List.mergeSort_perm _ _).nodup_iff.2 (s.table.ids.of_map _ |>.filter _)
  rw [← hrows, List.nodup_append] at hnodup
  rw [← hrows, List.pairwise_append] at hsorted
  have htaken : ∀ r ∈ (s.table.ofKind kind).take artifactsKeptPerKind,
      r ∈ s.table.rows ∧ r.kind = kind := fun r hr => hmem r (List.mem_of_mem_take hr)
  -- equal contents have equal digests, which a kind has once
  have hinj : ∀ a ∈ s.table.rows, ∀ b ∈ s.table.rows, a.kind = b.kind →
      a.content = b.content → a = b := by
    intro a ha b hb hkind hcontent
    apply ArtifactTable.eq_of_digest ha hb hkind
    rw [(h.dated a ha).1, (h.dated b hb).1, hcontent]
  have hlength : ((s.table.ofKind kind).take artifactsKeptPerKind).length =
      artifactsKeptPerKind := by
    have hlong := List.length_pos_of_mem hdrop
    rw [List.length_drop] at hlong
    rw [List.length_take]
    omega
  have hcontents : (((s.table.ofKind kind).take artifactsKeptPerKind).map
      ArtifactRow.content).Nodup := by
    apply List.Nodup.map_on _ hnodup.1
    intro a ha b hb heq
    exact hinj a (htaken a ha).1 b (htaken b hb).1
      ((htaken a ha).2.trans (htaken b hb).2.symm) heq
  rw [← hlength, ← List.length_map ArtifactRow.content]
  apply le_length_othersSince hcontents
  intro content hcontent
  rw [List.mem_map] at hcontent
  obtain ⟨above, habove, rfl⟩ := hcontent
  have hkind : above.kind = row.kind :=
    (htaken above habove).2.trans (hmem row (List.mem_of_mem_drop hdrop)).2.symm
  rw [mem_othersSince]
  refine ⟨above.dated, (h.dated above (htaken above habove).1).2, hkind,
    ArtifactTable.collectedAt_of_newer (hsorted.2.2 above habove row hdrop), ?_, rfl⟩
  intro heq
  have hrow' := hinj above (htaken above habove).1 row hrow hkind heq
  exact hnodup.2.2 above habove row hdrop hrow'

variable [DecidableEq Digest]

/-- A collection dates the content it stores. -/
lemma ArtifactsSound.collects (h : ArtifactsSound digestOf collected s)
    {kind : InstanceArtifactKind} {content : Content} {id : Id} {now : Int}
    (hstep : artifactStep digestOf s (.collects kind content id now) = some t) :
    ArtifactsSound digestOf (collected ++ [{ kind := kind, content := content, time := now }])
      t := by
  rw [artifactStep] at hstep
  split at hstep
  · cases hstep
  · rename_i hnew
    rw [Option.map_eq_some_iff] at hstep
    obtain ⟨inserted, hinsert, rfl⟩ := hstep
    have hrows : ∀ row ∈ inserted.1.rows,
        row = artifactRow digestOf kind content id now ∨ row ∈ s.table.rows := by
      intro row hrow
      obtain ⟨old, -, rfl⟩ | ⟨-, hadded⟩ := ArtifactTable.insertArtifact_cases hinsert
      · exact .inr hrow
      · rw [hadded] at hrow
        exact List.mem_cons.1 hrow
    refine ⟨fun row hrow => ?_, fun row hrow => ?_, fun stale hstale other hother => ?_,
      fun stale hstale row hrow hid => ?_⟩
    · obtain rfl | hold := hrows row hrow
      · exact ⟨rfl, List.mem_append_right _ (List.mem_singleton_self _)⟩
      · have hdated := h.dated row hold
        exact ⟨hdated.1, List.mem_append_left _ hdated.2⟩
    · obtain rfl | hold := hrows row hrow
      · exact List.mem_cons_self
      · exact List.mem_cons_of_mem _ (h.issued row hold)
    · exact List.mem_cons_of_mem _ (h.selected stale hstale other hother)
    · obtain rfl | hold := hrows row hrow
      · exact absurd (h.selected stale hstale id hid) hnew
      · exact h.outranked_append _ hstale hold hid

/-- Every event keeps what holds of the artifacts. -/
lemma ArtifactsSound.step {e : ArtifactEvent Id Content} (h : ArtifactsSound digestOf collected s)
    (hstep : artifactStep digestOf s e = some t) :
    ArtifactsSound digestOf (collected ++ artifactCollected s e) t := by
  cases e with
  | collects kind content id now => exact h.collects hstep
  | selects kind =>
    rw [artifactCollected, List.append_nil]
    obtain rfl := Option.some.inj hstep
    refine ⟨h.dated, h.issued, fun stale hstale id hid => ?_, fun stale hstale row hrow hid => ?_⟩
    · obtain hold | hnew := List.mem_append.1 hstale
      · exact h.selected stale hold id hid
      · rw [List.mem_singleton] at hnew
        rw [hnew, ArtifactTable.beyondKept, List.mem_map] at hid
        obtain ⟨row, hrow, rfl⟩ := hid
        exact h.issued row (ArtifactTable.mem_ofKind.1 (List.mem_of_mem_drop hrow)).1
    · obtain hold | hnew := List.mem_append.1 hstale
      · exact h.outranked stale hold row hrow hid
      · rw [List.mem_singleton] at hnew
        rw [hnew] at hid
        exact h.outranked_of_beyondKept hrow hid
  | deletes pruning =>
    rw [artifactCollected, List.append_nil]
    rw [artifactStep, Option.map_eq_some_iff] at hstep
    obtain ⟨stale, -, rfl⟩ := hstep
    have hkept := h.keeping fun row => !decide (row.id ∈ stale)
    refine ⟨hkept.dated, hkept.issued, fun other hother => ?_, fun other hother => ?_⟩
    · exact h.selected other (List.mem_of_mem_eraseIdx hother)
    · exact hkept.outranked other (List.mem_of_mem_eraseIdx hother)
  | prunes now =>
    rw [artifactCollected, List.append_nil]
    obtain rfl := Option.some.inj hstep
    exact h.keeping _

lemma artifactsSound_of_path {es : List (ArtifactEvent Id Content)}
    (hinit : (artifactSystem digestOf).init s)
    (hpath : (artifactSystem digestOf).Path TransitionSystem.free s es t) :
    ArtifactsSound digestOf ((artifactSystem digestOf).log artifactCollected s es) t := by
  obtain rfl := hinit
  refine hpath.logged (I := fun l s => ArtifactsSound digestOf l s) ?_
    fun l t e u h _ hstep => h.step hstep
  refine ⟨fun row hrow => ?_, fun row hrow => ?_, fun stale hstale => ?_, fun stale hstale => ?_⟩
  · exact absurd hrow List.not_mem_nil
  · exact absurd hrow List.not_mem_nil
  · exact absurd hstale List.not_mem_nil
  · exact absurd hstale List.not_mem_nil

/-! ## How long content stays -/

/-- The content is in a row dated no earlier than it was collected, unless enough others have been
collected since. -/
def Held (c : CollectedAt Content) (collected : List (CollectedAt Content))
    (s : ArtifactStore Id Content Digest) : Prop :=
  (othersSince collected c).length < artifactsKeptPerKind →
    ∃ row ∈ s.table.rows, row.kind = c.kind ∧ row.content = c.content ∧ c.time ≤ row.collectedAt

omit [DecidableEq Digest] in
lemma Held.retrievable {c : CollectedAt Content} (h : Held c collected s)
    (hfew : (othersSince collected c).length < artifactsKeptPerKind) :
    s.table.Retrievable c.kind c.content := by
  obtain ⟨row, hrow, hkind, hcontent, -⟩ := h hfew
  exact ArtifactTable.retrievable_iff.2 ⟨row, hrow, hkind, hcontent⟩

/-- Until the retention period has passed, every event keeps the content's row. -/
lemma Held.step {c : CollectedAt Content} {e : ArtifactEvent Id Content}
    (hsound : ArtifactsSound digestOf collected s) (h : Held c collected s)
    (hwithin : WithinRetention c s e) (hstep : artifactStep digestOf s e = some t) :
    Held c (collected ++ artifactCollected s e) t := by
  intro hfew
  have hmono : (othersSince collected c).length ≤
      (othersSince (collected ++ artifactCollected s e) c).length :=
    length_othersSince_mono rfl rfl le_rfl
  obtain ⟨row, hrow, hkind, hcontent, hsince⟩ := h (hmono.trans_lt hfew)
  refine ⟨row, ?_, hkind, hcontent, hsince⟩
  cases e with
  | collects kind content id now =>
    rw [artifactStep] at hstep
    split at hstep
    · cases hstep
    · rw [Option.map_eq_some_iff] at hstep
      obtain ⟨inserted, hinsert, rfl⟩ := hstep
      obtain ⟨old, -, rfl⟩ | ⟨-, hadded⟩ := ArtifactTable.insertArtifact_cases hinsert
      · exact hrow
      · exact hadded ▸ List.mem_cons_of_mem _ hrow
  | selects kind =>
    obtain rfl := Option.some.inj hstep
    exact hrow
  | deletes pruning =>
    rw [artifactStep, Option.map_eq_some_iff] at hstep
    obtain ⟨stale, hget, rfl⟩ := hstep
    have hstale : stale ∈ s.stale := List.mem_of_getElem? hget
    refine ArtifactTable.mem_keeping.2 ⟨hrow, ?_⟩
    rw [Bool.not_eq_true', decide_eq_false_iff_not]
    intro hid
    have hmany := hsound.outranked stale hstale row hrow hid
    have hmore : (othersSince collected row.dated).length ≤
        (othersSince (collected ++ artifactCollected s (.deletes pruning)) c).length :=
      length_othersSince_mono hkind hcontent hsince
    omega
  | prunes now =>
    obtain rfl := Option.some.inj hstep
    refine ArtifactTable.mem_keeping.2 ⟨hrow, ?_⟩
    rw [Bool.not_eq_true', decide_eq_false_iff_not]
    have hcutoff := hwithin now rfl
    omega

lemma Held.stays {c : CollectedAt Content} (hsound : ArtifactsSound digestOf collected s)
    (h : Held c collected s) : StaysRetrievable digestOf collected s c := by
  intro es t hpath hfew
  have hkept : ArtifactsSound digestOf
        (collected ++ (artifactSystem digestOf).log artifactCollected s es) t ∧
      Held c (collected ++ (artifactSystem digestOf).log artifactCollected s es) t := by
    refine hpath.logged
      (I := fun l s => ArtifactsSound digestOf (collected ++ l) s ∧ Held c (collected ++ l) s)
      ?_ fun l t e u h hwithin hstep => ?_
    · rw [List.append_nil]
      exact ⟨hsound, h⟩
    · rw [← List.append_assoc]
      exact ⟨h.1.step hstep, h.2.step h.1 hwithin hstep⟩
  exact hkept.2.retrievable hfew

omit [LinearOrder Id] [DecidableEq Digest] in
/-- A collection does not count among the others since. -/
lemma othersSince_concat_self (collected : List (CollectedAt Content)) (c : CollectedAt Content) :
    othersSince (collected ++ [c]) c = othersSince collected c := by
  simp [othersSince]

/-- What a collection leaves in the table, by what was stored under the digest before. -/
lemma held_of_collects {kind : InstanceArtifactKind} {content : Content} {id : Id} {now : Int}
    (hstep : artifactStep digestOf s (.collects kind content id now) = some t)
    (hstored : ∀ row, s.table.stored kind (digestOf content) = some row →
      row.content = content ∧ now ≤ row.collectedAt) (collected : List (CollectedAt Content)) :
    Held { kind := kind, content := content, time := now } collected t := by
  intro _
  rw [artifactStep] at hstep
  split at hstep
  · cases hstep
  · rw [Option.map_eq_some_iff] at hstep
    obtain ⟨inserted, hinsert, rfl⟩ := hstep
    obtain ⟨old, hold, rfl⟩ | ⟨-, hadded⟩ := ArtifactTable.insertArtifact_cases hinsert
    · have hrow := ArtifactTable.stored_eq_some hold
      have hdated := hstored old hold
      exact ⟨old, hrow.1, hrow.2.1, hdated.1, hdated.2⟩
    · refine ⟨artifactRow digestOf kind content id now, ?_, rfl, rfl, le_rfl⟩
      exact hadded ▸ List.mem_cons_self

omit [DecidableEq Content] in
/-- Content that is stored already leaves the table as it is. -/
lemma table_of_collects {kind : InstanceArtifactKind} {content : Content} {id : Id} {now : Int}
    {old : ArtifactRow Id Content Digest}
    (hstep : artifactStep digestOf s (.collects kind content id now) = some t)
    (hold : s.table.stored kind (digestOf content) = some old) : t.table = s.table := by
  rw [artifactStep] at hstep
  split at hstep
  · cases hstep
  · rw [Option.map_eq_some_iff] at hstep
    obtain ⟨inserted, hinsert, rfl⟩ := hstep
    obtain ⟨-, -, rfl⟩ | ⟨hnone, -⟩ := ArtifactTable.insertArtifact_cases hinsert
    · rfl
    · rw [artifactRow, hold] at hnone
      cases hnone

/-- The pruning at the end of the retention period leaves only rows dated no earlier. -/
lemma dated_of_staysRetrievable {c : CollectedAt Content}
    (h : StaysRetrievable digestOf collected s c)
    (hfew : (othersSince collected c).length < artifactsKeptPerKind) :
    ∃ row ∈ s.table.rows, row.kind = c.kind ∧ row.content = c.content ∧
      c.time ≤ row.collectedAt := by
  have hcutoff : cutoffFor (c.time + artifactRetentionDays * 24 * 60 * 60 * 1000)
      artifactRetentionDays = c.time := by
    simp only [cutoffFor]
    omega
  have hpath : (artifactSystem digestOf).Path (WithinRetention c) s
      [.prunes (c.time + artifactRetentionDays * 24 * 60 * 60 * 1000)]
      { s with table := s.table.deleteCollectedBefore (cutoffFor
        (c.time + artifactRetentionDays * 24 * 60 * 60 * 1000) artifactRetentionDays) } := by
    apply TransitionSystem.Path.single
    · intro now hnow
      rw [ArtifactEvent.prunes.injEq] at hnow
      exact hnow ▸ hcutoff.le
    · rfl
  have hleft := h _ _ hpath (by
    have hnone : (artifactSystem digestOf).log artifactCollected s
        [.prunes (c.time + artifactRetentionDays * 24 * 60 * 60 * 1000)] = [] := rfl
    rw [hnone, List.append_nil]
    exact hfew)
  rw [hcutoff, ArtifactTable.retrievable_iff] at hleft
  obtain ⟨row, hrow, hkind, hcontent⟩ := hleft
  obtain ⟨hmem, hkept⟩ := ArtifactTable.mem_keeping.1 hrow
  rw [Bool.not_eq_true', decide_eq_false_iff_not] at hkept
  exact ⟨row, hmem, hkind, hcontent, by omega⟩

end Table

/-- **How long collected content stays.**  In every run, content that is collected stays
retrievable until the retention period has passed, unless as many others of its kind as are kept
have been collected since, exactly where nothing is stored under its digest that is other content
or was collected earlier. -/
theorem stays_retrievable_iff {Id Content Digest : Type} [LinearOrder Id] [DecidableEq Content]
    [DecidableEq Digest] (digestOf : Content → Digest) {s t u : ArtifactStore Id Content Digest}
    {es : List (ArtifactEvent Id Content)} {kind : InstanceArtifactKind} {content : Content}
    {id : Id} {now : Int} (hinit : (artifactSystem digestOf).init s)
    (hpath : (artifactSystem digestOf).Path TransitionSystem.free s es t)
    (hstep : (artifactSystem digestOf).step t (.collects kind content id now) = some u) :
    StaysRetrievable digestOf ((artifactSystem digestOf).log artifactCollected s
        (es ++ [.collects kind content id now])) u
      { kind := kind, content := content, time := now } ↔
    artifactsKeptPerKind ≤ (othersSince ((artifactSystem digestOf).log artifactCollected s es)
        { kind := kind, content := content, time := now }).length ∨
      ∀ row, t.table.stored kind (digestOf content) = some row →
        row.content = content ∧ now ≤ row.collectedAt := by
  have hsound := artifactsSound_of_path hinit hpath
  have hlog : (artifactSystem digestOf).log artifactCollected s
      (es ++ [.collects kind content id now]) =
      (artifactSystem digestOf).log artifactCollected s es ++
        [{ kind := kind, content := content, time := now }] := by
    rw [hpath.log_append, TransitionSystem.log, hstep]
    rfl
  rw [hlog]
  constructor
  · intro h
    by_contra hnot
    rw [not_or, Nat.not_le] at hnot
    obtain ⟨hfew, hstored⟩ := hnot
    apply hstored
    intro old hold
    rw [← othersSince_concat_self] at hfew
    obtain ⟨row, hrow, hkind, hcontent, hsince⟩ := dated_of_staysRetrievable h hfew
    rw [table_of_collects hstep hold] at hrow
    obtain ⟨hmem, hkind', hdigest⟩ := ArtifactTable.stored_eq_some hold
    have hsame : row = old := by
      apply ArtifactTable.eq_of_digest hrow hmem (hkind.trans hkind'.symm)
      rw [hdigest, (hsound.dated row hrow).1, hcontent]
    exact hsame ▸ ⟨hcontent, hsince⟩
  · rintro (hmany | hstored)
    · intro fs v _ hfew
      have hmono : artifactsKeptPerKind ≤ (othersSince
          ((artifactSystem digestOf).log artifactCollected s es ++
            ([{ kind := kind, content := content, time := now }] ++
              (artifactSystem digestOf).log artifactCollected u fs))
          { kind := kind, content := content, time := now }).length :=
        hmany.trans (length_othersSince_mono rfl rfl le_rfl)
      rw [← List.append_assoc] at hmono
      omega
    · have hafter := hsound.collects hstep
      exact (held_of_collects hstep hstored _).stays hafter

/-- Bytes that are new to the table stay. -/
theorem stays_retrievable_iff_first : ∃ u : ArtifactStore Nat (List UInt8) (List UInt8),
    (artifactSystem fun bytes => bytes).exec { table := .empty, stale := [], issued := [] }
      [.collects .replay [80, 75] 1 0] = some u ∧
    StaysRetrievable (fun bytes : List UInt8 => bytes)
      [{ kind := .replay, content := [80, 75], time := 0 }] u
      { kind := .replay, content := [80, 75], time := 0 } := by
  refine ⟨_, rfl, ?_⟩
  apply (stays_retrievable_iff (fun bytes : List UInt8 => bytes) rfl .refl rfl).2
  refine .inr fun row hrow => ?_
  cases hrow

/-- Bytes that were collected twenty-nine days apart are gone a day and a millisecond after they
were last found on the host, with nothing else collected at all. -/
theorem recollected_bytes_are_dropped : ∃ s u : ArtifactStore Nat (List UInt8) (List UInt8),
    (artifactSystem fun bytes => bytes).init s ∧
    (artifactSystem fun bytes => bytes).exec s
      [.collects .replay [80, 75] 1 0, .collects .replay [80, 75] 2 2505600000] = some u ∧
    ¬StaysRetrievable (fun bytes : List UInt8 => bytes)
      ((artifactSystem fun bytes => bytes).log artifactCollected s
        [.collects .replay [80, 75] 1 0, .collects .replay [80, 75] 2 2505600000]) u
      { kind := .replay, content := [80, 75], time := 2505600000 } := by
  refine ⟨{ table := .empty, stale := [], issued := [] }, _, rfl, rfl, fun h => ?_⟩
  have hgone := h [.prunes 2592000001] _ (TransitionSystem.Path.single (by
    intro now hnow
    rw [ArtifactEvent.prunes.injEq] at hnow
    subst hnow
    decide) rfl) (by decide)
  rw [ArtifactTable.retrievable_iff] at hgone
  obtain ⟨row, hrow, -⟩ := hgone
  exact absurd hrow List.not_mem_nil

end OpenMcc
