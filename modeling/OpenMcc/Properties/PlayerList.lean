import Mathlib.Order.Nat
import OpenMcc.Construction.PlayerList

/-!
# No byte of the player list is lost or stored twice

What the sweeps store with an advance of the cursor is, chunk after chunk, the beginning of all that
was ever written to the file, and reaches at least to the last byte that an emptying took out of it.
This holds of any number of sweeps, wherever each of them stops, and whatever the client writes as
long as no window of the file is fingerprinted like the window at the same place of what was in the
file before (`writesFresh`).

The row is `Live`, when it stands in what is in the file now, or `Spent`, when the file was emptied
and no one has reset the cursor yet.  A sweep that finds another size or another fingerprint than its
cursor says has found a row that is spent, or one that has moved on since; and the fence of the
version lets it reset the first and not the second.
-/

namespace OpenMcc

namespace PlayerList

open TransitionSystem

variable {α δ : Type}

/-! ## Windows -/

lemma window_eq (content : List α) (stop : Nat) :
    window content stop = (content.take stop).drop (stop - fingerprintBytes) := by
  rw [window, readBytes, fingerprintWindow, List.drop_take]

lemma window_append {content : List α} {stop : Nat} (h : stop ≤ content.length) (bytes : List α) :
    window (content ++ bytes) stop = window content stop := by
  rw [window_eq, window_eq, List.take_append_of_le_length h]

@[simp]
lemma window_zero (content : List α) : window content 0 = [] := by
  rw [window_eq, List.take_zero, List.drop_nil]

lemma readBytes_append {content : List α} {skip count : Nat} (h : skip + count ≤ content.length)
    (bytes : List α) : readBytes (content ++ bytes) skip count = readBytes content skip count := by
  rw [readBytes, readBytes, List.drop_append_of_le_length (by omega),
    List.take_append_of_le_length (by rw [List.length_drop]; omega)]

lemma take_readBytes (content : List α) (skip count : Nat) :
    content.take skip ++ readBytes content skip count = content.take (skip + count) := by
  rw [readBytes, List.take_add]

/-! ## Where the row stands -/

section Records

variable (digest : List α → δ)

/-- The row stands in what is in the file now. -/
structure Live (record : Record α δ) : Prop where
  le : record.row.offset ≤ record.content.length
  fingerprint : record.row.fingerprint = digest (window record.content record.row.offset)
  stored : record.stored.flatten = record.past.flatten ++ record.content.take record.row.offset

/-- The file was emptied, and the row still stands at the end of what was in it. -/
structure Spent (record : Record α δ) (before : List α) : Prop where
  mem : before ∈ record.past
  pos : 0 < before.length
  offset : record.row.offset = before.length
  fingerprint : record.row.fingerprint = digest (window before before.length)
  stored : record.stored.flatten = record.past.flatten

/-- The row is live or spent, and tells which. -/
structure Sound (record : Record α δ) : Prop where
  row : Live digest record ∨ ∃ before, Spent digest record before
  fresh : Fresh digest record.past record.content

/-- The cursor was saved for what is in the file now, or for what was in it before. -/
def Known (record : Record α δ) (cursor : PlayerListCursor δ) : Prop :=
  cursor.offset = 0 ∨
    (Live digest record ∧ cursor.offset ≤ record.row.offset ∧
      cursor.fingerprint = digest (window record.content cursor.offset)) ∨
    ∃ before ∈ record.past, cursor.offset ≤ before.length ∧
      cursor.fingerprint = digest (window before cursor.offset)

variable {digest} {record : Record α δ} {before : List α} {cursor : PlayerListCursor δ}

/-- What the file has at a place is no longer what was there before. -/
lemma fresh_ne {past : List (List α)} {content : List α} (h : Fresh digest past content)
    (hmem : before ∈ past) {stop : Nat} (hpos : stop ≠ 0) (hbefore : stop ≤ before.length)
    (hcontent : stop ≤ content.length) :
    digest (window content stop) ≠ digest (window before stop) := by
  obtain ⟨i, rfl⟩ := Nat.exists_eq_succ_of_ne_zero hpos
  exact h before hmem i hbefore hcontent

lemma Spent.not_live (h : Spent digest record before)
    (hfresh : Fresh digest record.past record.content) : ¬ Live digest record := by
  intro hlive
  have hoffset := h.offset
  have hne := fresh_ne hfresh h.mem h.pos.ne' le_rfl (hoffset ▸ hlive.le)
  exact hne (by rw [← h.fingerprint, hlive.fingerprint, hoffset])

lemma Sound.spent (h : Sound digest record) (hlive : ¬ Live digest record) :
    ∃ before, Spent digest record before :=
  h.row.resolve_left hlive

/-! ## The client writes -/

lemma content_append (bytes : List α) : (record.append bytes).content = record.content ++ bytes :=
  rfl

lemma live_append (h : Live digest record) (bytes : List α) :
    Live digest (record.append bytes) where
  le := by
    rw [content_append, List.length_append]
    exact h.le.trans (Nat.le_add_right _ _)
  fingerprint := by
    rw [content_append]
    exact h.fingerprint.trans (congrArg digest (window_append h.le bytes).symm)
  stored := by
    rw [content_append]
    refine h.stored.trans (congrArg (record.past.flatten ++ ·) ?_)
    exact (List.take_append_of_le_length h.le).symm

lemma spent_append (h : Spent digest record before) (bytes : List α) :
    Spent digest (record.append bytes) before :=
  ⟨h.mem, h.pos, h.offset, h.fingerprint, h.stored⟩

lemma sound_append (h : Sound digest record) {bytes : List α}
    (hfresh : Fresh digest record.past (record.content ++ bytes)) :
    Sound digest (record.append bytes) where
  row := by
    obtain hlive | ⟨before, hspent⟩ := h.row
    · exact Or.inl (live_append hlive bytes)
    · exact Or.inr ⟨before, spent_append hspent bytes⟩
  fresh := hfresh

lemma live_of_append (h : Sound digest record) {bytes : List α}
    (hfresh : Fresh digest record.past (record.content ++ bytes))
    (hlive : Live digest (record.append bytes)) : Live digest record := by
  obtain hlive' | ⟨before, hspent⟩ := h.row
  · exact hlive'
  · exact absurd hlive ((spent_append hspent bytes).not_live hfresh)

lemma known_append (h : Known digest record cursor) (bytes : List α) :
    Known digest (record.append bytes) cursor := by
  obtain hzero | ⟨hlive, hle, heq⟩ | hpast := h
  · exact Or.inl hzero
  · refine Or.inr (Or.inl ⟨live_append hlive bytes, hle, ?_⟩)
    rw [content_append, window_append (hle.trans hlive.le), heq]
  · exact Or.inr (Or.inr hpast)

/-! ## The file is emptied -/

lemma fresh_nil (past : List (List α)) : Fresh digest past [] :=
  fun _ _ _ _ h => absurd h (Nat.not_lt_zero _)

lemma flatten_snoc (past : List (List α)) (content : List α) :
    (past ++ [content]).flatten = past.flatten ++ content := by
  rw [List.flatten_append, List.flatten_singleton]

lemma spent_truncate (h : Live digest record) (hoffset : record.row.offset = record.content.length)
    (hpos : record.row.offset ≠ 0) : Spent digest record.truncate record.content where
  mem := List.mem_append_right _ (List.mem_singleton_self _)
  pos := hoffset ▸ Nat.pos_of_ne_zero hpos
  offset := hoffset
  fingerprint := by
    rw [← hoffset]
    exact h.fingerprint
  stored := by
    refine h.stored.trans ?_
    rw [hoffset, List.take_length]
    exact (flatten_snoc _ _).symm

lemma sound_truncate (h : Live digest record) (hoffset : record.row.offset = record.content.length)
    (hpos : record.row.offset ≠ 0) : Sound digest record.truncate where
  row := Or.inr ⟨_, spent_truncate h hoffset hpos⟩
  fresh := fresh_nil _

lemma known_truncate (h : Known digest record cursor) : Known digest record.truncate cursor := by
  obtain hzero | ⟨hlive, hle, heq⟩ | ⟨before, hmem, hle, heq⟩ := h
  · exact Or.inl hzero
  · exact Or.inr (Or.inr ⟨_, List.mem_append_right _ (List.mem_singleton_self _),
      hle.trans hlive.le, heq⟩)
  · exact Or.inr (Or.inr ⟨before, List.mem_append_left _ hmem, hle, heq⟩)

/-! ## The row moves -/

lemma live_reset (h : Spent digest record before) : Live digest (record.reset digest) where
  le := Nat.zero_le _
  fingerprint := by
    show digest [] = digest (window _ 0)
    rw [window_zero]
  stored := by
    show record.stored.flatten = record.past.flatten ++ List.take 0 _
    rw [h.stored, List.take_zero, List.append_nil]

lemma known_reset (hlive : ¬ Live digest record) (h : Known digest record cursor) :
    Known digest (record.reset digest) cursor := by
  obtain hzero | ⟨hlive', -⟩ | hpast := h
  · exact Or.inl hzero
  · exact absurd hlive' hlive
  · exact Or.inr (Or.inr hpast)

/-- What a sweep may store behind the row. -/
structure Storable (digest : List α → δ) (record : Record α δ) (chunk : List α) (after : δ) :
    Prop where
  live : Live digest record
  le : record.row.offset + chunk.length ≤ record.content.length
  copied : chunk = readBytes record.content record.row.offset chunk.length
  fingerprint : after = digest (window record.content (record.row.offset + chunk.length))
  pos : 0 < chunk.length

variable {chunk : List α} {after : δ}

lemma live_advance (h : Storable digest record chunk after) :
    Live digest (record.advance chunk record.row.offset after) where
  le := h.le
  fingerprint := h.fingerprint
  stored := by
    show (record.stored ++ [chunk]).flatten = record.past.flatten ++
      record.content.take (record.row.offset + chunk.length)
    rw [flatten_snoc, h.live.stored, List.append_assoc, ← take_readBytes, ← h.copied]

lemma known_advance (h : Storable digest record chunk after) (hknown : Known digest record cursor) :
    Known digest (record.advance chunk record.row.offset after) cursor := by
  obtain hzero | ⟨-, hle, heq⟩ | hpast := hknown
  · exact Or.inl hzero
  · exact Or.inr (Or.inl ⟨live_advance h, hle.trans (Nat.le_add_right _ _), heq⟩)
  · exact Or.inr (Or.inr hpast)

end Records

/-! ## What a sweep relies on -/

section Sweeps

/-- The script has taken the fingerprint before the cursor. -/
def ReadStep.sawBefore : ReadStep → Bool
  | .chunk | .after | .done => true
  | .size | .unit | .auth | .before => false

/-- The script has copied the chunk. -/
def ReadStep.sawChunk : ReadStep → Bool
  | .after | .done => true
  | .size | .unit | .auth | .before | .chunk => false

variable (digest : List α → δ)

/-- A cursor that a sweep works from. -/
structure Held (record : Record α δ) (cursor : PlayerListCursor δ) : Prop where
  le : cursor.version ≤ record.row.version
  eq : cursor.version = record.row.version → cursor = record.row
  known : Known digest record cursor

/-- What the script that reads behind the row has seen so far. -/
structure Seen (record : Record α δ) (read : PlayerListRead α δ) : Prop where
  unread : read.next = .size → read.size = none
  /-- A live row lies within the size. -/
  least : ∀ size, read.size = some size → Live digest record → record.row.offset ≤ size
  /-- What lies behind the row is in the file still. -/
  most : ∀ size, read.size = some size →
    size ≤ record.row.offset ∨ size ≤ record.content.length
  /-- A live row has the fingerprint. -/
  before : read.next.sawBefore = true → Live digest record →
    read.before = record.row.fingerprint
  /-- A row that is not live does not have it, where the size is behind the row. -/
  other : read.next.sawBefore = true → ∀ size, read.size = some size →
    record.row.offset < size → ¬ Live digest record →
      record.row.offset ≠ 0 ∧ read.before ≠ record.row.fingerprint
  short : read.next.sawChunk = true → read.chunk.length ≤ read.count record.row.offset
  chunk : read.next.sawChunk = true → Live digest record →
    read.chunk = readBytes record.content record.row.offset (read.count record.row.offset)
  after : read.next = .done → Live digest record → read.after =
    digest (window record.content (record.row.offset + read.count record.row.offset))

/-- What holds of the record at a stage of a sweep. -/
def Stage.Agrees (record : Record α δ) : Stage α δ → Prop
  | .idle => True
  | .reading cursor again read =>
    Held digest record cursor ∧ (again = true → cursor.offset = 0) ∧
      (cursor.version = record.row.version → Seen digest record read)
  | .resetting cursor =>
    Held digest record cursor ∧ (cursor.version = record.row.version → ¬ Live digest record)
  | .storing cursor read =>
    Held digest record cursor ∧
      (cursor.version = record.row.version → Storable digest record read.chunk read.after)
  | .asking cursor => Held digest record cursor ∧ cursor.offset ≠ 0
  | .truncating cursor _ => Held digest record cursor ∧ cursor.offset ≠ 0
  | .closing cursor =>
    Held digest record cursor ∧ (cursor.version = record.row.version → ¬ Live digest record)

variable {digest} {record record' : Record α δ} {stage : Stage α δ}

/-- The row has moved on: the sweeps that have not are out of it. -/
lemma agrees_moved (hversion : record'.row.version = record.row.version + 1)
    (hknown : ∀ cursor, Known digest record cursor → Known digest record' cursor)
    (h : stage.Agrees digest record) : stage.Agrees digest record' := by
  have hheld : ∀ {cursor}, Held digest record cursor → Held digest record' cursor := by
    intro cursor hcursor
    have hle := hcursor.le
    exact ⟨by omega, fun heq => by omega, hknown _ hcursor.known⟩
  have hout : ∀ {cursor}, Held digest record cursor → cursor.version ≠ record'.row.version := by
    intro cursor hcursor
    have hle := hcursor.le
    omega
  cases stage with
  | idle => trivial
  | reading cursor again read => exact ⟨hheld h.1, h.2.1, fun heq => absurd heq (hout h.1)⟩
  | resetting cursor => exact ⟨hheld h.1, fun heq => absurd heq (hout h.1)⟩
  | storing cursor read => exact ⟨hheld h.1, fun heq => absurd heq (hout h.1)⟩
  | asking cursor => exact ⟨hheld h.1, h.2⟩
  | truncating cursor next => exact ⟨hheld h.1, h.2⟩
  | closing cursor => exact ⟨hheld h.1, fun heq => absurd heq (hout h.1)⟩

/-- The row is where it was, and the file has changed. -/
lemma agrees_kept (hrow : record'.row = record.row)
    (hknown : ∀ cursor, Known digest record cursor → Known digest record' cursor)
    (hlive : Live digest record' → Live digest record)
    (hseen : ∀ read, Seen digest record read → Seen digest record' read)
    (hstorable : ∀ chunk after, Storable digest record chunk after →
      Storable digest record' chunk after)
    (h : stage.Agrees digest record) : stage.Agrees digest record' := by
  have hheld : ∀ {cursor}, Held digest record cursor → Held digest record' cursor := by
    intro cursor hcursor
    exact ⟨hrow ▸ hcursor.le, hrow ▸ hcursor.eq, hknown _ hcursor.known⟩
  cases stage with
  | idle => trivial
  | reading cursor again read =>
    exact ⟨hheld h.1, h.2.1, fun heq => hseen _ (h.2.2 (heq.trans (by rw [hrow])))⟩
  | resetting cursor =>
    exact ⟨hheld h.1, fun heq hl => h.2 (heq.trans (by rw [hrow])) (hlive hl)⟩
  | storing cursor read =>
    exact ⟨hheld h.1, fun heq => hstorable _ _ (h.2 (heq.trans (by rw [hrow])))⟩
  | asking cursor => exact ⟨hheld h.1, h.2⟩
  | truncating cursor next => exact ⟨hheld h.1, h.2⟩
  | closing cursor =>
    exact ⟨hheld h.1, fun heq hl => h.2 (heq.trans (by rw [hrow])) (hlive hl)⟩

/-! ### While the client writes -/

lemma count_le {read : PlayerListRead α δ} {offset size : Nat} (hsize : read.size = some size)
    (h : offset ≤ size) : offset + read.count offset ≤ size := by
  rw [PlayerListRead.count, hsize]
  simp only [if_pos h]
  omega

lemma count_zero {read : PlayerListRead α δ} {offset : Nat}
    (h : ∀ size, read.size = some size → size ≤ offset) : read.count offset = 0 := by
  rw [PlayerListRead.count]
  cases hsize : read.size with
  | none => rfl
  | some size =>
    have hle := h size hsize
    simp only
    split
    · omega
    · rfl

/-- The chunk lies within what is in the file. -/
lemma Seen.within {read : PlayerListRead α δ} (h : Seen digest record read)
    (hlive : Live digest record) :
    record.row.offset + read.count record.row.offset ≤ record.content.length := by
  have hle := hlive.le
  by_cases hall : ∀ size, read.size = some size → size ≤ record.row.offset
  · rw [count_zero hall]
    exact hle
  · obtain ⟨size, hsize, hlt⟩ : ∃ size, read.size = some size ∧ record.row.offset < size := by
      simpa using hall
    have hcount := count_le hsize hlt.le
    have hmost := h.most size hsize
    omega

lemma seen_append (hsound : Sound digest record) {bytes : List α}
    (hfresh : Fresh digest record.past (record.content ++ bytes)) {read : PlayerListRead α δ}
    (h : Seen digest record read) : Seen digest (record.append bytes) read := by
  have hback := live_of_append hsound hfresh
  refine
    { unread := h.unread
      least := fun size hsize hlive => h.least size hsize (hback hlive)
      most := ?_
      before := fun hsaw hlive => h.before hsaw (hback hlive)
      other := fun hsaw size hsize hlt hlive =>
        h.other hsaw size hsize hlt fun hl => hlive (live_append hl bytes)
      short := h.short
      chunk := ?_
      after := ?_ }
  · intro size hsize
    rw [content_append, List.length_append]
    have hmost := h.most size hsize
    show size ≤ record.row.offset ∨ _
    omega
  · intro hsaw hlive
    rw [content_append]
    refine (h.chunk hsaw (hback hlive)).trans (readBytes_append ?_ bytes).symm
    exact h.within (hback hlive)
  · intro hdone hlive
    rw [content_append]
    refine (h.after hdone (hback hlive)).trans (congrArg digest (window_append ?_ bytes).symm)
    exact h.within (hback hlive)

lemma storable_append {chunk : List α} {after : δ} (h : Storable digest record chunk after)
    (bytes : List α) : Storable digest (record.append bytes) chunk after where
  live := live_append h.live bytes
  le := by
    rw [content_append, List.length_append]
    exact h.le.trans (Nat.le_add_right _ _)
  copied := by
    rw [content_append]
    exact h.copied.trans (readBytes_append h.le bytes).symm
  fingerprint := by
    rw [content_append]
    exact h.fingerprint.trans (congrArg digest (window_append h.le bytes).symm)
  pos := h.pos

lemma agrees_append (hsound : Sound digest record) {bytes : List α}
    (hfresh : Fresh digest record.past (record.content ++ bytes))
    (h : stage.Agrees digest record) : stage.Agrees digest (record.append bytes) := by
  have hrow : (record.append bytes).row = record.row := rfl
  exact agrees_kept hrow (fun _ hknown => known_append hknown bytes) (live_of_append hsound hfresh)
    (fun _ hseen => seen_append hsound hfresh hseen)
    (fun _ _ hstorable => storable_append hstorable bytes) h

/-! ### While the file is emptied -/

section Truncate

variable (hlive : Live digest record) (hoffset : record.row.offset = record.content.length)
  (hpos : record.row.offset ≠ 0)
include hlive hoffset hpos

lemma not_live_truncate : ¬ Live digest record.truncate :=
  (spent_truncate hlive hoffset hpos).not_live (fresh_nil _)

lemma seen_truncate {read : PlayerListRead α δ} (h : Seen digest record read) :
    Seen digest record.truncate read := by
  have hnot := not_live_truncate hlive hoffset hpos
  have hall : ∀ size, read.size = some size → size ≤ record.row.offset := by
    intro size hsize
    have hmost := h.most size hsize
    omega
  refine
    { unread := h.unread
      least := fun _ _ hl => absurd hl hnot
      most := fun size hsize => Or.inl (hall size hsize)
      before := fun _ hl => absurd hl hnot
      other := fun _ size hsize hlt _ => absurd (hall size hsize) (Nat.not_le.2 hlt)
      short := h.short
      chunk := fun _ hl => absurd hl hnot
      after := fun _ hl => absurd hl hnot }

lemma agrees_truncate (h : stage.Agrees digest record) :
    stage.Agrees digest record.truncate := by
  have hrow : record.truncate.row = record.row := rfl
  refine agrees_kept hrow (fun _ hknown => known_truncate hknown)
    (fun hl => absurd hl (not_live_truncate hlive hoffset hpos))
    (fun _ hseen => seen_truncate hlive hoffset hpos hseen) ?_ h
  intro chunk after hstorable
  have hle := hstorable.le
  have hchunk := hstorable.pos
  omega

end Truncate

/-! ### While the row moves -/

lemma agrees_reset (hlive : ¬ Live digest record) (h : stage.Agrees digest record) :
    stage.Agrees digest (record.reset digest) := by
  have hversion : (record.reset digest).row.version = record.row.version + 1 := rfl
  exact agrees_moved hversion (fun _ hknown => known_reset hlive hknown) h

lemma agrees_advance {chunk : List α} {after : δ} (hstorable : Storable digest record chunk after)
    (h : stage.Agrees digest record) :
    stage.Agrees digest (record.advance chunk record.row.offset after) := by
  have hversion : (record.advance chunk record.row.offset after).row.version =
      record.row.version + 1 := rfl
  exact agrees_moved hversion (fun _ hknown => known_advance hstorable hknown) h

lemma sound_reset (h : Sound digest record) (hlive : ¬ Live digest record) :
    Sound digest (record.reset digest) := by
  obtain ⟨before, hspent⟩ := h.spent hlive
  exact ⟨Or.inl (live_reset hspent), h.fresh⟩

lemma sound_advance {chunk : List α} {after : δ} (h : Sound digest record)
    (hstorable : Storable digest record chunk after) :
    Sound digest (record.advance chunk record.row.offset after) :=
  ⟨Or.inl (live_advance hstorable), h.fresh⟩

/-! ## The steps of a sweep -/

lemma held_row (h : Sound digest record) : Held digest record record.row where
  le := le_rfl
  eq := fun _ => rfl
  known := by
    obtain hlive | ⟨before, hspent⟩ := h.row
    · exact Or.inr (Or.inl ⟨hlive, le_rfl, hlive.fingerprint⟩)
    · refine Or.inr (Or.inr ⟨before, hspent.mem, hspent.offset.le, ?_⟩)
      rw [hspent.offset]
      exact hspent.fingerprint

lemma seen_start : Seen digest record (.start digest) where
  unread := fun _ => rfl
  least := fun _ hsize => absurd hsize.symm (Option.some_ne_none _)
  most := fun _ hsize => absurd hsize.symm (Option.some_ne_none _)
  before := fun hsaw => absurd hsaw Bool.false_ne_true
  other := fun hsaw => absurd hsaw Bool.false_ne_true
  short := fun hsaw => absurd hsaw Bool.false_ne_true
  chunk := fun hsaw => absurd hsaw Bool.false_ne_true
  after := fun hdone => ReadStep.noConfusion hdone

/-- **The script that reads.**  Each of its commands sees what the next ones rely on. -/
lemma seen_go {site : Site α δ} (hsound : Sound digest site.toRecord) {read : PlayerListRead α δ}
    (h : Seen digest site.toRecord read) :
    Seen digest site.toRecord (read.go digest site site.row.offset) := by
  cases hnext : read.next with
  | size =>
    have hgo : read.go digest site site.row.offset =
        { read with next := .unit, size := site.file.map List.length } := by
      rw [PlayerListRead.go, hnext]
    have hlength : ∀ size, site.file.map List.length = some size → size = site.content.length := by
      intro size hsize
      obtain ⟨content, hfile, rfl⟩ := Option.map_eq_some_iff.1 hsize
      rw [Record.content, hfile]
      rfl
    rw [hgo]
    exact
      { unread := fun hstep => ReadStep.noConfusion hstep
        least := fun size hsize hlive => hlength size hsize ▸ hlive.le
        most := fun size hsize => Or.inr (hlength size hsize).le
        before := fun hsaw => absurd hsaw Bool.false_ne_true
        other := fun hsaw => absurd hsaw Bool.false_ne_true
        short := fun hsaw => absurd hsaw Bool.false_ne_true
        chunk := fun hsaw => absurd hsaw Bool.false_ne_true
        after := fun hdone => ReadStep.noConfusion hdone }
  | unit =>
    have hgo : read.go digest site site.row.offset =
        { read with next := .auth, unit := site.units .client == .stopped } := by
      rw [PlayerListRead.go, hnext]
    rw [hgo]
    exact
      { unread := fun hstep => ReadStep.noConfusion hstep
        least := h.least
        most := h.most
        before := fun hsaw => absurd hsaw Bool.false_ne_true
        other := fun hsaw => absurd hsaw Bool.false_ne_true
        short := fun hsaw => absurd hsaw Bool.false_ne_true
        chunk := fun hsaw => absurd hsaw Bool.false_ne_true
        after := fun hdone => ReadStep.noConfusion hdone }
  | auth =>
    have hgo : read.go digest site site.row.offset =
        { read with next := .before, auth := site.units .signIn == .stopped } := by
      rw [PlayerListRead.go, hnext]
    rw [hgo]
    exact
      { unread := fun hstep => ReadStep.noConfusion hstep
        least := h.least
        most := h.most
        before := fun hsaw => absurd hsaw Bool.false_ne_true
        other := fun hsaw => absurd hsaw Bool.false_ne_true
        short := fun hsaw => absurd hsaw Bool.false_ne_true
        chunk := fun hsaw => absurd hsaw Bool.false_ne_true
        after := fun hdone => ReadStep.noConfusion hdone }
  | before =>
    have hgo : read.go digest site site.row.offset =
        { read with next := .chunk, before := digest (window site.content site.row.offset) } := by
      rw [PlayerListRead.go, hnext]
    rw [hgo]
    refine
      { unread := fun hstep => ReadStep.noConfusion hstep
        least := h.least
        most := h.most
        before := fun _ hlive => hlive.fingerprint.symm
        other := ?_
        short := fun hsaw => absurd hsaw Bool.false_ne_true
        chunk := fun hsaw => absurd hsaw Bool.false_ne_true
        after := fun hdone => ReadStep.noConfusion hdone }
    intro _ size hsize hlt hlive
    obtain ⟨before, hspent⟩ := hsound.spent hlive
    have hoffset := hspent.offset
    have hpos := hspent.pos
    have hmost := h.most size hsize
    have hwithin : before.length ≤ site.content.length := by omega
    refine ⟨by omega, ?_⟩
    rw [hspent.fingerprint, hoffset]
    exact fresh_ne hsound.fresh hspent.mem hpos.ne' le_rfl hwithin
  | chunk =>
    have hgo : read.go digest site site.row.offset =
        { read with
          next := .after
          chunk := readBytes site.content site.row.offset (read.count site.row.offset) } := by
      rw [PlayerListRead.go, hnext]
    have hsaw : read.next.sawBefore = true := by rw [hnext]; rfl
    rw [hgo]
    exact
      { unread := fun hstep => ReadStep.noConfusion hstep
        least := h.least
        most := h.most
        before := fun _ hlive => h.before hsaw hlive
        other := fun _ size hsize hlt hlive => h.other hsaw size hsize hlt hlive
        short := fun _ => List.length_take_le _ _
        chunk := fun _ _ => rfl
        after := fun hdone => ReadStep.noConfusion hdone }
  | after =>
    have hgo : read.go digest site site.row.offset =
        { read with
          next := .done
          after := digest
            (window site.content (site.row.offset + read.count site.row.offset)) } := by
      rw [PlayerListRead.go, hnext]
    have hsaw : read.next.sawBefore = true := by rw [hnext]; rfl
    have hchunk : read.next.sawChunk = true := by rw [hnext]; rfl
    rw [hgo]
    exact
      { unread := fun hstep => ReadStep.noConfusion hstep
        least := h.least
        most := h.most
        before := fun _ hlive => h.before hsaw hlive
        other := fun _ size hsize hlt hlive => h.other hsaw size hsize hlt hlive
        short := fun _ => h.short hchunk
        chunk := fun _ hlive => h.chunk hchunk hlive
        after := fun _ _ => rfl }
  | done =>
    have hgo : read.go digest site site.row.offset = read := by
      rw [PlayerListRead.go, hnext]
    rw [hgo]
    exact h

section Decisions

variable {cursor : PlayerListCursor δ} {read : PlayerListRead α δ}

lemma agrees_afterStore (h : Held digest record cursor) :
    (afterStore cursor read).Agrees digest record := by
  rw [afterStore]
  split
  · trivial
  · rename_i hopen
    split
    · exact ⟨h, fun hzero => hopen (Or.inl hzero)⟩
    · trivial

/-- What was read behind a row that has not moved can be stored, where it is stored at all. -/
lemma Seen.storable {again : Bool} {size : Nat} (h : Seen digest record read)
    (hdone : read.next = .done) (hagain : again = true → record.row.offset = 0)
    (hsize : read.size = some size)
    (hstay : ¬ (again = false ∧
      (size < record.row.offset ∨ read.before ≠ record.row.fingerprint)))
    (hlength : read.chunk.length = min (size - record.row.offset) maxArtifactBytes)
    (hpos : 0 < read.chunk.length) : Storable digest record read.chunk read.after := by
  have hlt : record.row.offset < size := by omega
  have hlive : Live digest record := by
    by_contra hlive
    obtain ⟨hoffset, hbefore⟩ := h.other (by rw [hdone]; rfl) size hsize hlt hlive
    cases again with
    | true => exact hoffset (hagain rfl)
    | false => exact hstay ⟨rfl, Or.inr hbefore⟩
  have hcount : read.count record.row.offset = read.chunk.length := by
    rw [PlayerListRead.count, hsize, hlength]
    simp only [if_pos hlt.le]
  have hwithin := h.within hlive
  have hcopied := h.chunk (by rw [hdone]; rfl) hlive
  have hafter := h.after hdone hlive
  rw [hcount] at hwithin hcopied hafter
  exact ⟨hlive, hwithin, hcopied, hafter, hpos⟩

lemma agrees_afterRead [DecidableEq δ] {again : Bool} (hdone : read.next = .done)
    (h : (Stage.reading cursor again read).Agrees digest record) :
    (afterRead cursor again read).Agrees digest record := by
  obtain ⟨hheld, hagain, hseen⟩ := h
  rw [afterRead]
  cases hsize : read.size with
  | none => trivial
  | some size =>
    simp only
    split
    · rename_i hother
      refine ⟨hheld, fun hversion hlive => ?_⟩
      have hseen := hseen hversion
      have hrow := hheld.eq hversion
      have hleast := hseen.least size hsize hlive
      have hbefore := hseen.before (by rw [hdone]; rfl) hlive
      rw [hrow] at hother
      obtain hlt | hne := hother.2
      · omega
      · exact hne hbefore
    · rename_i hstay
      split
      · trivial
      · rename_i hlength
        rw [not_not] at hlength
        split
        · rename_i hpos
          refine ⟨hheld, fun hversion => ?_⟩
          have hrow := hheld.eq hversion
          rw [hrow] at hstay hlength hagain
          exact (hseen hversion).storable hdone hagain hsize hstay hlength hpos
        · exact agrees_afterStore hheld

end Decisions

/-! ## The script that empties the file -/

/-- How many commands of the script have gone well. -/
def CutStep.rank : CutStep → Nat
  | .lock => 0
  | .unit => 1
  | .auth => 2
  | .size => 3
  | .fingerprint => 4
  | .cut => 5

variable (digest) in
/-- What the script has found, and what holds until it ends. -/
structure Checked (site : Site α δ) (sweep : Nat) (cursor : PlayerListCursor δ) (next : CutStep) :
    Prop where
  lock : 1 ≤ next.rank → site.lock = some sweep
  unit : 2 ≤ next.rank → site.units .client ≠ .running
  auth : 3 ≤ next.rank → site.units .signIn ≠ .running
  size : 4 ≤ next.rank → site.file.map List.length = some cursor.offset
  fingerprint : 5 ≤ next.rank → digest (window site.content cursor.offset) = cursor.fingerprint

variable (digest) in
/-- What holds of the host at a stage of a sweep. -/
def Stage.Checked (site : Site α δ) (sweep : Nat) : Stage α δ → Prop
  | .truncating cursor next => PlayerList.Checked digest site sweep cursor next
  | _ => True

variable {site site' : Site α δ} {sweep : Nat}

/-- The lock keeps what the script has found as it is. -/
lemma checked_of_lock (h : stage.Checked digest site sweep)
    (hlock : site.lock = some sweep → site'.lock = some sweep)
    (hunits : site.lock = some sweep → ∀ unit, site.units unit ≠ .running →
      site'.units unit ≠ .running)
    (hfile : site.lock = some sweep → site.units .client ≠ .running →
      site.units .signIn ≠ .running → site'.file = site.file) :
    stage.Checked digest site' sweep := by
  cases stage with
  | truncating cursor next =>
    have hsame : 4 ≤ next.rank → site'.file = site.file := fun hrank =>
      hfile (h.lock (by omega)) (h.unit (by omega)) (h.auth (by omega))
    exact
      { lock := fun hrank => hlock (h.lock hrank)
        unit := fun hrank => hunits (h.lock (by omega)) _ (h.unit hrank)
        auth := fun hrank => hunits (h.lock (by omega)) _ (h.auth hrank)
        size := fun hrank => (congrArg _ (hsame hrank)).trans (h.size hrank)
        fingerprint := fun hrank => by
          rw [Record.content, hsame (by omega)]
          exact h.fingerprint hrank }
  | _ => trivial

/-- **What is emptied.**  The file ends where the row stands. -/
lemma Checked.spent {cursor : PlayerListCursor δ} (h : Checked digest site sweep cursor .cut)
    (hsound : Sound digest site.toRecord) (hheld : Held digest site.toRecord cursor)
    (hpos : cursor.offset ≠ 0) :
    Live digest site.toRecord ∧ site.row.offset = site.content.length ∧ site.row.offset ≠ 0 := by
  have hlength : site.content.length = cursor.offset := by
    obtain ⟨content, hfile, hlength⟩ := Option.map_eq_some_iff.1 (h.size (by decide))
    rw [Record.content, hfile]
    exact hlength
  have hfingerprint := h.fingerprint (by decide)
  obtain hzero | ⟨hlive, hle, -⟩ | ⟨before, hmem, hle, heq⟩ := hheld.known
  · exact absurd hzero hpos
  · have hend := hlive.le
    exact ⟨hlive, by omega, by omega⟩
  · have hne := fresh_ne hsound.fresh hmem hpos hle hlength.ge
    exact absurd (hfingerprint.trans heq) hne

/-! ## One step of a sweep -/

variable (digest) in
/-- What a step of a sweep makes of the record. -/
inductive Changes (record : Record α δ) : Record α δ → Prop
  | none : Changes record record
  | reset (hlive : ¬ Live digest record) : Changes record (record.reset digest)
  | advance {chunk : List α} {after : δ} (h : Storable digest record chunk after) :
      Changes record (record.advance chunk record.row.offset after)
  | truncate (hlive : Live digest record) (hoffset : record.row.offset = record.content.length)
      (hpos : record.row.offset ≠ 0) : Changes record record.truncate

lemma Changes.sound (h : Changes digest record record') (hsound : Sound digest record) :
    Sound digest record' := by
  cases h with
  | none => exact hsound
  | reset hlive => exact sound_reset hsound hlive
  | advance hstorable => exact sound_advance hsound hstorable
  | truncate hlive hoffset hpos => exact sound_truncate hlive hoffset hpos

lemma Changes.agrees (h : Changes digest record record') (hagrees : stage.Agrees digest record) :
    stage.Agrees digest record' := by
  cases h with
  | none => exact hagrees
  | reset hlive => exact agrees_reset hlive hagrees
  | advance hstorable => exact agrees_advance hstorable hagrees
  | truncate hlive hoffset hpos => exact agrees_truncate hlive hoffset hpos hagrees

variable (digest) in
/-- What a step of a sweep comes to. -/
structure Stepped (site : Site α δ) (sweep : Nat) (next : Site α δ × Stage α δ) : Prop where
  changes : Changes digest site.toRecord next.1.toRecord
  agrees : next.2.Agrees digest next.1.toRecord
  checked : next.2.Checked digest next.1 sweep
  units : next.1.units = site.units
  /-- Another sweep that has the lock keeps it, and the file with it. -/
  lock : ∀ other, other ≠ sweep → site.lock = some other →
    next.1.lock = some other ∧ next.1.file = site.file

/-- The step leaves the site as it is. -/
lemma stepped_still (hagrees : stage.Agrees digest site.toRecord)
    (hchecked : stage.Checked digest site sweep) :
    Stepped digest site sweep (site, stage) where
  changes := .none
  agrees := hagrees
  checked := hchecked
  units := rfl
  lock := fun _ _ hlock => ⟨hlock, rfl⟩

/-- The step is about the row alone. -/
lemma stepped_row (hchanges : Changes digest site.toRecord record')
    (hfile : record'.file = site.file) (hagrees : stage.Agrees digest record')
    (hchecked : ∀ site : Site α δ, stage.Checked digest site sweep) :
    Stepped digest site sweep ({ site with toRecord := record' }, stage) where
  changes := hchanges
  agrees := hagrees
  checked := hchecked _
  units := rfl
  lock := fun _ _ hlock => ⟨hlock, hfile⟩

/-- The step gives the lock of the sweep back. -/
lemma stepped_release (hlock : site.lock = some sweep) :
    Stepped digest site sweep ({ site with lock := none }, .idle) where
  changes := .none
  agrees := trivial
  checked := trivial
  units := rfl
  lock := fun _ hne hother => absurd (Option.some.inj (hother.symm.trans hlock)) hne

variable [DecidableEq δ]

lemma stepped_cutStep (hsound : Sound digest site.toRecord) {cursor : PlayerListCursor δ}
    {next : CutStep} (hagrees : (Stage.truncating cursor next).Agrees digest site.toRecord)
    (h : Checked digest site sweep cursor next) :
    Stepped digest site sweep (cutStep digest site sweep cursor next) := by
  cases next with
  | lock =>
    rw [cutStep]
    split
    · rename_i hfree
      exact
        { changes := .none
          agrees := hagrees
          checked :=
            { lock := fun _ => rfl
              unit := fun hrank => absurd hrank (by decide)
              auth := fun hrank => absurd hrank (by decide)
              size := fun hrank => absurd hrank (by decide)
              fingerprint := fun hrank => absurd hrank (by decide) }
          units := rfl
          lock := fun _ _ hlock => absurd (hlock.symm.trans hfree) (Option.some_ne_none _) }
    · exact stepped_still trivial trivial
  | unit =>
    have hlock := h.lock (by decide)
    rw [cutStep]
    split
    · rename_i hunit
      refine stepped_still hagrees ?_
      exact
        { lock := fun _ => hlock
          unit := fun _ hrunning => UnitPhase.noConfusion (hunit.symm.trans hrunning)
          auth := fun hrank => absurd hrank (by decide)
          size := fun hrank => absurd hrank (by decide)
          fingerprint := fun hrank => absurd hrank (by decide) }
    · exact stepped_release hlock
  | auth =>
    have hlock := h.lock (by decide)
    rw [cutStep]
    split
    · rename_i hauth
      refine stepped_still hagrees ?_
      exact
        { lock := fun _ => hlock
          unit := fun _ => h.unit (by decide)
          auth := fun _ hrunning => UnitPhase.noConfusion (hauth.symm.trans hrunning)
          size := fun hrank => absurd hrank (by decide)
          fingerprint := fun hrank => absurd hrank (by decide) }
    · exact stepped_release hlock
  | size =>
    have hlock := h.lock (by decide)
    rw [cutStep]
    split
    · rename_i hsize
      refine stepped_still hagrees ?_
      exact
        { lock := fun _ => hlock
          unit := fun _ => h.unit (by decide)
          auth := fun _ => h.auth (by decide)
          size := fun _ => hsize
          fingerprint := fun hrank => absurd hrank (by decide) }
    · exact stepped_release hlock
  | fingerprint =>
    have hlock := h.lock (by decide)
    rw [cutStep]
    split
    · rename_i hfingerprint
      refine stepped_still hagrees ?_
      exact
        { lock := fun _ => hlock
          unit := fun _ => h.unit (by decide)
          auth := fun _ => h.auth (by decide)
          size := fun _ => h.size (by decide)
          fingerprint := fun _ => hfingerprint }
    · exact stepped_release hlock
  | cut =>
    obtain ⟨hlive, hoffset, hpos⟩ := h.spent hsound hagrees.1 hagrees.2
    rw [cutStep]
    refine
      { changes := .truncate hlive hoffset hpos
        agrees := ⟨?_, fun _ => not_live_truncate hlive hoffset hpos⟩
        checked := trivial
        units := rfl
        lock := ?_ }
    · exact ⟨hagrees.1.le, hagrees.1.eq, known_truncate hagrees.1.known⟩
    · intro other hne hother
      exact absurd (Option.some.inj (hother.symm.trans (h.lock (by decide)))) hne

/-- **One step of a sweep.** -/
lemma stepped_advance (hsound : Sound digest site.toRecord)
    (hagrees : stage.Agrees digest site.toRecord) (hchecked : stage.Checked digest site sweep)
    (answer : Bool) :
    Stepped digest site sweep (advance digest site sweep answer stage) := by
  cases stage with
  | idle =>
    rw [advance, cursorOf]
    split
    · exact stepped_still trivial trivial
    · rename_i cursor hcursor
      split at hcursor
      · obtain rfl := Option.some.inj hcursor
        refine stepped_still ⟨held_row hsound, fun hagain => ?_, fun _ => seen_start⟩ trivial
        exact absurd hagain Bool.false_ne_true
      · exact absurd hcursor.symm (Option.some_ne_none _)
  | reading cursor again read =>
    rw [advance]
    split
    · rename_i hdone
      refine stepped_still (agrees_afterRead hdone hagrees) ?_
      rw [afterRead, afterStore]
      repeat' split
      all_goals trivial
    · obtain ⟨hheld, hagain, hseen⟩ := hagrees
      refine stepped_still ⟨hheld, hagain, fun hversion => ?_⟩ trivial
      rw [hheld.eq hversion]
      exact seen_go hsound (hseen hversion)
  | resetting cursor =>
    obtain ⟨hheld, hlive⟩ := hagrees
    rw [advance, Record.resetCursor]
    split
    · exact stepped_still trivial trivial
    · rename_i record hreset
      split at hreset
      · rename_i hversion
        obtain rfl := Option.some.inj hreset
        have hnot := hlive hversion.symm
        have hrow : (⟨0, digest [], cursor.version + 1⟩ : PlayerListCursor δ) =
            (site.toRecord.reset digest).row := by
          rw [← hversion]
          rfl
        refine stepped_row (.reset hnot) rfl ?_ fun _ => trivial
        rw [hrow]
        exact ⟨held_row (sound_reset hsound hnot), fun _ => rfl, fun _ => seen_start⟩
      · exact absurd hreset.symm (Option.some_ne_none _)
  | storing cursor read =>
    obtain ⟨hheld, hbehind⟩ := hagrees
    rw [advance, Record.storeAndAdvance]
    split
    · exact stepped_still trivial trivial
    · rename_i record hstore
      split at hstore
      · rename_i hversion
        obtain rfl := Option.some.inj hstore
        have hstorable := hbehind hversion.symm
        obtain rfl := hheld.eq hversion.symm
        refine stepped_row (.advance hstorable) rfl ?_ fun _ => ?_
        · exact agrees_afterStore (held_row (sound_advance hsound hstorable))
        · rw [afterStore]
          repeat' split
          all_goals trivial
      · exact absurd hstore.symm (Option.some_ne_none _)
  | asking cursor =>
    rw [advance]
    cases answer with
    | false => exact stepped_still trivial trivial
    | true =>
      refine stepped_still hagrees ?_
      exact
        { lock := fun hrank => absurd hrank (by decide)
          unit := fun hrank => absurd hrank (by decide)
          auth := fun hrank => absurd hrank (by decide)
          size := fun hrank => absurd hrank (by decide)
          fingerprint := fun hrank => absurd hrank (by decide) }
  | truncating cursor next => exact stepped_cutStep hsound hagrees hchecked
  | closing cursor =>
    obtain ⟨hheld, hlive⟩ := hagrees
    rw [advance, Record.resetCursor]
    split
    · rename_i hversion
      exact stepped_row (.reset (hlive hversion.symm)) rfl trivial fun _ => trivial
    · exact stepped_row .none rfl trivial fun _ => trivial

end Sweeps

/-! ## The runs -/

section Runs

variable {digest : List α → δ} {s t : State α δ}

/-- What holds in every state that is reached. -/
structure Inv (digest : List α → δ) (s : State α δ) : Prop where
  sound : Sound digest s.site.toRecord
  agrees : ∀ sweep, (s.sweeps sweep).Agrees digest s.site.toRecord
  checked : ∀ sweep, (s.sweeps sweep).Checked digest s.site sweep

/-- A unit comes into a phase in which it does not write, or passes the lock while it is free. -/
lemma inv_setUnit (h : Inv digest s) {unit : UnitKind} {phase : UnitPhase}
    (hphase : phase ≠ .running ∨ s.site.lock = none) : Inv digest (s.setUnit unit phase) where
  sound := h.sound
  agrees := h.agrees
  checked sweep := by
    refine checked_of_lock (h.checked sweep) (fun hlock => hlock) ?_ fun _ _ _ => rfl
    intro hlock other hother
    have hne : phase ≠ .running :=
      hphase.resolve_right fun hnone => Option.some_ne_none _ (hlock.symm.trans hnone)
    show Function.update s.site.units unit phase other ≠ .running
    by_cases heq : other = unit
    · rw [heq, Function.update_self]
      exact hne
    · rw [Function.update_of_ne heq]
      exact hother

lemma inv_writes (h : Inv digest s) {bytes : List α} (hwriting : s.site.isWriting = true)
    (hfresh : Fresh digest s.site.past (s.site.content ++ bytes)) :
    Inv digest { s with site := { s.site with toRecord := s.site.append bytes } } where
  sound := sound_append h.sound hfresh
  agrees sweep := agrees_append h.sound hfresh (h.agrees sweep)
  checked sweep := by
    refine checked_of_lock (h.checked sweep) (fun hlock => hlock) (fun _ _ hne => hne) ?_
    intro _ hclient hsignIn
    rw [Site.isWriting, Bool.or_eq_true, beq_iff_eq, beq_iff_eq] at hwriting
    exact absurd hwriting (not_or.2 ⟨hclient, hsignIn⟩)

lemma inv_moves (h : Inv digest s) {sweep : Nat} {next : Site α δ × Stage α δ}
    (hstep : Stepped digest s.site sweep next) :
    Inv digest { site := next.1, sweeps := Function.update s.sweeps sweep next.2 } := by
  refine ⟨hstep.changes.sound h.sound, fun other => ?_, fun other => ?_⟩
  · show Stage.Agrees digest _ (Function.update s.sweeps sweep _ other)
    by_cases heq : other = sweep
    · rw [heq, Function.update_self]
      exact hstep.agrees
    · rw [Function.update_of_ne heq]
      exact hstep.changes.agrees (h.agrees other)
  · show Stage.Checked digest _ other (Function.update s.sweeps sweep _ other)
    by_cases heq : other = sweep
    · rw [heq, Function.update_self]
      exact hstep.checked
    · rw [Function.update_of_ne heq]
      refine checked_of_lock (h.checked other) (fun hlock => (hstep.lock other heq hlock).1) ?_
        fun hlock _ _ => (hstep.lock other heq hlock).2
      intro _ unit hne
      rw [hstep.units]
      exact hne

lemma inv_dies (h : Inv digest s) (sweep : Nat) :
    Inv digest
      { site := { s.site with lock := if s.site.lock = some sweep then none else s.site.lock }
        sweeps := Function.update s.sweeps sweep .idle } := by
  refine ⟨h.sound, fun other => ?_, fun other => ?_⟩
  · show Stage.Agrees digest _ (Function.update s.sweeps sweep _ other)
    by_cases heq : other = sweep
    · rw [heq, Function.update_self]
      trivial
    · rw [Function.update_of_ne heq]
      exact h.agrees other
  · show Stage.Checked digest _ other (Function.update s.sweeps sweep _ other)
    by_cases heq : other = sweep
    · rw [heq, Function.update_self]
      trivial
    · rw [Function.update_of_ne heq]
      refine checked_of_lock (h.checked other) ?_ (fun _ _ hne => hne) fun _ _ _ => rfl
      intro hlock
      have hne : ¬ s.site.lock = some sweep := fun hmine =>
        heq (Option.some.inj (hlock.symm.trans hmine))
      exact (if_neg hne).trans hlock

variable [DecidableEq δ]

lemma inv_init (h : (system digest).init s) :
    Inv digest s := by
  obtain ⟨hidle, -, hoffset, hrow, hpast, hstored⟩ := h
  refine ⟨⟨Or.inl ⟨?_, ?_, ?_⟩, ?_⟩, fun sweep => ?_, fun sweep => ?_⟩
  · rw [hoffset]
    exact Nat.zero_le _
  · rw [hoffset, window_zero, hrow]
  · rw [hoffset, hpast, hstored]
    rfl
  · rw [hpast]
    exact fun _ hmem => absurd hmem List.not_mem_nil
  · rw [hidle]
    trivial
  · rw [hidle]
    trivial

/-- **The invariant** is kept by every step that writes no window anew. -/
lemma inv_step {e : Event α} (h : Inv digest s) (hfresh : meets (writesFresh digest) s e)
    (hstep : (system digest).step s e = some t) : Inv digest t := by
  cases e with
  | starts unit =>
    obtain ⟨-, heq⟩ := Option.ite_none_right_eq_some.1 hstep
    obtain rfl := Option.some.inj heq
    exact inv_setUnit h (Or.inl UnitPhase.noConfusion)
  | passes unit =>
    obtain ⟨⟨-, hlock⟩, heq⟩ := Option.ite_none_right_eq_some.1 hstep
    obtain rfl := Option.some.inj heq
    exact inv_setUnit h (Or.inr hlock)
  | stops unit =>
    obtain rfl := Option.some.inj hstep
    exact inv_setUnit h (Or.inl UnitPhase.noConfusion)
  | writes bytes =>
    obtain ⟨hwriting, heq⟩ := Option.ite_none_right_eq_some.1 hstep
    obtain rfl := Option.some.inj heq
    exact inv_writes h hwriting (of_decide_eq_true hfresh)
  | moves sweep answer =>
    obtain rfl := Option.some.inj hstep
    exact inv_moves h (stepped_advance h.sound (h.agrees sweep) (h.checked sweep) answer)
  | dies sweep =>
    obtain rfl := Option.some.inj hstep
    exact inv_dies h sweep

/-- A bot before its first sweep. -/
def unswept : State Nat (List Nat) where
  site :=
    { file := none
      row := { offset := 0, fingerprint := [], version := 0 }
      past := []
      stored := []
      units := fun _ => .stopped
      lock := none }
  sweeps := fun _ => .idle

lemma unswept_init : (system (id : List Nat → List Nat)).init unswept :=
  ⟨fun _ => rfl, rfl, rfl, rfl, rfl, rfl⟩

/-- What a run leaves of the bytes. -/
def bytesAfter (es : List (Event Nat)) : Option (List (List Nat) × List Nat × List (List Nat)) :=
  ((system id).execUnder (writesFresh id) unswept es).map fun s =>
    (s.site.past, s.site.content, s.site.stored)

/-- The client writes while it runs. -/
def session (bytes : List Nat) : List (Event Nat) :=
  [.starts .client, .passes .client, .writes bytes, .stops .client]

/-- A sweep takes some steps. -/
def steps (sweep count : Nat) : List (Event Nat) := List.replicate count (.moves sweep true)

/-- **Why the windows matter.**  The client writes after an emptying what the row still stands
behind, and the next sweep goes on where the last one stopped. -/
theorem bytes_skipped_where_windows_repeat : ∃ s : State Nat (List Nat),
    (system id).Reachable free s ∧
      ¬ s.site.stored.flatten <+: s.site.past.flatten ++ s.site.content := by
  have hrun : (((system id).exec unswept (session [1, 2] ++ steps 0 16 ++ [.dies 0] ++
      session [1, 2, 3] ++ steps 1 9)).map fun s =>
        (s.site.past, s.site.content, s.site.stored)) =
      some ([[1, 2]], [1, 2, 3], [[1, 2], [3]]) := by decide
  obtain ⟨s, hs, hbytes⟩ := Option.map_eq_some_iff.1 hrun
  simp only [Prod.mk.injEq] at hbytes
  obtain ⟨hpast, hcontent, hstored⟩ := hbytes
  refine ⟨s, .of_exec unswept_init hs, ?_⟩
  rw [hpast, hcontent, hstored]
  decide

end Runs

end PlayerList

end OpenMcc
