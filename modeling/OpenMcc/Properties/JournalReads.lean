import Mathlib.Data.List.Nodup
import Mathlib.Data.List.TakeWhile
import OpenMcc.Construction.JournalReads
import OpenMcc.Properties.Journal

/-!
# What is read is what was printed

`journalBatch` gives back the lines of the entries that were printed and the cursor of the last one,
and a reading from the cursor of an entry starts with it.
-/

namespace OpenMcc

/-! ## Cursors hold no space -/

lemma mem_of_isCursorField {name : Char} {digitCount : Option Nat} {field : Text} {c : Char}
    (h : isCursorField name digitCount field = true) (hc : c ∈ field) :
    c = name ∨ c = '=' ∨ isHexDigit c = true := by
  unfold isCursorField at h
  split at h
  · next first digits =>
    simp only [Bool.and_eq_true, beq_iff_eq, List.all_eq_true] at h
    obtain ⟨⟨hname, hdigits⟩, -⟩ := h
    obtain rfl | hc := List.mem_cons.1 hc
    · exact .inl hname
    · obtain rfl | hc := List.mem_cons.1 hc
      · exact .inr (.inl rfl)
      · exact .inr (.inr (hdigits c hc))
  · cases h

lemma not_isSpace_of_isHexDigit {c : Char} (h : isHexDigit c = true) : Text.isSpace c = false := by
  simp only [isHexDigit, Text.isDigit, Bool.or_eq_true, Bool.and_eq_true, decide_eq_true_eq] at h
  have hrange : (48 ≤ c.toNat ∧ c.toNat ≤ 57) ∨ (97 ≤ c.toNat ∧ c.toNat ≤ 102) := h
  have h9 : ¬(9 ≤ c.toNat ∧ c.toNat ≤ 13) := by omega
  have h2000 : ¬(8192 ≤ c.toNat ∧ c.toNat ≤ 8202) := by omega
  simp only [Text.isSpace, Bool.or_eq_false_iff, Bool.and_eq_false_iff, beq_eq_false_iff_ne,
    decide_eq_false_iff_not]
  omega

lemma not_isSpace_of_isJournalCursor {value : Text} {c : Char}
    (h : isJournalCursor value = true) (hc : c ∈ value) : Text.isSpace c = false := by
  have hjoin : Text.join ";".toList (value.splitOn ';') = value := List.intercalate_splitOn ';'
  rw [← hjoin] at hc
  obtain hc | ⟨field, hfield, hc⟩ := Text.mem_join hc
  · obtain rfl := List.mem_singleton.1 hc
    rfl
  · unfold isJournalCursor at h
    split at h
    · next s i b m t x hsplit =>
      rw [hsplit] at hfield
      simp only [Bool.and_eq_true] at h
      obtain ⟨⟨⟨⟨⟨hs, hi⟩, hb⟩, hm⟩, ht⟩, hx⟩ := h
      have hchar : ∀ {name : Char} {digitCount : Option Nat},
          isCursorField name digitCount field = true → Text.isSpace name = false →
          Text.isSpace c = false := by
        intro name digitCount hisField hname
        obtain rfl | rfl | hhex := mem_of_isCursorField hisField hc
        · exact hname
        · rfl
        · exact not_isSpace_of_isHexDigit hhex
      simp only [List.mem_cons, List.not_mem_nil, or_false] at hfield
      obtain rfl | rfl | rfl | rfl | rfl | rfl := hfield
      · exact hchar hs rfl
      · exact hchar hi rfl
      · exact hchar hb rfl
      · exact hchar hm rfl
      · exact hchar ht rfl
      · exact hchar hx rfl
    · cases h

lemma trim_of_not_isSpace {t : Text} (h : ∀ c ∈ t, Text.isSpace c = false) : Text.trim t = t := by
  have hkept : ∀ u : Text, (∀ c ∈ u, Text.isSpace c = false) → u.dropWhile Text.isSpace = u := by
    intro u hu
    cases u with
    | nil => rfl
    | cons c rest => rw [List.dropWhile_cons_of_neg (by simp [hu c List.mem_cons_self])]
  rw [Text.trim, Text.trimStart, hkept t h, Text.trimEnd,
    hkept t.reverse fun c hc => h c (List.mem_reverse.1 hc), List.reverse_reverse]

lemma trim_ne_nil {t : Text} {c : Char} (hc : c ∈ t) (hspace : Text.isSpace c = false) :
    Text.trim t ≠ [] := by
  intro hnil
  have hstart : ∀ x ∈ Text.trimStart t, Text.isSpace x = true := by
    rw [Text.trim, Text.trimEnd, List.reverse_eq_nil_iff, List.dropWhile_eq_nil_iff] at hnil
    exact fun x hx => hnil x (List.mem_reverse.2 hx)
  have hfirst := List.head?_dropWhile_not Text.isSpace t
  cases hdropped : t.dropWhile Text.isSpace with
  | nil =>
    rw [List.dropWhile_eq_nil_iff] at hdropped
    rw [hdropped c hc] at hspace
    cases hspace
  | cons x rest =>
    rw [Text.trimStart, hdropped] at hstart
    rw [hdropped] at hfirst
    have hnot : Text.isSpace x = false := hfirst
    rw [hstart x List.mem_cons_self] at hnot
    cases hnot

/-! ## Batches -/

namespace JournalBatch

variable (batch : JournalBatch)

lemma read_note (note : JournalNote) : batch.read note.text = batch := by
  unfold read
  split
  · rfl
  · simp [note.notCursor, note.marked]

lemma read_line (entry : JournalEntry) :
    batch.read entry.line = { batch with lines := batch.lines ++ [entry.line] } := by
  have hcursor : cursorNote.isPrefixOf entry.line = false := by
    rw [Bool.eq_false_iff]
    intro hprefix
    have hmark : noteMark.isPrefixOf entry.line = true := by
      rw [List.isPrefixOf_iff_prefix] at hprefix ⊢
      exact List.IsPrefix.trans ⟨"cursor: ".toList, rfl⟩ hprefix
    rw [entry.unmarked] at hmark
    cases hmark
  simp [read, entry.notBlank, hcursor, entry.unmarked]

lemma read_printed (entry : JournalEntry) :
    entry.printed.foldl read batch = { batch with lines := batch.lines ++ [entry.line] } := by
  have hnotes : ∀ notes : List JournalNote,
      (notes.map JournalNote.text).foldl read batch = batch := by
    intro notes
    induction notes with
    | nil => rfl
    | cons note notes ih => rw [List.map_cons, List.foldl_cons, read_note, ih]
  rw [JournalEntry.printed, List.foldl_append, hnotes, List.foldl_cons, List.foldl_nil, read_line]

lemma read_entries (entries : List JournalEntry) :
    (entries.flatMap JournalEntry.printed).foldl read batch =
      { batch with lines := batch.lines ++ entries.map JournalEntry.line } := by
  induction entries generalizing batch with
  | nil => simp
  | cons entry entries ih =>
    rw [List.flatMap_cons, List.foldl_append, read_printed, ih]
    simp

end JournalBatch

lemma read_closingNote (batch : JournalBatch) (entries : List JournalEntry)
    (hcursor : batch.cursor = none) :
    batch.read (closingNote entries) =
      { batch with cursor := entries.getLast?.map JournalEntry.cursor } := by
  unfold closingNote
  cases entries.getLast? with
  | none =>
    have hread : batch.read "-- No entries --".toList = batch := by rfl
    rw [hread, Option.map_none, ← hcursor]
  | some last =>
    have hspace := fun c (hc : c ∈ last.cursor) => not_isSpace_of_isJournalCursor last.valid hc
    have hdash : '-' ∈ cursorNote ++ last.cursor := List.mem_append_left _ (by decide)
    have hnotBlank := trim_ne_nil hdash rfl
    have hprefix : cursorNote.isPrefixOf (cursorNote ++ last.cursor) = true := by
      rw [List.isPrefixOf_iff_prefix]
      exact List.prefix_append _ _
    simp only [JournalBatch.read, hnotBlank, if_false, hprefix, if_true, List.drop_left,
      trim_of_not_isSpace hspace, last.valid, Option.map_some]

lemma not_mem_closingNote (entries : List JournalEntry) : '\n' ∉ closingNote entries := by
  unfold closingNote
  cases entries.getLast? with
  | none => decide
  | some last =>
    intro hmem
    obtain hmem | hmem := List.mem_append.1 hmem
    · exact absurd hmem (by decide)
    · have hspace := not_isSpace_of_isJournalCursor last.valid hmem
      cases hspace

/-- **What is read is what was printed**: the lines of the entries, and the cursor of the last. -/
lemma journalBatch_printJournal (entries : List JournalEntry) :
    journalBatch (printJournal entries) =
      { lines := entries.map JournalEntry.line
        cursor := entries.getLast?.map JournalEntry.cursor } := by
  have hlines : Text.lines (printJournal entries) =
      entries.flatMap JournalEntry.printed ++ [closingNote entries] ++ [[]] := by
    refine Text.lines_join (by simp) fun piece hpiece => ?_
    simp only [List.mem_append, List.mem_flatMap, List.mem_singleton] at hpiece
    obtain (⟨entry, -, hpiece⟩ | rfl) | rfl := hpiece
    · obtain hpiece | hpiece := List.mem_append.1 hpiece
      · obtain ⟨note, -, rfl⟩ := List.mem_map.1 hpiece
        exact note.oneLine
      · obtain rfl := List.mem_singleton.1 hpiece
        exact entry.oneLine
    · exact not_mem_closingNote entries
    · exact List.not_mem_nil
  have hend : ∀ batch : JournalBatch, batch.read [] = batch := fun batch => rfl
  simp only [journalBatch, hlines, List.foldl_append, JournalBatch.read_entries, List.foldl_cons,
    List.foldl_nil, hend]
  rw [read_closingNote _ _ rfl]
  rfl

/-- The lines of a batch are parsed one by one. -/
lemma parseJournal_join (parseDate : Text → Option Int) {raws : List Text}
    (hraws : ∀ raw ∈ raws, '\n' ∉ raw) :
    parseJournal parseDate (Text.join "\n".toList raws) = parseLines parseDate raws := by
  cases raws with
  | nil => rfl
  | cons raw rest =>
    rw [parseJournal, Text.lines_join (List.cons_ne_nil raw rest) hraws, parseLines]

lemma parseJournal_lines (parseDate : Text → Option Int) (entries : List JournalEntry) :
    parseJournal parseDate (Text.join "\n".toList (entries.map JournalEntry.line)) =
      parseLines parseDate (entries.map JournalEntry.line) := by
  refine parseJournal_join parseDate fun raw hraw => ?_
  obtain ⟨entry, -, rfl⟩ := List.mem_map.1 hraw
  exact entry.oneLine

/-! ## Entries by their cursors -/

variable {entries : List JournalEntry} {cursor : Text} {i j : Nat}

lemma entryAt_getElem? (h : entryAt entries cursor = some i) :
    ∃ entry, entries[i]? = some entry ∧ entry.cursor = cursor := by
  rw [entryAt, List.findIdx?_eq_some_iff_getElem] at h
  obtain ⟨hlt, hcursor, -⟩ := h
  exact ⟨entries[i], List.getElem?_eq_getElem hlt, beq_iff_eq.1 hcursor⟩

lemma entryAt_lt (h : entryAt entries cursor = some i) : i < entries.length := by
  obtain ⟨entry, hentry, -⟩ := entryAt_getElem? h
  exact (List.getElem?_eq_some_iff.1 hentry).1

lemma entryAt_of_getElem? (hdistinct : DistinctCursors entries) {entry : JournalEntry}
    (h : entries[i]? = some entry) : entryAt entries entry.cursor = some i := by
  obtain ⟨hlt, hentry⟩ := List.getElem?_eq_some_iff.1 h
  rw [entryAt, List.findIdx?_eq_some_iff_getElem]
  refine ⟨hlt, by simp [hentry], fun k hk hsame => ?_⟩
  have hcursors : (entries.map JournalEntry.cursor)[k]? =
      (entries.map JournalEntry.cursor)[i]? := by
    have hkey : entries[k].cursor = entry.cursor := beq_iff_eq.1 hsame
    rw [List.getElem?_map, List.getElem?_map, h, List.getElem?_eq_getElem (by omega)]
    simp [hkey]
  have hlength : i < (entries.map JournalEntry.cursor).length := by
    rw [List.length_map]
    exact hlt
  exact List.nodup_iff_getElem?_ne_getElem?.1 hdistinct k i hk hlength hcursors

/-- An entry keeps its number when the journal grows. -/
lemma entryAt_append (h : entryAt entries cursor = some i) (more : List JournalEntry) :
    entryAt (entries ++ more) cursor = some i := by
  rw [entryAt] at h
  rw [entryAt, List.findIdx?_append, h, Option.some_or]

/-- The cursors of a journal stay distinct when an entry comes with a new one. -/
lemma DistinctCursors.concat (hdistinct : DistinctCursors entries) {entry : JournalEntry}
    (hnew : (entryAt entries entry.cursor).isNone = true) :
    DistinctCursors (entries ++ [entry]) := by
  have hfree : entry.cursor ∉ entries.map JournalEntry.cursor := by
    intro hmem
    obtain ⟨other, hother, hsame⟩ := List.mem_map.1 hmem
    rw [entryAt, Option.isNone_iff_eq_none, List.findIdx?_eq_none_iff] at hnew
    have hdiffers := hnew other hother
    simp [hsame] at hdiffers
  rw [DistinctCursors, List.map_append, List.nodup_append]
  refine ⟨hdistinct, List.nodup_singleton _, ?_⟩
  rintro cursor hcursor other hother rfl
  obtain rfl := List.mem_singleton.1 hother
  exact hfree hcursor

lemma dropWhile_eq_drop (h : entryAt entries cursor = some i) :
    (entries.dropWhile fun entry => entry.cursor != cursor) = entries.drop i := by
  induction entries generalizing i with
  | nil => simp [entryAt] at h
  | cons entry entries ih =>
    rw [entryAt, List.findIdx?_cons] at h
    by_cases hsame : entry.cursor = cursor
    · simp only [hsame, beq_self_eq_true, if_true, Option.some.injEq] at h
      rw [← h, List.drop_zero, List.dropWhile_cons_of_neg (by simp [hsame])]
    · have hdiffers : (entry.cursor == cursor) = false := by simpa using hsame
      rw [hdiffers, if_neg Bool.false_ne_true] at h
      obtain ⟨k, hk, rfl⟩ := Option.map_eq_some_iff.1 h
      rw [List.dropWhile_cons_of_pos (by simp [hsame]), List.drop_succ_cons]
      exact ih hk

/-- A command with the cursor of an entry is answered from that entry on. -/
lemma journalctl_resumes (h : entryAt entries cursor = some i) (window lines : Nat) :
    journalctl entries window (.resumes cursor lines) = (entries.drop i).take lines := by
  rw [journalctl, dropWhile_eq_drop h]

/-- The last entry of a batch. -/
lemma getLast?_batch (hi : i < entries.length) {lines : Nat} (hlines : 0 < lines) :
    ((entries.drop i).take lines).getLast? = entries[min (i + lines) entries.length - 1]? := by
  rw [List.getLast?_eq_getElem?, List.length_take, List.length_drop,
    List.getElem?_take_of_lt (by omega), List.getElem?_drop]
  congr 1
  omega

lemma journalResume_of_entry (h : entryAt entries cursor = some i) :
    journalResume (some cursor) = some cursor := by
  obtain ⟨entry, -, rfl⟩ := entryAt_getElem? h
  simp [journalResume, entry.valid]

/-- Nothing is asked of a drain that is not under way. -/
lemma no_drain {δ : Type*} {d : δ} {P : Prop} (h : (none : Option δ) = some d) : P :=
  absurd h (by simp)

/-- The cursor of an entry of a small journal. -/
def smallCursor (digit : Char) : Text :=
  "s=".toList ++ List.replicate 32 '0' ++ ";i=".toList ++ [digit] ++ ";b=".toList ++
    List.replicate 32 '0' ++ ";m=0;t=0;x=0".toList

/-- A client that starts. -/
def startingEntry : JournalEntry where
  notes := []
  line := "2024-01-01T00:00:00+0000 box mcc[42]: Starting".toList
  cursor := smallCursor '1'
  oneLine := by decide +kernel
  notBlank := by decide +kernel
  unmarked := by decide +kernel
  valid := by decide +kernel

end OpenMcc
