import OpenMcc.Construction.ConnectionReads
import OpenMcc.Properties.JournalReads

/-!
# The changes recorded of a bot's connection

The polls record the changes of a single pass over the journal, but for the reason of a
disconnection: where the line that gives it is not read together with the disconnection, the change
is recorded without it.  That happens when a poll ends between the two
(`polls_follow_iff_readsReasons`), and when the line that a full batch is read beyond its end does
not parse (`drains_exactly_iff`).
-/

namespace OpenMcc

open TransitionSystem

variable {parseDate : Text → Option Int} {toLowerCase : Text → Text} {maxLines : Nat}

/-! ## Signals before a line that follows -/

/-- The signals of lines, the last of which is followed by this line. -/
def signalsBefore (following : Option JournalLine) : List JournalLine → List ConnectionSignal
  | [] => []
  | line :: rest =>
    (lineSignal line (rest.head?.or following)).toList ++ signalsBefore following rest

lemma signalsBefore_none (lines : List JournalLine) :
    signalsBefore none lines = connectionSignals lines := by
  induction lines with
  | nil => rfl
  | cons line rest ih => rw [signalsBefore, connectionSignals, Option.or_none, ih]

lemma signalsBefore_append (following : Option JournalLine) (first second : List JournalLine) :
    signalsBefore following (first ++ second) =
      signalsBefore (second.head?.or following) first ++ signalsBefore following second := by
  induction first with
  | nil => rfl
  | cons line rest ih =>
    rw [List.cons_append, signalsBefore, signalsBefore, ih, List.head?_append, Option.or_assoc,
      List.append_assoc]

lemma connectionSignals_append (first second : List JournalLine) :
    connectionSignals (first ++ second) =
      signalsBefore second.head? first ++ connectionSignals second := by
  rw [← signalsBefore_none, signalsBefore_append, Option.or_none, signalsBefore_none]

lemma signalsBefore_concat (following : Option JournalLine) (lines : List JournalLine)
    (last : JournalLine) :
    signalsBefore following (lines ++ [last]) =
      signalsBefore (some last) lines ++ (lineSignal last following).toList := by
  rw [signalsBefore_append, signalsBefore, signalsBefore, List.append_nil]
  rfl

/-- A disconnection without a reason of its own takes that of the line that follows. -/
lemma lineSignal_of_asksNextLine {line : JournalLine} (h : asksNextLine line = true)
    (following : Option JournalLine) :
    lineSignal line following =
      some (.disconnected line.time line.pid (followingReason line following)) := by
  simp only [asksNextLine, Bool.and_eq_true, Bool.not_eq_true', beq_iff_eq] at h
  obtain ⟨⟨⟨hstopped, hjoined⟩, hgone⟩, htrailing⟩ := h
  simp [lineSignal, hstopped, hjoined, hgone, htrailing]

/-! ## Changes from a state -/

lemma changesFromSignals_append (state : ConnectionState) (first second : List ConnectionSignal) :
    changesFromSignals toLowerCase state (first ++ second) =
      changesFromSignals toLowerCase state first ++
        changesFromSignals toLowerCase (stateAfter toLowerCase state first) second := by
  induction first generalizing state with
  | nil => rfl
  | cons signal rest ih =>
    rw [List.cons_append, changesFromSignals, changesFromSignals, stateAfter, changesFromSignals]
    cases changeFromSignal toLowerCase state signal with
    | none => exact ih state
    | some change =>
      simp only [ih change.state, List.cons_append, stateAfter, List.getLast?_cons,
        Option.map_some, Option.getD_some]
      cases (changesFromSignals toLowerCase change.state rest).getLast? with
      | none => rfl
      | some last => rfl

lemma stateAfter_append (state : ConnectionState) (first second : List ConnectionSignal) :
    stateAfter toLowerCase state (first ++ second) =
      stateAfter toLowerCase (stateAfter toLowerCase state first) second := by
  rw [stateAfter, changesFromSignals_append, List.getLast?_append]
  conv_rhs => rw [stateAfter]
  cases (changesFromSignals toLowerCase (stateAfter toLowerCase state first) second).getLast? with
  | none => rfl
  | some last => rfl

/-- The changes of one more line. -/
lemma changes_concat (state : ConnectionState) (following : Option JournalLine)
    (lines : List JournalLine) (last : JournalLine) :
    changesFromSignals toLowerCase state (signalsBefore following (lines ++ [last])) =
      changesFromSignals toLowerCase state (signalsBefore (some last) lines) ++
        changesFromSignals toLowerCase
          (stateAfter toLowerCase state (signalsBefore (some last) lines))
          (lineSignal last following).toList := by
  rw [signalsBefore_concat, changesFromSignals_append]

/-- The changes of a disconnection that asks the next line. -/
lemma changes_disconnected (state : ConnectionState) (time : Int) (pid : Text)
    (reason : Option Text) :
    changesFromSignals toLowerCase state [.disconnected time pid reason] =
      if disconnects state then [{
        state := .interrupted
        time := time
        pid := some pid
        event := some (if looksLikeKick toLowerCase reason then .instanceKicked
          else .instanceConnectionLost)
        reason := reason }]
      else [] := by
  cases state <;> rfl

/-- A list of lines is empty or has a last line. -/
lemma lines_cases (lines : List JournalLine) :
    lines = [] ∨ ∃ rest last, lines = rest ++ [last] := by
  obtain rfl | ⟨rest, last, rfl⟩ := List.eq_nil_or_concat lines
  · exact .inl rfl
  · exact .inr ⟨rest, last, by simp⟩

/-- The line that follows has no part in how many changes there are, nor in the states they
lead to. -/
lemma changes_states (state : ConnectionState) (lines : List JournalLine)
    (following other : Option JournalLine) :
    (changesFromSignals toLowerCase state (signalsBefore following lines)).map
        ConnectionChange.state =
      (changesFromSignals toLowerCase state (signalsBefore other lines)).map
        ConnectionChange.state := by
  obtain rfl | ⟨rest, last, rfl⟩ := lines_cases lines
  · rfl
  · rw [changes_concat, changes_concat, List.map_append, List.map_append]
    congr 1
    by_cases hasks : asksNextLine last = true
    · rw [lineSignal_of_asksNextLine hasks, lineSignal_of_asksNextLine hasks, Option.toList_some,
        Option.toList_some, changes_disconnected, changes_disconnected]
      split
      · rfl
      · rfl
    · rw [lineSignal_eq_iff.2 fun h => absurd h hasks]

lemma length_changes (state : ConnectionState) (lines : List JournalLine)
    (following other : Option JournalLine) :
    (changesFromSignals toLowerCase state (signalsBefore following lines)).length =
      (changesFromSignals toLowerCase state (signalsBefore other lines)).length := by
  rw [← List.length_map ConnectionChange.state, changes_states state lines following other,
    List.length_map]

lemma stateAfter_signalsBefore (state : ConnectionState) (lines : List JournalLine)
    (following : Option JournalLine) :
    stateAfter toLowerCase state (signalsBefore following lines) =
      stateAfter toLowerCase state (connectionSignals lines) := by
  rw [← signalsBefore_none, stateAfter, stateAfter, ← List.getLast?_map, ← List.getLast?_map,
    changes_states state lines following none]

/-- **What the line that follows decides** of the changes: the reason of the last of them. -/
lemma changes_none_iff (state : ConnectionState) (lines : List JournalLine)
    (following : Option JournalLine) :
    changesFromSignals toLowerCase state (connectionSignals lines) =
        changesFromSignals toLowerCase state (signalsBefore following lines) ↔
      asksBeyond toLowerCase state lines following = false := by
  rw [← signalsBefore_none]
  obtain rfl | ⟨rest, last, rfl⟩ := lines_cases lines
  · exact iff_of_true rfl rfl
  · rw [changes_concat, changes_concat, List.append_cancel_left_eq, asksBeyond,
      List.getLast?_concat, List.dropLast_concat, stateAfter_signalsBefore]
    by_cases hasks : asksNextLine last = true
    · have hnone : followingReason last none = none := rfl
      rw [lineSignal_of_asksNextLine hasks, lineSignal_of_asksNextLine hasks, Option.toList_some,
        Option.toList_some, changes_disconnected, changes_disconnected, hnone, Option.any_some,
        hasks]
      split
      · next hdisconnects =>
        cases followingReason last following with
        | none => simp
        | some reason => simp [hdisconnects]
      · next hkept => simp [hkept]
    · have hsame : lineSignal last none = lineSignal last following :=
        lineSignal_eq_iff.2 fun h => absurd h hasks
      simp [hsame, hasks]

/-- A disconnection that asks beyond the lines is a change. -/
lemma changes_ne_nil {state : ConnectionState} {lines : List JournalLine}
    {following : Option JournalLine} (h : asksBeyond toLowerCase state lines following = true) :
    changesFromSignals toLowerCase state (connectionSignals lines) ≠ [] := by
  obtain rfl | ⟨rest, last, rfl⟩ := lines_cases lines
  · cases h
  · rw [asksBeyond, List.getLast?_concat, List.dropLast_concat, Option.any_some, Bool.and_eq_true,
      Bool.and_eq_true] at h
    obtain ⟨⟨hasks, -⟩, hdisconnects⟩ := h
    rw [← signalsBefore_none, changes_concat, stateAfter_signalsBefore,
      lineSignal_of_asksNextLine hasks, Option.toList_some, changes_disconnected,
      if_pos hdisconnects]
    simp

lemma asksBeyond_append (state : ConnectionState) (first : List JournalLine)
    {second : List JournalLine} (hsecond : second ≠ []) (following : Option JournalLine) :
    asksBeyond toLowerCase state (first ++ second) following =
      asksBeyond toLowerCase (stateAfter toLowerCase state (connectionSignals first)) second
        following := by
  obtain rfl | ⟨rest, last, rfl⟩ := lines_cases second
  · exact absurd rfl hsecond
  · rw [asksBeyond, asksBeyond, ← List.append_assoc, List.getLast?_concat, List.getLast?_concat,
      List.dropLast_concat, List.dropLast_concat, connectionSignals_append, stateAfter_append,
      stateAfter_signalsBefore]

/-- A signal that is read again makes no change, whatever its reason is now. -/
lemma changes_again (state : ConnectionState) (line : JournalLine)
    (following other : Option JournalLine) :
    changesFromSignals toLowerCase
      (stateAfter toLowerCase state (lineSignal line following).toList)
      (lineSignal line other).toList = [] := by
  unfold lineSignal
  by_cases hstopped : Text.includes (withoutPrefix line.message) stoppedMarker = true
  · simp only [hstopped, if_true, Option.toList_some]
    cases state <;> rfl
  by_cases hjoined : Text.includes (withoutPrefix line.message) joinedMarker = true
  · simp only [hstopped, hjoined, if_true]
    cases state <;> rfl
  by_cases hgone : Text.includes (withoutPrefix line.message) disconnectedMarker = true
  · simp only [hstopped, hjoined, hgone, if_false, Bool.not_true, Bool.false_eq_true,
      Option.toList_some]
    cases state <;> rfl
  · simp [hstopped, hjoined, hgone, changesFromSignals]

/-- A line that is read again after the lines up to it makes no change. -/
lemma changes_reread (state : ConnectionState) (lines rest : List JournalLine) (line : JournalLine)
    (following : Option JournalLine) :
    changesFromSignals toLowerCase
        (stateAfter toLowerCase state (connectionSignals (lines ++ [line])))
        (signalsBefore following (line :: rest)) =
      changesFromSignals toLowerCase
        (stateAfter toLowerCase state (connectionSignals (lines ++ [line])))
        (signalsBefore following rest) := by
  have hagain : changesFromSignals toLowerCase
      (stateAfter toLowerCase state (connectionSignals (lines ++ [line])))
      (lineSignal line (rest.head?.or following)).toList = [] := by
    rw [← signalsBefore_none, signalsBefore_concat, stateAfter_append]
    exact changes_again _ line _ _
  have hkept : ∀ state signals, changesFromSignals toLowerCase state signals = [] →
      stateAfter toLowerCase state signals = state := by
    intro state signals hnone
    rw [stateAfter, hnone]
    rfl
  rw [signalsBefore, changesFromSignals_append, hagain, hkept _ _ hagain, List.nil_append]

lemma parseLines_append (first second : List Text) :
    parseLines parseDate (first ++ second) =
      parseLines parseDate first ++ parseLines parseDate second :=
  List.filterMap_append

lemma parseLines_cons (raw : Text) (rest : List Text) :
    parseLines parseDate (raw :: rest) =
      (parseCandidate parseDate raw).toList ++ parseLines parseDate rest := by
  rw [parseLines, List.filterMap_cons]
  cases parseCandidate parseDate raw with
  | none => rfl
  | some line => rfl

lemma parseLines_single (raw : Text) :
    parseLines parseDate [raw] = (parseCandidate parseDate raw).toList := by
  rw [parseLines_cons]
  exact List.append_nil _

lemma head?_toList {α : Type*} (line : Option α) : line.toList.head? = line := by
  cases line with
  | none => rfl
  | some line => rfl

/-- The first line of a reading is that of the cursor, which may have been read already. -/
lemma changes_from_cursor (state : ConnectionState) (raws : List Text)
    (following : Option JournalLine) {a d n : Nat} (hd : d = a ∨ d = a + 1 ∧ 0 < n)
    (ha : a < raws.length) :
    changesFromSignals toLowerCase
        (stateAfter toLowerCase state (connectionSignals (parseLines parseDate (raws.take d))))
        (signalsBefore following (parseLines parseDate ((raws.drop a).take n))) =
      changesFromSignals toLowerCase
        (stateAfter toLowerCase state (connectionSignals (parseLines parseDate (raws.take d))))
        (signalsBefore following (parseLines parseDate ((raws.drop d).take (a + n - d)))) := by
  obtain rfl | ⟨rfl, hn⟩ := hd
  · rw [Nat.add_sub_cancel_left]
  · obtain ⟨m, rfl⟩ := Nat.exists_eq_add_of_lt hn
    have hlength : a + (0 + m + 1) - (a + 1) = m := by omega
    have hread : (raws.drop a).take (0 + m + 1) = raws[a] :: (raws.drop (a + 1)).take m := by
      rw [List.drop_eq_getElem_cons ha, Nat.zero_add, List.take_succ_cons]
    rw [hlength, hread, List.take_succ_eq_append_getElem ha, parseLines_append,
      parseLines_single, parseLines_cons]
    cases parseCandidate parseDate raws[a] with
    | none => rfl
    | some line => exact changes_reread state _ _ line following

/-! ## Readings -/

/-- The changes that a batch makes of the lines that are left: the line beyond it is looked at, if
there is one. -/
def batchChanges (parseDate : Text → Option Int) (toLowerCase : Text → Text) (maxLines : Nat)
    (state : ConnectionState) (rest : List Text) : List ConnectionChange :=
  changesFromSignals toLowerCase state
    (signalsBefore (rest[maxLines]?.bind (parseCandidate parseDate))
      (parseLines parseDate (rest.take maxLines)))

/-- The signals of a batch, without those of the line that it is read beyond its end. -/
lemma take_signals (rest : List Text) :
    (connectionSignals (parseLines parseDate (rest.take (maxLines + 1)))).take
        ((connectionSignals (parseLines parseDate (rest.take (maxLines + 1)))).length -
          (connectionSignals (parseLines parseDate (if maxLines < rest.length then
            (rest.take (maxLines + 1)).getLast?.toList else []))).length) =
      signalsBefore (rest[maxLines]?.bind (parseCandidate parseDate))
        (parseLines parseDate (rest.take maxLines)) := by
  by_cases hfull : maxLines < rest.length
  · rw [if_pos hfull, List.take_succ_eq_append_getElem hfull, List.getLast?_concat,
      Option.toList_some, parseLines_append, parseLines_single, connectionSignals_append,
      List.length_append, Nat.add_sub_cancel, List.take_left, List.getElem?_eq_getElem hfull,
      Option.bind_some, head?_toList]
  · have hall : rest.take maxLines = rest := List.take_of_length_le (by omega)
    have hmore : rest.take (maxLines + 1) = rest := List.take_of_length_le (by omega)
    have hnone : rest[maxLines]? = none := List.getElem?_eq_none (by omega)
    have hnil : connectionSignals (parseLines parseDate []) = [] := rfl
    rw [if_neg hfull, hnil, hall, hmore, hnone, Option.bind_none, signalsBefore_none,
      List.length_nil, Nat.sub_zero, List.take_length]

/-- **What a reading from an entry on holds.** -/
lemma readConnectionChanges_resumes {entries : List JournalEntry} {cursor : Text} {i : Nat}
    (h : entryAt entries cursor = some i) (hdistinct : DistinctCursors entries)
    (window : Nat) (seen : ConnectionCurrent) :
    ∃ next, readConnectionChanges parseDate toLowerCase maxLines
        (readJournal entries window (journalCommand maxLines (some cursor))) seen (some cursor) = {
          changes := batchChanges parseDate toLowerCase maxLines seen.state
            ((entries.drop i).map JournalEntry.line)
          cursor := some next
          full := decide (maxLines < entries.length - i)
          refused := false } ∧
      entryAt entries next = some (min (i + maxLines) (entries.length - 1)) := by
  have hlt := entryAt_lt h
  have hresume := journalResume_of_entry h
  obtain ⟨entry, hentry⟩ : ∃ entry, entries[min (i + maxLines) (entries.length - 1)]? =
      some entry := ⟨_, List.getElem?_eq_getElem (by omega)⟩
  refine ⟨entry.cursor, ?_, entryAt_of_getElem? hdistinct hentry⟩
  have hcommand : journalCommand maxLines (some cursor) = .resumes cursor (maxLines + 1) := by
    rw [journalCommand, hresume]
  have hlast : ((entries.drop i).take (maxLines + 1)).getLast? = some entry := by
    have hindex : min (i + (maxLines + 1)) entries.length - 1 =
        min (i + maxLines) (entries.length - 1) := by omega
    rw [getLast?_batch hlt (Nat.succ_pos maxLines), hindex, hentry]
  obtain ⟨rest, hrest⟩ : ∃ rest, (entries.drop i).map JournalEntry.line = rest := ⟨_, rfl⟩
  have hlength : rest.length = entries.length - i := by
    rw [← hrest, List.length_map, List.length_drop]
  have honeLine : ∀ raw ∈ rest, '\n' ∉ raw := by
    rw [← hrest]
    intro raw hraw
    obtain ⟨entry, -, rfl⟩ := List.mem_map.1 hraw
    exact entry.oneLine
  have hbatch : journalBatch (printJournal ((entries.drop i).take (maxLines + 1))) =
      { lines := rest.take (maxLines + 1), cursor := some entry.cursor } := by
    rw [journalBatch_printJournal, List.map_take, hrest, hlast, Option.map_some]
  have hparse : parseJournal parseDate (Text.join "\n".toList (rest.take (maxLines + 1))) =
      parseLines parseDate (rest.take (maxLines + 1)) :=
    parseJournal_join parseDate fun raw hraw => honeLine raw (List.mem_of_mem_take hraw)
  have hfull : decide (maxLines < (rest.take (maxLines + 1)).length) =
      decide (maxLines < rest.length) := by
    rw [List.length_take, decide_eq_decide]
    omega
  have hbeyond : parseJournal parseDate (if decide (maxLines < rest.length) = true then
        Text.join "\n".toList (rest.take (maxLines + 1)).getLast?.toList else []) =
      parseLines parseDate (if maxLines < rest.length then
        (rest.take (maxLines + 1)).getLast?.toList else []) := by
    by_cases hmore : maxLines < rest.length
    · rw [if_pos (decide_eq_true hmore), if_pos hmore]
      refine parseJournal_join parseDate fun raw hraw => honeLine raw ?_
      exact List.mem_of_mem_take (List.mem_of_getLast? (Option.mem_toList.1 hraw))
    · rw [if_neg (by simpa using hmore), if_neg hmore]
      rfl
  simp only [readConnectionChanges, hcommand, readJournal, journalctl_resumes h, hbatch, hresume,
    Option.isSome_some, Bool.true_and, hfull, hbeyond, hparse, take_signals, Option.some_or, ne_eq,
    not_true, Option.isNone_some, Bool.false_eq_true, if_false, hrest, ← hlength]
  rfl

namespace ConnectionPolls

variable {s t : ConnectionPolls} {a d : Nat}

/-! ## What holds of the polls -/

/-- The changes that a single pass makes of the first lines. -/
def passUpTo (parseDate : Text → Option Int) (toLowerCase : Text → Text) (s : ConnectionPolls)
    (d : Nat) : List ConnectionChange :=
  changesFromSignals toLowerCase s.initial
    (signalsBefore (parseLines parseDate (s.lines.drop d)).head?
      (parseLines parseDate (s.lines.take d)))

/-- What holds in every run: the cursor is that of the line `a`, and the changes of the first `d`
lines are recorded. -/
structure Inv (parseDate : Text → Option Int) (toLowerCase : Text → Text) (maxLines : Nat)
    (s : ConnectionPolls) (a d : Nat) : Prop where
  distinct : DistinctCursors s.entries
  cursor : ∃ cursor, s.cursor = some cursor ∧ entryAt s.entries cursor = some (s.start + a)
  read : d = a ∨ d = a + 1 ∧ 0 < maxLines
  state : s.current.state =
    stateAfter toLowerCase s.initial (connectionSignals (parseLines parseDate (s.lines.take d)))
  drain : ∀ drain, s.drain = some drain →
    drain.position = s.cursor ∧ drain.seen.state = s.current.state
  length : s.recorded.length = (s.passUpTo parseDate toLowerCase d).length
  atEnd : s.atEnd = true → d = s.lines.length

lemma length_lines (s : ConnectionPolls) : s.lines.length = s.entries.length - s.start := by
  rw [lines, List.length_map, List.length_drop]

lemma drop_lines (s : ConnectionPolls) (a : Nat) :
    s.lines.drop a = (s.entries.drop (s.start + a)).map JournalEntry.line := by
  rw [lines, ← List.map_drop, List.drop_drop]

/-- The single pass is that of the first lines and of those after them. -/
lemma singlePass_eq (s : ConnectionPolls) (d : Nat) :
    s.singlePass parseDate toLowerCase = s.passUpTo parseDate toLowerCase d ++
      changesFromSignals toLowerCase
        (stateAfter toLowerCase s.initial
          (connectionSignals (parseLines parseDate (s.lines.take d))))
        (connectionSignals (parseLines parseDate (s.lines.drop d))) := by
  have hlines : parseLines parseDate s.lines =
      parseLines parseDate (s.lines.take d) ++ parseLines parseDate (s.lines.drop d) := by
    rw [← parseLines_append, List.take_append_drop]
  rw [singlePass, hlines, connectionSignals_append, changesFromSignals_append, passUpTo,
    stateAfter_signalsBefore]

lemma singlePass_eq_passUpTo (s : ConnectionPolls) {d : Nat} (hd : s.lines.length ≤ d) :
    s.singlePass parseDate toLowerCase = s.passUpTo parseDate toLowerCase d := by
  rw [s.singlePass_eq d, List.drop_of_length_le hd]
  exact List.append_nil _

/-- **The polls follow the single pass** exactly when they have recorded what it makes of the lines
read so far. -/
lemma Inv.follows_iff (h : Inv parseDate toLowerCase maxLines s a d) :
    s.Follows parseDate toLowerCase ↔ s.recorded = s.passUpTo parseDate toLowerCase d := by
  constructor
  · rintro ⟨hstarts, -⟩
    have hpass : s.passUpTo parseDate toLowerCase d <+: s.singlePass parseDate toLowerCase := by
      rw [s.singlePass_eq d]
      exact List.prefix_append _ _
    have hle := List.prefix_of_prefix_length_le hstarts hpass h.length.le
    exact hle.eq_of_length h.length
  · intro hrecorded
    refine ⟨?_, fun hend => ?_⟩
    · rw [hrecorded, s.singlePass_eq d]
      exact List.prefix_append _ _
    · rw [hrecorded, s.singlePass_eq_passUpTo (h.atEnd hend).ge]

/-! ## Steps -/

lemma Inv.lt (h : Inv parseDate toLowerCase maxLines s a d) : a < s.lines.length := by
  obtain ⟨cursor, -, hentry⟩ := h.cursor
  have hlt := entryAt_lt hentry
  rw [length_lines]
  omega

lemma Inv.le (h : Inv parseDate toLowerCase maxLines s a d) : d ≤ s.lines.length := by
  have hlt := h.lt
  have hread := h.read
  omega

/-- **The journal grows.** -/
lemma Inv.appends (h : Inv parseDate toLowerCase maxLines s a d) {entry : JournalEntry}
    (ht : s.appends entry = some t) :
    Inv parseDate toLowerCase maxLines t a d ∧ (s.Follows parseDate toLowerCase →
      (t.Follows parseDate toLowerCase ↔
        readsReasons parseDate toLowerCase maxLines s (.appends entry) = true)) := by
  simp only [ConnectionPolls.appends, Option.ite_none_right_eq_some, Option.some.injEq] at ht
  obtain ⟨hnew, rfl⟩ := ht
  obtain ⟨cursor, hcursor, hentry⟩ := h.cursor
  have hstart : s.start ≤ s.entries.length := by
    have hlt := entryAt_lt hentry
    omega
  have hlines : lines { s with entries := s.entries ++ [entry], atEnd := false } =
      s.lines ++ [entry.line] := by
    rw [lines, List.drop_append_of_le_length hstart, List.map_append]
    rfl
  have htake : (s.lines ++ [entry.line]).take d = s.lines.take d :=
    List.take_append_of_le_length h.le
  have hdrop : (s.lines ++ [entry.line]).drop d = s.lines.drop d ++ [entry.line] :=
    List.drop_append_of_le_length h.le
  have hinv : Inv parseDate toLowerCase maxLines
      { s with entries := s.entries ++ [entry], atEnd := false } a d := by
    refine ⟨h.distinct.concat hnew, ⟨cursor, hcursor, entryAt_append hentry [entry]⟩, h.read, ?_,
      h.drain, ?_, Bool.noConfusion⟩
    · rw [hlines, htake]
      exact h.state
    · rw [passUpTo, hlines, htake,
        length_changes _ _ _ (parseLines parseDate (s.lines.drop d)).head?]
      exact h.length
  refine ⟨hinv, fun hfollows => ?_⟩
  rw [h.follows_iff] at hfollows
  rw [hinv.follows_iff, passUpTo, hlines, htake, hdrop, parseLines_append, readsReasons,
    Bool.not_eq_true', Bool.and_eq_false_iff, beq_eq_false_iff_ne]
  have hpass : s.singlePass parseDate toLowerCase = s.passUpTo parseDate toLowerCase d ++ _ :=
    s.singlePass_eq d
  have hall : parseLines parseDate s.lines =
      parseLines parseDate (s.lines.take d) ++ parseLines parseDate (s.lines.drop d) := by
    rw [← parseLines_append, List.take_append_drop]
  by_cases hrest : parseLines parseDate (s.lines.drop d) = []
  · -- The line that is written follows the last line that was recorded.
    have hrecorded : s.recorded = changesFromSignals toLowerCase s.initial
        (connectionSignals (parseLines parseDate (s.lines.take d))) := by
      rw [hfollows, passUpTo, hrest, List.head?_nil, signalsBefore_none]
    have hsingle : s.recorded.length = (s.singlePass parseDate toLowerCase).length := by
      rw [hpass, hrest, hfollows]
      simp [connectionSignals, changesFromSignals]
    rw [hall, hrest, List.append_nil, List.nil_append, parseLines_single, head?_toList, hrecorded,
      changes_none_iff]
    simp [← hrecorded, hsingle]
  · -- The line that follows the recorded ones was there before.
    refine iff_of_true ?_ ?_
    · have hhead : (parseLines parseDate (s.lines.drop d) ++
          parseLines parseDate [entry.line]).head? =
          (parseLines parseDate (s.lines.drop d)).head? := by
        rw [List.head?_append_of_ne_nil _ hrest]
      rw [hhead]
      exact hfollows
    · rw [or_iff_not_imp_left, not_not]
      intro hlength
      rw [Bool.eq_false_iff]
      intro hasks
      rw [hall, asksBeyond_append _ _ hrest] at hasks
      refine changes_ne_nil hasks (List.length_eq_zero_iff.1 ?_)
      rw [hpass, List.length_append, ← h.length] at hlength
      omega

/-- The lines up to the end of a batch are those recorded and those it reads for the first time. -/
lemma Inv.take_batch (h : Inv parseDate toLowerCase maxLines s a d) :
    s.lines.take (a + maxLines) = s.lines.take d ++ (s.lines.drop d).take (a + maxLines - d) := by
  have hread := h.read
  have hsum : d + (a + maxLines - d) = a + maxLines := by omega
  rw [← List.take_add, hsum]

/-- What the lines up to the end of a batch come to, from those recorded. -/
lemma Inv.passUpTo_batch (h : Inv parseDate toLowerCase maxLines s a d) :
    s.passUpTo parseDate toLowerCase (a + maxLines) = s.passUpTo parseDate toLowerCase d ++
      changesFromSignals toLowerCase s.current.state
        (signalsBefore (parseLines parseDate (s.lines.drop (a + maxLines))).head?
          (parseLines parseDate ((s.lines.drop a).take maxLines))) := by
  have hread := h.read
  rw [h.state, changes_from_cursor s.initial s.lines _ h.read h.lt]
  have hhead : (parseLines parseDate (s.lines.drop d)).head? =
      (parseLines parseDate ((s.lines.drop d).take (a + maxLines - d))).head?.or
        (parseLines parseDate (s.lines.drop (a + maxLines))).head? := by
    have hsum : d + (a + maxLines - d) = a + maxLines := by omega
    rw [← List.head?_append, ← parseLines_append, ← hsum, ← List.drop_drop, hsum,
      List.take_append_drop]
  rw [passUpTo, h.take_batch, parseLines_append, signalsBefore_append, changesFromSignals_append,
    stateAfter_signalsBefore]
  conv_rhs => rw [passUpTo, hhead]

lemma Inv.state_batch (h : Inv parseDate toLowerCase maxLines s a d) :
    ((batchChanges parseDate toLowerCase maxLines s.current.state
        (s.lines.drop a)).getLast?.map ConnectionChange.state).getD s.current.state =
      stateAfter toLowerCase s.initial
        (connectionSignals (parseLines parseDate (s.lines.take (a + maxLines)))) := by
  rw [batchChanges, h.state, changes_from_cursor s.initial s.lines _ h.read h.lt, ← stateAfter,
    stateAfter_signalsBefore, h.take_batch, parseLines_append, connectionSignals_append,
    stateAfter_append, stateAfter_signalsBefore]

/-- What a reading makes of the lines, from the state recorded. -/
lemma batchChanges_eq_iff (s : ConnectionPolls) (a : Nat) :
    batchChanges parseDate toLowerCase maxLines s.current.state (s.lines.drop a) =
        changesFromSignals toLowerCase s.current.state
          (signalsBefore (parseLines parseDate (s.lines.drop (a + maxLines))).head?
            (parseLines parseDate ((s.lines.drop a).take maxLines))) ↔
      ((s.lines.drop a)[maxLines]?.any fun lookahead =>
        (parseCandidate parseDate lookahead).isNone &&
          asksBeyond toLowerCase s.current.state
            (parseLines parseDate ((s.lines.drop a).take maxLines))
            (parseLines parseDate ((s.lines.drop a).drop maxLines)).head?) = false := by
  have hdrop : s.lines.drop (a + maxLines) = (s.lines.drop a).drop maxLines := List.drop_drop.symm
  rw [batchChanges, hdrop]
  cases hlookahead : (s.lines.drop a)[maxLines]? with
  | none =>
    have hnil : (s.lines.drop a).drop maxLines = [] :=
      List.drop_of_length_le (List.getElem?_eq_none_iff.1 hlookahead)
    rw [hnil]
    exact iff_of_true rfl rfl
  | some lookahead =>
    rw [Option.bind_some, Option.any_some]
    cases hline : parseCandidate parseDate lookahead with
    | none =>
      rw [signalsBefore_none, changes_none_iff]
      rfl
    | some line =>
      obtain ⟨hlt, hget⟩ := List.getElem?_eq_some_iff.1 hlookahead
      have hhead : (parseLines parseDate ((s.lines.drop a).drop maxLines)).head? = some line := by
        rw [List.drop_eq_getElem_cons hlt, hget, parseLines_cons, hline]
        rfl
      rw [hhead]
      exact iff_of_true rfl rfl

/-- What a round does that is answered from the cursor of the line `a` on. -/
structure Batched (parseDate : Text → Option Int) (toLowerCase : Text → Text) (maxLines : Nat)
    (s t : ConnectionPolls) (a : Nat) : Prop where
  entries : t.entries = s.entries
  start : t.start = s.start
  initial : t.initial = s.initial
  recorded : t.recorded = s.recorded ++
    batchChanges parseDate toLowerCase maxLines s.current.state (s.lines.drop a)
  state : t.current.state = ((batchChanges parseDate toLowerCase maxLines s.current.state
    (s.lines.drop a)).getLast?.map ConnectionChange.state).getD s.current.state
  cursor : ∃ next, t.cursor = some next ∧
    entryAt t.entries next = some (s.start + min (a + maxLines) (s.lines.length - 1))
  atEnd : t.atEnd = decide (s.lines.length ≤ a + maxLines)
  drain : ∀ drain, t.drain = some drain →
    drain.position = t.cursor ∧ drain.seen.state = t.current.state

lemma Batched.lines_eq (ht : Batched parseDate toLowerCase maxLines s t a) : t.lines = s.lines := by
  rw [lines, lines, ht.entries, ht.start]

lemma Inv.batched (h : Inv parseDate toLowerCase maxLines s a d) {drain : ConnectionDrain}
    (hdrain : s.drain = some drain) (window : Nat) :
    ∃ t, (connectionPolls parseDate toLowerCase maxLines).step s (.reads window) = some t ∧
      Batched parseDate toLowerCase maxLines s t a := by
  obtain ⟨cursor, hcursor, hentry⟩ := h.cursor
  obtain ⟨hposition, hseen⟩ := h.drain drain hdrain
  have hlt := h.lt
  have hlength := s.length_lines
  obtain ⟨next, hreading, hnext⟩ : ∃ next, readConnectionChanges parseDate toLowerCase maxLines
      _ _ _ = _ ∧ _ := readConnectionChanges_resumes hentry h.distinct window drain.seen
  have hnext' : entryAt s.entries next =
      some (s.start + min (a + maxLines) (s.lines.length - 1)) := by
    rw [hnext]
    congr 1
    omega
  have hfull : decide (maxLines < s.entries.length - (s.start + a)) =
      !decide (s.lines.length ≤ a + maxLines) := by
    rw [← decide_not, decide_eq_decide]
    omega
  rw [← s.drop_lines a, hfull, hseen] at hreading
  obtain ⟨position, seen, round⟩ := drain
  obtain rfl : position = some cursor := hposition.trans hcursor
  simp only [connectionPolls, ConnectionPolls.answers, hdrain, hreading, Bool.false_and,
    Bool.false_eq_true, if_false]
  have hstate : (s.record (batchChanges parseDate toLowerCase maxLines s.current.state
        (s.lines.drop a))).current.state =
      ((batchChanges parseDate toLowerCase maxLines s.current.state
        (s.lines.drop a)).getLast?.map ConnectionChange.state).getD s.current.state := by
    rw [ConnectionPolls.record]
    cases (batchChanges parseDate toLowerCase maxLines s.current.state
      (s.lines.drop a)).getLast? with
    | none => rfl
    | some last => rfl
  by_cases hend : s.lines.length ≤ a + maxLines
  · rw [decide_eq_true hend, Bool.not_true, Bool.not_false, if_pos rfl]
    refine ⟨_, rfl, ⟨rfl, rfl, rfl, rfl, hstate, ⟨next, ?_, hnext'⟩, ?_, fun _ hnone => ?_⟩⟩
    · by_cases hmoved : some next ≠ some cursor
      · exact if_pos hmoved
      · have hsame : some next = some cursor := not_not.1 hmoved
        rw [if_neg hmoved, hsame]
        exact hcursor
    · rw [decide_eq_true hend]
      rfl
    · cases hnone
  · rw [decide_eq_false hend, Bool.not_false, Bool.not_true, if_neg Bool.false_ne_true]
    refine ⟨_, rfl, ⟨rfl, rfl, rfl, rfl, hstate, ⟨next, rfl, hnext'⟩, ?_, fun later hlater => ?_⟩⟩
    · rw [decide_eq_false hend]
      rfl
    · simp only [ConnectionPolls.nextRound] at hlater
      split at hlater
      · obtain rfl := Option.some.inj hlater
        refine ⟨rfl, Eq.trans ?_ hstate.symm⟩
        simp only [connectionAfter]
        cases (batchChanges parseDate toLowerCase maxLines s.current.state
          (s.lines.drop a)).getLast? with
        | none => exact hseen
        | some last => rfl
      · cases hlater

lemma take_ends (s : ConnectionPolls) (n : Nat) :
    s.lines.take (min n s.lines.length) = s.lines.take n := by
  rw [List.take_eq_take_iff]
  omega

lemma Batched.passUpTo_ends (ht : Batched parseDate toLowerCase maxLines s t a) :
    t.passUpTo parseDate toLowerCase (min (a + maxLines) s.lines.length) =
      s.passUpTo parseDate toLowerCase (a + maxLines) := by
  have hdrop : s.lines.drop (min (a + maxLines) s.lines.length) = s.lines.drop (a + maxLines) := by
    by_cases hle : a + maxLines ≤ s.lines.length
    · rw [Nat.min_eq_left hle]
    · rw [Nat.min_eq_right (by omega), List.drop_length, List.drop_of_length_le (by omega)]
  rw [passUpTo, ht.lines_eq, ht.initial, take_ends, hdrop, passUpTo]

/-- **A round reads on.** -/
lemma Inv.of_batched (h : Inv parseDate toLowerCase maxLines s a d)
    (ht : Batched parseDate toLowerCase maxLines s t a) :
    Inv parseDate toLowerCase maxLines t (min (a + maxLines) (s.lines.length - 1))
      (min (a + maxLines) s.lines.length) := by
  have hlt := h.lt
  obtain ⟨next, hcursor, hnext⟩ := ht.cursor
  refine ⟨ht.entries.symm ▸ h.distinct, ⟨next, hcursor, ?_⟩, by omega, ?_, ht.drain, ?_, ?_⟩
  · rw [ht.start]
    exact hnext
  · rw [ht.state, h.state_batch, ht.lines_eq, ht.initial, take_ends]
  · rw [ht.recorded, List.length_append, h.length, ht.passUpTo_ends, h.passUpTo_batch,
      List.length_append, batchChanges, length_changes]
  · rw [ht.atEnd, ht.lines_eq, decide_eq_true_eq]
    omega

lemma Inv.follows_batched (h : Inv parseDate toLowerCase maxLines s a d)
    (ht : Batched parseDate toLowerCase maxLines s t a) {drain : ConnectionDrain}
    (hdrain : s.drain = some drain) (window : Nat) (hfollows : s.Follows parseDate toLowerCase) :
    t.Follows parseDate toLowerCase ↔
      readsReasons parseDate toLowerCase maxLines s (.reads window) = true := by
  obtain ⟨cursor, hcursor, hentry⟩ := h.cursor
  obtain ⟨hposition, hseen⟩ := h.drain drain hdrain
  rw [(h.of_batched ht).follows_iff, ht.passUpTo_ends, ht.recorded, h.passUpTo_batch,
    ← h.follows_iff.1 hfollows, List.append_cancel_left_eq, batchChanges_eq_iff, readsReasons,
    hdrain, Option.all_some, hposition, hcursor, Option.all_some, hentry, Option.all_some,
    s.drop_lines a, hseen, Bool.not_eq_true']

/-- A poll that the host does not answer records nothing. -/
lemma Inv.fails (h : Inv parseDate toLowerCase maxLines s a d) {stderr : Text}
    (ht : (connectionPolls parseDate toLowerCase maxLines).step s (.fails stderr) = some t) :
    Inv parseDate toLowerCase maxLines t a d ∧ (s.Follows parseDate toLowerCase →
      t.Follows parseDate toLowerCase) := by
  simp only [connectionPolls] at ht
  split at ht
  · cases ht
  · next hrefused =>
    obtain ⟨cursor, hcursor, hentry⟩ := h.cursor
    cases hdrain : s.drain with
    | none =>
      simp only [ConnectionPolls.answers, hdrain] at ht
      cases ht
    | some drain =>
      obtain ⟨hposition, -⟩ := h.drain drain hdrain
      obtain ⟨position, seen, round⟩ := drain
      obtain rfl : position = some cursor := hposition.trans hcursor
      have hreading : readConnectionChanges parseDate toLowerCase maxLines
          { exitCode := 1, stdout := [], stderr := stderr } seen (some cursor) =
          { changes := [], cursor := some cursor, full := false, refused := false } := by
        simp [readConnectionChanges, hrefused]
      simp only [ConnectionPolls.answers, hdrain, hreading, Bool.false_and, Bool.false_eq_true,
        if_false, Bool.not_false, if_true, ne_eq, not_true, Option.some.injEq] at ht
      obtain rfl := ht
      have hrecorded : (s.record []).recorded = s.recorded := List.append_nil _
      refine ⟨⟨h.distinct, h.cursor, h.read, h.state, fun _ => no_drain, ?_, Bool.noConfusion⟩,
        fun hfollows => ⟨?_, Bool.noConfusion⟩⟩
      · exact (congrArg List.length hrecorded).trans h.length
      · have hkept := hfollows.1
        rw [← hrecorded] at hkept
        exact hkept

/-- **Every step** reads on, and follows the single pass exactly when it reads the reasons. -/
lemma Inv.step (h : Inv parseDate toLowerCase maxLines s a d) {e : PollEvent}
    (ht : (connectionPolls parseDate toLowerCase maxLines).step s e = some t) :
    (∃ a' d', Inv parseDate toLowerCase maxLines t a' d') ∧ (s.Follows parseDate toLowerCase →
      (t.Follows parseDate toLowerCase ↔
        readsReasons parseDate toLowerCase maxLines s e = true)) := by
  cases e with
  | appends entry =>
    obtain ⟨hinv, hfollows⟩ := h.appends ht
    exact ⟨⟨a, d, hinv⟩, hfollows⟩
  | begins =>
    simp only [connectionPolls, ConnectionPolls.begins, Option.ite_none_right_eq_some,
      Option.some.injEq] at ht
    obtain ⟨-, rfl⟩ := ht
    refine ⟨⟨a, d, h.distinct, h.cursor, h.read, h.state, fun drain hdrain => ?_, h.length,
      h.atEnd⟩, fun hfollows => iff_of_true hfollows rfl⟩
    obtain rfl := Option.some.inj hdrain
    exact ⟨rfl, rfl⟩
  | reads window =>
    cases hdrain : s.drain with
    | none =>
      simp only [connectionPolls, ConnectionPolls.answers, hdrain] at ht
      cases ht
    | some drain =>
      obtain ⟨u, hu, hbatched⟩ := h.batched hdrain window
      obtain rfl : u = t := Option.some.inj (hu.symm.trans ht)
      exact ⟨⟨_, _, h.of_batched hbatched⟩, h.follows_batched hbatched hdrain window⟩
  | fails stderr =>
    obtain ⟨hinv, hfollows⟩ := h.fails ht
    exact ⟨⟨a, d, hinv⟩, fun hs => iff_of_true (hfollows hs) rfl⟩
  | ends =>
    obtain rfl := Option.some.inj ht
    exact ⟨⟨a, d, h.distinct, h.cursor, h.read, h.state, fun _ => no_drain, h.length, h.atEnd⟩,
      fun hfollows => iff_of_true hfollows rfl⟩

/-- Polls start with nothing recorded, at the cursor of the first line. -/
lemma inv_init (h : (connectionPolls parseDate toLowerCase maxLines).init s) :
    Inv parseDate toLowerCase maxLines s 0 0 := by
  obtain ⟨hdistinct, hinitial, hrecorded, hdrain, hend, hcursor⟩ := h
  refine ⟨hdistinct, hcursor, .inl rfl, ?_, ?_, ?_, ?_⟩
  · rw [← hinitial]
    rfl
  · rw [hdrain]
    exact fun _ => no_drain
  · rw [hrecorded]
    rfl
  · rw [hend]
    exact Bool.noConfusion

lemma follows_init (h : (connectionPolls parseDate toLowerCase maxLines).init s) :
    s.Follows parseDate toLowerCase := by
  obtain ⟨-, -, hrecorded, -⟩ := id h
  rw [(inv_init h).follows_iff, hrecorded]
  rfl

end ConnectionPolls

open ConnectionPolls

/-- A client that the server disconnects. -/
def disconnectedEntry : JournalEntry where
  notes := []
  line := "2024-01-01T00:00:00+0000 box mcc[42]: Disconnected by Server".toList
  cursor := smallCursor '5'
  oneLine := by decide +kernel
  notBlank := by decide +kernel
  unmarked := by decide +kernel
  valid := by decide +kernel

/-- The reason it writes then. -/
def kickedEntry : JournalEntry where
  notes := []
  line := "2024-01-01T00:00:00+0000 box mcc[42]: You were kicked".toList
  cursor := smallCursor '6'
  oneLine := by decide +kernel
  notBlank := by decide +kernel
  unmarked := by decide +kernel
  valid := by decide +kernel

/-- A bot that is recorded as joined, with a journal that is followed from its first entry on. -/
def joinedPolls (entries : List JournalEntry) : ConnectionPolls where
  entries := entries
  start := 0
  initial := .joined
  cursor := some (smallCursor '1')
  current := { state := .joined, since := none, pid := none }
  recorded := []
  drain := none
  atEnd := false

lemma joinedPolls_init {maxLines : Nat} {entries : List JournalEntry}
    (hdistinct : DistinctCursors entries) (hfirst : entryAt entries (smallCursor '1') = some 0) :
    (connectionPolls newYearStamp id maxLines).init (joinedPolls entries) :=
  ⟨hdistinct, rfl, rfl, rfl, rfl, smallCursor '1', rfl, hfirst⟩

namespace ConnectionPolls

variable {s t u : ConnectionPolls} {a d k : Nat}

/-- What the drains leave of the journal, and of what is recorded. -/
structure Keeps (s t : ConnectionPolls) : Prop where
  entries : t.entries = s.entries
  start : t.start = s.start
  initial : t.initial = s.initial
  recorded : s.recorded <+: t.recorded

lemma Keeps.refl (s : ConnectionPolls) : Keeps s s := ⟨rfl, rfl, rfl, List.prefix_rfl⟩

lemma Keeps.trans (h : Keeps s t) (h' : Keeps t u) : Keeps s u :=
  ⟨h'.entries.trans h.entries, h'.start.trans h.start, h'.initial.trans h.initial,
    h.recorded.trans h'.recorded⟩

lemma Keeps.lines_eq (h : Keeps s t) : t.lines = s.lines := by
  rw [lines, lines, h.entries, h.start]

lemma Keeps.singlePass_eq (h : Keeps s t) :
    t.singlePass parseDate toLowerCase = s.singlePass parseDate toLowerCase := by
  rw [singlePass, singlePass, h.lines_eq, h.initial]

lemma proceeds_of_idle (hdrain : s.drain = none) :
    s.proceeds parseDate toLowerCase maxLines =
      { s with drain := some { position := s.cursor, seen := s.current, round := 0 } } := by
  simp [proceeds, next, hdrain, connectionPolls, begins]

/-- A drain begins. -/
lemma Inv.proceeds_begins (h : Inv parseDate toLowerCase maxLines s a d) (hdrain : s.drain = none) :
    Inv parseDate toLowerCase maxLines (s.proceeds parseDate toLowerCase maxLines) a d ∧
      Keeps s (s.proceeds parseDate toLowerCase maxLines) ∧
      (s.proceeds parseDate toLowerCase maxLines).drain.isSome = true := by
  rw [proceeds_of_idle hdrain]
  refine ⟨⟨h.distinct, h.cursor, h.read, h.state, fun drain hd => ?_, h.length, h.atEnd⟩,
    ⟨rfl, rfl, rfl, List.prefix_rfl⟩, rfl⟩
  obtain rfl := Option.some.inj hd
  exact ⟨rfl, rfl⟩

/-- A round of a drain. -/
lemma Inv.proceeds_reads (h : Inv parseDate toLowerCase maxLines s a d) {drain : ConnectionDrain}
    (hdrain : s.drain = some drain) :
    Batched parseDate toLowerCase maxLines s (s.proceeds parseDate toLowerCase maxLines) a := by
  obtain ⟨t, hstep, hbatched⟩ := h.batched hdrain s.entries.length
  have hnext : s.next = .reads s.entries.length := by simp [next, hdrain]
  rw [proceeds, hnext, hstep]
  exact hbatched

lemma Batched.keeps (h : Batched parseDate toLowerCase maxLines s t a) : Keeps s t := by
  refine ⟨h.entries, h.start, h.initial, ?_⟩
  rw [h.recorded]
  exact List.prefix_append _ _

/-- The drains have read some full batches, or all of the journal. -/
def Stage (parseDate : Text → Option Int) (toLowerCase : Text → Text) (maxLines : Nat)
    (s : ConnectionPolls) : Prop :=
  (∃ k, Inv parseDate toLowerCase maxLines s (k * maxLines) (k * maxLines)) ∨
    0 < maxLines ∧ Inv parseDate toLowerCase maxLines s (s.lines.length - 1) s.lines.length

lemma Inv.stage (h : Inv parseDate toLowerCase maxLines s 0 0) :
    Stage parseDate toLowerCase maxLines s :=
  .inl ⟨0, by rwa [Nat.zero_mul]⟩

/-- After some full batches, a round reads another, or the rest. -/
lemma Inv.of_batch (h : Inv parseDate toLowerCase maxLines s (k * maxLines) (k * maxLines))
    (ht : Batched parseDate toLowerCase maxLines s t (k * maxLines)) :
    ((k + 1) * maxLines < s.lines.length ∧
      Inv parseDate toLowerCase maxLines t ((k + 1) * maxLines) ((k + 1) * maxLines)) ∨
    (s.lines.length ≤ (k + 1) * maxLines ∧
      Inv parseDate toLowerCase maxLines t (s.lines.length - 1) s.lines.length) := by
  have hinv := h.of_batched ht
  have hsum : (k + 1) * maxLines = k * maxLines + maxLines := Nat.succ_mul k maxLines
  have hlt := h.lt
  by_cases hmore : (k + 1) * maxLines < s.lines.length
  · rw [← hsum, Nat.min_eq_left (by omega), Nat.min_eq_left (by omega)] at hinv
    exact .inl ⟨hmore, hinv⟩
  · rw [← hsum, Nat.min_eq_right (by omega), Nat.min_eq_right (by omega)] at hinv
    exact .inr ⟨by omega, hinv⟩

/-- At the end of the journal, a round reads the last line again. -/
lemma Inv.of_end (hmax : 0 < maxLines)
    (h : Inv parseDate toLowerCase maxLines s (s.lines.length - 1) s.lines.length)
    (ht : Batched parseDate toLowerCase maxLines s t (s.lines.length - 1)) :
    Inv parseDate toLowerCase maxLines t (s.lines.length - 1) s.lines.length ∧
      t.recorded = s.recorded := by
  have hinv := h.of_batched ht
  have hlt := h.lt
  rw [Nat.min_eq_right (by omega), Nat.min_eq_right (by omega)] at hinv
  refine ⟨hinv, (ht.keeps.recorded.eq_of_length ?_).symm⟩
  have hpass : t.passUpTo parseDate toLowerCase s.lines.length =
      s.passUpTo parseDate toLowerCase s.lines.length := by
    rw [passUpTo, passUpTo, ht.lines_eq, ht.initial]
  rw [h.length, hinv.length, hpass]

lemma Stage.proceeds (h : Stage parseDate toLowerCase maxLines s) :
    Stage parseDate toLowerCase maxLines (s.proceeds parseDate toLowerCase maxLines) ∧
      Keeps s (s.proceeds parseDate toLowerCase maxLines) := by
  have hlines : Keeps s (s.proceeds parseDate toLowerCase maxLines) →
      (s.proceeds parseDate toLowerCase maxLines).lines.length = s.lines.length :=
    fun hkeeps => congrArg List.length hkeeps.lines_eq
  obtain ⟨k, hk⟩ | ⟨hmax, hend⟩ := h
  · cases hdrain : s.drain with
    | none =>
      obtain ⟨hinv, hkeeps, -⟩ := hk.proceeds_begins hdrain
      exact ⟨.inl ⟨k, hinv⟩, hkeeps⟩
    | some drain =>
      have hbatched := hk.proceeds_reads hdrain
      have hlength := hlines hbatched.keeps
      refine ⟨?_, hbatched.keeps⟩
      obtain ⟨-, hinv⟩ | ⟨hle, hinv⟩ := hk.of_batch hbatched
      · exact .inl ⟨k + 1, hinv⟩
      · refine .inr ⟨?_, by rwa [hlength]⟩
        have hlt := hk.lt
        have hsum : (k + 1) * maxLines = k * maxLines + maxLines := Nat.succ_mul k maxLines
        omega
  · cases hdrain : s.drain with
    | none =>
      obtain ⟨hinv, hkeeps, -⟩ := hend.proceeds_begins hdrain
      refine ⟨.inr ⟨hmax, ?_⟩, hkeeps⟩
      rw [hlines hkeeps]
      exact hinv
    | some drain =>
      have hbatched := hend.proceeds_reads hdrain
      refine ⟨.inr ⟨hmax, ?_⟩, hbatched.keeps⟩
      rw [hlines hbatched.keeps]
      exact (hend.of_end hmax hbatched).1

/-- The drains go on from a stage to the next. -/
lemma Stage.iterate (h : Stage parseDate toLowerCase maxLines s) (m : Nat) :
    Stage parseDate toLowerCase maxLines
        ((ConnectionPolls.proceeds parseDate toLowerCase maxLines)^[m] s) ∧
      Keeps s ((ConnectionPolls.proceeds parseDate toLowerCase maxLines)^[m] s) := by
  induction m with
  | zero => exact ⟨h, .refl s⟩
  | succ m ih =>
    rw [Function.iterate_succ_apply']
    exact ⟨ih.1.proceeds.1, ih.2.trans ih.1.proceeds.2⟩

/-- **Every full batch is read** by a drain that is under way. -/
lemma Inv.reaches_batch (h : Inv parseDate toLowerCase maxLines s 0 0) (k : Nat)
    (hk : k * maxLines < s.lines.length) :
    ∃ m drain, Inv parseDate toLowerCase maxLines
        ((ConnectionPolls.proceeds parseDate toLowerCase maxLines)^[m] s)
        (k * maxLines) (k * maxLines) ∧
      ((ConnectionPolls.proceeds parseDate toLowerCase maxLines)^[m] s).drain = some drain := by
  have hstage := h.stage
  have hbegins : ∀ m a d, Inv parseDate toLowerCase maxLines
      ((ConnectionPolls.proceeds parseDate toLowerCase maxLines)^[m] s) a d →
      ∃ m drain, Inv parseDate toLowerCase maxLines
        ((ConnectionPolls.proceeds parseDate toLowerCase maxLines)^[m] s) a d ∧
        ((ConnectionPolls.proceeds parseDate toLowerCase maxLines)^[m] s).drain = some drain := by
    intro m a d hinv
    cases hdrain : ((ConnectionPolls.proceeds parseDate toLowerCase maxLines)^[m] s).drain with
    | some drain => exact ⟨m, drain, hinv, hdrain⟩
    | none =>
      obtain ⟨hinv', -, hsome⟩ := hinv.proceeds_begins hdrain
      rw [← Function.iterate_succ_apply'
        (ConnectionPolls.proceeds parseDate toLowerCase maxLines)] at hinv' hsome
      obtain ⟨drain, hdrain'⟩ := Option.isSome_iff_exists.1 hsome
      exact ⟨m + 1, drain, hinv', hdrain'⟩
  induction k with
  | zero =>
    refine hbegins 0 _ _ ?_
    rw [Nat.zero_mul]
    exact h
  | succ k ih =>
    have hsum : (k + 1) * maxLines = k * maxLines + maxLines := Nat.succ_mul k maxLines
    obtain ⟨m, drain, hinv, hdrain⟩ := ih (by omega)
    have hlength := congrArg List.length (hstage.iterate m).2.lines_eq
    obtain ⟨-, hnext⟩ | ⟨hle, -⟩ := hinv.of_batch (hinv.proceeds_reads hdrain)
    · rw [← Function.iterate_succ_apply'
        (ConnectionPolls.proceeds parseDate toLowerCase maxLines)] at hnext
      exact hbegins (m + 1) _ _ hnext
    · rw [hlength] at hle
      omega

/-- **The drains come to the end of the journal.** -/
lemma Inv.reaches_end (hmax : 0 < maxLines) (h : Inv parseDate toLowerCase maxLines s 0 0) :
    ∃ n, ∀ m, n ≤ m → Inv parseDate toLowerCase maxLines
      ((ConnectionPolls.proceeds parseDate toLowerCase maxLines)^[m] s)
      (s.lines.length - 1) s.lines.length := by
  have hstage := h.stage
  have hlt := h.lt
  have hdiv : (s.lines.length - 1) / maxLines * maxLines ≤ s.lines.length - 1 :=
    Nat.div_mul_le_self _ _
  have hdiv' : s.lines.length - 1 < ((s.lines.length - 1) / maxLines + 1) * maxLines := by
    rw [Nat.succ_mul]
    have hparts := Nat.div_add_mod' (s.lines.length - 1) maxLines
    have hrest := Nat.mod_lt (s.lines.length - 1) hmax
    omega
  obtain ⟨n, drain, hinv, hdrain⟩ :=
    h.reaches_batch ((s.lines.length - 1) / maxLines) (by omega)
  have hlength := congrArg List.length (hstage.iterate n).2.lines_eq
  have hend : Inv parseDate toLowerCase maxLines
      ((ConnectionPolls.proceeds parseDate toLowerCase maxLines)^[n + 1] s)
      (s.lines.length - 1) s.lines.length := by
    rw [Function.iterate_succ_apply']
    obtain ⟨hmore, -⟩ | ⟨-, hend⟩ := hinv.of_batch (hinv.proceeds_reads hdrain)
    · rw [hlength] at hmore
      omega
    · rwa [hlength] at hend
  refine ⟨n + 1, fun m hm => ?_⟩
  induction m, hm using Nat.le_induction with
  | base => exact hend
  | succ m hm ih =>
    have hlength' := congrArg List.length (hstage.iterate m).2.lines_eq
    rw [Function.iterate_succ_apply']
    cases hdrain' : ((ConnectionPolls.proceeds parseDate toLowerCase maxLines)^[m] s).drain with
    | none => exact (ih.proceeds_begins hdrain').1
    | some drain =>
      rw [← hlength'] at ih
      have hnext := (ih.of_end hmax (ih.proceeds_reads hdrain')).1
      rwa [hlength'] at hnext

/-- The cursor stored is that of the last entry exactly when it is that of the last line. -/
lemma Inv.atLast_iff (h : Inv parseDate toLowerCase maxLines s a d) :
    s.AtLast ↔ a + 1 = s.lines.length := by
  obtain ⟨cursor, hcursor, hentry⟩ := h.cursor
  obtain ⟨entry, hget, hsame⟩ := entryAt_getElem? hentry
  have hlt := h.lt
  have hlength := s.length_lines
  rw [AtLast, hcursor, List.getLast?_eq_getElem?]
  constructor
  · intro hlast
    obtain ⟨last, hlast, hkey⟩ := Option.map_eq_some_iff.1 hlast.symm
    have hnumber := entryAt_of_getElem? h.distinct hlast
    rw [hkey, hentry, Option.some.injEq] at hnumber
    omega
  · intro hlast
    have hindex : s.entries.length - 1 = s.start + a := by omega
    rw [hindex, hget, Option.map_some, hsame]

/-- What a round reads of the line beyond a full batch. -/
lemma Inv.readsReasons_iff (h : Inv parseDate toLowerCase maxLines s (k * maxLines) (k * maxLines))
    {drain : ConnectionDrain} (hdrain : s.drain = some drain) (window : Nat) :
    readsReasons parseDate toLowerCase maxLines s (.reads window) = true ↔
      ∀ lookahead, s.lines[(k + 1) * maxLines]? = some lookahead →
        parseCandidate parseDate lookahead = none →
        asksBeyond toLowerCase
          (stateAfter toLowerCase s.initial
            (connectionSignals (parseLines parseDate (s.lines.take (k * maxLines)))))
          (parseLines parseDate ((s.lines.drop (k * maxLines)).take maxLines))
          (parseLines parseDate (s.lines.drop ((k + 1) * maxLines))).head? = false := by
  obtain ⟨cursor, hcursor, hentry⟩ := h.cursor
  obtain ⟨hposition, hseen⟩ := h.drain drain hdrain
  have hsum : (k + 1) * maxLines = k * maxLines + maxLines := Nat.succ_mul k maxLines
  rw [readsReasons, hdrain, Option.all_some, hposition, hcursor, Option.all_some, hentry,
    Option.all_some, ← s.drop_lines, hseen, Bool.not_eq_true', List.getElem?_drop, ← hsum,
    ← h.state, List.drop_drop, ← hsum]
  cases s.lines[(k + 1) * maxLines]? with
  | none => simp
  | some lookahead => simp

/-- Where every lookahead is read, the drains follow the single pass. -/
lemma follows_iterate (h : (connectionPolls parseDate toLowerCase maxLines).init s)
    (hreads : LookaheadsRead parseDate toLowerCase maxLines s.initial s.lines) (m : Nat) :
    ((ConnectionPolls.proceeds parseDate toLowerCase maxLines)^[m] s).Follows parseDate
      toLowerCase := by
  have hinit : Inv parseDate toLowerCase maxLines s 0 0 := inv_init h
  have hstage := hinit.stage
  induction m with
  | zero => exact follows_init h
  | succ m ih =>
    rw [Function.iterate_succ_apply']
    obtain ⟨hm, hkeeps⟩ := hstage.iterate m
    cases hdrain : ((ConnectionPolls.proceeds parseDate toLowerCase maxLines)^[m] s).drain with
    | none =>
      rw [proceeds_of_idle hdrain]
      exact ih
    | some drain =>
      obtain ⟨k, hk⟩ | ⟨hmax, hend⟩ := hm
      · rw [hk.follows_batched (hk.proceeds_reads hdrain) hdrain 0 ih,
          hk.readsReasons_iff hdrain, hkeeps.lines_eq, hkeeps.initial]
        exact hreads k
      · -- There is no line beyond the last.
        have hbatched := hend.proceeds_reads hdrain
        obtain ⟨hinv, hrecorded⟩ := hend.of_end hmax hbatched
        rw [hinv.follows_iff, hrecorded, hend.follows_iff.1 ih, passUpTo, passUpTo,
          hbatched.lines_eq, hbatched.initial]

/-- What is recorded later of a journal that is at its end tells what was recorded before. -/
lemma follows_of_starts (h : Keeps s t)
    (hstarts : t.recorded <+: s.singlePass parseDate toLowerCase) (hend : t.atEnd = false) :
    t.Follows parseDate toLowerCase := by
  refine ⟨?_, fun htrue => ?_⟩
  · rw [h.singlePass_eq]
    exact hstarts
  · rw [hend] at htrue
    cases htrue

lemma drainsExactly_iff_lookaheadsRead (hmax : 0 < maxLines)
    (h : (connectionPolls parseDate toLowerCase maxLines).init s) :
    s.DrainsExactly parseDate toLowerCase maxLines ↔
      LookaheadsRead parseDate toLowerCase maxLines s.initial s.lines := by
  have hinit : Inv parseDate toLowerCase maxLines s 0 0 := inv_init h
  have hstage := hinit.stage
  constructor
  · rintro ⟨n, hall⟩ batch lookahead hlookahead
    have hlt := (List.getElem?_eq_some_iff.1 hlookahead).1
    have hsum : (batch + 1) * maxLines = batch * maxLines + maxLines :=
      Nat.succ_mul batch maxLines
    obtain ⟨m, drain, hinv, hdrain⟩ := hinit.reaches_batch batch (by omega)
    obtain ⟨hm, hkeeps⟩ := hstage.iterate m
    have hbatched := hinv.proceeds_reads hdrain
    -- What the round records is never taken back.
    have hrecorded : (((ConnectionPolls.proceeds parseDate toLowerCase maxLines)^[m] s).proceeds
        parseDate toLowerCase maxLines).recorded <+: s.singlePass parseDate toLowerCase := by
      have hlater := (hm.proceeds.1.iterate n).2.recorded
      rw [← Function.iterate_succ_apply'
        (ConnectionPolls.proceeds parseDate toLowerCase maxLines), ← Function.iterate_add_apply,
        (hall (n + (m + 1)) (Nat.le_add_right n _)).2] at hlater
      rwa [← Function.iterate_succ_apply'
        (ConnectionPolls.proceeds parseDate toLowerCase maxLines)]
    have hnotEnd : (((ConnectionPolls.proceeds parseDate toLowerCase maxLines)^[m] s).proceeds
        parseDate toLowerCase maxLines).atEnd = false := by
      rw [hbatched.atEnd, hkeeps.lines_eq, decide_eq_false_iff_not]
      omega
    have hbefore : ((ConnectionPolls.proceeds parseDate toLowerCase maxLines)^[m] s).Follows
        parseDate toLowerCase := by
      refine follows_of_starts hkeeps (hbatched.keeps.recorded.trans hrecorded) ?_
      rw [Bool.eq_false_iff]
      intro hend
      have hlength := hinv.atEnd hend
      rw [hkeeps.lines_eq] at hlength
      omega
    have hafter := follows_of_starts (hkeeps.trans hbatched.keeps) hrecorded hnotEnd
    have hreads := (hinv.readsReasons_iff hdrain 0).1
      ((hinv.follows_batched hbatched hdrain 0 hbefore).1 hafter)
    rw [hkeeps.lines_eq, hkeeps.initial] at hreads
    exact hreads lookahead hlookahead
  · intro hreads
    obtain ⟨n, hend⟩ := hinit.reaches_end hmax
    refine ⟨n, fun m hm => ?_⟩
    have hkeeps := (hstage.iterate m).2
    have hlt := hinit.lt
    refine ⟨?_, ?_⟩
    · rw [(hend m hm).atLast_iff, hkeeps.lines_eq]
      omega
    · rw [(hend m hm).follows_iff.1 (follows_iterate h hreads m), ← hkeeps.singlePass_eq]
      exact (singlePass_eq_passUpTo _ (congrArg List.length hkeeps.lines_eq).le).symm

/-- Without a line in a batch, nothing is read. -/
lemma drainsExactly_zero (h : (connectionPolls parseDate toLowerCase 0).init s) :
    s.DrainsExactly parseDate toLowerCase 0 ↔
      s.lines.length = 1 ∧ s.singlePass parseDate toLowerCase = [] := by
  have hstage := (inv_init h).stage
  have hstays : ∀ m, Inv parseDate toLowerCase 0
      ((ConnectionPolls.proceeds parseDate toLowerCase 0)^[m] s) 0 0 := by
    intro m
    obtain ⟨k, hk⟩ | ⟨hmax, -⟩ := (hstage.iterate m).1
    · exact hk
    · exact absurd hmax (Nat.lt_irrefl 0)
  have hone : ∀ m, ((ConnectionPolls.proceeds parseDate toLowerCase 0)^[m] s).AtLast ↔
      s.lines.length = 1 := by
    intro m
    rw [(hstays m).atLast_iff, (hstage.iterate m).2.lines_eq]
    omega
  have hnone : ∀ m, ((ConnectionPolls.proceeds parseDate toLowerCase 0)^[m] s).recorded = [] :=
    fun m => List.length_eq_zero_iff.1 (hstays m).length
  constructor
  · rintro ⟨n, hall⟩
    obtain ⟨hlast, hrecorded⟩ := hall n (Nat.le_refl n)
    exact ⟨(hone n).1 hlast, hrecorded.symm.trans (hnone n)⟩
  · rintro ⟨hlength, hpass⟩
    exact ⟨0, fun m _ => ⟨(hone m).2 hlength, (hnone m).trans hpass.symm⟩⟩

end ConnectionPolls

/-- A line without a stamp. -/
def unstampedEntry : JournalEntry where
  notes := []
  line := "in the gate".toList
  cursor := smallCursor '4'
  oneLine := by decide +kernel
  notBlank := by decide +kernel
  unmarked := by decide +kernel
  valid := by decide +kernel

end OpenMcc
