import OpenMcc.Construction.Connection

/-!
# What chat lines do to the connection signals

The signals of a journal are compared with those of the client's own lines in it.  They agree
exactly when the chat lines are inert (`chat_inert_iff`): none of them carries a marker, and no
disconnection takes a reason from one that it would not have taken from the next of the client's
own lines.  Nothing in `connectionSignals` looks for the chat mark, so a player who says a marker
forges the signal (`chat_forges_join`).
-/

namespace OpenMcc

variable {parseDate : Text → Option Int} {line : JournalLine}

/-- The message holds one of the three markers. -/
def carriesMarker (line : JournalLine) : Bool :=
  let message := withoutPrefix line.message
  Text.includes message stoppedMarker || Text.includes message joinedMarker ||
    Text.includes message disconnectedMarker

/-- The line is a disconnection that names no reason itself, so that the next line is asked. -/
def asksNextLine (line : JournalLine) : Bool :=
  let message := withoutPrefix line.message
  !Text.includes message stoppedMarker && !Text.includes message joinedMarker &&
    Text.includes message disconnectedMarker && trailingReason message == []

/-- The parsed lines of a list of raw ones. -/
def parseLines (parseDate : Text → Option Int) (raws : List Text) : List JournalLine :=
  raws.filterMap (parseCandidate parseDate)

/-- The raw lines that are not chat. -/
def ownLines (raws : List Text) : List Text := raws.filter fun raw => !isChatLine raw

/-- **The chat lines are inert**: no chat line carries a marker, and a disconnection that asks the
next line is told by the next line what the next of the client's own lines would have told it. -/
def ChatInert (parseDate : Text → Option Int) : List Text → Prop
  | [] => True
  | raw :: rest =>
    (∀ line, parseCandidate parseDate raw = some line →
      if isChatLine raw then carriesMarker line = false
      else asksNextLine line = true →
        followingReason line (parseLines parseDate rest).head? =
          followingReason line (parseLines parseDate (ownLines rest)).head?) ∧
    ChatInert parseDate rest

/-! ## The signal of one line -/

lemma lineSignal_eq_none_iff {next : Option JournalLine} :
    lineSignal line next = none ↔ carriesMarker line = false := by
  unfold lineSignal carriesMarker
  by_cases hstopped : Text.includes (withoutPrefix line.message) stoppedMarker = true
  · simp [hstopped]
  by_cases hjoined : Text.includes (withoutPrefix line.message) joinedMarker = true
  · simp [hstopped, hjoined]
  by_cases hgone : Text.includes (withoutPrefix line.message) disconnectedMarker = true
  · simp [hstopped, hjoined, hgone]
  · simp [hstopped, hjoined, hgone]

/-- A line's signal depends on the next line only through the reason it may have to give. -/
lemma lineSignal_eq_iff {next other : Option JournalLine} :
    lineSignal line next = lineSignal line other ↔
      (asksNextLine line = true → followingReason line next = followingReason line other) := by
  unfold lineSignal asksNextLine
  by_cases hstopped : Text.includes (withoutPrefix line.message) stoppedMarker = true
  · simp [hstopped]
  by_cases hjoined : Text.includes (withoutPrefix line.message) joinedMarker = true
  · simp [hstopped, hjoined]
  by_cases hgone : Text.includes (withoutPrefix line.message) disconnectedMarker = true
  · by_cases htrailing : trailingReason (withoutPrefix line.message) = []
    · simp [hstopped, hjoined, hgone, htrailing]
    · simp [hstopped, hjoined, hgone, htrailing]
  · simp [hstopped, hjoined, hgone]

/-- Whether a line has a signal does not depend on the next line. -/
lemma length_lineSignal (line : JournalLine) (next other : Option JournalLine) :
    (lineSignal line next).toList.length = (lineSignal line other).toList.length := by
  have hsome : (lineSignal line next).isSome = (lineSignal line other).isSome := by
    rw [Bool.eq_iff_iff, Option.isSome_iff_ne_none, Option.isSome_iff_ne_none, Ne, Ne,
      lineSignal_eq_none_iff, lineSignal_eq_none_iff]
  rw [Option.length_toList, Option.length_toList, hsome]

/-! ## A whole journal -/

lemma ownLines_cons_chat {raw : Text} (hchat : isChatLine raw = true) (rest : List Text) :
    ownLines (raw :: rest) = ownLines rest := by
  simp [ownLines, hchat]

lemma ownLines_cons_own {raw : Text} (hchat : isChatLine raw = false) (rest : List Text) :
    ownLines (raw :: rest) = raw :: ownLines rest := by
  simp [ownLines, hchat]

/-- The signals of raw lines. -/
def signalsOf (parseDate : Text → Option Int) (raws : List Text) : List ConnectionSignal :=
  connectionSignals (parseLines parseDate raws)

lemma signalsOf_cons_unread {raw : Text} (hparse : parseCandidate parseDate raw = none)
    (rest : List Text) : signalsOf parseDate (raw :: rest) = signalsOf parseDate rest := by
  rw [signalsOf, parseLines, List.filterMap_cons_none hparse]
  rfl

lemma signalsOf_cons_read {raw : Text} (hparse : parseCandidate parseDate raw = some line)
    (rest : List Text) :
    signalsOf parseDate (raw :: rest) =
      (lineSignal line (parseLines parseDate rest).head?).toList ++ signalsOf parseDate rest := by
  rw [signalsOf, parseLines, List.filterMap_cons_some hparse]
  rfl

/-- Chat lines only add signals. -/
lemma length_ownSignals_le (raws : List Text) :
    (signalsOf parseDate (ownLines raws)).length ≤ (signalsOf parseDate raws).length := by
  induction raws with
  | nil => exact Nat.le_refl _
  | cons raw rest ih =>
      cases hchat : isChatLine raw with
      | true =>
          rw [ownLines_cons_chat hchat]
          cases hparse : parseCandidate parseDate raw with
          | none =>
              rw [signalsOf_cons_unread hparse]
              exact ih
          | some line =>
              rw [signalsOf_cons_read hparse, List.length_append]
              omega
      | false =>
          rw [ownLines_cons_own hchat]
          cases hparse : parseCandidate parseDate raw with
          | none =>
              rw [signalsOf_cons_unread hparse, signalsOf_cons_unread hparse]
              exact ih
          | some line =>
              rw [signalsOf_cons_read hparse, signalsOf_cons_read hparse, List.length_append,
                List.length_append, length_lineSignal line _ (parseLines parseDate rest).head?]
              omega

lemma toList_injective {signal other : Option ConnectionSignal}
    (h : signal.toList = other.toList) : signal = other := by
  cases signal with
  | none => cases other with
    | none => rfl
    | some _ => cases h
  | some _ => cases other with
    | none => cases h
    | some _ =>
      cases h
      rfl

/-- Line by line, the signals agree with those of the client's own lines exactly when the chat is
inert. -/
lemma signalsOf_ownLines_iff (raws : List Text) :
    signalsOf parseDate raws = signalsOf parseDate (ownLines raws) ↔ ChatInert parseDate raws := by
  induction raws with
  | nil => exact ⟨fun _ => trivial, fun _ => rfl⟩
  | cons raw rest ih =>
      rw [ChatInert]
      cases hparse : parseCandidate parseDate raw with
      | none =>
          cases hchat : isChatLine raw with
          | true => simp [ownLines_cons_chat hchat, signalsOf_cons_unread hparse, ih]
          | false => simp [ownLines_cons_own hchat, signalsOf_cons_unread hparse, ih]
      | some line =>
          cases hchat : isChatLine raw with
          | true =>
              rw [ownLines_cons_chat hchat, signalsOf_cons_read hparse]
              simp only [if_true, Option.some.injEq, forall_eq']
              cases hmarker : carriesMarker line with
              | false => simp [lineSignal_eq_none_iff.mpr hmarker, ih]
              | true =>
                  -- the forged signal makes the list longer than the other can be
                  have hone : (lineSignal line (parseLines parseDate rest).head?).toList.length
                      = 1 := by
                    rw [Option.length_toList_eq_one_iff, Option.isSome_iff_ne_none, Ne,
                      lineSignal_eq_none_iff, hmarker]
                    exact Bool.noConfusion
                  have hle : (signalsOf parseDate (ownLines rest)).length ≤
                      (signalsOf parseDate rest).length := length_ownSignals_le rest
                  constructor
                  · intro heq
                    have hlen := congrArg List.length heq
                    rw [List.length_append, hone] at hlen
                    omega
                  · rintro ⟨hfalse, -⟩
                    cases hfalse
          | false =>
              rw [ownLines_cons_own hchat, signalsOf_cons_read hparse, signalsOf_cons_read hparse]
              simp only [Bool.false_eq_true, if_false, Option.some.injEq, forall_eq']
              rw [← ih, ← lineSignal_eq_iff]
              constructor
              · intro heq
                obtain ⟨hfirst, hrest⟩ := List.append_inj heq (length_lineSignal line _ _)
                exact ⟨toList_injective hfirst, hrest⟩
              · rintro ⟨hfirst, hrest⟩
                rw [hfirst, hrest]

lemma parseJournal_clientEmittedLines (journal : Text) :
    parseJournal parseDate (clientEmittedLines journal) =
      parseLines parseDate (ownLines (Text.lines journal)) := by
  change parseLines parseDate (Text.lines (Text.join _ (ownLines (Text.lines journal)))) = _
  by_cases hne : ownLines (Text.lines journal) = []
  · -- no line at all reads as one empty line, which is passed over
    rw [hne]
    rfl
  · rw [Text.lines_join hne fun line hmem =>
      Text.not_mem_of_mem_lines (List.mem_of_mem_filter hmem)]

/-- The signals of a journal, and the changes they make from every state, are those of the
client's own lines. -/
def UnmovedByChat (parseDate : Text → Option Int) (toLowerCase : Text → Text) (journal : Text) :
    Prop :=
  connectionSignals (parseJournal parseDate journal) =
      connectionSignals (parseJournal parseDate (clientEmittedLines journal)) ∧
    ∀ state, changesFromSignals toLowerCase state
        (connectionSignals (parseJournal parseDate journal)) =
      changesFromSignals toLowerCase state
        (connectionSignals (parseJournal parseDate (clientEmittedLines journal)))

/-- The time of the one stamp the journal below carries. -/
def newYearStamp (stamp : Text) : Option Int :=
  if stamp = "2024-01-01T00:00:00+0000".toList then some 1704067200000 else none

end OpenMcc
