import Mathlib.Data.List.Induction
import OpenMcc.Construction.HostReading

/-!
# What a reconciliation makes of a host

Two results about `reconcileHostOverTransport`.

A name of a container is reported exactly when it has the form of a managed one and is neither the
container of a known bot nor the container of a known bot's sign-in (`leftovers_are_foreign`).  A
name that starts with `open-mcc-auth-` can be read either way, and both readings are looked up.

The journal of a bot is compared with the same journal without some lines of chat.  Whether the
client looks stuck is judged by its own lines, so no chat line changes it.  The mark of a join and
the name of the player are searched for in the whole text, where chat counts: the readings agree
exactly when no such line is the only one that shows a join or the first that shows a name
(`chat_unseen_iff`).
-/

namespace OpenMcc

/-! ## Containers -/

/-- The name has the form of a managed container, for a bot or for a sign-in. -/
def IsManagedContainer (name : Text) : Prop :=
  ∃ id, instanceIdPattern id = true ∧
    (name = containerPrefix ++ id ∨ name = containerPrefix ++ (authPrefix ++ id))

lemma drop_containerPrefix (rest : Text) :
    (containerPrefix ++ rest).drop containerPrefix.length = rest := List.drop_left

lemma drop_authPrefix (id : Text) : (authPrefix ++ id).drop authPrefix.length = id :=
  List.drop_left

/-- The id of a name that starts as the containers do. -/
lemma managedContainerPattern_append (rest : Text) :
    managedContainerPattern (containerPrefix ++ rest) =
      if authPrefix.isPrefixOf rest && instanceIdPattern (rest.drop authPrefix.length) then
        some (rest.drop authPrefix.length)
      else if instanceIdPattern rest then some rest
      else none := by
  have hstarts : containerPrefix.isPrefixOf (containerPrefix ++ rest) = true :=
    List.isPrefixOf_iff_prefix.2 (List.prefix_append _ _)
  rw [managedContainerPattern, if_pos hstarts, drop_containerPrefix]

/-- What the pattern captures, and how the name goes with it. -/
lemma managedContainerPattern_eq_some {name id : Text}
    (h : managedContainerPattern name = some id) :
    instanceIdPattern id = true ∧
      (name = containerPrefix ++ id ∨ name = containerPrefix ++ (authPrefix ++ id)) := by
  have hstarts : containerPrefix.isPrefixOf name = true := by
    by_contra hne
    rw [managedContainerPattern, if_neg hne] at h
    cases h
  obtain ⟨rest, rfl⟩ := List.isPrefixOf_iff_prefix.1 hstarts
  rw [managedContainerPattern_append] at h
  split at h
  · next hauth =>
    rw [Bool.and_eq_true] at hauth
    obtain ⟨after, rfl⟩ := List.isPrefixOf_iff_prefix.1 hauth.1
    rw [drop_authPrefix] at h hauth
    obtain rfl := Option.some.inj h
    exact ⟨hauth.2, Or.inr rfl⟩
  · rw [Option.ite_none_right_eq_some] at h
    obtain ⟨hid, hrest⟩ := h
    obtain rfl := Option.some.inj hrest
    exact ⟨hid, Or.inl rfl⟩

/-- The pattern takes the name of a managed container. -/
lemma managedContainerPattern_isSome {name : Text} (h : IsManagedContainer name) :
    (managedContainerPattern name).isSome = true := by
  obtain ⟨id, hid, rfl | rfl⟩ := h
  · rw [managedContainerPattern_append]
    rw [hid, if_pos rfl]
    split
    · rfl
    · rfl
  · have hstarts : authPrefix.isPrefixOf (authPrefix ++ id) = true :=
      List.isPrefixOf_iff_prefix.2 (List.prefix_append _ _)
    rw [managedContainerPattern_append, drop_authPrefix, hstarts, hid]
    rfl

/-- The name of a sign-in's container captures the bot's id, whatever the id starts with. -/
lemma managedContainerPattern_auth {id : Text} (hid : instanceIdPattern id = true) :
    managedContainerPattern (containerPrefix ++ (authPrefix ++ id)) = some id := by
  have hstarts : authPrefix.isPrefixOf (authPrefix ++ id) = true :=
    List.isPrefixOf_iff_prefix.2 (List.prefix_append _ _)
  rw [managedContainerPattern_append, drop_authPrefix, hstarts, hid]
  rfl

/-- **The containers reported are the foreign ones**: those that have the form of a managed
container and belong to no known bot and to no known bot's sign-in. -/
theorem leftovers_are_foreign (names : List Text) (instances : List ListedInstance)
    (hids : ∀ bot ∈ instances, instanceIdPattern bot.id = true) (name : Text) :
    name ∈ leftoverContainers names instances ↔
      name ∈ names ∧ IsManagedContainer name ∧
        ∀ bot ∈ instances, name ≠ containerPrefix ++ bot.id ∧
          name ≠ containerPrefix ++ (authPrefix ++ bot.id) := by
  have hknown : ∀ id, (instances.map ListedInstance.id).contains id = true ↔
      ∃ bot ∈ instances, bot.id = id := by
    intro id
    rw [List.contains_iff_mem, List.mem_map]
  rw [leftoverContainers, List.mem_filter]
  refine and_congr_right fun _ => ?_
  constructor
  · intro h
    split at h
    · cases h
    next id hpattern =>
    obtain ⟨hid, hname⟩ := managedContainerPattern_eq_some hpattern
    rw [Bool.and_eq_true, Bool.not_eq_true', Bool.not_eq_true', ← Bool.not_eq_true,
      ← Bool.not_eq_true, hknown, hknown] at h
    obtain ⟨hcaptured, hwhole⟩ := h
    refine ⟨⟨id, hid, hname⟩, fun bot hbot => ⟨fun heq => ?_, fun heq => ?_⟩⟩
    · -- read without `auth-`, the name is the bot's
      exact hwhole ⟨bot, hbot, by rw [heq, drop_containerPrefix]⟩
    · have hcapture := managedContainerPattern_auth (hids bot hbot)
      rw [← heq, hpattern] at hcapture
      exact hcaptured ⟨bot, hbot, (Option.some.inj hcapture).symm⟩
  · rintro ⟨hmanaged, hforeign⟩
    obtain ⟨id, hpattern⟩ := Option.isSome_iff_exists.1 (managedContainerPattern_isSome hmanaged)
    obtain ⟨hid, hname⟩ := managedContainerPattern_eq_some hpattern
    rw [hpattern]
    show (!_ && !_) = true
    rw [Bool.and_eq_true, Bool.not_eq_true', Bool.not_eq_true', ← Bool.not_eq_true,
      ← Bool.not_eq_true, hknown, hknown]
    constructor
    · rintro ⟨bot, hbot, rfl⟩
      obtain hname | hname := hname
      · exact (hforeign bot hbot).1 hname
      · exact (hforeign bot hbot).2 hname
    · rintro ⟨bot, hbot, heq⟩
      apply (hforeign bot hbot).1
      rw [heq]
      obtain rfl | rfl := hname
      · rw [drop_containerPrefix]
      · rw [drop_containerPrefix]

/-- A container left by a bot that is gone, beside a bot whose id starts with `auth-`. -/
theorem leftovers_are_foreign_auth :
    "open-mcc-auth-a".toList ∈ leftoverContainers ["open-mcc-auth-a".toList]
        [⟨"auth-b".toList, .stopped, none⟩] ↔
      "open-mcc-auth-a".toList ∈ ["open-mcc-auth-a".toList] ∧
        IsManagedContainer "open-mcc-auth-a".toList ∧
        ∀ bot ∈ [(⟨"auth-b".toList, .stopped, none⟩ : ListedInstance)],
          "open-mcc-auth-a".toList ≠ containerPrefix ++ bot.id ∧
            "open-mcc-auth-a".toList ≠ containerPrefix ++ (authPrefix ++ bot.id) :=
  leftovers_are_foreign _ _ (by decide) _

/-! ## The tail of a journal with and without chat -/

/-- A line of the tail: one that was printed there anyhow, or a line of chat put in. -/
inductive TailLine
  | printed (line : Text)
  | said (line : Text)
  deriving DecidableEq, Repr

/-- The text of the line. -/
def TailLine.text : TailLine → Text
  | .printed line => line
  | .said line => line

/-- The lines that were printed anyhow. -/
def printedLines : List TailLine → List Text
  | [] => []
  | .printed line :: lines => line :: printedLines lines
  | .said _ :: lines => printedLines lines

lemma mem_printedLines {line : Text} {lines : List TailLine} :
    line ∈ printedLines lines ↔ .printed line ∈ lines := by
  induction lines with
  | nil => simp [printedLines]
  | cons first lines ih =>
    cases first with
    | printed first => simp [printedLines, ih]
    | said first => simp [printedLines, ih]

/-- The tail of a journal into which lines of chat were put, at any places.  Such a line carries
the chat mark; what else it says is up to the player. -/
structure JournalTail where
  lines : List TailLine
  oneLine : ∀ line ∈ lines, '\n' ∉ line.text
  marked : ∀ line, .said line ∈ lines → isChatLine line = true

namespace JournalTail

variable (tail : JournalTail)

/-- The tail as the host prints it. -/
def shown : Text := Text.join "\n".toList (tail.lines.map TailLine.text)

/-- The tail without the chat that was put in. -/
def own : Text := Text.join "\n".toList (printedLines tail.lines)

end JournalTail

/-- Every journal and every lines of chat put into it are such a tail. -/
lemma exists_journalTail (journal : Text) (put : List TailLine)
    (hown : printedLines put = Text.lines journal)
    (hline : ∀ line ∈ put, '\n' ∉ line.text)
    (hmarked : ∀ line, .said line ∈ put → isChatLine line = true) :
    ∃ tail : JournalTail, tail.lines = put ∧ tail.own = journal := by
  refine ⟨⟨put, hline, hmarked⟩, rfl, ?_⟩
  rw [JournalTail.own, hown]
  exact List.intercalate_splitOn '\n'

variable {line rest journal : Text} {tail : JournalTail}

/-- Printed anyhow, the lines have no line feed either. -/
lemma JournalTail.not_mem_of_mem_printed (h : line ∈ printedLines tail.lines) : '\n' ∉ line :=
  tail.oneLine _ (mem_printedLines.1 h)

lemma JournalTail.not_mem_of_mem_texts (h : line ∈ tail.lines.map TailLine.text) :
    '\n' ∉ line := by
  obtain ⟨shown, hmem, rfl⟩ := List.mem_map.1 h
  exact tail.oneLine shown hmem

/-- The client's own lines of joined lines. -/
lemma clientEmittedLines_join {pieces : List Text} (hpieces : ∀ piece ∈ pieces, '\n' ∉ piece) :
    clientEmittedLines (Text.join "\n".toList pieces) =
      Text.join "\n".toList (pieces.filter fun line => !isChatLine line) := by
  by_cases hne : pieces = []
  · -- no line at all reads as one empty line
    rw [hne]
    rfl
  · rw [clientEmittedLines, Text.lines_join hne hpieces]

lemma JournalTail.filter_printed :
    (tail.lines.map TailLine.text).filter (fun line => !isChatLine line) =
      (printedLines tail.lines).filter fun line => !isChatLine line := by
  have hkept : ∀ lines : List TailLine,
      (∀ line, TailLine.said line ∈ lines → isChatLine line = true) →
      (lines.map TailLine.text).filter (fun line => !isChatLine line) =
        (printedLines lines).filter fun line => !isChatLine line := by
    intro lines hmarked
    induction lines with
    | nil => rfl
    | cons first lines ih =>
      have hih := ih fun line hline => hmarked line (List.mem_cons_of_mem _ hline)
      cases first with
      | printed text =>
        rw [List.map_cons, printedLines, List.filter_cons, List.filter_cons, hih]
        rfl
      | said text =>
        have hchat := hmarked text List.mem_cons_self
        rw [List.map_cons, printedLines, List.filter_cons, ← hih]
        rw [if_neg (by rw [TailLine.text, hchat]; decide)]
  exact hkept tail.lines tail.marked

/-- **Chat does not change whether a client looks stuck.** -/
lemma JournalTail.looksStuck_shown : looksStuck tail.shown = looksStuck tail.own := by
  have hown : clientEmittedLines tail.shown = clientEmittedLines tail.own := by
    rw [shown, own, clientEmittedLines_join fun _ => not_mem_of_mem_texts,
      clientEmittedLines_join fun _ => not_mem_of_mem_printed, filter_printed]
  rw [looksStuck, looksStuck, hown]

/-! ## Names in joined lines -/

lemma takeWhile_append_newline (line rest : Text) :
    (line ++ '\n' :: rest).takeWhile isNameChar = line.takeWhile isNameChar := by
  induction line with
  | nil => rfl
  | cons c line ih =>
    rw [List.cons_append, List.takeWhile_cons, List.takeWhile_cons, ih]

/-- After the name, a line that has ended is as good as one that goes on below. -/
lemma head_drop_append_newline (line rest : Text) (n : Nat) (hn : n ≤ line.length) :
    ((line ++ '\n' :: rest).drop n).head? = some '.' ↔ (line.drop n).head? = some '.' := by
  rw [List.drop_append_of_le_length hn]
  cases line.drop n with
  | nil => simp
  | cons c after => simp

lemma playerNameAt_append_newline :
    playerNameAt (line ++ '\n' :: rest) = playerNameAt line := by
  have hmarker : '\n' ∉ sessionMarker := by decide
  unfold playerNameAt
  rw [Text.isPrefixOf_append_cons hmarker]
  by_cases hstarts : sessionMarker.isPrefixOf line = true
  · rw [if_pos hstarts, if_pos hstarts]
    have hlength := (List.isPrefixOf_iff_prefix.1 hstarts).length_le
    rw [List.drop_append_of_le_length hlength]
    simp only [takeWhile_append_newline, head_drop_append_newline _ _ _
      (List.takeWhile_prefix isNameChar).length_le]
  · rw [if_neg hstarts, if_neg hstarts]

lemma playerNameFrom_append_newline :
    playerNameFrom (line ++ '\n' :: rest) = (playerNameFrom line <|> playerNameFrom rest) := by
  induction line with
  | nil => rfl
  | cons c line ih =>
    show (playerNameAt (c :: line ++ '\n' :: rest) <|> playerNameFrom (line ++ '\n' :: rest)) =
      ((playerNameAt (c :: line) <|> playerNameFrom line) <|> playerNameFrom rest)
    rw [playerNameAt_append_newline, ih]
    cases playerNameAt (c :: line) with
    | none => rfl
    | some name => rfl

/-- The name in joined lines is that of the first line that shows one. -/
lemma playerNameFrom_join : ∀ pieces : List Text,
    playerNameFrom (Text.join "\n".toList pieces) = pieces.findSome? playerNameFrom
  | [] => rfl
  | [piece] => by
      rw [Text.join, List.intercalate_singleton, List.findSome?_cons]
      cases playerNameFrom piece with
      | none => rfl
      | some name => rfl
  | first :: second :: pieces => by
      rw [Text.join_cons_cons, List.append_assoc, List.findSome?_cons, ← playerNameFrom_join]
      show playerNameFrom (first ++ '\n' :: _) = _
      rw [playerNameFrom_append_newline]
      cases playerNameFrom first with
      | none => rfl
      | some name => rfl

/-! ## What chat can change -/

/-- No line of chat is the only one that shows a join. -/
def JoinUnforged (lines : List TailLine) : Prop :=
  ∀ line, .said line ∈ lines → Text.includes line joinedMarker = true →
    ∃ printed, .printed printed ∈ lines ∧ Text.includes printed joinedMarker = true

/-- Down the tail, no line of chat is the first to show a name, unless it is the name that the
first printed line with a name shows. -/
def NameUnforged : List TailLine → Prop
  | [] => True
  | .printed line :: rest => playerNameFrom line = none → NameUnforged rest
  | .said line :: rest =>
    match playerNameFrom line with
    | some name => (printedLines rest).findSome? playerNameFrom = some name
    | none => NameUnforged rest

/-- Chat leaves the mark of a join alone exactly when none is forged. -/
lemma includes_shown_iff :
    Text.includes tail.shown joinedMarker = Text.includes tail.own joinedMarker ↔
      JoinUnforged tail.lines := by
  have hmarker : '\n' ∉ joinedMarker := by decide
  have hne : joinedMarker ≠ [] := by decide
  rw [JournalTail.shown, JournalTail.own, Text.includes_join hmarker hne,
    Text.includes_join hmarker hne, Bool.eq_iff_iff, List.any_eq_true, List.any_eq_true]
  constructor
  · rintro h line hsaid hjoined
    obtain ⟨printed, hprinted, hincludes⟩ := h.1 ⟨line, List.mem_map.2 ⟨_, hsaid, rfl⟩, hjoined⟩
    exact ⟨printed, mem_printedLines.1 hprinted, hincludes⟩
  · intro h
    constructor
    · rintro ⟨text, htext, hincludes⟩
      obtain ⟨shown, hmem, rfl⟩ := List.mem_map.1 htext
      cases shown with
      | printed line => exact ⟨line, mem_printedLines.2 hmem, hincludes⟩
      | said line =>
        obtain ⟨printed, hprinted, hmark⟩ := h line hmem hincludes
        exact ⟨printed, mem_printedLines.2 hprinted, hmark⟩
    · rintro ⟨text, htext, hincludes⟩
      exact ⟨text, List.mem_map.2 ⟨_, mem_printedLines.1 htext, rfl⟩, hincludes⟩

/-- Chat leaves the name alone exactly when none is forged. -/
lemma playerNameFrom_shown_iff :
    playerNameFrom tail.shown = playerNameFrom tail.own ↔ NameUnforged tail.lines := by
  have hlines : ∀ lines : List TailLine,
      (lines.map TailLine.text).findSome? playerNameFrom =
        (printedLines lines).findSome? playerNameFrom ↔ NameUnforged lines := by
    intro lines
    induction lines with
    | nil => exact ⟨fun _ => trivial, fun _ => rfl⟩
    | cons first lines ih =>
      cases first with
      | printed line =>
        rw [List.map_cons, printedLines, List.findSome?_cons, List.findSome?_cons, NameUnforged,
          TailLine.text]
        cases playerNameFrom line with
        | none => simpa using ih
        | some name => simp
      | said line =>
        rw [List.map_cons, printedLines, List.findSome?_cons, NameUnforged, TailLine.text]
        cases playerNameFrom line with
        | none => simpa using ih
        | some name => exact eq_comm
  rw [JournalTail.shown, JournalTail.own, playerNameFrom_join, playerNameFrom_join]
  exact hlines tail.lines

/-! ## The loop over the bots -/

namespace HostAnswers

variable (host : HostAnswers) (instances : List ListedInstance)

lemma readBots_concat (bot : ListedInstance) :
    host.readBots (instances ++ [bot]) = host.readBot (host.readBots instances) bot := by
  rw [readBots, List.foldl_append]
  rfl

/-- A bot has joined where its journal was read and shows it. -/
lemma mem_joined (id : Text) :
    id ∈ (host.readBots instances).joined ↔
      ∃ bot ∈ instances, bot.id = id ∧ host.readsJournal bot = true ∧
        Text.includes (host.journalTail bot.id) joinedMarker = true := by
  induction instances using List.reverseRecOn with
  | nil => simp [readBots]
  | append_singleton instances bot ih =>
    have hbot : (host.readBot (host.readBots instances) bot).joined =
        if host.readsJournal bot && Text.includes (host.journalTail bot.id) joinedMarker then
          (host.readBots instances).joined ++ [bot.id]
        else (host.readBots instances).joined := rfl
    rw [readBots_concat, hbot]
    by_cases hjoins : (host.readsJournal bot &&
        Text.includes (host.journalTail bot.id) joinedMarker) = true
    · rw [if_pos hjoins, List.mem_append, ih, List.mem_singleton]
      rw [Bool.and_eq_true] at hjoins
      constructor
      · rintro (⟨other, hother, hread⟩ | rfl)
        · exact ⟨other, List.mem_append_left _ hother, hread⟩
        · exact ⟨bot, List.mem_append_right _ (List.mem_singleton_self _), rfl, hjoins⟩
      · rintro ⟨other, hother, hid, hread⟩
        rcases List.mem_append.1 hother with hother | hother
        · exact Or.inl ⟨other, hother, hid, hread⟩
        · rw [List.mem_singleton] at hother
          exact Or.inr (hother ▸ hid.symm)
    · rw [if_neg hjoins, ih]
      rw [Bool.and_eq_true] at hjoins
      constructor
      · rintro ⟨other, hother, hread⟩
        exact ⟨other, List.mem_append_left _ hother, hread⟩
      · rintro ⟨other, hother, hid, hread⟩
        rcases List.mem_append.1 hother with hother | hother
        · exact ⟨other, hother, hid, hread⟩
        · rw [List.mem_singleton] at hother
          exact absurd (hother ▸ hread) hjoins

/-- A name is seen for a bot where its journal was read, and is the one the journal shows. -/
lemma seenPlayers_eq (id : Text) :
    (host.readBots instances).seenPlayers id =
      if ∃ bot ∈ instances, bot.id = id ∧ host.readsJournal bot = true then
        playerNameFrom (host.journalTail id)
      else none := by
  induction instances using List.reverseRecOn with
  | nil => simp [readBots]
  | append_singleton instances bot ih =>
    have hplayers : (host.readBot (host.readBots instances) bot).seenPlayers =
        if (host.playerSeen bot).isSome then
          Function.update (host.readBots instances).seenPlayers bot.id (host.playerSeen bot)
        else (host.readBots instances).seenPlayers := rfl
    have hbot : (host.readBot (host.readBots instances) bot).seenPlayers id =
        if bot.id = id ∧ host.readsJournal bot = true ∧
            (playerNameFrom (host.journalTail id)).isSome = true then
          playerNameFrom (host.journalTail id)
        else (host.readBots instances).seenPlayers id := by
      rw [hplayers]
      by_cases hid : bot.id = id
      · subst hid
        by_cases hread : host.readsJournal bot = true
        · rw [playerSeen, if_pos hread]
          by_cases hname : (playerNameFrom (host.journalTail bot.id)).isSome = true
          · rw [if_pos hname, if_pos ⟨rfl, hread, hname⟩, Function.update_self]
          · rw [if_neg hname, if_neg fun hne => hname hne.2.2]
        · rw [playerSeen, if_neg hread, if_neg (by simp), if_neg fun hne => hread hne.2.1]
      · rw [if_neg fun hne : bot.id = id ∧ _ => hid hne.1]
        by_cases hseen : (host.playerSeen bot).isSome = true
        · rw [if_pos hseen, Function.update_of_ne (Ne.symm hid)]
        · rw [if_neg hseen]
    rw [readBots_concat, hbot, ih]
    have hexists : (∃ other ∈ instances ++ [bot], other.id = id ∧ host.readsJournal other = true) ↔
        (∃ other ∈ instances, other.id = id ∧ host.readsJournal other = true) ∨
          (bot.id = id ∧ host.readsJournal bot = true) := by
      simp [or_and_right, exists_or]
    rw [if_congr hexists rfl rfl]
    cases hname : playerNameFrom (host.journalTail id) with
    | none => simp
    | some name =>
      by_cases hlast : bot.id = id ∧ host.readsJournal bot = true
      · simp [hlast]
      · simp only [Option.isSome_some, and_true, hlast, or_false, if_false]

/-- The drift of one bot's state. -/
def driftOf (bot : ListedInstance) : Option StateDrift :=
  if desiredStateIsSatisfied bot.status (host.observedState bot) then none
  else some ⟨bot.id, bot.status, host.observedState bot⟩

lemma stateDrift_eq : (host.readBots instances).stateDrift = instances.filterMap host.driftOf := by
  induction instances using List.reverseRecOn with
  | nil => rfl
  | append_singleton instances bot ih =>
    have hbot : (host.readBot (host.readBots instances) bot).stateDrift =
        if desiredStateIsSatisfied bot.status (host.observedState bot) then
          (host.readBots instances).stateDrift
        else (host.readBots instances).stateDrift ++
          [⟨bot.id, bot.status, host.observedState bot⟩] := rfl
    rw [readBots_concat, hbot, List.filterMap_append, ← ih]
    by_cases hsatisfied : desiredStateIsSatisfied bot.status (host.observedState bot) = true
    · have hdrift : host.driftOf bot = none := by rw [driftOf, if_pos hsatisfied]
      rw [if_pos hsatisfied, List.filterMap_cons_none hdrift]
      exact (List.append_nil _).symm
    · have hdrift : host.driftOf bot = some ⟨bot.id, bot.status, host.observedState bot⟩ := by
        rw [driftOf, if_neg hsatisfied]
      rw [if_neg hsatisfied, List.filterMap_cons_some hdrift]
      rfl

/-- The host whose journals end with these tails. -/
def showing (tails : Text → JournalTail) : HostAnswers :=
  { host with journalTail := fun id => (tails id).shown }

/-- The same host, without the chat put into the tails. -/
def withoutChat (tails : Text → JournalTail) : HostAnswers :=
  { host with journalTail := fun id => (tails id).own }

variable (tails : Text → JournalTail)

lemma observedState_showing (bot : ListedInstance) :
    (host.showing tails).observedState bot = (host.withoutChat tails).observedState bot := by
  show (if host.readsJournal bot && looksStuck (tails bot.id).shown then _ else _) =
    if host.readsJournal bot && looksStuck (tails bot.id).own then _ else _
  rw [JournalTail.looksStuck_shown]
  rfl

/-- The readings with the chat lines are those without them. -/
structure SameReadings : Prop where
  observed : ∀ bot ∈ instances,
    (host.showing tails).observedState bot = (host.withoutChat tails).observedState bot
  stateDrift : ((host.showing tails).readBots instances).stateDrift =
    ((host.withoutChat tails).readBots instances).stateDrift
  joined : ∀ id, id ∈ ((host.showing tails).readBots instances).joined ↔
    id ∈ ((host.withoutChat tails).readBots instances).joined
  seenPlayers : ((host.showing tails).readBots instances).seenPlayers =
    ((host.withoutChat tails).readBots instances).seenPlayers

/-- In no journal that is read does a line of chat forge a join or a name. -/
def ChatUnseen : Prop :=
  ∀ bot ∈ instances, host.readsJournal bot = true →
    JoinUnforged (tails bot.id).lines ∧ NameUnforged (tails bot.id).lines

end HostAnswers

open HostAnswers in
/-- **Chat leaves the readings of a host alone exactly when it forges no join and no name.** -/
theorem chat_unseen_iff (host : HostAnswers) (instances : List ListedInstance)
    (tails : Text → JournalTail) :
    host.SameReadings instances tails ↔ host.ChatUnseen instances tails := by
  constructor
  · intro h bot hbot hread
    constructor
    · rw [← includes_shown_iff, Bool.eq_iff_iff]
      have hjoined := h.joined bot.id
      rw [mem_joined, mem_joined] at hjoined
      constructor
      · intro hmark
        obtain ⟨other, -, hid, -, hother⟩ := hjoined.1 ⟨bot, hbot, rfl, hread, hmark⟩
        rw [hid] at hother
        exact hother
      · intro hmark
        obtain ⟨other, -, hid, -, hother⟩ := hjoined.2 ⟨bot, hbot, rfl, hread, hmark⟩
        rw [hid] at hother
        exact hother
    · rw [← playerNameFrom_shown_iff]
      have hname := congrFun h.seenPlayers bot.id
      have hshown : ∃ other ∈ instances, other.id = bot.id ∧ host.readsJournal other = true :=
        ⟨bot, hbot, rfl, hread⟩
      rw [seenPlayers_eq, seenPlayers_eq] at hname
      exact ((if_pos hshown).symm.trans hname).trans (if_pos hshown)
  · intro h
    have hjournal : ∀ bot ∈ instances, host.readsJournal bot = true →
        Text.includes (tails bot.id).shown joinedMarker =
          Text.includes (tails bot.id).own joinedMarker :=
      fun bot hbot hread => includes_shown_iff.2 (h bot hbot hread).1
    refine ⟨fun bot _ => observedState_showing host tails bot, ?_, fun id => ?_, funext fun id => ?_⟩
    · rw [stateDrift_eq, stateDrift_eq]
      have hdrift : (host.showing tails).driftOf = (host.withoutChat tails).driftOf := by
        funext bot
        rw [driftOf, driftOf, observedState_showing]
      rw [hdrift]
    · rw [mem_joined, mem_joined]
      constructor
      · rintro ⟨bot, hbot, hid, hread, hmark⟩
        exact ⟨bot, hbot, hid, hread, (hjournal bot hbot hread).symm.trans hmark⟩
      · rintro ⟨bot, hbot, hid, hread, hmark⟩
        exact ⟨bot, hbot, hid, hread, (hjournal bot hbot hread).trans hmark⟩
    · rw [seenPlayers_eq, seenPlayers_eq]
      by_cases hshown : ∃ bot ∈ instances, bot.id = id ∧ host.readsJournal bot = true
      · obtain ⟨bot, hbot, rfl, hread⟩ := hshown
        have hshown' : ∃ other ∈ instances, other.id = bot.id ∧ host.readsJournal other = true :=
          ⟨bot, hbot, rfl, hread⟩
        refine (if_pos hshown').trans (Eq.trans ?_ (if_pos hshown').symm)
        exact playerNameFrom_shown_iff.2 (h bot hbot hread).2
      · exact (if_neg hshown).trans (if_neg hshown).symm

/-- A player's words, between the marks of the client's chat. -/
def forgedTail : JournalTail where
  lines := [.printed "Server version: 1.20".toList,
    .said "▌<Eve> Cached session is still valid for Notch. Server was successfully joined".toList]
  oneLine := by decide
  marked := by
    intro line hline
    rw [List.mem_cons, List.mem_singleton] at hline
    obtain hline | hline := hline
    · cases hline
    · obtain rfl := TailLine.said.inj hline
      decide

/-- A player who says the mark of a join and a name has the bot taken as joined, and the name
stored for it. -/
theorem chat_forges_player :
    ¬ ∀ (host : HostAnswers) (instances : List ListedInstance) (tails : Text → JournalTail),
      host.SameReadings instances tails := by
  intro h
  have hplayers := (h ⟨fun _ => "active".toList, fun _ => [], fun _ => none⟩
    [⟨"b".toList, .running, none⟩] fun _ => forgedTail).seenPlayers
  exact absurd (congrFun hplayers "b".toList) (by decide)

end OpenMcc
