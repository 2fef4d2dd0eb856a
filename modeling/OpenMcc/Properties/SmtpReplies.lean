import OpenMcc.Construction.SmtpReplies
import OpenMcc.Properties.SmtpReader
import Mathlib.Data.List.Infix

/-!
# The replies of a stream, in order

What a reader holds is a part of the stream that begins where a reply begins.  `readReply` takes
that reply as soon as it is there completely, and nothing before (`readReply_of_prefix`).  So as
long as the stream goes on the answers are the replies in order.

Once the stream has ended or failed every read is refused, though the replies asked for may have
come long before.  And a last line of a code alone is not read, so its reply is waited for in vain.
The reads are answered as they should be exactly when neither happens (`replies_told_iff`).
-/

namespace OpenMcc.Smtp

open WireReply

/-! ## Reading a reply -/

section ReadReply

variable {line text rest : Text} {lines : List Text} {reply : WireReply}

/-- Where no line ends, no reply does. -/
lemma readReplyFrom_none (h : '\n' ∉ text) : readReplyFrom line lines text = none := by
  fun_induction readReplyFrom line lines text with
  | case1 => rfl
  | case2 | case3 => simp at h
  | case4 line lines c rest hne ih => exact ih fun hmem => h (List.mem_cons_of_mem _ hmem)
  | case5 => rfl

/-- A line is gone through up to its end. -/
lemma readReplyFrom_line {front : Text} (h : '\r' ∉ front) :
    readReplyFrom line lines (front ++ lineEnd ++ rest) =
      readReplyFrom (line ++ front) lines (lineEnd ++ rest) := by
  induction front generalizing line with
  | nil => simp
  | cons c front ih =>
    obtain ⟨hc, hfront⟩ : '\r' ≠ c ∧ '\r' ∉ front := by simpa using h
    rw [List.cons_append, List.cons_append, readReplyFrom, ih hfront, List.append_assoc,
      List.singleton_append]
    intro rest hr
    exact absurd hr.symm hc

/-- A line that cannot be read. -/
lemma readReplyFrom_unread (h : readLine line = none) :
    readReplyFrom line lines (lineEnd ++ rest) = none := by
  show readReplyFrom line lines ('\r' :: '\n' :: rest) = none
  simp only [readReplyFrom, h]

/-- A line that ends its reply, and one that does not. -/
lemma readReplyFrom_read {code : Nat} {separator : Char}
    (h : readLine line = some (code, separator, text)) :
    readReplyFrom line lines (lineEnd ++ rest) =
      if separator = ' ' then some (⟨code, lines ++ [text]⟩, rest)
      else readReplyFrom [] (lines ++ [text]) rest := by
  show readReplyFrom line lines ('\r' :: '\n' :: rest) = _
  simp only [readReplyFrom, h]

lemma ReplyCode.not_mem (code : ReplyCode) {c : Char} (hc : Text.isDigit c = false) :
    c ∉ code.val := by
  intro hmem
  have hdigit := List.all_eq_true.mp code.property.2 c hmem
  exact absurd (hdigit.symm.trans hc) (by decide)

lemma ReplyText.not_mem (text : ReplyText) {c : Char} (hc : c = '\r' ∨ c = '\n') :
    c ∉ text.val := by
  intro hmem
  have htext := List.all_eq_true.mp text.property c hmem
  rcases hc with rfl | rfl
  · exact absurd htext (by decide)
  · exact absurd htext (by decide)

/-- There is no end of a line within a line. -/
lemma not_mem_line (code : ReplyCode) (text : ReplyText) {c separator : Char}
    (hc : c = '\r' ∨ c = '\n') (hseparator : separator ≠ c) :
    c ∉ code.val ++ separator :: text.val := by
  have hdigit : Text.isDigit c = false := by rcases hc with rfl | rfl <;> rfl
  simp [code.not_mem hdigit, text.not_mem hc, Ne.symm hseparator]

lemma readLine_wire (code : ReplyCode) (text : ReplyText) {separator : Char}
    (h : separator = ' ' ∨ separator = '-') :
    readLine (code.val ++ separator :: text.val) = some (decimal code.val, separator, text.val) := by
  obtain ⟨digits, hlength, hdigits⟩ := code
  obtain ⟨text, htext⟩ := text
  match digits, hlength with
  | [first, second, third], _ =>
    have hline : (text.all fun c => !Text.isLineTerminator c) = true := by
      rw [List.all_eq_true] at htext ⊢
      intro c hc
      have hascii := htext c hc
      simp only [Text.isLineTerminator, Bool.and_eq_true, decide_eq_true_eq, bne_iff_ne] at hascii ⊢
      have h₁ : c.toNat ≠ 0x2028 := by omega
      have h₂ : c.toNat ≠ 0x2029 := by omega
      simp [hascii, h₁, h₂]
    have hseparator : (separator == ' ' || separator == '-') = true := by simpa using h
    simp only [List.cons_append, List.nil_append, readLine, hdigits, hseparator, hline,
      Bool.and_self, if_true]

lemma readLine_code (code : ReplyCode) : readLine code.val = none := by
  obtain ⟨digits, hlength, hdigits⟩ := code
  match digits, hlength with
  | [first, second, third], _ => rfl

/-- A line that another one follows is put before the rest of its reply. -/
lemma readReplyFrom_lineWire (line : ReplyCode × ReplyText) :
    readReplyFrom [] lines (lineWire line ++ rest) =
      readReplyFrom [] (lines ++ [line.2.val]) rest := by
  rw [lineWire, readReplyFrom_line (not_mem_line _ _ (Or.inl rfl) (by decide)), List.nil_append,
    readReplyFrom_read (readLine_wire _ _ (Or.inr rfl)), if_neg (by decide)]

lemma readReplyFrom_lastWire :
    readReplyFrom [] lines (reply.lastWire ++ rest) =
      if reply.hasText then
        some (⟨decimal reply.code.val, lines ++ [reply.text.elim [] Subtype.val]⟩, rest)
      else none := by
  obtain ⟨before, code, text⟩ := reply
  cases text with
  | none =>
    show readReplyFrom [] lines (code.val ++ [] ++ lineEnd ++ rest) = none
    rw [List.append_nil, readReplyFrom_line (code.not_mem rfl), List.nil_append,
      readReplyFrom_unread (readLine_code code)]
  | some text =>
    show readReplyFrom [] lines (code.val ++ ' ' :: text.val ++ lineEnd ++ rest) = some _
    rw [readReplyFrom_line (not_mem_line _ _ (Or.inl rfl) (by decide)), List.nil_append,
      readReplyFrom_read (readLine_wire _ _ (Or.inl rfl)), if_pos rfl]
    rfl

lemma readReplyFrom_lines (before : List (ReplyCode × ReplyText)) :
    readReplyFrom [] lines (before.flatMap lineWire ++ rest) =
      readReplyFrom [] (lines ++ before.map fun line => line.2.val) rest := by
  induction before generalizing lines with
  | nil => simp
  | cons line before ih =>
    rw [List.flatMap_cons, List.append_assoc, readReplyFrom_lineWire, ih, List.append_assoc]
    rfl

/-- **A reply that is there completely** is read when its last line has a text. -/
lemma readReply_wire :
    readReply (reply.wire ++ rest) = if reply.hasText then some (reply.value, rest) else none := by
  rw [readReply, wire, List.append_assoc, readReplyFrom_lines, readReplyFrom_lastWire]
  rfl

/-- A line that is not there completely has no end. -/
lemma not_mem_of_part_line {front : Text} (hfront : '\n' ∉ front)
    (h : text <+: front ++ lineEnd) (hne : text ≠ front ++ lineEnd) : '\n' ∉ text := by
  have hsplit : front ++ lineEnd = (front ++ ['\r']) ++ ['\n'] := by simp [lineEnd]
  rw [hsplit] at h hne
  intro hmem
  rcases List.prefix_concat_iff.mp h with heq | hshort
  · exact hne heq
  · rcases List.mem_append.mp (hshort.subset hmem) with hmem | hmem
    · exact hfront hmem
    · exact absurd hmem (by decide)

/-- **A reply that is not there completely** is not read. -/
lemma readReply_part (h : text <+: reply.wire) (hne : text ≠ reply.wire) : readReply text = none := by
  have hgeneral : ∀ (before : List (ReplyCode × ReplyText)) (lines : List Text) (text : Text),
      text <+: before.flatMap lineWire ++ reply.lastWire →
      text ≠ before.flatMap lineWire ++ reply.lastWire →
      readReplyFrom [] lines text = none := by
    intro before
    induction before with
    | nil =>
      intro lines text h hne
      refine readReplyFrom_none (not_mem_of_part_line ?_ h hne)
      cases reply.text with
      | none => simpa using reply.code.not_mem rfl
      | some last => exact not_mem_line _ _ (Or.inr rfl) (by decide)
    | cons line before ih =>
      intro lines text h hne
      rw [List.flatMap_cons, List.append_assoc] at h hne
      by_cases hline : lineWire line <+: text
      · obtain ⟨rest, rfl⟩ := hline
        rw [readReplyFrom_lineWire]
        exact ih _ _ ((List.prefix_append_right_inj _).mp h) fun heq => hne (by rw [heq])
      · have hshort : text <+: lineWire line :=
          (List.prefix_or_prefix_of_prefix h (List.prefix_append _ _)).resolve_right hline
        refine readReplyFrom_none (not_mem_of_part_line ?_ hshort ?_)
        · exact not_mem_line _ _ (Or.inr rfl) (by decide)
        · rintro rfl
          exact hline List.prefix_rfl
  exact hgeneral reply.lines [] text h hne

end ReadReply

/-! ## Reading the stream -/

section Stream

variable {replies : List WireReply} {reply : WireReply} {text buffer : Text}

lemma complete_cons_pos :
    0 < complete (reply :: replies) text ↔ reply.wire <+: text := by
  rw [← List.isPrefixOf_iff_prefix, complete]
  by_cases h : reply.wire.isPrefixOf text = true
  · simp [h]
  · simp [h]

lemma complete_append_wire :
    complete (reply :: replies) (reply.wire ++ text) = complete replies text + 1 := by
  have hprefix : reply.wire.isPrefixOf (reply.wire ++ text) = true :=
    List.isPrefixOf_iff_prefix.mpr (List.prefix_append _ _)
  rw [complete, if_pos hprefix, List.drop_left]

/-- The replies before a place in the stream are complete there. -/
lemma complete_append (before : List WireReply) :
    complete (before ++ replies) (before.flatMap wire ++ text) =
      before.length + complete replies text := by
  induction before with
  | nil => simp
  | cons reply before ih =>
    rw [List.cons_append, List.flatMap_cons, List.append_assoc, complete_append_wire, ih,
      List.length_cons]
    omega

/-- **What is read from a place in the stream** where a reply begins. -/
lemma readReply_of_prefix (h : buffer <+: streamOf (reply :: replies)) :
    (∃ rest, buffer = reply.wire ++ rest ∧
      readReply buffer = if reply.hasText then some (reply.value, rest) else none) ∨
    (¬ reply.wire <+: buffer ∧ readReply buffer = none) := by
  by_cases hwhole : reply.wire <+: buffer
  · obtain ⟨rest, rfl⟩ := hwhole
    exact Or.inl ⟨rest, rfl, readReply_wire⟩
  · have hshort : buffer <+: reply.wire :=
      (List.prefix_or_prefix_of_prefix h (List.prefix_append _ _)).resolve_right hwhole
    refine Or.inr ⟨hwhole, readReply_part hshort ?_⟩
    rintro rfl
    exact hwhole List.prefix_rfl

end Stream

/-! ## The reader before the end of its stream -/

/-- What the reader has answered and what it holds are the stream so far, cut where a reply
begins. -/
structure Following (replies : List WireReply) (s : Reading) (before rest : List WireReply) :
    Prop where
  split : replies = before ++ rest
  answers : s.answers = before.map fun reply => .ok reply.value
  inTime : s.inTime = before.flatMap wire ++ s.reader.buffer
  arrived : s.arrived = s.inTime
  starts : s.reader.buffer <+: streamOf rest

/-- The reads have been answered as they should be so far. -/
structure Answered (replies : List WireReply) (s : Reading) : Prop where
  settled : s.reader.settled = none
  told : RepliesTold replies s
  following : s.reader.failure = none → ∃ before rest, Following replies s before rest

/-- When a read is under way, or is made, for a reply that has come completely in time, the stream
has not failed before and the last line of the reply has a text. -/
def Heeds (replies : List WireReply) (s : Reading) (e : ReadingEvent) : Prop :=
  s.reader.waiting = true ∨ e = .reads →
    s.answers.length < complete replies (s.inTimeAfter e) →
      s.reader.failure = none ∧ ∃ reply, replies[s.answers.length]? = some reply ∧
        reply.hasText = true

lemma takes_unsettled {s : Reading} {r : Reader} (h : r.settled = none) :
    s.takes r = { s with reader := r } := by
  rw [Reading.takes, h]

lemma takes_onData {s : Reading} {r : Reader} (hwaiting : ¬ r.waiting = true)
    (hsettled : r.settled = none) (text : Text) :
    s.takes (r.onData text) = { s with reader := { r with buffer := r.buffer ++ text } } := by
  rw [Reader.onData, Reader.deliver, if_neg hwaiting]
  exact takes_unsettled hsettled

section Following

variable {replies before rest : List WireReply} {s : Reading}

lemma Following.complete_eq (h : Following replies s before rest) :
    complete replies s.inTime = before.length + complete rest s.reader.buffer := by
  rw [h.split, h.inTime, complete_append]

lemma Following.length_eq (h : Following replies s before rest) :
    s.answers.length = before.length := by
  rw [h.answers, List.length_map]

lemma Following.told (h : Following replies s before rest)
    (hwaiting : s.reader.waiting = true →
      complete rest s.reader.buffer = 0 ∧ s.reader.failure = none) :
    RepliesTold replies s := by
  refine ⟨fun k answer hanswer => ?_, fun hwait => ?_⟩
  · rw [h.answers, List.getElem?_map, Option.map_eq_some_iff] at hanswer
    obtain ⟨reply, hreply, rfl⟩ := hanswer
    obtain ⟨hk, -⟩ := List.getElem?_eq_some_iff.mp hreply
    rw [if_pos (by rw [h.complete_eq]; omega)]
    exact ⟨reply, by rw [h.split, List.getElem?_append_left hk, hreply], rfl⟩
  · obtain ⟨hnone, hfailure⟩ := hwaiting hwait
    exact ⟨by rw [h.complete_eq, h.length_eq, hnone]; exact Nat.le_refl _, hfailure⟩

/-- **The reader looks for the reply it waits for.** -/
lemma Following.deliver (h : Following replies s before rest) (hwaiting : s.reader.waiting = true)
    (hfailure : s.reader.failure = none) (hsettled : s.reader.settled = none) :
    ((before.length < complete replies s.inTime →
        ∃ reply, replies[before.length]? = some reply ∧ reply.hasText = true) →
      Answered replies (s.takes s.reader.deliver)) ∧
    (RepliesTold replies (s.takes s.reader.deliver) →
      before.length < complete replies s.inTime →
        ∃ reply, replies[before.length]? = some reply ∧ reply.hasText = true) := by
  have hunread : readReply s.reader.buffer = none → s.takes s.reader.deliver = s := by
    intro hread
    rw [Reader.deliver, if_pos hwaiting, hread]
    exact takes_unsettled hsettled
  have hwait : readReply s.reader.buffer = none → complete rest s.reader.buffer = 0 →
      Answered replies (s.takes s.reader.deliver) ∧
        ¬ before.length < complete replies s.inTime := by
    intro hread hnone
    rw [hunread hread]
    refine ⟨⟨hsettled, h.told fun _ => ⟨hnone, hfailure⟩, fun _ => ⟨before, rest, h⟩⟩, ?_⟩
    rw [h.complete_eq, hnone]
    exact Nat.lt_irrefl _
  cases rest with
  | nil =>
    have hbuffer : s.reader.buffer = [] := List.prefix_nil.mp h.starts
    obtain ⟨hanswered, hnot⟩ := hwait (by rw [hbuffer]; rfl) rfl
    exact ⟨fun _ => hanswered, fun _ hlt => absurd hlt hnot⟩
  | cons reply rest =>
    have hreply : replies[before.length]? = some reply := by
      rw [h.split, List.getElem?_append_right (Nat.le_refl _), Nat.sub_self]
      rfl
    rcases readReply_of_prefix h.starts with ⟨left, hbuffer, hread⟩ | ⟨hpart, hread⟩
    · have hlt : before.length < complete replies s.inTime := by
        rw [h.complete_eq, hbuffer, complete_append_wire]
        omega
      by_cases htext : reply.hasText = true
      · refine ⟨fun _ => ?_, fun _ _ => ⟨reply, hreply, htext⟩⟩
        rw [if_pos htext] at hread
        rw [Reader.deliver, if_pos hwaiting, hread]
        have hfollowing : Following replies
            { s with
              reader := { s.reader with buffer := left, waiting := false, settled := none }
              answers := s.answers ++ [.ok reply.value] } (before ++ [reply]) rest := by
          refine ⟨by rw [h.split, List.append_assoc]; rfl, ?_, ?_, h.arrived, ?_⟩
          · rw [h.answers, List.map_append]
            rfl
          · rw [h.inTime, hbuffer, List.flatMap_append, List.append_assoc]
            simp
          · have hstarts := h.starts
            rw [hbuffer] at hstarts
            exact (List.prefix_append_right_inj _).mp hstarts
        exact ⟨rfl, hfollowing.told (fun hne => by cases hne), fun _ => ⟨_, _, hfollowing⟩⟩
      · rw [if_neg htext] at hread
        refine ⟨fun hheeds => ?_, fun htold hlt => ?_⟩
        · obtain ⟨reply', hreply', htext'⟩ := hheeds hlt
          rw [hreply, Option.some.injEq] at hreply'
          exact absurd (hreply' ▸ htext') htext
        · rw [hunread hread] at htold
          have hle := (htold.awaited hwaiting).1
          rw [h.length_eq] at hle
          omega
    · have hnone : complete (reply :: rest) s.reader.buffer = 0 := by
        by_contra hne
        exact hpart (complete_cons_pos.mp (Nat.pos_of_ne_zero hne))
      obtain ⟨hanswered, hnot⟩ := hwait hread hnone
      exact ⟨fun _ => hanswered, fun _ hlt => absurd hlt hnot⟩

end Following

/-! ## One event -/

section Step

variable {replies before rest : List WireReply} {s t : Reading} {text : Text}

lemma Following.chunk (h : Following replies s before rest) (hfailure : s.reader.failure = none)
    (hstream : s.arrived ++ text <+: streamOf replies) :
    Following replies
      { s with
        arrived := s.arrived ++ text
        inTime := s.inTimeAfter (.chunk text)
        reader := { s.reader with buffer := s.reader.buffer ++ text } } before rest := by
  have hinTime : s.inTimeAfter (.chunk text) = s.inTime ++ text := by
    rw [Reading.inTimeAfter, hfailure]
    rfl
  refine ⟨h.split, h.answers, ?_, ?_, ?_⟩
  · rw [hinTime, h.inTime, List.append_assoc]
  · rw [hinTime, ← h.arrived]
  · rw [h.arrived, h.inTime, h.split, streamOf, List.flatMap_append, List.append_assoc] at hstream
    exact (List.prefix_append_right_inj _).mp hstream

/-- A chunk, before the end of the stream. -/
lemma Answered.chunk (h : Answered replies s) (hfailure : s.reader.failure = none)
    (hstep : Reading.step (streamOf replies) s (.chunk text) = some t) :
    (Heeds replies s (.chunk text) → Answered replies t) ∧
      (RepliesTold replies t → Heeds replies s (.chunk text)) := by
  rw [Reading.step, Option.ite_none_right_eq_some, Option.some.injEq,
    List.isPrefixOf_iff_prefix] at hstep
  obtain ⟨hstream, rfl⟩ := hstep
  obtain ⟨before, rest, hfollowing⟩ := h.following hfailure
  have hnext := hfollowing.chunk hfailure hstream
  have hlength := hfollowing.length_eq
  by_cases hwaiting : s.reader.waiting = true
  · obtain ⟨hanswers, hheeds⟩ := hnext.deliver hwaiting hfailure h.settled
    refine ⟨fun hheed => hanswers fun hlt => ?_, fun htold _ hlt => ⟨hfailure, ?_⟩⟩
    · exact hlength ▸ (hheed (Or.inl hwaiting) (hlength ▸ hlt)).2
    · exact hlength ▸ hheeds htold (hlength ▸ hlt)
  · rw [takes_onData hwaiting h.settled]
    refine ⟨fun _ => ⟨h.settled, ?_, fun _ => ⟨_, _, hnext⟩⟩, fun _ hread => ?_⟩
    · exact hnext.told fun hne => absurd hne hwaiting
    · rcases hread with hread | hread
      · exact absurd hread hwaiting
      · cases hread

/-- A read, before the end of the stream. -/
lemma Answered.reads (h : Answered replies s) (hfailure : s.reader.failure = none)
    (hstep : Reading.step (streamOf replies) s .reads = some t) :
    (Heeds replies s .reads → Answered replies t) ∧
      (RepliesTold replies t → Heeds replies s .reads) := by
  rw [Reading.step, Option.ite_none_left_eq_some, Option.some.injEq] at hstep
  obtain ⟨-, rfl⟩ := hstep
  obtain ⟨before, rest, hfollowing⟩ := h.following hfailure
  have hlength := hfollowing.length_eq
  have hread : s.reader.read = Reader.deliver { s.reader with waiting := true } := by
    unfold Reader.read
    split
    · next hsome => rw [hfailure] at hsome; cases hsome
    · rfl
  have hnext : Following replies { s with reader := { s.reader with waiting := true } } before rest :=
    ⟨hfollowing.split, hfollowing.answers, hfollowing.inTime, hfollowing.arrived, hfollowing.starts⟩
  obtain ⟨hanswers, hheeds⟩ := hnext.deliver rfl hfailure h.settled
  rw [hread]
  refine ⟨fun hheed => hanswers fun hlt => ?_, fun htold _ hlt => ⟨hfailure, ?_⟩⟩
  · exact hlength ▸ (hheed (Or.inr rfl) (hlength ▸ hlt)).2
  · exact hlength ▸ hheeds htold (hlength ▸ hlt)

/-- A read that is refused, as it should be. -/
lemma RepliesTold.refuse (h : RepliesTold replies s) {error : NetworkError}
    (hlate : complete replies s.inTime ≤ s.answers.length) (hwaiting : t.reader.waiting = false)
    (hanswers : t.answers = s.answers ++ [.error error]) (hinTime : t.inTime = s.inTime) :
    RepliesTold replies t := by
  refine ⟨fun k answer hanswer => ?_, fun hne => by rw [hwaiting] at hne; cases hne⟩
  rw [hinTime]
  rw [hanswers] at hanswer
  by_cases hk : k < s.answers.length
  · exact h.answered k answer (by rwa [List.getElem?_append_left hk] at hanswer)
  · rw [List.getElem?_append_right (by omega)] at hanswer
    rw [if_neg (by omega)]
    exact ⟨error, (List.mem_singleton.mp (List.mem_of_getElem? hanswer))⟩

/-- The stream ends or fails. -/
lemma Answered.fail (h : Answered replies s) (error : NetworkError) :
    Answered replies (s.takes (s.reader.fail error)) := by
  by_cases hwaiting : s.reader.waiting = true
  · have hfail : s.takes (s.reader.fail error) =
        { s with
          reader := { s.reader with failure := some error, waiting := false, settled := none }
          answers := s.answers ++ [.error error] } := by
      rw [Reader.fail, if_pos hwaiting]
      rfl
    rw [hfail]
    exact ⟨rfl, h.told.refuse (h.told.awaited hwaiting).1 rfl rfl rfl, fun hne => by cases hne⟩
  · have hfail : s.takes (s.reader.fail error) =
        { s with reader := { s.reader with failure := some error } } := by
      rw [Reader.fail, if_neg hwaiting]
      exact takes_unsettled h.settled
    rw [hfail]
    exact ⟨h.settled, ⟨h.told.answered, fun hne => absurd hne hwaiting⟩, fun hne => by cases hne⟩

/-- Nothing is expected of a read under way when the stream ends or fails. -/
lemma Answered.heeds_of_no_read (h : Answered replies s) {e : ReadingEvent} (hread : e ≠ .reads)
    (hinTime : s.inTimeAfter e = s.inTime) : Heeds replies s e := by
  rintro (hwaiting | heq) hlt
  · have hle := (h.told.awaited hwaiting).1
    rw [hinTime] at hlt
    omega
  · exact absurd heq hread

lemma Answered.idle (h : Answered replies s) (hfailure : s.reader.failure ≠ none) :
    s.reader.waiting = false := by
  by_contra hne
  exact hfailure (h.told.awaited (by simpa using hne)).2

/-- A chunk after the end of the stream. -/
lemma Answered.lateChunk (h : Answered replies s) (hfailure : s.reader.failure ≠ none)
    (hstep : Reading.step (streamOf replies) s (.chunk text) = some t) :
    (Heeds replies s (.chunk text) → Answered replies t) ∧
      (RepliesTold replies t → Heeds replies s (.chunk text)) := by
  rw [Reading.step, Option.ite_none_right_eq_some, Option.some.injEq] at hstep
  obtain ⟨-, rfl⟩ := hstep
  have hinTime : s.inTimeAfter (.chunk text) = s.inTime :=
    if_pos (Option.isSome_iff_ne_none.mpr hfailure)
  rw [takes_onData (by simp [h.idle hfailure]) h.settled, hinTime]
  refine ⟨fun _ => ⟨h.settled, ⟨h.told.answered, h.told.awaited⟩, fun hne => ?_⟩, fun _ => ?_⟩
  · exact absurd hne hfailure
  · exact h.heeds_of_no_read (by simp) hinTime

/-- A read after the end of the stream. -/
lemma Answered.lateReads (h : Answered replies s) (hfailure : s.reader.failure ≠ none)
    (hstep : Reading.step (streamOf replies) s .reads = some t) :
    (Heeds replies s .reads → Answered replies t) ∧
      (RepliesTold replies t → Heeds replies s .reads) := by
  rw [Reading.step, Option.ite_none_left_eq_some, Option.some.injEq] at hstep
  obtain ⟨-, rfl⟩ := hstep
  obtain ⟨failure, hsome⟩ := Option.ne_none_iff_exists'.mp hfailure
  have hrefused : s.takes s.reader.read =
      { s with
        reader := { s.reader with settled := none }
        answers := s.answers ++ [.error failure] } := by
    have hread : s.reader.read = { s.reader with settled := some (.error failure) } := by
      unfold Reader.read
      split
      · next hother => rw [hsome, Option.some.injEq] at hother; rw [hother]
      · next hnone => exact absurd hnone hfailure
    rw [hread]
    rfl
  rw [hrefused]
  refine ⟨fun hheed => ?_, fun htold _ hlt => ?_⟩
  · have hlate : complete replies s.inTime ≤ s.answers.length := by
      by_contra hlt
      exact hfailure (hheed (Or.inr rfl) (Nat.not_le.mp hlt)).1
    exact ⟨rfl, h.told.refuse hlate (h.idle hfailure) rfl rfl, fun hne => absurd hne hfailure⟩
  · have hanswer := htold.answered s.answers.length (.error failure) (by simp)
    have hcomplete : s.answers.length < complete replies s.inTime := hlt
    rw [if_pos hcomplete] at hanswer
    obtain ⟨reply, -, hne⟩ := hanswer
    cases hne

/-- **One event** keeps the answers as they should be exactly when it meets the condition. -/
lemma Answered.step (h : Answered replies s) {e : ReadingEvent}
    (hstep : Reading.step (streamOf replies) s e = some t) :
    (Heeds replies s e → Answered replies t) ∧ (RepliesTold replies t → Heeds replies s e) := by
  cases e with
  | chunk text =>
    by_cases hfailure : s.reader.failure = none
    · exact h.chunk hfailure hstep
    · exact h.lateChunk hfailure hstep
  | reads =>
    by_cases hfailure : s.reader.failure = none
    · exact h.reads hfailure hstep
    · exact h.lateReads hfailure hstep
  | ends =>
    rw [Reading.step, Option.some.injEq] at hstep
    subst hstep
    exact ⟨fun _ => h.fail _, fun _ => h.heeds_of_no_read (by simp) rfl⟩
  | errors error =>
    rw [Reading.step, Option.some.injEq] at hstep
    subst hstep
    exact ⟨fun _ => h.fail _, fun _ => h.heeds_of_no_read (by simp) rfl⟩

end Step

/-! ## Every run -/

lemma Answered.of_init {replies : List WireReply} {s : Reading} (h : (reading replies).init s) :
    Answered replies s := by
  obtain ⟨socket, rfl⟩ := h
  have hfollowing : Following replies (Reading.create socket) [] replies :=
    ⟨rfl, rfl, rfl, rfl, List.nil_prefix⟩
  exact ⟨rfl, hfollowing.told (fun hne => by cases hne), fun _ => ⟨_, _, hfollowing⟩⟩

open TransitionSystem

lemma Answered.of_reachable {replies : List WireReply} {s : Reading}
    (h : (reading replies).Reachable (Heeds replies) s) : Answered replies s :=
  h.invariant (fun _ hinit => .of_init hinit) fun _ _ _ ht hheeds hstep => (ht.step hstep).1 hheeds

/-- **The replies of a stream, in order.**  However the stream is cut, and whenever it ends or
fails and is read, the reads are answered as they should be as long as every event meets the
condition, and a further event keeps this exactly when it does. -/
theorem replies_told_iff {replies : List WireReply} {s : Reading}
    (h : (reading replies).Reachable (Heeds replies) s) :
    RepliesTold replies s ∧ ∀ e t, (reading replies).step s e = some t →
      (RepliesTold replies t ↔ Heeds replies s e) := by
  have hanswered := Answered.of_reachable h
  refine ⟨hanswered.told, fun e t hstep => ?_⟩
  obtain ⟨hkeeps, hneeds⟩ := hanswered.step hstep
  exact ⟨hneeds, fun hheeds => (hkeeps hheeds).told⟩

/-- A reply of one line. -/
def accepted : WireReply where
  lines := []
  code := ⟨"250".toList, by decide⟩
  text := some ⟨"ok".toList, by decide⟩

/-- The same reply without a text. -/
def acceptedBare : WireReply := { accepted with text := none }

/-- The reply has come and was read. -/
def acceptedRead : Reading where
  reader := Reader.create 0
  answers := [.ok ⟨250, ["ok".toList]⟩]
  arrived := "250 ok\r\n".toList
  inTime := "250 ok\r\n".toList

theorem replies_told_iff_read :
    RepliesTold [accepted] acceptedRead ∧ ∀ e t, (reading [accepted]).step acceptedRead e = some t →
      (RepliesTold [accepted] t ↔ Heeds [accepted] acceptedRead e) := by
  have hstart : (reading [accepted]).Reachable (Heeds [accepted]) (.create 0) :=
    .of_init ⟨0, rfl⟩
  have hread := hstart.step (e := .reads) (t := { Reading.create 0 with reader := { Reader.create 0 with waiting := true } })
    (fun _ hlt => absurd hlt (by decide)) rfl
  refine replies_told_iff (hread.step (e := .chunk "250 ok\r\n".toList) ?_ rfl)
  intro _ _
  exact ⟨rfl, accepted, rfl, rfl⟩

/-- A reply that came before the end of the stream is lost to the read made after it; and a reply
without a text is not answered with at all. -/
theorem replies_lost :
    (∃ s, (reading [accepted]).Reachable free s ∧ ¬ RepliesTold [accepted] s) ∧
      ∃ s, (reading [acceptedBare]).Reachable free s ∧ ¬ RepliesTold [acceptedBare] s := by
  constructor
  · refine ⟨_, .of_exec ⟨0, rfl⟩
      (rfl : (reading [accepted]).exec (.create 0)
        [.chunk "250 ok\r\n".toList, .ends, .reads] = some _), fun htold => ?_⟩
    have hanswer := htold.answered 0 _ rfl
    rw [if_pos (by decide)] at hanswer
    obtain ⟨reply, -, hne⟩ := hanswer
    cases hne
  · refine ⟨_, .of_exec ⟨0, rfl⟩
      (rfl : (reading [acceptedBare]).exec (.create 0)
        [.chunk "250\r\n".toList, .reads] = some _), fun htold => ?_⟩
    exact absurd (htold.awaited rfl).1 (by decide)

end OpenMcc.Smtp
