import OpenMcc.Construction.SmtpReply

/-!
# What a reader makes of the text of its socket

`readReply` takes a reply from the start of the text, and the text it took reads as that reply by
itself.  A reader hands the text on in order: what was taken in replies, the reply that waits to be
taken and the buffer are, one after the other, what the socket received while the reader listened
(`Reader.Holds`).
-/

namespace OpenMcc.Smtp

/-- The text of a reply and the text after it make up what it was read from. -/
lemma readReplyFrom_suffix {reply : SmtpReply} {line rest buffer : Text} {lines : List Text}
    (h : readReplyFrom line lines buffer = some (reply, rest)) : rest <:+ buffer := by
  fun_induction readReplyFrom line lines buffer with
  | case1 line lines after hline => cases h
  | case2 line lines after code text hline =>
    rw [Option.some.injEq, Prod.mk.injEq] at h
    rw [← h.2]
    exact (List.suffix_cons _ _).trans (List.suffix_cons _ _)
  | case3 line lines after code separator text hline hlast ih =>
    exact ((ih h).trans (List.suffix_cons _ _)).trans (List.suffix_cons _ _)
  | case4 line lines c after hne ih => exact (ih h).trans (List.suffix_cons _ _)
  | case5 line lines => cases h

lemma readReply_suffix {buffer rest : Text} {reply : SmtpReply}
    (h : readReply buffer = some (reply, rest)) : rest <:+ buffer := readReplyFrom_suffix h

/-- The text a reply was read from is read as that reply. -/
lemma readReplyFrom_text {reply : SmtpReply} {line rest buffer text : Text} {lines : List Text}
    (h : readReplyFrom line lines buffer = some (reply, rest)) (htext : text ++ rest = buffer) :
    readReplyFrom line lines text = some (reply, []) := by
  fun_induction readReplyFrom line lines buffer generalizing text with
  | case1 line lines after hline => cases h
  | case2 line lines after code last hline =>
    rw [Option.some.injEq, Prod.mk.injEq] at h
    obtain ⟨rfl, rfl⟩ := h
    obtain rfl : text = ['\r', '\n'] := List.append_cancel_right htext
    simp [readReplyFrom, hline]
  | case3 line lines after code separator last hline hlast ih =>
    obtain ⟨front, rfl⟩ := readReplyFrom_suffix h
    have hfront : text = '\r' :: '\n' :: front := List.append_cancel_right htext
    subst hfront
    rw [readReplyFrom, hline]
    simpa [hlast] using ih h rfl
  | case4 line lines c after hne ih =>
    obtain ⟨front, rfl⟩ := readReplyFrom_suffix h
    have hfront : text = c :: front := List.append_cancel_right htext
    subst hfront
    rw [readReplyFrom]
    · exact ih h rfl
    · intro tail hc hfront
      exact hne (tail ++ rest) hc (by rw [hfront]; rfl)
  | case5 line lines => cases h

/-- The text a reader takes a reply from. -/
lemma readReply_take {buffer rest : Text} {reply : SmtpReply}
    (h : readReply buffer = some (reply, rest)) :
    buffer.take (buffer.length - rest.length) ++ rest = buffer ∧
      readReply (buffer.take (buffer.length - rest.length)) = some (reply, []) := by
  obtain ⟨text, rfl⟩ := readReply_suffix h
  have htake : (text ++ rest).take ((text ++ rest).length - rest.length) = text := by simp
  rw [htake]
  exact ⟨rfl, readReplyFrom_text h rfl⟩

namespace Reader

/-- The text of a reply that was read and that the program has not taken yet. -/
def pending (r : Reader) : Text :=
  match r.settled with
  | some (.ok reply) => reply.text
  | _ => []

/-- The reader of a socket, by what has been received there and what of it was taken in replies. -/
structure Holds (r : Reader) (socket : Nat) (taken received : Text) : Prop where
  socket_eq : r.socket = socket
  starts : taken ++ (r.pending ++ r.buffer) <+: received
  all : r.listening = true → taken ++ (r.pending ++ r.buffer) = received
  unsettled : r.waiting = true → r.settled = none

variable {r : Reader} {socket : Nat} {taken received chunk : Text}

lemma Holds.create (socket : Nat) : (Reader.create socket).Holds socket [] [] :=
  ⟨rfl, List.prefix_rfl, fun _ => rfl, fun h => by cases h⟩

/-- `deliver` keeps the text. -/
lemma deliver_text (r : Reader) (h : r.waiting = true → r.settled = none) :
    r.deliver.pending ++ r.deliver.buffer = r.pending ++ r.buffer ∧
      r.deliver.socket = r.socket ∧ r.deliver.listening = r.listening ∧
      (r.deliver.waiting = true → r.deliver.settled = none) := by
  unfold deliver
  by_cases hwaiting : r.waiting = true
  · rw [if_pos hwaiting]
    cases hread : readReply r.buffer with
    | none => exact ⟨rfl, rfl, rfl, h⟩
    | some found =>
      obtain ⟨reply, rest⟩ := found
      refine ⟨?_, rfl, rfl, fun hne => by cases hne⟩
      show _ ++ rest = _
      rw [pending, pending, h hwaiting]
      exact (readReply_take hread).1
  · rw [if_neg hwaiting]
    exact ⟨rfl, rfl, rfl, h⟩

lemma Holds.deliver (h : r.Holds socket taken received) :
    r.deliver.Holds socket taken received := by
  obtain ⟨htext, hsocket, hlistening, hunsettled⟩ := deliver_text r h.unsettled
  refine ⟨hsocket.trans h.socket_eq, ?_, ?_, hunsettled⟩
  · rw [htext]
    exact h.starts
  · rw [htext, hlistening]
    exact h.all

/-- A chunk the reader is given. -/
lemma Holds.onData (h : r.Holds socket taken received) (hlistening : r.listening = true) :
    (r.onData chunk).Holds socket taken (received ++ chunk) := by
  refine Holds.deliver ⟨h.socket_eq, ?_, fun _ => ?_, h.unsettled⟩
  · rw [← h.all hlistening]
    show taken ++ (r.pending ++ (r.buffer ++ chunk)) <+: _
    simp only [List.append_assoc]
    exact List.prefix_rfl
  · rw [← h.all hlistening]
    show taken ++ (r.pending ++ (r.buffer ++ chunk)) = _
    simp only [List.append_assoc]

/-- A chunk the reader is not given. -/
lemma Holds.missed (h : r.Holds socket taken received) (hlistening : r.listening = false) :
    r.Holds socket taken (received ++ chunk) := by
  refine ⟨h.socket_eq, h.starts.trans (List.prefix_append _ _), fun hne => ?_, h.unsettled⟩
  rw [hlistening] at hne
  cases hne

lemma Holds.fail (h : r.Holds socket taken received) (error : NetworkError) :
    (r.fail error).Holds socket taken received := by
  unfold Reader.fail
  by_cases hwaiting : r.waiting = true
  · rw [if_pos hwaiting]
    have hpending : r.pending = [] := by rw [pending, h.unsettled hwaiting]
    have hstarts := h.starts
    have hall := h.all
    rw [hpending] at hstarts hall
    exact ⟨h.socket_eq, hstarts, hall, fun hne => by cases hne⟩
  · rw [if_neg hwaiting]
    exact ⟨h.socket_eq, h.starts, h.all, h.unsettled⟩

/-- No read of it is under way. -/
def Resting (r : Reader) : Prop := r.waiting = false ∧ r.settled = none

lemma Resting.onData (h : r.Resting) (chunk : Text) : (r.onData chunk).Resting := by
  obtain ⟨hwaiting, hsettled⟩ := h
  unfold Reader.onData Reader.deliver
  rw [if_neg (by simp [hwaiting])]
  exact ⟨hwaiting, hsettled⟩

lemma Resting.fail (h : r.Resting) (error : NetworkError) : (r.fail error).Resting := by
  obtain ⟨hwaiting, hsettled⟩ := h
  unfold Reader.fail
  rw [if_neg (by simp [hwaiting])]
  exact ⟨hwaiting, hsettled⟩

lemma Holds.read (h : r.Holds socket taken received) (hrest : r.Resting) :
    r.read.Holds socket taken received := by
  obtain ⟨hwaiting, hsettled⟩ := hrest
  have hpending : r.pending = [] := by rw [pending, hsettled]
  unfold Reader.read
  split
  · have hstarts := h.starts
    have hall := h.all
    rw [hpending] at hstarts hall
    refine ⟨h.socket_eq, hstarts, hall, fun hne => ?_⟩
    change r.waiting = true at hne
    rw [hwaiting] at hne
    cases hne
  · exact Holds.deliver ⟨h.socket_eq, h.starts, h.all, fun _ => hsettled⟩

lemma Holds.stop (h : r.Holds socket taken received) : r.stop.Holds socket taken received :=
  ⟨h.socket_eq, h.starts, (fun hne => by cases hne), h.unsettled⟩

/-- What its promise was settled with was read from the text that goes with it. -/
def Parsed (r : Reader) : Prop :=
  ∀ reply, r.settled = some (.ok reply) → readReply reply.text = some (reply.toSmtpReply, [])

lemma Parsed.deliver (h : r.Parsed) : r.deliver.Parsed := by
  unfold Reader.deliver
  split
  · split
    · exact h
    · next reply rest hread =>
      intro settled hsettled
      obtain rfl : _ = settled := Except.ok.inj (Option.some.inj hsettled)
      exact (readReply_take hread).2
  · exact h

lemma Parsed.onData (h : r.Parsed) (chunk : Text) : (r.onData chunk).Parsed :=
  Parsed.deliver (r := { r with buffer := r.buffer ++ chunk }) h

lemma Parsed.fail (h : r.Parsed) (error : NetworkError) : (r.fail error).Parsed := by
  unfold Reader.fail
  split
  · intro reply hsettled
    cases hsettled
  · exact h

lemma Parsed.read (h : r.Parsed) : r.read.Parsed := by
  unfold Reader.read
  split
  · intro reply hsettled
    cases hsettled
  · exact Parsed.deliver (r := { r with waiting := true }) h

/-- The text of what a read was answered with. -/
def answerText : Except NetworkError TextReply → Text
  | .ok reply => reply.text
  | .error _ => []

lemma pending_of_settled {answer : Except NetworkError TextReply} (h : r.settled = some answer) :
    r.pending = answerText answer := by
  rw [pending, h]
  cases answer with
  | ok reply => rfl
  | error error => rfl

/-- The program takes an answer. -/
lemma Holds.take (h : r.Holds socket taken received) {answer : Except NetworkError TextReply}
    (hsettled : r.settled = some answer) :
    { r with settled := none }.Holds socket (taken ++ answerText answer) received ∧
      { r with settled := none }.Resting := by
  have hwaiting : r.waiting = false := by
    by_contra hne
    rw [h.unsettled (Bool.not_eq_false _ ▸ hne)] at hsettled
    cases hsettled
  have hstarts := h.starts
  have hall := h.all
  rw [pending_of_settled hsettled] at hstarts hall
  refine ⟨⟨h.socket_eq, ?_, fun hlistening => ?_, fun _ => rfl⟩, hwaiting, rfl⟩
  · show taken ++ answerText answer ++ ([] ++ r.buffer) <+: received
    simpa only [List.append_assoc, List.nil_append] using hstarts
  · show taken ++ answerText answer ++ ([] ++ r.buffer) = received
    simpa only [List.append_assoc, List.nil_append] using hall hlistening

end Reader

end OpenMcc.Smtp
