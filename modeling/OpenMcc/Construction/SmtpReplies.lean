import OpenMcc.Construction.SmtpReply
import OpenMcc.Framework.Transition

/-!
# Reading the replies of a stream (`createReader` of `smtp.client.ts`)

A mail server writes replies one after the other (`WireReply`).  Their text comes in chunks that
are cut anywhere, and it ends or fails at any time; meanwhile the program reads, each time after
its last read was answered.  A `Reading` is the reader with the answers it has given so far.
-/

namespace OpenMcc.Smtp

/-! ## The stream -/

/-- The three digits of a reply code. -/
abbrev ReplyCode := { digits : Text // digits.length = 3 ∧ digits.all Text.isDigit = true }

/-- A text of ASCII in a line. -/
abbrev ReplyText :=
  { text : Text // (text.all fun c => c.toNat < 128 && c != '\r' && c != '\n') = true }

/-- A well-formed reply: lines with a hyphen after the code, and a last line that has a space and a
text after the code, or nothing. -/
structure WireReply where
  lines : List (ReplyCode × ReplyText)
  code : ReplyCode
  text : Option ReplyText
  deriving DecidableEq

namespace WireReply

/-- The end of a line. -/
def lineEnd : Text := ['\r', '\n']

/-- A line that another one follows. -/
def lineWire (line : ReplyCode × ReplyText) : Text := line.1.val ++ '-' :: line.2.val ++ lineEnd

/-- The last line. -/
def lastWire (reply : WireReply) : Text :=
  reply.code.val ++ (reply.text.elim [] fun text => ' ' :: text.val) ++ lineEnd

/-- The reply as it is written. -/
def wire (reply : WireReply) : Text := reply.lines.flatMap lineWire ++ reply.lastWire

/-- What the reply says. -/
def value (reply : WireReply) : SmtpReply where
  code := decimal reply.code.val
  lines := reply.lines.map (fun line => line.2.val) ++ [reply.text.elim [] Subtype.val]

/-- The last line has a text after its code, if only an empty one. -/
def hasText (reply : WireReply) : Bool := reply.text.isSome

/-- How many of the replies the text holds completely. -/
def complete : List WireReply → Text → Nat
  | [], _ => 0
  | reply :: replies, text =>
    if reply.wire.isPrefixOf text then complete replies (text.drop reply.wire.length) + 1 else 0

end WireReply

/-! ## The reader at work -/

/-- A reader on a stream of replies. -/
structure Reading where
  reader : Reader
  /-- What the reads so far were answered with. -/
  answers : List (Except NetworkError SmtpReply)
  /-- What has come of the stream. -/
  arrived : Text
  /-- What of it had come before the stream ended or failed. -/
  inTime : Text

/-- What can happen next. -/
inductive ReadingEvent
  | chunk (text : Text)
  | ends
  | errors (error : NetworkError)
  | reads
  deriving DecidableEq, Repr

namespace Reading

/-- The reader after an event, its answer taken if it has given one. -/
def takes (s : Reading) (r : Reader) : Reading :=
  match r.settled with
  | none => { s with reader := r }
  | some answer =>
    { s with
      reader := { r with settled := none }
      answers := s.answers ++ [answer.map TextReply.toSmtpReply] }

/-- What has come in time, after the event. -/
def inTimeAfter (s : Reading) : ReadingEvent → Text
  | .chunk text => if s.reader.failure.isSome then s.inTime else s.inTime ++ text
  | _ => s.inTime

/-- The state after an event.  The reads are sequential. -/
def step (stream : Text) (s : Reading) : ReadingEvent → Option Reading
  | .chunk text =>
    if (s.arrived ++ text).isPrefixOf stream then
      some ({ s with
        arrived := s.arrived ++ text
        inTime := s.inTimeAfter (.chunk text) }.takes (s.reader.onData text))
    else none
  | .ends => some (s.takes s.reader.onEnd)
  | .errors error => some (s.takes (s.reader.fail error))
  | .reads => if s.reader.waiting then none else some (s.takes s.reader.read)

/-- A reader just made. -/
def create (socket : Nat) : Reading := ⟨Reader.create socket, [], [], []⟩

end Reading

/-- The text of the replies. -/
def streamOf (replies : List WireReply) : Text := replies.flatMap WireReply.wire

/-- A reader on the stream of the replies. -/
def reading (replies : List WireReply) : TransitionSystem Reading ReadingEvent where
  init s := ∃ socket, s = .create socket
  step := Reading.step (streamOf replies)

open WireReply in
/-- Each read is answered with its reply when that came completely before the stream ended or
failed, and is refused otherwise. -/
structure RepliesTold (replies : List WireReply) (s : Reading) : Prop where
  answered : ∀ k answer, s.answers[k]? = some answer →
    if k < complete replies s.inTime then
      ∃ reply, replies[k]? = some reply ∧ answer = .ok reply.value
    else ∃ error, answer = .error error
  /-- The read under way is for a reply that has not come completely, and may still come. -/
  awaited : s.reader.waiting = true →
    complete replies s.inTime ≤ s.answers.length ∧ s.reader.failure = none

end OpenMcc.Smtp
