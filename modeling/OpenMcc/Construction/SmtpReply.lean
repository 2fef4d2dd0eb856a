import OpenMcc.Construction.Outcome

/-!
# Replies of a mail server (`smtp.reply.ts`, `createReader` of `smtp.client.ts`)

A reply is one or more lines, the last of which has a space after its code.  `readReply` takes one
from the start of what has been received.  A `Reader` is what `createReader` keeps between the
events of its socket: the text not read yet, the failure of the socket and the promise of the
latest `read`.
-/

namespace OpenMcc.Smtp

/-! ## One reply -/

/-- `SmtpReply`. -/
structure SmtpReply where
  code : Nat
  lines : List Text
  deriving DecidableEq, Repr

/-- `Number` of a text of decimal digits. -/
def decimal (digits : Text) : Nat := digits.foldl (fun n c => 10 * n + (c.toNat - '0'.toNat)) 0

/-- `LINE`: the code, the separator and the text of a line. -/
def readLine : Text → Option (Nat × Char × Text)
  | first :: second :: third :: separator :: text =>
    if [first, second, third].all Text.isDigit && (separator == ' ' || separator == '-') &&
        text.all fun c => !Text.isLineTerminator c then
      some (decimal [first, second, third], separator, text)
    else none
  | _ => none

/-- The loop of `readReply`: `line` is what stands between the offset and the place the search for
a line end has come to, and `lines` are the texts of the lines before. -/
def readReplyFrom (line : Text) (lines : List Text) : Text → Option (SmtpReply × Text)
  | '\r' :: '\n' :: rest =>
    match readLine line with
    | none => none
    | some (code, separator, text) =>
      if separator = ' ' then some (⟨code, lines ++ [text]⟩, rest)
      else readReplyFrom [] (lines ++ [text]) rest
  | c :: rest => readReplyFrom (line ++ [c]) lines rest
  | [] => none

/-- `readReply`: a reply with the text after it, where one can be read. -/
def readReply (buffer : Text) : Option (SmtpReply × Text) := readReplyFrom [] [] buffer

/-- A reply of two lines is read as one, and one that has not ended is not read. -/
example : readReply "250-a\r\n250 b\r\n220".toList =
      some (⟨250, ["a".toList, "b".toList]⟩, "220".toList) ∧
    readReply "250-a\r\n".toList = none := by decide

/-- `isPositive`. -/
def SmtpReply.isPositive (reply : SmtpReply) : Bool := 200 ≤ reply.code && reply.code < 400

/-- `isTransient`. -/
def isTransient (code : Nat) : Bool := 400 ≤ code && code < 500

section Keywords

variable (toUpperCase : Text → Text)

/-- `advertises`. -/
def advertises (reply : SmtpReply) (keyword : Text) : Bool :=
  reply.lines.any fun line =>
    (Text.splitSpaces (Text.trim line)).head?.any fun word =>
      toUpperCase word == toUpperCase keyword

/-- `authMechanisms`. -/
def authMechanisms (reply : SmtpReply) : List Text :=
  reply.lines.flatMap fun line =>
    match Text.splitSpaces (Text.trim line) with
    | [] => []
    | head :: parts => if toUpperCase head = "AUTH".toList then parts.map toUpperCase else []

end Keywords

/-! ## The reader of a socket -/

/-- `CLOSED`. -/
def closed : Text := "That mail server closed the connection".toList

/-- `TOO_SLOW`. -/
def tooSlow : Text := "That mail server took too long".toList

/-- A reply, with the text it was read from. -/
structure TextReply extends SmtpReply where
  text : Text
  deriving DecidableEq, Repr

/-- What `createReader` keeps.  `settled` is what the promise of the latest `read` was settled
with, until the program takes it. -/
structure Reader where
  socket : Nat
  buffer : Text
  waiting : Bool
  failure : Option NetworkError
  settled : Option (Except NetworkError TextReply)
  /-- Its listeners are on the socket. -/
  listening : Bool

namespace Reader

/-- `createReader`. -/
def create (socket : Nat) : Reader where
  socket := socket
  buffer := []
  waiting := false
  failure := none
  settled := none
  listening := true

/-- `deliver`. -/
def deliver (r : Reader) : Reader :=
  if r.waiting then
    match readReply r.buffer with
    | none => r
    | some (reply, rest) =>
      { r with
        buffer := rest
        waiting := false
        settled := some (.ok ⟨reply, r.buffer.take (r.buffer.length - rest.length)⟩) }
  else r

/-- `fail`. -/
def fail (r : Reader) (error : NetworkError) : Reader :=
  if r.waiting then
    { r with failure := some error, waiting := false, settled := some (.error error) }
  else { r with failure := some error }

/-- `onData`. -/
def onData (r : Reader) (chunk : Text) : Reader := deliver { r with buffer := r.buffer ++ chunk }

/-- `onEnd`. -/
def onEnd (r : Reader) : Reader := r.fail (internalError closed)

/-- `read`, up to its promise. -/
def read (r : Reader) : Reader :=
  match r.failure with
  | some error => { r with settled := some (.error error) }
  | none => deliver { r with waiting := true }

/-- `stop`. -/
def stop (r : Reader) : Reader := { r with listening := false }

end Reader

end OpenMcc.Smtp
