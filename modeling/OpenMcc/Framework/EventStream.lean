import OpenMcc.Framework.Text

/-!
# Event streams

A body of `text/event-stream`, as the format's grammar writes it: events, each of them lines that
are comments or fields and a blank line after them.  A line ends with LF, with CR or with both, and
each line with its own of these.

What a stream means is the list of its messages.  The message of an event is the values of its data
fields, one line each; an event without such a field has none.

The parts carry what the grammar asks of them, so a stream that is not in the format cannot be
written down.  Of the names of fields we leave out those that begin with white space.
-/

namespace OpenMcc

namespace EventStream

/-- What ends a line. -/
inductive LineEnd
  | lf
  | cr
  | crlf
  deriving DecidableEq, Repr

/-- The characters at the end of a line. -/
def LineEnd.text : LineEnd → Text
  | .lf => ['\n']
  | .cr => ['\r']
  | .crlf => ['\r', '\n']

/-- A character that may be inside a line. -/
def isInner (c : Char) : Bool := c != '\n' && c != '\r'

/-- What is after the colon of a field. -/
structure FieldValue where
  /-- There is a space after the colon, which is not of the value. -/
  spaced : Bool
  text : Text
  inner : text.all isInner = true
  unspaced : spaced = false → text.head? ≠ some ' '

/-- The name of a field. -/
structure FieldName where
  text : Text
  ne_nil : text ≠ []
  inner : text.all (fun c => isInner c && c != ':') = true
  unblanked : (text.head?.any Text.isSpace) = false

/-- The name of the fields that a message is made of. -/
def FieldName.data : FieldName := ⟨"data".toList, by decide, by decide, by decide⟩

/-- A line that is not blank. -/
inductive Line
  | comment (t : Text) (inner : t.all isInner = true)
  | field (name : FieldName) (value : Option FieldValue)

/-- The value with its colon. -/
def FieldValue.written (v : FieldValue) : Text :=
  ':' :: (if v.spaced then ' ' :: v.text else v.text)

/-- The line without its end. -/
def Line.text : Line → Text
  | .comment t _ => ':' :: t
  | .field name none => name.text
  | .field name (some v) => name.text ++ v.written

/-- What the line adds to the message of its event. -/
def Line.data : Line → Option Text
  | .comment _ _ => none
  | .field name value =>
    if name.text = FieldName.data.text then some (value.elim [] FieldValue.text) else none

/-- Lines, and the end of the blank line that closes the event. -/
structure Event where
  lines : List (Line × LineEnd)
  close : LineEnd

/-- The values of the data fields. -/
def Event.data (e : Event) : List Text := e.lines.filterMap fun line => line.1.data

/-- The message of the event. -/
def Event.message (e : Event) : Option Text :=
  if e.data = [] then none else some (Text.join "\n".toList e.data)

/-- A line of the body with its end: a blank one is none. -/
abbrev Row := Option Line × LineEnd

/-- The lines of the event, with the blank one. -/
def Event.rows (e : Event) : List Row :=
  e.lines.map (fun line => (some line.1, line.2)) ++ [(none, e.close)]

/-- The line without its end. -/
def Row.line (row : Row) : Text := row.1.elim [] Line.text

/-- A stream.  A CR with a blank line after it that ends with LF would be one end of a line. -/
structure Stream where
  /-- There is a byte order mark before the stream. -/
  byteOrderMark : Bool
  events : List Event
  unambiguous : (events.flatMap Event.rows).IsChain
    fun row next => row.2 ≠ .cr ∨ next.1.isSome ∨ next.2 ≠ .lf

namespace Stream

/-- The lines of the stream. -/
def rows (s : Stream) : List Row := s.events.flatMap Event.rows

/-- The mark before the stream, if there is one. -/
def mark (s : Stream) : Text := if s.byteOrderMark then [Char.ofNat 0xfeff] else []

/-- The body. -/
def text (s : Stream) : Text := s.mark ++ s.rows.flatMap fun row => Row.line row ++ row.2.text

/-- The messages. -/
def messages (s : Stream) : List Text := s.events.filterMap Event.message

end Stream

end EventStream

end OpenMcc
