import OpenMcc.Construction.SmtpClient

/-!
# Release notes (`release-notes.ts`)

The text of a release is cut into lines, the lines into blocks, and the text of a block into spans.
A round of either loop of the source is a function here, `roleOf` of a line and `takeInline` of a
place in a text, which says what is made of the text and how much of it is used up.

Which characters are letters and digits (`WORD`) is a parameter.  Offsets are counted as the source
counts them, in 16-bit units.
-/

namespace OpenMcc.ReleaseNotes

open Smtp (truncateChars)

/-- What a span says. -/
inductive SpanContent
  | text (text : Text)
  | code (text : Text)
  | link (label url : Text)
  | bold (text : Text)
  | italic (text : Text)
  deriving DecidableEq, Repr

/-- `ReleaseNoteSpan`. -/
structure Span where
  start : Nat
  content : SpanContent
  deriving DecidableEq, Repr

/-- What a block says. -/
inductive BlockContent
  | paragraph (spans : List Span)
  | heading (spans : List Span)
  | bullet (spans : List Span)
  | numbered (number : Text) (spans : List Span)
  | code (text : Text)
  deriving DecidableEq, Repr

/-- `ReleaseNoteBlock`. -/
structure Block where
  start : Nat
  content : BlockContent
  deriving DecidableEq, Repr

/-- `RELEASE_NOTE_MAX_BLOCKS`. -/
def releaseNoteMaxBlocks : Nat := 500

/-- `RELEASE_NOTE_MAX_BLOCK_CHARS`. -/
def releaseNoteMaxBlockChars : Nat := 2000

/-! ## Lines -/

/-- A space or a tab. -/
def isBlankChar (c : Char) : Bool := c == ' ' || c == '\t'

/-- `trimSpaceEnd`. -/
def trimSpaceEnd (value : Text) : Text := (value.reverse.dropWhile isBlankChar).reverse

/-- The text after ` {0,3}` at its start. -/
def skipIndent (line : Text) : Text := line.drop (min 3 (line.takeWhile (· == ' ')).length)

/-- `FENCE_OPEN`: the mark of the fence that the line opens. -/
def fenceOf (line : Text) : Option Text :=
  let ticks := (skipIndent line).takeWhile (· == '`')
  let tildes := (skipIndent line).takeWhile (· == '~')
  if 3 ≤ ticks.length then some ticks
  else if 3 ≤ tildes.length then some tildes
  else none

/-- `closesFence`. -/
def closesFence (mark line : Text) : Bool :=
  let trimmed := Text.trimEnd (skipIndent line)
  mark.length ≤ trimmed.length && trimmed.all fun each => some each == mark.head?

/-- `isBlank`. -/
def isBlank (line : Text) : Bool := (Text.trim line).isEmpty

/-- `INDENTED`. -/
def isIndented (line : Text) : Bool := "    ".toList.isPrefixOf line || line.head? == some '\t'

/-- The line without its `INDENTED`. -/
def withoutIndent (line : Text) : Text :=
  if "    ".toList.isPrefixOf line then line.drop 4
  else if line.head? == some '\t' then line.drop 1
  else line

/-- `[ \t]+(.*)`: what comes after the blanks. -/
def afterBlanks (t : Text) : Option Text :=
  if t.head?.any isBlankChar then some (t.dropWhile isBlankChar) else none

/-- `headingTextOf`. -/
def headingTextOf (raw : Text) : Text :=
  let text := trimSpaceEnd raw
  let kept := (text.reverse.dropWhile (· == '#')).reverse
  if kept = text then text
  else
    match kept.getLast? with
    | none => []
    | some before => if isBlankChar before then trimSpaceEnd kept else text

/-- `HEADING`: what comes after its marks. -/
def headingOf (line : Text) : Option Text :=
  let marks := (skipIndent line).takeWhile (· == '#')
  if 1 ≤ marks.length ∧ marks.length ≤ 6 then
    afterBlanks ((skipIndent line).drop marks.length)
  else none

/-- `BULLET`. -/
def bulletOf : Text → Option Text
  | [] => none
  | c :: line => if c == '-' || c == '*' || c == '+' then afterBlanks line else none

/-- `NUMBERED`: the number, and what comes after its mark. -/
def numberedOf (line : Text) : Option (Text × Text) :=
  let number := line.takeWhile Text.isDigit
  if 1 ≤ number.length ∧ number.length ≤ 9 then
    match line.drop number.length with
    | c :: rest => if c == '.' || c == ')' then (afterBlanks rest).map (number, ·) else none
    | [] => none
  else none

/-- `source.replace(/\r\n?/g, "\n")`. -/
def normaliseLineEnds : Text → Text
  | [] => []
  | '\r' :: '\n' :: rest => '\n' :: normaliseLineEnds rest
  | '\r' :: rest => '\n' :: normaliseLineEnds rest
  | c :: rest => c :: normaliseLineEnds rest

/-- The lines of the source. -/
def linesOf (source : Text) : List Text := Text.lines (normaliseLineEnds source)

/-- The lines with `lineStarts`. -/
def withStarts (offset : Nat) : List Text → List (Nat × Text)
  | [] => []
  | line :: lines => (offset, line) :: withStarts (offset + line.utf16Length + 1) lines

/-- The lines without their starts. -/
def textsOf (lines : List (Nat × Text)) : List Text := lines.map Prod.snd

/-- What a line begins, or that it goes on with a paragraph. -/
inductive Role
  | code (body : List Text)
  | blank
  | heading (text : Text)
  | bullet (text : Text)
  | numbered (number text : Text)
  | paragraph
  deriving DecidableEq, Repr

/-- What is made of a line, and how many of the lines after it go with it.  `fresh` is that no
paragraph has begun. -/
def roleOf (fresh : Bool) (line : Text) (rest : List Text) : Role × Nat :=
  match fenceOf line with
  | some mark =>
    let body := rest.takeWhile (!closesFence mark ·)
    (.code body, body.length + 1)
  | none =>
    if isBlank line then (.blank, 0)
    else if fresh && isIndented line then
      let more := rest.takeWhile fun current => isIndented current || isBlank current
      let body := ((line :: more).map withoutIndent).reverse.dropWhile isBlank
      (.code body.reverse, more.length)
    else
      let headingText := ((headingOf line).map headingTextOf).getD []
      if headingText ≠ [] then (.heading headingText, 0)
      else
        match bulletOf line, numberedOf line with
        | some text, _ => (.bullet text, 0)
        | none, some (number, text) => (.numbered number text, 0)
        | none, none => (.paragraph, 0)

/-! ## Spans -/

section Spans

variable (word : Char → Bool)

/-- `ESCAPABLE`. -/
def isEscapable (c : Char) : Bool :=
  ('!' ≤ c && c ≤ '/') || (':' ≤ c && c ≤ '@') || ('[' ≤ c && c ≤ '`') || ('{' ≤ c && c ≤ '~')

/-- `isWord`: of a character outside the basic plane the source sees a half, which is no letter. -/
def isWord (char : Option Char) : Bool := char.any fun c => c.toNat < 0x10000 && word c

/-- `isSpace`. -/
def isSpace (char : Option Char) : Bool := char.all Text.isSpace

/-- `findEmphasisClose`: what stands before the closing mark.  `before` is the character before the
text. -/
def findEmphasisClose (char : Char) (mark : Text) (before : Char) : Text → Option Text
  | [] => none
  | c :: rest =>
    if mark.isPrefixOf (c :: rest) && !isSpace (some before) &&
        !(mark.length == 1 && (before == char || rest.head? == some char)) &&
        !(char == '_' && isWord word (c :: rest)[mark.length]?) then
      some []
    else (findEmphasisClose char mark c rest).map (c :: ·)

/-- `findBacktickClose`: what stands before the first run of this length. -/
def findBacktickClose (length : Nat) (source : Text) : Option Text :=
  let inner := source.takeWhile (· != '`')
  let run := (source.drop inner.length).takeWhile (· == '`')
  if run.length = 0 then none
  else if run.length = length then some inner
  else
    (findBacktickClose length (source.drop (inner.length + run.length))).map (inner ++ run ++ ·)
termination_by source.length
decreasing_by
  have hrun : run.length ≤ source.length - inner.length := by
    have h := (List.takeWhile_sublist (l := source.drop inner.length) (· == '`')).length_le
    rwa [List.length_drop] at h
  rw [List.length_drop]
  change source.length - (inner.length + run.length) < source.length
  omega

/-- A character of a link's label. -/
def isLabelChar (c : Char) : Bool := c != '[' && c != ']' && c != '\n'

/-- A character of a link's address. -/
def isUrlChar (c : Char) : Bool := c != '(' && c != ')' && !Text.isSpace c

/-- `LINK`: the label and the address. -/
def linkOf : Text → Option (Text × Text)
  | '[' :: t =>
    match t.dropWhile isLabelChar with
    | ']' :: '(' :: u =>
      match u.dropWhile isUrlChar with
      | ')' :: _ => some (t.takeWhile isLabelChar, u.takeWhile isUrlChar)
      | _ => none
    | _ => none
  | _ => none

/-- The length of a link. -/
def linkLength (link : Text × Text) : Nat := link.1.length + link.2.length + 4

/-- What a code span says: without the blank at either end. -/
def unpad (inner : Text) : Text :=
  if 2 < inner.utf16Length ∧ inner.head? = some ' ' ∧ inner.getLast? = some ' ' then
    inner.tail.dropLast
  else inner

/-- What the loop of `parseInline` takes at a place. -/
inductive Taken
  | plain (value : Text)
  | span (content : SpanContent)
  deriving DecidableEq, Repr

/-- A backtick. -/
def takeBackticks (source : Text) : Taken × Nat :=
  let run := (source.takeWhile (· == '`')).length
  match findBacktickClose run (source.drop run) with
  | none => (.plain (List.replicate run '`'), run)
  | some inner => (.span (.code (unpad inner)), run + inner.length + run)

/-- A mark of emphasis. -/
def takeEmphasis (before : Option Char) (char : Char) (rest : Text) : Taken × Nat :=
  let mark := if rest.head? = some char then [char, char] else [char]
  match (char :: rest).drop mark.length with
  | [] => (.plain mark, mark.length)
  | first :: inside =>
    let opens := !isSpace (some first) && !(char == '_' && isWord word before)
    match if opens then findEmphasisClose word char mark first inside else none with
    | none => (.plain mark, mark.length)
    | some more =>
      (.span (if mark.length = 2 then .bold (first :: more) else .italic (first :: more)),
        mark.length + (more.length + 1) + mark.length)

/-- What the loop of `parseInline` takes where this character comes before the rest, and how much
of it. -/
def takeInline (before : Option Char) (char : Char) (rest : Text) : Taken × Nat :=
  if char = '\\' ∧ rest.head?.any isEscapable then (.plain (rest.take 1), 2)
  else if char = '`' then takeBackticks (char :: rest)
  else
    match if char = '!' then linkOf rest else none with
    | some image => (.plain ((char :: rest).take (linkLength image + 1)), linkLength image + 1)
    | none =>
      match linkOf (char :: rest) with
      | some link => (.span (.link link.1 link.2), linkLength link)
      | none =>
        if char = '*' ∨ char = '_' then takeEmphasis word before char rest else (.plain [char], 1)

/-- The spans so far, with the plain text after them. -/
structure Inline where
  spans : List Span
  plain : Text
  plainStart : Nat
  deriving DecidableEq, Repr

namespace Inline

/-- `flush`. -/
def flush (i : Inline) : Inline :=
  { i with
    spans := if i.plain = [] then i.spans else i.spans ++ [⟨i.plainStart, .text i.plain⟩]
    plain := [] }

/-- What is taken at a place: `addPlain`, or a span after `flush`. -/
def add (i : Inline) (place : Nat) : Taken → Inline
  | .plain value =>
    { i with
      plain := i.plain ++ value
      plainStart := if i.plain = [] then place else i.plainStart }
  | .span content => { i.flush with spans := i.flush.spans ++ [⟨place, content⟩] }

end Inline

/-- The loop of `parseInline`, at a place with a character before it. -/
def inlineFrom (i : Inline) (place : Nat) (before : Option Char) : Text → Inline
  | [] => i.flush
  | char :: rest =>
    let taken := takeInline word before char rest
    let used : Text := (char :: rest).take taken.2
    inlineFrom (i.add place taken.1) (place + used.utf16Length) used.getLast?
      (rest.drop (taken.2 - 1))
termination_by t => t.length
decreasing_by
  rw [List.length_drop, List.length_cons]
  omega

/-- `parseInline`. -/
def parseInline (source : Text) : List Span := (inlineFrom word ⟨[], [], 0⟩ 0 none source).spans

end Spans

/-! ## Blocks -/

section Blocks

variable (word : Char → Bool)

/-- `ParsedReleaseNotes`. -/
structure ParsedReleaseNotes where
  blocks : List Block
  capped : Bool
  deriving DecidableEq, Repr

/-- The notes so far, with the paragraph that has begun. -/
structure Notes extends ParsedReleaseNotes where
  paragraph : List Text
  paragraphStart : Nat
  deriving DecidableEq, Repr

/-- `bounded`. -/
def bounded (text : Text) : Text := truncateChars text releaseNoteMaxBlockChars

namespace Notes

/-- `push` of a block made of a text that `bounded` has cut. -/
def push (n : Notes) (start : Nat) (text : Text) (content : Text → BlockContent) : Notes :=
  { n with
    blocks := if releaseNoteMaxBlocks ≤ n.blocks.length then n.blocks
      else n.blocks ++ [⟨start, content (bounded text)⟩]
    capped := n.capped || bounded text != text || releaseNoteMaxBlocks ≤ n.blocks.length }

/-- `flushParagraph`. -/
def flushParagraph (n : Notes) : Notes :=
  if n.paragraph = [] then n
  else
    { n.push n.paragraphStart (Text.join "\n".toList n.paragraph)
        fun text => .paragraph (parseInline word text) with
      paragraph := [] }

/-- What the loop does with a line. -/
def take (n : Notes) (start : Nat) (line : Text) : Role → Notes
  | .code body => (n.flushParagraph word).push start (Text.join "\n".toList body) .code
  | .blank => n.flushParagraph word
  | .heading text =>
    (n.flushParagraph word).push start text fun text => .heading (parseInline word text)
  | .bullet text =>
    (n.flushParagraph word).push start text fun text => .bullet (parseInline word text)
  | .numbered number text =>
    (n.flushParagraph word).push start text fun text => .numbered number (parseInline word text)
  | .paragraph =>
    { n with
      paragraph := n.paragraph ++ [line]
      paragraphStart := if n.paragraph = [] then start else n.paragraphStart }

end Notes

/-- The loop of `parseReleaseNotes`.  It ends, as every round uses a line up. -/
def parseLines (n : Notes) : List (Nat × Text) → Notes
  | [] => n.flushParagraph word
  | (start, line) :: rest =>
    let role := roleOf n.paragraph.isEmpty line (textsOf rest)
    parseLines (n.take word start line role.1) (rest.drop role.2)
termination_by lines => lines.length
decreasing_by
  rw [List.length_drop, List.length_cons]
  omega

/-- `parseReleaseNotes`. -/
def parseReleaseNotes (source : Text) : ParsedReleaseNotes :=
  (parseLines word ⟨⟨[], false⟩, [], 0⟩ (withStarts 0 (linesOf source))).toParsedReleaseNotes

end Blocks

end OpenMcc.ReleaseNotes
