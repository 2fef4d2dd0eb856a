import Mathlib.Data.List.Forall2
import Mathlib.Data.List.Infix
import OpenMcc.Construction.McpResponse
import OpenMcc.Framework.EventStream

/-!
# The frames that are taken out of a stream

`dataFramesOf` cuts a body at LF, and into blocks where a line between two LF is empty.  In a stream
without CR alone each line of the format is then one of these lines, with a CR after it where it
ends with CRLF, and the last line of the body has lost the white space after it.  `Shown` says how a
line may stand there, and `Carried` that what the code takes from lines is read as JSON just as the
values of their data fields are.

A blank line that ends with CRLF closes an event but no block.  `lastBlock` is the messages of the
last block, and the last frame holds just these (`getLast?_framesFrom`).  There is one when a blank
line that ends with LF alone stands before the last message (`length_lastBlock`).
-/

namespace OpenMcc

namespace Mcp

open Json EventStream

/-! ## The frames, line by line -/

lemma includes_iff_infix {t marker : Text} : Text.includes t marker = true ↔ marker <:+: t := by
  induction t with
  | nil => rw [Text.includes, List.isEmpty_iff, List.infix_nil]
  | cons c t ih =>
    rw [Text.includes, Bool.or_eq_true, List.isPrefixOf_iff_prefix, ih, List.infix_cons_iff]

/-- What a line adds to the data of its block. -/
def pieceOf (line : Text) : List Text :=
  if "data:".toList.isPrefixOf line then [Text.trimStart (line.drop 5)] else []

/-- The frame of a block, if it is one. -/
def frameOf (pieces : List Text) : List Text :=
  if 0 < (Text.join "\n".toList pieces).length then [Text.join "\n".toList pieces] else []

/-- The frames of lines, after the data that the first block has already. -/
def framesFrom (pieces : List Text) : List Text → List Text
  | [] => frameOf pieces
  | [] :: lines => frameOf pieces ++ framesFrom [] lines
  | (c :: line) :: lines => framesFrom (pieces ++ pieceOf (c :: line)) lines

lemma payloadOf_eq (block : Text) :
    payloadOf block = Text.join "\n".toList ((Text.lines block).flatMap pieceOf) := by
  have hpieces : ∀ lines : List Text,
      ((lines.filter fun line => "data:".toList.isPrefixOf line).map
        fun line => Text.trimStart (line.drop 5)) = lines.flatMap pieceOf := by
    intro lines
    induction lines with
    | nil => rfl
    | cons line lines ih =>
      rw [List.flatMap_cons, ← ih, List.filter_cons, pieceOf]
      split <;> rfl
  rw [payloadOf, hpieces]

/-- The frames of blocks. -/
def framesOfBlocks (blocks : List Text) : List Text :=
  (blocks.map payloadOf).filter fun payload => 0 < payload.length

lemma framesOfBlocks_cons (block : Text) (blocks : List Text) :
    framesOfBlocks (block :: blocks) =
      frameOf ((Text.lines block).flatMap pieceOf) ++ framesOfBlocks blocks := by
  rw [framesOfBlocks, List.map_cons, payloadOf_eq, List.filter_cons, frameOf]
  simp only [decide_eq_true_eq]
  split <;> rfl

lemma lines_newline {line : Text} (h : '\n' ∉ line) (t : Text) :
    Text.lines (line ++ '\n' :: t) = line :: Text.lines t :=
  List.splitOn_append_cons_self_of_not_mem h t

lemma lines_single {line : Text} (h : '\n' ∉ line) : Text.lines line = [line] :=
  List.splitOn_eq_singleton h

lemma framesFrom_cons {line : Text} (hne : line ≠ []) (pieces lines : List Text) :
    framesFrom pieces (line :: lines) = framesFrom (pieces ++ pieceOf line) lines := by
  cases line with
  | nil => exact absurd rfl hne
  | cons c line => rfl

lemma splitBlankLines_ne_nil (cut : Bool) (t : Text) : splitBlankLines cut t ≠ [] := by
  fun_induction splitBlankLines cut t with
  | case1 => exact List.cons_ne_nil _ _
  | case2 t ih => exact ih
  | case3 t ih => exact List.cons_ne_nil _ _
  | case4 cut c t h h' ih =>
    rw [Ne, ← List.length_eq_zero_iff, List.length_modifyHead, List.length_eq_zero_iff]
    exact ih

/-- The blocks of a text are the runs of its lines that are not empty. -/
lemma framesFrom_splitBlankLines (cut : Bool) (t : Text) :
    (cut = true → framesFrom [] (Text.lines t) = framesOfBlocks (splitBlankLines cut t)) ∧
    (cut = false → ∀ (pieces : List Text) (line : Text), '\n' ∉ line →
      (line ≠ [] ∨ t.head? ≠ some '\n') → ∃ first others,
        splitBlankLines cut t = first :: others ∧
        framesFrom pieces (Text.lines (line ++ t)) =
          frameOf (pieces ++ (Text.lines (line ++ first)).flatMap pieceOf) ++
            framesOfBlocks others) := by
  fun_induction splitBlankLines cut t with
  | case1 cut =>
    refine ⟨fun _ => rfl, fun _ pieces line hline _ => ⟨[], [], rfl, ?_⟩⟩
    rw [List.append_nil, lines_single hline, List.flatMap_singleton]
    cases line with
    | nil =>
      have hnil : frameOf [] = [] := rfl
      show frameOf pieces ++ frameOf [] = frameOf (pieces ++ []) ++ []
      rw [hnil, List.append_nil pieces]
    | cons c line =>
      rw [framesFrom_cons (List.cons_ne_nil _ _), framesFrom]
      exact (List.append_nil _).symm
  | case2 t ih =>
    refine ⟨fun _ => ?_, fun h => Bool.noConfusion h⟩
    rw [← ih.1 rfl, ← List.nil_append ('\n' :: t), lines_newline List.not_mem_nil]
    rfl
  | case3 t ih =>
    refine ⟨fun h => Bool.noConfusion h, fun _ pieces line hline hhead => ⟨[], _, rfl, ?_⟩⟩
    have hne : line ≠ [] := hhead.resolve_right (fun h => h rfl)
    rw [lines_newline hline, ← List.nil_append ('\n' :: t), lines_newline List.not_mem_nil,
      framesFrom_cons hne, List.append_nil, lines_single hline, List.flatMap_singleton, framesFrom,
      ih.1 rfl]
  | case4 cut c t hcut hhead ih =>
    have ih := ih.2 rfl
    by_cases hc : c = '\n'
    · subst hc
      refine ⟨fun h => absurd rfl (hcut h), fun h pieces line hline hne => ?_⟩
      obtain ⟨first, others, hsplit, hframes⟩ := ih (pieces ++ pieceOf line) [] List.not_mem_nil
        (Or.inr fun heq => by
          obtain ⟨t', rfl⟩ := List.head?_eq_some_iff.mp heq
          exact hhead t' h rfl rfl)
      refine ⟨'\n' :: first, others, by rw [hsplit]; rfl, ?_⟩
      rw [List.nil_append, List.nil_append] at hframes
      rw [lines_newline hline, framesFrom_cons (hne.resolve_right (fun h => h rfl)), hframes,
        lines_newline hline, List.flatMap_cons, List.append_assoc]
    · refine ⟨fun _ => ?_, fun _ pieces line hline _ => ?_⟩
      · obtain ⟨first, others, hsplit, hframes⟩ := ih [] [c]
          (fun h => hc (List.mem_singleton.mp h).symm) (Or.inl (List.cons_ne_nil _ _))
        rw [hsplit, List.modifyHead_cons, framesOfBlocks_cons]
        exact hframes
      · obtain ⟨first, others, hsplit, hframes⟩ := ih pieces (line ++ [c])
          (fun h => (List.mem_append.mp h).elim hline fun h => hc (List.mem_singleton.mp h).symm)
          (Or.inl (List.append_ne_nil_of_right_ne_nil _ (List.cons_ne_nil _ _)))
        refine ⟨c :: first, others, by rw [hsplit]; rfl, ?_⟩
        rw [List.append_assoc, List.append_assoc] at hframes
        exact hframes

lemma join_concat (sep : Char) (texts : List Text) (last : Text) :
    Text.join [sep] (texts ++ [last]) = texts.flatMap (· ++ [sep]) ++ last := by
  induction texts with
  | nil => exact List.intercalate_singleton
  | cons t texts ih =>
    obtain ⟨t', texts', heq⟩ := List.exists_cons_of_ne_nil
      (List.append_ne_nil_of_right_ne_nil texts (List.cons_ne_nil last []))
    rw [List.cons_append, heq, Text.join_cons_cons, ← heq, ih, List.flatMap_cons]
    simp only [List.append_assoc]

lemma prefix_join (sep first : Text) (texts : List Text) :
    first <+: Text.join sep (first :: texts) := by
  cases texts with
  | nil =>
    rw [Text.join, List.intercalate_singleton]
  | cons t texts =>
    rw [Text.join_cons_cons, List.append_assoc]
    exact List.prefix_append _ _

/-- **The frames of a body** whose lines hold data are those of its lines. -/
lemma dataFramesOf_lines {body : Text} {lines : List Text}
    (htrim : Text.trim body = Text.join "\n".toList lines) (hfree : ∀ line ∈ lines, '\n' ∉ line)
    (hdata : ∃ line ∈ lines, "data:".toList.isPrefixOf line = true) :
    dataFramesOf body = framesFrom [] lines := by
  obtain ⟨line, hmem, hline⟩ := hdata
  rw [List.isPrefixOf_iff_prefix] at hline
  obtain ⟨before, after, rfl⟩ := List.append_of_mem hmem
  have hstream : Text.includes (Text.trim body) "\ndata:".toList = true ∨
      "data:".toList.isPrefixOf (Text.trim body) = true := by
    have hprefix := hline.trans (prefix_join "\n".toList line after)
    rw [htrim]
    cases before with
    | nil => exact Or.inr (List.isPrefixOf_iff_prefix.mpr hprefix)
    | cons first before =>
      left
      obtain ⟨rest, hrest⟩ := hprefix
      rw [Text.join_append _ (List.cons_ne_nil _ _) (List.cons_ne_nil _ _), includes_iff_infix,
        ← hrest]
      refine ⟨Text.join "\n".toList (first :: before), rest, ?_⟩
      rw [List.append_assoc, List.append_assoc]
      rfl
  have hlength : (Text.trim body).length ≠ 0 := by
    intro hzero
    rw [List.length_eq_zero_iff.mp hzero] at hstream
    rcases hstream with h | h <;> cases h
  have hfirst : (Text.trim body).head? ≠ some '\n' := by
    intro hnewline
    have hspace := Text.head_trim body
    rw [hnewline] at hspace
    cases hspace
  obtain ⟨first, others, hsplit, hframes⟩ :=
    (framesFrom_splitBlankLines false (Text.trim body)).2 rfl [] [] List.not_mem_nil
      (Or.inr hfirst)
  have hlines : Text.lines (Text.trim body) = before ++ line :: after := by
    rw [htrim, Text.lines_join (List.append_ne_nil_of_right_ne_nil _ (List.cons_ne_nil _ _)) hfree]
  rw [List.nil_append, hlines, List.nil_append, List.nil_append, ← framesOfBlocks_cons,
    ← hsplit] at hframes
  rw [hframes, dataFramesOf]
  rw [if_neg hlength, if_neg]
  · rfl
  · rw [Bool.and_eq_true, Bool.not_eq_true', Bool.not_eq_true']
    rintro ⟨hincludes, hstarts⟩
    rcases hstream with h | h
    · rw [hincludes] at h
      cases h
    · rw [hstarts] at h
      cases h

/-! ## The lines of a stream -/

lemma isSpace_lineEnd (e : LineEnd) : e.text.all Text.isSpace = true := by
  cases e <;> rfl

lemma newline_not_mem {t : Text} (h : t.all isInner = true) : '\n' ∉ t := fun hmem =>
  absurd (List.all_eq_true.mp h _ hmem) (by decide)

lemma return_not_mem {t : Text} (h : t.all isInner = true) : '\r' ∉ t := fun hmem =>
  absurd (List.all_eq_true.mp h _ hmem) (by decide)

lemma isInner_name (name : FieldName) : name.text.all isInner = true := by
  rw [List.all_eq_true]
  intro c hc
  exact (Bool.and_eq_true_iff.mp (List.all_eq_true.mp name.inner c hc)).1

lemma colon_not_mem (name : FieldName) : ':' ∉ name.text := fun hmem =>
  absurd (List.all_eq_true.mp name.inner _ hmem) (by decide)

lemma isInner_line (l : EventStream.Line) : l.text.all isInner = true := by
  cases l with
  | comment t inner =>
    rw [EventStream.Line.text, List.all_cons, inner]
    rfl
  | field name value =>
    cases value with
    | none => exact isInner_name name
    | some v =>
      rw [EventStream.Line.text, List.all_append, isInner_name name, FieldValue.written,
        List.all_cons]
      split
      · rw [List.all_cons, v.inner]
        rfl
      · rw [v.inner]
        rfl

/-- A line that is not blank begins with no white space. -/
lemma line_eq_cons (l : EventStream.Line) : ∃ c t, l.text = c :: t ∧ Text.isSpace c = false := by
  cases l with
  | comment t inner => exact ⟨':', t, rfl, rfl⟩
  | field name value =>
    obtain ⟨c, t, hname⟩ := List.exists_cons_of_ne_nil name.ne_nil
    have hc : Text.isSpace c = false := by
      have hhead := name.unblanked
      rw [hname] at hhead
      exact hhead
    cases value with
    | none => exact ⟨c, t, hname, hc⟩
    | some v =>
      refine ⟨c, t ++ v.written, ?_, hc⟩
      rw [EventStream.Line.text, hname]
      rfl

lemma not_space_line (l : EventStream.Line) : l.text.all Text.isSpace = false := by
  obtain ⟨c, t, htext, hc⟩ := line_eq_cons l
  rw [htext, List.all_cons, hc]
  rfl

/-- Rows of blank lines. -/
def Blank (rows : List Row) : Prop := ∀ row ∈ rows, row.1 = none

/-- The text of rows. -/
def rowsText (rows : List Row) : Text := rows.flatMap fun row => Row.line row ++ row.2.text

lemma isSpace_blank {rows : List Row} (h : Blank rows) :
    (rowsText rows).all Text.isSpace = true := by
  induction rows with
  | nil => rfl
  | cons row rows ih =>
    rw [rowsText, List.flatMap_cons, List.all_append, List.all_append, Row.line,
      h row List.mem_cons_self, isSpace_lineEnd]
    exact ih fun row hrow => h row (List.mem_cons_of_mem _ hrow)

/-- The rows from the first line to the last one that is not blank. -/
structure Core (rows blank inside : List Row) (last : EventStream.Line) (close : LineEnd)
    (after : List Row) : Prop where
  eq : rows = blank ++ inside ++ (some last, close) :: after
  before : Blank blank
  after : Blank after
  head : ∀ row ∈ inside.head?, row.1.isSome = true

lemma exists_last {rows : List Row} (h : ¬ Blank rows) : ∃ inside last close after,
    rows = inside ++ (some last, close) :: after ∧ Blank after := by
  induction rows with
  | nil => exact absurd (fun _ hrow => absurd hrow List.not_mem_nil) h
  | cons row rows ih =>
    by_cases hrows : Blank rows
    · obtain ⟨line, close⟩ := row
      cases line with
      | none =>
        refine absurd (fun row hrow => ?_) h
        rcases List.mem_cons.mp hrow with rfl | hrow
        · rfl
        · exact hrows row hrow
      | some last => exact ⟨[], last, close, rows, rfl, hrows⟩
    · obtain ⟨inside, last, close, after, rfl, hafter⟩ := ih hrows
      exact ⟨row :: inside, last, close, after, rfl, hafter⟩

lemma exists_core {rows : List Row} (h : ¬ Blank rows) :
    ∃ blank inside last close after, Core rows blank inside last close after := by
  obtain ⟨inside, last, close, after, rfl, hafter⟩ := exists_last h
  refine ⟨inside.takeWhile (·.1.isNone), inside.dropWhile (·.1.isNone), last, close, after,
    by rw [List.takeWhile_append_dropWhile], fun row hrow => ?_, hafter, fun row hrow => ?_⟩
  · exact Option.isNone_iff_eq_none.mp (List.all_eq_true.mp List.all_takeWhile row hrow)
  · have hhead := List.head?_dropWhile_not (fun row : Row => row.1.isNone) inside
    rw [Option.mem_def.mp hrow] at hhead
    exact Option.isNone_eq_false_iff.mp hhead

/-- **The body without the white space around it.** -/
lemma trim_core {s : Stream} {blank inside after : List Row} {last : EventStream.Line}
    {close : LineEnd}
    (h : Core s.rows blank inside last close after) :
    Text.trim s.text = rowsText inside ++ Text.trimEnd last.text := by
  have htext : s.text = (s.mark ++ rowsText blank) ++
      ((rowsText inside ++ last.text) ++ (close.text ++ rowsText after)) := by
    rw [Stream.text, h.eq]
    simp only [rowsText, List.flatMap_append, List.flatMap_cons, List.append_assoc]
    rfl
  have hmark : (s.mark ++ rowsText blank).all Text.isSpace = true := by
    rw [List.all_append, isSpace_blank h.before, Stream.mark]
    split <;> rfl
  have hafter : (close.text ++ rowsText after).all Text.isSpace = true := by
    rw [List.all_append, isSpace_lineEnd, isSpace_blank h.after]
    rfl
  have hhead : ∃ c t, rowsText inside ++ last.text = c :: t ∧ Text.isSpace c = false := by
    cases inside with
    | nil => exact line_eq_cons last
    | cons row inside =>
      obtain ⟨l, hl⟩ := Option.isSome_iff_exists.mp (h.head row rfl)
      obtain ⟨c, t, hline, hc⟩ := line_eq_cons l
      have hrow : Row.line row = c :: t := by
        rw [Row.line, hl]
        exact hline
      refine ⟨c, t ++ (row.2.text ++ (rowsText inside ++ last.text)), ?_, hc⟩
      rw [rowsText, List.flatMap_cons, hrow, List.append_assoc, List.append_assoc]
      rfl
  obtain ⟨c, t, hcons, hc⟩ := hhead
  rw [htext, Text.trim, Text.trimStart_append hmark, hcons, List.cons_append,
    Text.trimStart_cons hc, ← List.cons_append, Text.trimEnd_append_space _ hafter, ← hcons,
    Text.trimEnd_append _ (not_space_line last)]

/-! ## Lines as they are read -/

/-- How a row may stand among the lines of a body that are cut at LF. -/
inductive Shown : Row → Text → Prop
  | blank : Shown (none, .lf) []
  | blankReturn : Shown (none, .crlf) ['\r']
  | line (l : EventStream.Line) (e : LineEnd) : Shown (some l, e) l.text
  | lineReturn (l : EventStream.Line) (e : LineEnd) : Shown (some l, e) (l.text ++ ['\r'])
  | trimmed (l : EventStream.Line) (e : LineEnd) : Shown (some l, e) (Text.trimEnd l.text)

section Carried

variable {ν : Type} (toNumber : Text → ν)

/-- The pieces are read as the values are, where these can be read. -/
structure Carried (pieces values : List Text) : Prop where
  reads : ∀ {r r' : Reader ν}, r.scan = .between → r.lines toNumber values = some r' →
    r.lines toNumber pieces = some r'
  shows : (∃ v ∈ values, v.all Text.isSpace = false) →
    ∃ piece ∈ pieces, piece.all Text.isSpace = false
  empty : values = [] → pieces = []

variable {toNumber}

lemma Carried.nil : Carried toNumber [] [] := ⟨fun _ h => h, fun h => h, fun h => h⟩

lemma Carried.append {pieces values pieces' values' : List Text}
    (h : Carried toNumber pieces values) (h' : Carried toNumber pieces' values') :
    Carried toNumber (pieces ++ pieces') (values ++ values') where
  reads hr hlines := by
    rw [lines_append] at hlines ⊢
    obtain ⟨r₁, hvalues, hvalues'⟩ := Option.bind_eq_some_iff.mp hlines
    rw [h.reads hr hvalues]
    exact h'.reads (lines_scan hr hvalues) hvalues'
  shows := by
    rintro ⟨v, hv, hspace⟩
    rcases List.mem_append.mp hv with hv | hv
    · obtain ⟨piece, hpiece, hspace⟩ := h.shows ⟨v, hv, hspace⟩
      exact ⟨piece, List.mem_append_left _ hpiece, hspace⟩
    · obtain ⟨piece, hpiece, hspace⟩ := h'.shows ⟨v, hv, hspace⟩
      exact ⟨piece, List.mem_append_right _ hpiece, hspace⟩
  empty hvalues := by
    obtain ⟨hv, hv'⟩ := List.append_eq_nil_iff.mp hvalues
    rw [h.empty hv, h'.empty hv']
    rfl

lemma pieceOf_data (t : Text) : pieceOf ("data:".toList ++ t) = [Text.trimStart t] := by
  rw [pieceOf, if_pos (List.isPrefixOf_iff_prefix.mpr (List.prefix_append _ _))]
  rfl

lemma pieceOf_of_not {t : Text} (h : ¬ "data:".toList <+: t) : pieceOf t = [] :=
  if_neg fun hprefix => h (List.isPrefixOf_iff_prefix.mp hprefix)

/-- The data field with a value, however it stands there. -/
lemma carried_value (v : FieldValue) {t : Text}
    (h : t = v.written.tail ∨ t = v.written.tail ++ ['\r'] ∨ t = Text.trimEnd v.written.tail) :
    Carried toNumber [Text.trimStart t] [v.text] where
  reads {r r'} hr hlines := by
    rw [lines_cons] at hlines
    obtain ⟨r₁, hline, hlines⟩ := Option.bind_eq_some_iff.mp hlines
    obtain rfl := Option.some.inj hlines
    have htail : r.line toNumber v.written.tail = some r₁ := by
      rw [FieldValue.written]
      split
      · exact (line_blank hr rfl v.text).trans hline
      · exact hline
    have ht : r.line toNumber t = some r₁ := by
      rcases h with rfl | rfl | rfl
      · exact htail
      · rw [line_append_lineEnd r _ (Or.inr rfl)]
        exact htail
      · exact line_trimEnd htail
    rw [lines_cons, line_trimStart hr ht]
    rfl
  shows := by
    rintro ⟨x, hx, hspace⟩
    obtain rfl := List.mem_singleton.mp hx
    have htail : v.written.tail.all Text.isSpace = false := by
      rw [FieldValue.written]
      split
      · rw [List.tail_cons, List.all_cons, hspace, Bool.and_false]
      · exact hspace
    refine ⟨_, List.mem_singleton_self _, ?_⟩
    rw [Text.all_trimStart]
    rcases h with rfl | rfl | rfl
    · exact htail
    · rw [List.all_append, htail, Bool.false_and]
    · rw [Text.all_trimEnd, htail]
  empty h := absurd h (List.cons_ne_nil _ _)

lemma trimEnd_data (t : Text) :
    Text.trimEnd ("data:".toList ++ t) = "data:".toList ++ Text.trimEnd t := by
  show Text.trimEnd ('d' :: 'a' :: 't' :: 'a' :: ':' :: t) = _
  rw [Text.trimEnd_cons rfl, Text.trimEnd_cons rfl, Text.trimEnd_cons rfl, Text.trimEnd_cons rfl,
    Text.trimEnd_cons rfl]
  rfl

lemma prefix_trimEnd (t : Text) : Text.trimEnd t <+: t := by
  rw [Text.trimEnd, ← List.reverse_suffix, List.reverse_reverse]
  exact List.dropWhile_suffix _

/-- A line that is no data field shows no data. -/
lemma no_prefix_of_no_data {l : EventStream.Line} (h : l.data = none) {t : Text}
    (ht : t <+: l.text ++ ['\r']) :
    ¬ "data:".toList <+: t := by
  intro hprefix
  have hcolon : ∀ (name : FieldName) (rest : Text), name.text ≠ FieldName.data.text →
      ¬ "data:".toList <+: name.text ++ ':' :: rest := by
    rintro name rest hname ⟨tail, htail⟩
    have htext : name.text ++ ':' :: rest = "data".toList ++ ':' :: tail := htail.symm
    exact hname (Text.append_cons_inj (colon_not_mem name) (by decide) htext).1
  have h' := hprefix.trans ht
  cases l with
  | comment text inner =>
    obtain ⟨tail, htail⟩ := h'
    exact absurd (List.cons.inj htail).1 (by decide)
  | field name value =>
    have hname : name.text ≠ FieldName.data.text := by
      intro heq
      rw [EventStream.Line.data, if_pos heq] at h
      cases h
    cases value with
    | none =>
      have hmem : ':' ∈ name.text ++ ['\r'] := h'.subset (by decide)
      rcases List.mem_append.mp hmem with hmem | hmem
      · exact colon_not_mem name hmem
      · exact absurd (List.mem_singleton.mp hmem) (by decide)
    | some v =>
      rw [EventStream.Line.text, FieldValue.written, List.append_assoc, List.cons_append] at h'
      exact hcolon name _ hname h'

/-- A line of data is the bare name, or the name and a value. -/
lemma data_cases {l : EventStream.Line} {value : Text} (h : l.data = some value) :
    (l.text = "data".toList ∧ value = []) ∨
      ∃ v : FieldValue, l.text = "data".toList ++ v.written ∧ value = v.text := by
  cases l with
  | comment t inner => cases h
  | field name written =>
    have hname : name.text = FieldName.data.text := by
      by_contra hname
      rw [EventStream.Line.data, if_neg hname] at h
      cases h
    rw [EventStream.Line.data, if_pos hname] at h
    obtain rfl := Option.some.inj h
    cases written with
    | none => exact Or.inl ⟨hname, rfl⟩
    | some v => exact Or.inr ⟨v, by rw [EventStream.Line.text, hname]; rfl, rfl⟩

variable (toNumber) in
/-- **What a line adds** is read as its value is. -/
lemma carried_line {l : EventStream.Line} {e : LineEnd} {t : Text} (h : Shown (some l, e) t) :
    Carried toNumber (pieceOf t) l.data.toList ∧ t ≠ [] := by
  have hprefix : t <+: l.text ++ ['\r'] := by
    cases h with
    | line => exact List.prefix_append _ _
    | lineReturn => exact List.prefix_rfl
    | trimmed => exact (prefix_trimEnd _).trans (List.prefix_append _ _)
  have hspace : t.all Text.isSpace = false := by
    cases h with
    | line => exact not_space_line l
    | lineReturn => rw [List.all_append, not_space_line, Bool.false_and]
    | trimmed => rw [Text.all_trimEnd, not_space_line]
  refine ⟨?_, fun hnil => by rw [hnil] at hspace; cases hspace⟩
  cases hdata : l.data with
  | none =>
    rw [pieceOf_of_not (no_prefix_of_no_data hdata hprefix)]
    exact Carried.nil
  | some value =>
    obtain ⟨htext, rfl⟩ | ⟨v, htext, rfl⟩ := data_cases hdata
    · -- a field without a colon adds an empty line, which the code leaves out
      have hcolon : ¬ "data:".toList <+: t := by
        intro hdata
        rw [htext] at hprefix
        exact absurd ((hdata.trans hprefix).subset (by decide : ':' ∈ "data:".toList)) (by decide)
      rw [pieceOf_of_not hcolon]
      refine ⟨fun hr hlines => ?_, ?_, fun _ => rfl⟩
      · rw [← hlines]
        show _ = Reader.lines toNumber _ [[]]
        rw [lines_cons, line_nil hr]
        rfl
      · rintro ⟨v, hv, hspace⟩
        obtain rfl := List.mem_singleton.mp hv
        cases hspace
    · replace htext : l.text = "data:".toList ++ v.written.tail := htext
      cases h with
      | line =>
        rw [htext, pieceOf_data]
        exact carried_value v (Or.inl rfl)
      | lineReturn =>
        rw [htext, List.append_assoc, pieceOf_data]
        exact carried_value v (Or.inr (Or.inl rfl))
      | trimmed =>
        rw [htext, trimEnd_data, pieceOf_data]
        exact carried_value v (Or.inr (Or.inr rfl))

/-! ## Frames of events -/

/-- The data of a message is not white space alone. -/
def IsShown (values : List Text) : Prop := ∃ v ∈ values, v.all Text.isSpace = false

lemma frameOf_shown {pieces : List Text} (h : IsShown pieces) :
    frameOf pieces = [Text.join "\n".toList pieces] := by
  obtain ⟨piece, hmem, hspace⟩ := h
  obtain ⟨before, after, rfl⟩ := List.append_of_mem hmem
  refine if_pos (List.length_pos_iff.mpr fun hnil => ?_)
  have hpiece : piece = [] := by
    cases before with
    | nil =>
      have hprefix := prefix_join "\n".toList piece after
      rw [List.nil_append] at hnil
      rw [hnil] at hprefix
      exact List.prefix_nil.mp hprefix
    | cons first before =>
      rw [Text.join_append _ (List.cons_ne_nil _ _) (List.cons_ne_nil _ _)] at hnil
      exact absurd (List.append_eq_nil_iff.mp (List.append_eq_nil_iff.mp hnil).1).2 (by decide)
  rw [hpiece] at hspace
  cases hspace

lemma forall₂_append_left {α β : Type} {R : α → β → Prop} {a b : List α} {c : List β}
    (h : List.Forall₂ R (a ++ b) c) :
    ∃ c₁ c₂, c = c₁ ++ c₂ ∧ List.Forall₂ R a c₁ ∧ List.Forall₂ R b c₂ := by
  induction a generalizing c with
  | nil => exact ⟨[], c, rfl, List.Forall₂.nil, h⟩
  | cons x a ih =>
    rw [List.cons_append] at h
    obtain ⟨y, c', hxy, hrest, rfl⟩ := List.forall₂_cons_left_iff.mp h
    obtain ⟨c₁, c₂, rfl, h₁, h₂⟩ := ih hrest
    exact ⟨y :: c₁, c₂, rfl, List.Forall₂.cons hxy h₁, h₂⟩

variable (toNumber) in
/-- The lines of an event. -/
lemma frames_lines {lines : List (EventStream.Line × LineEnd)} {texts : List Text}
    (h : List.Forall₂ Shown (lines.map fun line => (some line.1, line.2)) texts) :
    ∃ pieces, Carried toNumber pieces (lines.filterMap fun line => line.1.data) ∧
      ∀ before rest, framesFrom before (texts ++ rest) = framesFrom (before ++ pieces) rest := by
  induction lines generalizing texts with
  | nil =>
    rw [List.map_nil, List.forall₂_nil_left_iff] at h
    rw [h]
    exact ⟨[], Carried.nil, fun before rest => by rw [List.append_nil]; rfl⟩
  | cons line lines ih =>
    obtain ⟨t, texts, ht, htexts, rfl⟩ := List.forall₂_cons_left_iff.mp h
    obtain ⟨pieces, hcarried, hframes⟩ := ih htexts
    obtain ⟨hline, hne⟩ := carried_line toNumber ht
    refine ⟨pieceOf t ++ pieces, ?_, fun before rest => ?_⟩
    · have hdata : ((line :: lines).filterMap fun line => line.1.data) =
          line.1.data.toList ++ lines.filterMap fun line => line.1.data := by
        rw [List.filterMap_cons]
        cases line.1.data <;> rfl
      rw [hdata]
      exact hline.append hcarried
    · rw [List.cons_append, framesFrom_cons hne, hframes, List.append_assoc]

variable (toNumber) in
/-- **An event**: only a blank line that ends with LF alone closes a block. -/
lemma frames_event {e : Event} {texts : List Text} (h : List.Forall₂ Shown e.rows texts) :
    ∃ pieces, Carried toNumber pieces e.data ∧ ∀ before rest,
      framesFrom before (texts ++ rest) =
        if e.close = .lf then frameOf (before ++ pieces) ++ framesFrom [] rest
        else framesFrom (before ++ pieces) rest := by
  obtain ⟨shown, close, rfl, hlines, hclose⟩ := forall₂_append_left h
  obtain ⟨pieces, hcarried, hframes⟩ := frames_lines toNumber hlines
  refine ⟨pieces, hcarried, fun before rest => ?_⟩
  obtain ⟨t, rest', ht, hnil, rfl⟩ := List.forall₂_cons_left_iff.mp hclose
  rw [List.forall₂_nil_left_iff.mp hnil, List.append_assoc, hframes]
  generalize hend : e.close = close at ht
  cases ht with
  | blank => rfl
  | blankReturn =>
    rw [if_neg (by decide), List.singleton_append, framesFrom_cons (List.cons_ne_nil _ _),
      pieceOf_of_not (by decide), List.append_nil]

/-- Events without data add no frame. -/
lemma frames_none {events : List Event} : ∀ {texts : List Text},
    List.Forall₂ Shown (events.flatMap Event.rows) texts → (∀ e ∈ events, e.data = []) →
    ∀ before, framesFrom before texts = frameOf before := by
  induction events with
  | nil =>
    intro texts h _ before
    rw [List.flatMap_nil, List.forall₂_nil_left_iff] at h
    rw [h]
    rfl
  | cons e events ih =>
    intro texts h hnone before
    rw [List.flatMap_cons] at h
    obtain ⟨shown, rest, rfl, he, hrest⟩ := forall₂_append_left h
    obtain ⟨pieces, hcarried, hframes⟩ := frames_event (fun _ => ()) he
    have ih := ih hrest fun e he => hnone e (List.mem_cons_of_mem _ he)
    rw [hframes, hcarried.empty (hnone e List.mem_cons_self), List.append_nil, ih, ih]
    split
    · exact List.append_nil _
    · rfl

/-! ## The last block -/

/-- The data of the messages in the last block that has any, after those it has already. -/
def lastBlock (block : List (List Text)) : List Event → List (List Text)
  | [] => block
  | e :: events =>
    if e.close = .lf ∧ ∃ later ∈ events, later.data ≠ [] then lastBlock [] events
    else lastBlock (if e.data = [] then block else block ++ [e.data]) events

lemma lastBlock_none {events : List Event} (h : ∀ e ∈ events, e.data = []) :
    ∀ block, lastBlock block events = block := by
  induction events with
  | nil => exact fun _ => rfl
  | cons e events ih =>
    intro block
    have hlater : ¬ ∃ later ∈ events, later.data ≠ [] := by
      rintro ⟨later, hmem, hdata⟩
      exact hdata (h later (List.mem_cons_of_mem _ hmem))
    rw [lastBlock, if_neg fun hclose => hlater hclose.2, if_pos (h e List.mem_cons_self),
      ih fun e he => h e (List.mem_cons_of_mem _ he)]

/-- **The last frame** holds the messages of the last block. -/
lemma getLast?_framesFrom {events : List Event} : ∀ {texts : List Text} {before block},
    List.Forall₂ Shown (events.flatMap Event.rows) texts →
    List.Forall₂ (Carried toNumber) before block → (∀ values ∈ block, IsShown values) →
    (∀ e ∈ events, e.data ≠ [] → IsShown e.data) →
    (block ≠ [] ∨ ∃ e ∈ events, e.data ≠ []) →
    ∃ pieces, (framesFrom before.flatten texts).getLast? =
        some (Text.join "\n".toList pieces.flatten) ∧
      List.Forall₂ (Carried toNumber) pieces (lastBlock block events) := by
  have hshown : ∀ {before block}, List.Forall₂ (Carried toNumber) before block →
      (∀ values ∈ block, IsShown values) → block ≠ [] → IsShown before.flatten := by
    intro before block hcarried hblock hne
    cases hcarried with
    | nil => exact absurd rfl hne
    | cons hfirst _ =>
      obtain ⟨piece, hmem, hspace⟩ := hfirst.shows (hblock _ List.mem_cons_self)
      exact ⟨piece, List.mem_flatten.mpr ⟨_, List.mem_cons_self, hmem⟩, hspace⟩
  induction events with
  | nil =>
    intro texts before block htexts hcarried hblock _ hsome
    rw [List.flatMap_nil, List.forall₂_nil_left_iff] at htexts
    have hne : block ≠ [] := hsome.resolve_right fun ⟨_, hmem, _⟩ => List.not_mem_nil hmem
    refine ⟨before, ?_, hcarried⟩
    rw [htexts, framesFrom, frameOf_shown (hshown hcarried hblock hne)]
    rfl
  | cons e events ih =>
    intro texts before block htexts hcarried hblock hevents hsome
    rw [List.flatMap_cons] at htexts
    obtain ⟨shown, rest, rfl, he, hrest⟩ := forall₂_append_left htexts
    obtain ⟨pieces, hpieces, hframes⟩ := frames_event toNumber he
    have hevents' := fun e he => hevents e (List.mem_cons_of_mem _ he)
    -- the block with the message of the event
    obtain ⟨before', hflatten, hcarried'⟩ : ∃ before' : List (List Text),
        before'.flatten = before.flatten ++ pieces ∧ List.Forall₂ (Carried toNumber) before'
          (if e.data = [] then block else block ++ [e.data]) := by
      split
      · next hdata =>
        refine ⟨before, ?_, hcarried⟩
        rw [hpieces.empty hdata, List.append_nil]
      · refine ⟨before ++ [pieces], by simp, ?_⟩
        exact List.rel_append hcarried (List.Forall₂.cons hpieces List.Forall₂.nil)
    have hblock' : ∀ values ∈ (if e.data = [] then block else block ++ [e.data]),
        IsShown values := by
      split
      · exact hblock
      · next hdata =>
        intro values hmem
        rcases List.mem_append.mp hmem with hmem | hmem
        · exact hblock values hmem
        · rw [List.mem_singleton.mp hmem]
          exact hevents e List.mem_cons_self hdata
    have hsome' : (if e.data = [] then block else block ++ [e.data]) ≠ [] ∨
        ∃ later ∈ events, later.data ≠ [] := by
      split
      · next hdata =>
        rcases hsome with hne | ⟨later, hmem, hlater⟩
        · exact Or.inl hne
        · rcases List.mem_cons.mp hmem with rfl | hmem
          · exact absurd hdata hlater
          · exact Or.inr ⟨later, hmem, hlater⟩
      · exact Or.inl (List.append_ne_nil_of_right_ne_nil _ (List.cons_ne_nil _ _))
    rw [hframes, lastBlock, ← hflatten]
    by_cases hclose : e.close = .lf
    · rw [if_pos hclose]
      by_cases hlater : ∃ later ∈ events, later.data ≠ []
      · obtain ⟨last, hlast, hcarried⟩ := ih hrest List.Forall₂.nil
          (fun _ hmem => absurd hmem List.not_mem_nil) hevents' (Or.inr hlater)
        rw [if_pos ⟨hclose, hlater⟩]
        refine ⟨last, ?_, hcarried⟩
        rw [List.getLast?_append, ← List.flatten_nil, hlast]
        rfl
      · have hnone : ∀ e ∈ events, e.data = [] := by
          intro e he
          by_contra hdata
          exact hlater ⟨e, he, hdata⟩
        have hne := hsome'.resolve_right hlater
        rw [if_neg fun h => hlater h.2, lastBlock_none hnone, frames_none hrest hnone,
          frameOf_shown (hshown hcarried' hblock' hne)]
        exact ⟨before', rfl, hcarried'⟩
    · rw [if_neg hclose, if_neg fun h => hclose h.1]
      exact ih hrest hcarried' hblock' hevents' hsome'

/-- The data of the messages. -/
def messageData (events : List Event) : List (List Text) :=
  events.filterMap fun e => if e.data = [] then none else some e.data

lemma messages_eq (s : Stream) :
    s.messages = (messageData s.events).map (Text.join "\n".toList) := by
  rw [Stream.messages, messageData, List.map_filterMap]
  congr 1
  funext e
  rw [Event.message]
  split <;> rfl

lemma messageData_cons (e : Event) (events : List Event) :
    messageData (e :: events) = (if e.data = [] then [] else [e.data]) ++ messageData events := by
  rw [messageData, List.filterMap_cons]
  split
  · next h =>
    split at h
    · next hdata => rw [if_pos hdata]; rfl
    · cases h
  · next h =>
    split at h
    · cases h
    · next hdata =>
      rw [if_neg hdata, ← Option.some.inj h]
      rfl

lemma mem_messageData {events : List Event} {values : List Text} :
    values ∈ messageData events ↔ ∃ e ∈ events, e.data ≠ [] ∧ e.data = values := by
  rw [messageData, List.mem_filterMap]
  refine exists_congr fun e => and_congr_right fun _ => ?_
  by_cases hdata : e.data = []
  · simp [hdata]
  · simp [hdata]

/-- The last block is an end of the messages. -/
lemma lastBlock_suffix {events : List Event} : ∀ {block : List (List Text)},
    lastBlock block events <:+ block ++ messageData events := by
  induction events with
  | nil =>
    intro block
    rw [lastBlock, messageData, List.filterMap_nil, List.append_nil]
  | cons e events ih =>
    intro block
    have hblock : block ++ messageData (e :: events) =
        (if e.data = [] then block else block ++ [e.data]) ++ messageData events := by
      rw [messageData_cons]
      split
      · rw [List.nil_append]
      · rw [List.append_assoc]
    rw [lastBlock, hblock]
    split
    · exact ih.trans (List.suffix_append _ _)
    · exact ih

/-- A part of the stream that begins after a blank line with LF alone has one message. -/
def Separated (events : List Event) : Prop :=
  ∃ before after, events = before ++ after ∧ (∀ e ∈ before.getLast?, e.close = .lf) ∧
    (messageData after).length = 1

/-- The events after the one that closes a block. -/
def SeparatedAfter (events : List Event) : Prop :=
  ∃ before after, events = before ++ after ∧ before ≠ [] ∧
    (∀ e ∈ before.getLast?, e.close = .lf) ∧ (messageData after).length = 1

lemma separatedAfter_cons (e : Event) (events : List Event) :
    SeparatedAfter (e :: events) ↔
      (e.close = .lf ∧ (messageData events).length = 1) ∨ SeparatedAfter events := by
  constructor
  · rintro ⟨before, after, heq, hne, hclose, hlength⟩
    obtain ⟨first, before, rfl⟩ := List.exists_cons_of_ne_nil hne
    obtain ⟨rfl, rfl⟩ := List.cons.inj heq
    cases before with
    | nil => exact Or.inl ⟨hclose e rfl, hlength⟩
    | cons e' before => exact Or.inr ⟨_, after, rfl, List.cons_ne_nil _ _, hclose, hlength⟩
  · rintro (⟨hclose, hlength⟩ | ⟨before, after, rfl, hne, hclose, hlength⟩)
    · refine ⟨[e], events, rfl, List.cons_ne_nil _ _, fun e' he' => ?_, hlength⟩
      rw [← Option.some.inj he']
      exact hclose
    · refine ⟨e :: before, after, rfl, List.cons_ne_nil _ _, ?_, hlength⟩
      rw [List.getLast?_cons_of_ne_nil hne]
      exact hclose

lemma separated_iff (events : List Event) :
    Separated events ↔ (messageData events).length = 1 ∨ SeparatedAfter events := by
  constructor
  · rintro ⟨before, after, rfl, hclose, hlength⟩
    cases before with
    | nil => exact Or.inl hlength
    | cons e before => exact Or.inr ⟨_, after, rfl, List.cons_ne_nil _ _, hclose, hlength⟩
  · rintro (hlength | ⟨before, after, heq, -, hclose, hlength⟩)
    · exact ⟨[], events, rfl, fun e h => absurd h (Option.not_mem_none e), hlength⟩
    · exact ⟨before, after, heq, hclose, hlength⟩

lemma messageData_pos {events : List Event} :
    0 < (messageData events).length ↔ ∃ later ∈ events, later.data ≠ [] := by
  rw [List.length_pos_iff_exists_mem]
  simp only [mem_messageData]
  exact ⟨fun ⟨_, e, hmem, hdata, _⟩ => ⟨e, hmem, hdata⟩,
    fun ⟨e, hmem, hdata⟩ => ⟨_, e, hmem, hdata, rfl⟩⟩

/-- **The last block has one message** just when the last message is separated. -/
lemma length_lastBlock {events : List Event} : ∀ {block : List (List Text)},
    (lastBlock block events).length = 1 ↔
      (block ++ messageData events).length = 1 ∨ SeparatedAfter events := by
  induction events with
  | nil =>
    intro block
    have hnone : ¬ SeparatedAfter [] := by
      rintro ⟨before, after, heq, hne, -⟩
      exact hne (List.append_eq_nil_iff.mp heq.symm).1
    rw [lastBlock, messageData, List.filterMap_nil, List.append_nil]
    exact ⟨Or.inl, fun h => h.resolve_right hnone⟩
  | cons e events ih =>
    intro block
    have hblock : (block ++ messageData (e :: events)).length =
        (if e.data = [] then block else block ++ [e.data]).length +
          (messageData events).length := by
      rw [messageData_cons]
      split
      · rw [List.nil_append, List.length_append]
      · simp only [List.length_append, List.length_singleton]
        omega
    have hpos : 0 < (messageData events).length ↔ ∃ later ∈ events, later.data ≠ [] :=
      messageData_pos
    rw [lastBlock, separatedAfter_cons, hblock]
    split
    · next hclose =>
      have hlength := hpos.mpr hclose.2
      rw [ih, List.nil_append]
      constructor
      · rintro (hone | hafter)
        · exact Or.inr (Or.inl ⟨hclose.1, hone⟩)
        · exact Or.inr (Or.inr hafter)
      · rintro (hone | ⟨-, hone⟩ | hafter)
        · exact Or.inl (by omega)
        · exact Or.inl hone
        · exact Or.inr hafter
    · next hclose =>
      rw [ih, List.length_append]
      constructor
      · rintro (hone | hafter)
        · exact Or.inl hone
        · exact Or.inr (Or.inr hafter)
      · rintro (hone | ⟨hlf, hone⟩ | hafter)
        · exact Or.inl hone
        · exact absurd ⟨hlf, hpos.mp (by omega)⟩ hclose
        · exact Or.inr hafter

end Carried

end Mcp

end OpenMcc
