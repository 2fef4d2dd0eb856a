import OpenMcc.Properties.McpFrames

/-!
# When the response of the live control server is read

The server may write notifications and then its response as a stream of events, and the format lets
it end lines with LF, CRLF or CR.  `responseFrom` cuts the body at LF only, so it reads the response
when its last block has no other message in it (`responseFrom_iff_separated`).  With CRLF everywhere
a notification and the response make one block, and two JSON texts in one are not JSON
(`parse_two`).  With CR everywhere the body is one line, which is read when it is the only one
(`parse_cr`).

Where CR alone is mixed with other ends, lines that are lost may leave a text that is the response
by chance, so there the condition is only enough.
-/

namespace OpenMcc

namespace Mcp

open Json EventStream

section Frame

variable {ν : Type} {toNumber : Text → ν}

/-! ## Reading the last frame -/

lemma parse_carried {pieces values : List Text} (h : Carried toNumber pieces values)
    {v : Json Units ν} (hparse : parse toNumber (Text.join "\n".toList values) = some v) :
    parse toNumber (Text.join "\n".toList pieces) = some v := by
  have hlines := (parse_join_iff (Or.inl rfl)).mp hparse
  exact (parse_join_iff (Or.inl rfl)).mpr (h.reads rfl hlines)

lemma isShown_of_parse {values : List Text} {v : Json Units ν}
    (hparse : parse toNumber (Text.join "\n".toList values) = some v) : IsShown values := by
  by_contra hnone
  have hspace : (Text.join "\n".toList values).all Text.isSpace = true := by
    rw [List.all_eq_true]
    intro c hc
    rcases Text.mem_join hc with hsep | ⟨value, hvalue, hc⟩
    · rw [List.mem_singleton.mp hsep]
      rfl
    · have hall : value.all Text.isSpace = true := by
        by_contra hne
        rw [Bool.not_eq_true] at hne
        exact hnone ⟨value, hvalue, hne⟩
      exact List.all_eq_true.mp hall c hc
  rw [exists_of_parse hparse] at hspace
  cases hspace

/-- After the value nothing else is read. -/
lemma lines_done {v : Json Units ν} {texts : List Text} (h : IsShown texts) :
    Reader.lines toNumber ⟨.between, .done v⟩ texts = none := by
  obtain ⟨t, hmem, hspace⟩ := h
  induction texts with
  | nil => exact absurd hmem List.not_mem_nil
  | cons first texts ih =>
    rw [lines_cons]
    cases hline : Reader.line toNumber ⟨.between, .done v⟩ first with
    | none => rfl
    | some r =>
      have hfirst := line_done hline
      obtain rfl := line_space rfl hfirst hline
      rcases List.mem_cons.mp hmem with rfl | hmem
      · rw [hfirst] at hspace
        cases hspace
      · exact ih hmem

/-- **Two messages in one frame** are not read. -/
lemma parse_two {first second : List Text} {pieces : List (List Text)} {values values' : List Text}
    {block : List (List Text)} {v : Json Units ν}
    (h : List.Forall₂ (Carried toNumber) (first :: second :: pieces) (values :: values' :: block))
    (hparse : parse toNumber (Text.join "\n".toList values) = some v) (hshown : IsShown values') :
    parse toNumber (Text.join "\n".toList (first :: second :: pieces).flatten) = none := by
  obtain ⟨hfirst, hrest⟩ := List.forall₂_cons.mp h
  obtain ⟨hsecond, -⟩ := List.forall₂_cons.mp hrest
  have hlines := hfirst.reads rfl ((parse_join_iff (Or.inl rfl)).mp hparse)
  rw [Option.eq_none_iff_forall_ne_some]
  intro v' hparse'
  replace hparse' := (parse_join_iff (Or.inl rfl)).mp hparse'
  rw [List.flatten_cons, List.flatten_cons, lines_append, hlines, Option.bind_some, lines_append,
    lines_done (hsecond.shows hshown)] at hparse'
  cases hparse'

/-! ## Streams without CR alone -/

/-- The row as it stands between line feeds. -/
def seen (row : Row) : Text := Row.line row ++ (if row.2 = .crlf then ['\r'] else [])

lemma seen_newline {row : Row} (h : row.2 ≠ .cr) :
    Row.line row ++ row.2.text = seen row ++ ['\n'] := by
  obtain ⟨line, close⟩ := row
  cases close with
  | lf =>
    rw [seen, if_neg LineEnd.noConfusion, List.append_nil]
    rfl
  | cr => exact absurd rfl h
  | crlf =>
    rw [seen, if_pos rfl, List.append_assoc]
    rfl

lemma shown_seen {row : Row} (h : row.2 ≠ .cr) : Shown row (seen row) := by
  obtain ⟨line, close⟩ := row
  cases line with
  | none =>
    cases close with
    | lf => exact Shown.blank
    | cr => exact absurd rfl h
    | crlf => exact Shown.blankReturn
  | some l =>
    rw [seen]
    split
    · exact Shown.lineReturn l close
    · rw [List.append_nil]
      exact Shown.line l close

lemma forall₂_mem_left {α β : Type} {R : α → β → Prop} {a : List α} {b : List β}
    (h : List.Forall₂ R a b) {x : α} (hx : x ∈ a) : ∃ y ∈ b, R x y := by
  induction h with
  | nil => exact absurd hx List.not_mem_nil
  | cons hxy _ ih =>
    rcases List.mem_cons.mp hx with rfl | hx
    · exact ⟨_, List.mem_cons_self, hxy⟩
    · obtain ⟨y, hy, hr⟩ := ih hx
      exact ⟨y, List.mem_cons_of_mem _ hy, hr⟩

/-- Lines that are blank add nothing before a block. -/
lemma framesFrom_blank_append {blank : List Text} (h : ∀ t ∈ blank, t = [] ∨ t = ['\r'])
    (lines : List Text) : framesFrom [] (blank ++ lines) = framesFrom [] lines := by
  induction blank with
  | nil => rfl
  | cons t blank ih =>
    have ih := ih fun t ht => h t (List.mem_cons_of_mem _ ht)
    rcases h t List.mem_cons_self with rfl | rfl
    · exact ih
    · exact ih

lemma framesFrom_blank {blank : List Text} (h : ∀ t ∈ blank, t = [] ∨ t = ['\r'])
    (pieces : List Text) : framesFrom pieces blank = frameOf pieces := by
  induction blank generalizing pieces with
  | nil => rfl
  | cons t blank ih =>
    have ih := ih fun t ht => h t (List.mem_cons_of_mem _ ht)
    rcases h t List.mem_cons_self with rfl | rfl
    · rw [framesFrom, ih]
      exact List.append_nil _
    · rw [framesFrom, pieceOf_of_not (by decide), List.append_nil, ih]

/-- Lines that are blank add nothing after the last block. -/
lemma framesFrom_append_blank {blank : List Text} (h : ∀ t ∈ blank, t = [] ∨ t = ['\r'])
    (pieces lines : List Text) : framesFrom pieces (lines ++ blank) = framesFrom pieces lines := by
  fun_induction framesFrom pieces lines with
  | case1 pieces => exact framesFrom_blank h pieces
  | case2 pieces lines ih => rw [List.cons_append, framesFrom, ih]
  | case3 pieces c line lines ih => rw [List.cons_append, framesFrom, ih]

lemma rowsText_seen {rows : List Row} (h : ∀ row ∈ rows, row.2 ≠ .cr) (last : Text) :
    rowsText rows ++ last = Text.join "\n".toList (rows.map seen ++ [last]) := by
  have hrows : rowsText rows = (rows.map seen).flatMap (· ++ ['\n']) := by
    rw [rowsText, List.flatMap_map]
    exact List.flatMap_congr fun row hrow => seen_newline (h row hrow)
  rw [hrows]
  exact (join_concat '\n' _ last).symm

lemma newline_not_mem_seen (row : Row) : '\n' ∉ seen row := by
  intro hmem
  rcases List.mem_append.mp hmem with hline | hend
  · obtain ⟨line, close⟩ := row
    cases line with
    | none => exact absurd hline List.not_mem_nil
    | some l => exact newline_not_mem (isInner_line l) hline
  · split at hend
    · exact absurd hend (by decide)
    · exact absurd hend List.not_mem_nil

lemma seen_blank {rows : List Row} (h : Blank rows) :
    ∀ t ∈ rows.map seen, t = [] ∨ t = ['\r'] := by
  intro t ht
  obtain ⟨row, hrow, rfl⟩ := List.mem_map.mp ht
  rw [seen, Row.line, h row hrow]
  split
  · exact Or.inr rfl
  · exact Or.inl rfl

variable (toNumber) in
/-- **The last frame of a stream** without CR alone holds the messages of its last block. -/
lemma getLast?_dataFramesOf {s : Stream} (hends : ∀ row ∈ s.rows, row.2 ≠ .cr)
    (hshown : ∀ values ∈ messageData s.events, IsShown values)
    (hne : messageData s.events ≠ []) :
    ∃ pieces, (dataFramesOf s.text).getLast? = some (Text.join "\n".toList pieces.flatten) ∧
      List.Forall₂ (Carried toNumber) pieces (lastBlock [] s.events) := by
  -- a line with data
  obtain ⟨values, hvalues⟩ := List.exists_mem_of_ne_nil _ hne
  obtain ⟨e, he, hdata, rfl⟩ := mem_messageData.mp hvalues
  obtain ⟨value, hvalue, hspace⟩ := hshown _ hvalues
  obtain ⟨⟨l, close⟩, hline, hl⟩ := List.mem_filterMap.mp hvalue
  have hrow : (some l, close) ∈ s.rows :=
    List.mem_flatMap.mpr ⟨e, he, List.mem_append_left _ (List.mem_map.mpr ⟨_, hline, rfl⟩)⟩
  -- the lines that the code reads
  obtain ⟨blank, inside, last, end', after, hcore⟩ :=
    exists_core fun hblank => absurd (hblank _ hrow) (Option.some_ne_none l)
  have hinside : ∀ row ∈ inside, row.2 ≠ .cr := fun row hmem => hends row (by
    rw [hcore.eq]
    exact List.mem_append_left _ (List.mem_append_right _ hmem))
  have htrim := trim_core hcore
  rw [rowsText_seen hinside] at htrim
  have hrows : List.Forall₂ Shown s.rows
      (blank.map seen ++ (inside.map seen ++ [Text.trimEnd last.text]) ++ after.map seen) := by
    have hmap : ∀ rows : List Row, (∀ row ∈ rows, row ∈ s.rows) →
        List.Forall₂ Shown rows (rows.map seen) := by
      intro rows hmem
      rw [List.forall₂_map_right_iff, List.forall₂_same]
      exact fun row hrow => shown_seen (hends row (hmem row hrow))
    rw [hcore.eq] at hmap ⊢
    rw [List.append_assoc, List.append_assoc, List.append_assoc]
    refine List.rel_append (hmap _ fun row hrow => ?_) (List.rel_append (hmap _ fun row hrow => ?_)
      (List.Forall₂.cons (Shown.trimmed last end') (hmap _ fun row hrow => ?_)))
    · simp [hrow]
    · simp [hrow]
    · simp [hrow]
  have hstream : ∃ line ∈ inside.map seen ++ [Text.trimEnd last.text],
      "data:".toList.isPrefixOf line = true := by
    obtain ⟨t, ht, hshow⟩ := forall₂_mem_left hrows hrow
    have hcarried := (carried_line toNumber hshow).1
    rw [hl] at hcarried
    obtain ⟨piece, hpiece, -⟩ := hcarried.shows ⟨value, List.mem_singleton_self _, hspace⟩
    have hprefix : "data:".toList.isPrefixOf t = true := by
      by_contra hnot
      rw [pieceOf, if_neg hnot] at hpiece
      exact absurd hpiece List.not_mem_nil
    have hblank : ¬ (t = [] ∨ t = ['\r']) := by
      rintro (rfl | rfl) <;> exact absurd hprefix (by decide)
    refine ⟨t, ?_, hprefix⟩
    rcases List.mem_append.mp ht with ht | ht
    · rcases List.mem_append.mp ht with ht | ht
      · exact absurd (seen_blank hcore.before t ht) hblank
      · exact ht
    · exact absurd (seen_blank hcore.after t ht) hblank
  have hfree : ∀ line ∈ inside.map seen ++ [Text.trimEnd last.text], '\n' ∉ line := by
    intro line hmem hnewline
    rcases List.mem_append.mp hmem with hmem | hmem
    · obtain ⟨row, -, rfl⟩ := List.mem_map.mp hmem
      exact newline_not_mem_seen row hnewline
    · rw [List.mem_singleton.mp hmem] at hnewline
      exact newline_not_mem (isInner_line last) ((prefix_trimEnd _).subset hnewline)
  have hframes : dataFramesOf s.text = framesFrom [] (blank.map seen ++
      (inside.map seen ++ [Text.trimEnd last.text]) ++ after.map seen) := by
    rw [dataFramesOf_lines htrim hfree hstream, framesFrom_append_blank (seen_blank hcore.after),
      framesFrom_blank_append (seen_blank hcore.before)]
  rw [hframes]
  exact getLast?_framesFrom hrows List.Forall₂.nil (fun _ hmem => absurd hmem List.not_mem_nil)
    (fun e he hdata => hshown _ (mem_messageData.mpr ⟨e, he, hdata, rfl⟩))
    (Or.inr ⟨e, he, hdata⟩)

/-! ## Other bodies -/

/-- A line of data where a line begins is not JSON. -/
lemma parse_data_word {before rest : Text} (hbefore : before = [] ∨ ∃ t c, before = t ++ [c] ∧
    (c = '\n' ∨ c = '\r')) (hrest : (rest.head?.any isWordChar) = false) :
    parse toNumber (before ++ ("data".toList ++ rest)) = none := by
  have hword : ∀ {r : Reader ν}, r.scan = .between →
      r.line toNumber ("data".toList ++ rest) = none := fun hr =>
    line_word (by decide) (by decide) rfl hrest hr
  rw [Option.eq_none_iff_forall_ne_some]
  intro v hparse
  have hline := parse_iff.mp hparse
  rcases hbefore with rfl | ⟨t, c, rfl, hc⟩
  · rw [List.nil_append, hword rfl] at hline
    cases hline
  · have hjoin : (t ++ [c]) ++ ("data".toList ++ rest) =
        Text.join [c] [t, "data".toList ++ rest] := by
      rw [Text.join_cons_cons, Text.join, List.intercalate_singleton]
    rw [hjoin, line_join hc (List.cons_ne_nil _ _), lines_cons] at hline
    obtain ⟨r₁, ht, hlines⟩ := Option.bind_eq_some_iff.mp hline
    rw [lines_cons, hword (line_scan ht)] at hlines
    cases hlines

/-- **A body that is JSON** is its own frame. -/
lemma dataFramesOf_json {body : Text} {v : Json Units ν} (hparse : parse toNumber body = some v) :
    dataFramesOf body = [Text.trim body] ∧ parse toNumber (Text.trim body) = some v := by
  have htrim : parse toNumber (Text.trim body) = some v := by
    rw [parse_iff] at hparse ⊢
    exact line_trimEnd (line_trimStart rfl hparse)
  have hcolon : (":".toList.head?.any isWordChar) = false := rfl
  refine ⟨?_, htrim⟩
  rw [dataFramesOf]
  rw [if_neg, if_pos]
  · rw [Bool.and_eq_true, Bool.not_eq_true', Bool.not_eq_true', ← Bool.not_eq_true,
      ← Bool.not_eq_true, includes_iff_infix, List.isPrefixOf_iff_prefix]
    constructor
    · rintro ⟨before, rest, heq⟩
      have hnone : parse toNumber ((before ++ ['\n']) ++ ("data".toList ++ ':' :: rest)) = none :=
        parse_data_word (Or.inr ⟨before, '\n', rfl, Or.inl rfl⟩) rfl
      have htext : Text.trim body = (before ++ ['\n']) ++ ("data".toList ++ ':' :: rest) := by
        rw [← heq]
        simp
      rw [htext, hnone] at htrim
      cases htrim
    · rintro ⟨rest, heq⟩
      have hnone : parse toNumber ([] ++ ("data".toList ++ ':' :: rest)) = none :=
        parse_data_word (Or.inl rfl) rfl
      have htext : Text.trim body = [] ++ ("data".toList ++ ':' :: rest) := heq.symm
      rw [htext, hnone] at htrim
      cases htrim
  · intro hzero
    rw [List.length_eq_zero_iff.mp hzero] at htrim
    cases htrim

/-- The values of the data fields of a stream. -/
def streamData (rows : List Row) : List Text :=
  rows.filterMap fun row => row.1.bind EventStream.Line.data

lemma streamData_eq (s : Stream) : streamData s.rows = s.events.flatMap Event.data := by
  rw [streamData, Stream.rows, List.filterMap_flatMap]
  refine List.flatMap_congr fun e _ => ?_
  rw [Event.rows, List.filterMap_append, List.filterMap_map, Event.data]
  exact List.append_nil _

lemma streamData_blank {rows : List Row} (h : Blank rows) : streamData rows = [] := by
  rw [streamData, List.filterMap_eq_nil_iff]
  intro row hrow
  rw [h row hrow]
  rfl

/-- The message of a stream with one data field at most is its value. -/
lemma message_single {s : Stream} {value : Option Text} (h : streamData s.rows = value.toList)
    {p : Text} (hp : p ∈ s.messages) : value = some p := by
  rw [messages_eq] at hp
  obtain ⟨values, hvalues, rfl⟩ := List.mem_map.mp hp
  obtain ⟨e, he, hdata, rfl⟩ := mem_messageData.mp hvalues
  have hsub : e.data <:+: streamData s.rows := by
    obtain ⟨before, after, hevents⟩ := List.append_of_mem he
    rw [streamData_eq, hevents, List.flatMap_append, List.flatMap_cons]
    exact ⟨_, _, List.append_assoc _ _ _⟩
  rw [h] at hsub
  cases value with
  | none => exact absurd (List.infix_nil.mp hsub) hdata
  | some x =>
    have hlength : e.data.length = 1 := by
      have hle := hsub.length_le
      have hpos := List.length_pos_iff.mpr hdata
      simp only [Option.toList_some, List.length_singleton] at hle
      omega
    have heq : e.data = [x] := hsub.eq_of_length hlength
    rw [heq, Text.join, List.intercalate_singleton]

/-- The lines of a stream that are not blank. -/
def linesOf (rows : List Row) : List EventStream.Line := rows.filterMap fun row => row.1

lemma linesOf_blank {rows : List Row} (h : Blank rows) : linesOf rows = [] := by
  rw [linesOf, List.filterMap_eq_nil_iff]
  exact h

lemma linesOf_core {rows blank inside after : List Row} {last : EventStream.Line} {close : LineEnd}
    (h : Core rows blank inside last close after) : linesOf rows = linesOf inside ++ [last] := by
  have hafter := linesOf_blank h.after
  have hbefore := linesOf_blank h.before
  simp only [linesOf] at hafter hbefore ⊢
  rw [h.eq, List.filterMap_append, List.filterMap_append, hbefore, List.filterMap_cons, hafter]
  rfl

lemma streamData_linesOf (rows : List Row) :
    streamData rows = (linesOf rows).filterMap EventStream.Line.data := by
  rw [streamData, linesOf, List.filterMap_filterMap]

/-- The stream is not blank when it has a message. -/
lemma core_of_message {s : Stream} {p : Text} (hp : p ∈ s.messages) :
    ∃ blank inside last close after, Core s.rows blank inside last close after := by
  refine exists_core fun hblank => ?_
  have hnone : none = some p := message_single (streamData_blank hblank) hp
  cases hnone

/-- **A stream with one line** that is not blank. -/
lemma dataFramesOf_line {s : Stream} {p : Text} {v : Json Units ν} (hp : p ∈ s.messages)
    (hparse : parse toNumber p = some v) (hone : (linesOf s.rows).length = 1) :
    ∃ frame, (dataFramesOf s.text).getLast? = some frame ∧ parse toNumber frame = some v := by
  obtain ⟨blank, inside, last, close, after, hcore⟩ := core_of_message hp
  have hlines := linesOf_core hcore
  have hinside : inside = [] := by
    cases inside with
    | nil => rfl
    | cons row inside =>
      obtain ⟨l, hl⟩ := Option.isSome_iff_exists.mp (hcore.head row rfl)
      rw [hlines, linesOf, List.filterMap_cons, hl] at hone
      simp at hone
  subst hinside
  have hdata : last.data = some p := by
    refine message_single ?_ hp
    rw [streamData_linesOf, hlines]
    show [last].filterMap EventStream.Line.data = _
    rw [List.filterMap_cons]
    cases last.data <;> rfl
  have htrim := trim_core hcore
  have hshown : IsShown [p] := ⟨p, List.mem_singleton_self _, exists_of_parse hparse⟩
  obtain ⟨hcarried, hne⟩ := carried_line toNumber (Shown.trimmed last close)
  rw [hdata] at hcarried
  have hpieces : IsShown (pieceOf (Text.trimEnd last.text)) := hcarried.shows hshown
  have hjoin : ∀ t : Text, Text.join "\n".toList [t] = t := fun t => List.intercalate_singleton
  have hframes : dataFramesOf s.text = framesFrom [] [Text.trimEnd last.text] := by
    refine dataFramesOf_lines ?_ ?_ ?_
    · rw [htrim, hjoin]
      rfl
    · intro line hline hnewline
      rw [List.mem_singleton.mp hline] at hnewline
      exact newline_not_mem (isInner_line last) ((prefix_trimEnd _).subset hnewline)
    · refine ⟨_, List.mem_singleton_self _, ?_⟩
      by_contra hnot
      obtain ⟨piece, hpiece, -⟩ := hpieces
      rw [pieceOf, if_neg hnot] at hpiece
      exact absurd hpiece List.not_mem_nil
  refine ⟨Text.join "\n".toList (pieceOf (Text.trimEnd last.text)), ?_, ?_⟩
  · rw [hframes, framesFrom_cons hne, framesFrom, List.nil_append, frameOf_shown hpieces]
    rfl
  · refine parse_carried hcarried ?_
    show parse toNumber (Text.join "\n".toList [p]) = some v
    rw [hjoin]
    exact hparse

/-! ## Streams of CR alone -/

/-- A text that ends where a line does. -/
def EndsLine (t : Text) : Prop := t = [] ∨ ∃ t', t = t' ++ ['\r']

lemma EndsLine.append {t : Text} (h : EndsLine t) (t' : Text) : EndsLine (t' ++ '\r' :: t) := by
  rcases h with rfl | ⟨t, rfl⟩
  · exact Or.inr ⟨t', rfl⟩
  · exact Or.inr ⟨t' ++ '\r' :: t, by simp⟩

lemma EndsLine.trimStart {t : Text} (h : EndsLine t) : EndsLine (Text.trimStart t) := by
  rcases h with rfl | ⟨t, rfl⟩
  · exact Or.inl rfl
  · rw [Text.trimStart, List.dropWhile_append]
    split
    · exact Or.inl rfl
    · exact Or.inr ⟨_, rfl⟩

lemma endsLine_rowsText {rows : List Row} (h : ∀ row ∈ rows, row.2 = .cr) :
    EndsLine (rowsText rows) := by
  induction rows with
  | nil => exact Or.inl rfl
  | cons row rows ih =>
    rw [rowsText, List.flatMap_cons, h row List.mem_cons_self, List.append_assoc]
    exact (ih fun row hrow => h row (List.mem_cons_of_mem _ hrow)).append _

/-- **A later line of data** begins where a line does. -/
lemma exists_data_word {rows : List Row} (hends : ∀ row ∈ rows, row.2 = .cr)
    {last : EventStream.Line}
    (h : ∃ l ∈ linesOf rows ++ [last], l.data ≠ none) : ∃ before rest,
      rowsText rows ++ Text.trimEnd last.text = before ++ ("data".toList ++ rest) ∧
        EndsLine before ∧ (rest.head?.any isWordChar) = false := by
  obtain ⟨l, hmem, hdata⟩ := h
  obtain ⟨rest, htext, hrest⟩ : ∃ rest, l.text = "data".toList ++ rest ∧
      (rest = [] ∨ ∃ t, rest = ':' :: t) := by
    obtain ⟨value, hvalue⟩ := Option.ne_none_iff_exists'.mp hdata
    obtain ⟨htext, -⟩ | ⟨v, htext, -⟩ := data_cases hvalue
    · exact ⟨[], htext, Or.inl rfl⟩
    · exact ⟨v.written, htext, Or.inr ⟨_, rfl⟩⟩
  rcases List.mem_append.mp hmem with hmem | hmem
  · obtain ⟨row, hrow, hl⟩ := List.mem_filterMap.mp hmem
    obtain ⟨before, after, rfl⟩ := List.append_of_mem hrow
    refine ⟨rowsText before, rest ++ '\r' :: (rowsText after ++ Text.trimEnd last.text), ?_,
      endsLine_rowsText fun row hrow => hends row (List.mem_append_left _ hrow), ?_⟩
    · have hline : Row.line row = "data".toList ++ rest := by
        rw [Row.line, hl]
        exact htext
      simp only [rowsText, List.flatMap_append, List.flatMap_cons, hline,
        hends row (List.mem_append_right _ List.mem_cons_self), List.append_assoc]
      rfl
    · rcases hrest with rfl | ⟨t, rfl⟩ <;> rfl
  · obtain rfl := List.mem_singleton.mp hmem
    refine ⟨rowsText rows, Text.trimEnd rest, ?_, endsLine_rowsText hends, ?_⟩
    · rw [htext]
      show _ ++ Text.trimEnd ('d' :: 'a' :: 't' :: 'a' :: rest) = _
      rw [Text.trimEnd_cons rfl, Text.trimEnd_cons rfl, Text.trimEnd_cons rfl,
        Text.trimEnd_cons rfl]
      rfl
    · rcases hrest with rfl | ⟨t, rfl⟩
      · rfl
      · rw [Text.trimEnd_cons rfl]
        rfl

lemma newline_not_mem_rowsText {rows : List Row} (h : ∀ row ∈ rows, row.2 = .cr) :
    '\n' ∉ rowsText rows := by
  intro hmem
  obtain ⟨row, hrow, hmem⟩ := List.mem_flatMap.mp hmem
  rw [h row hrow] at hmem
  rcases List.mem_append.mp hmem with hmem | hmem
  · obtain ⟨line, close⟩ := row
    cases line with
    | none => exact absurd hmem List.not_mem_nil
    | some l => exact newline_not_mem (isInner_line l) hmem
  · exact absurd hmem (by decide)

/-- The frame of a body that is one line. -/
lemma dataFramesOf_one {body t : Text} (htrim : Text.trim body = t) (hfree : '\n' ∉ t)
    {frame : Text} (hlast : (dataFramesOf body).getLast? = some frame) :
    (frame = t ∧ ¬ "data:".toList <+: t) ∨ ∃ data, t = "data:".toList ++ data ∧
      frame = Text.trimStart data := by
  have hjoin : ∀ t : Text, Text.join "\n".toList [t] = t := fun t => List.intercalate_singleton
  by_cases hprefix : "data:".toList <+: t
  · obtain ⟨data, rfl⟩ := hprefix
    refine Or.inr ⟨data, rfl, ?_⟩
    have hframes : dataFramesOf body = framesFrom [] ["data:".toList ++ data] := by
      refine dataFramesOf_lines (by rw [htrim, hjoin]) ?_ ⟨_, List.mem_singleton_self _, ?_⟩
      · intro line hline
        rw [List.mem_singleton.mp hline]
        exact hfree
      · exact List.isPrefixOf_iff_prefix.mpr (List.prefix_append _ _)
    rw [hframes, framesFrom_cons (List.append_ne_nil_of_left_ne_nil (by decide) _), pieceOf_data,
      framesFrom, List.nil_append, frameOf, hjoin] at hlast
    split at hlast
    · exact (Option.some.inj hlast).symm
    · cases hlast
  · refine Or.inl ⟨?_, hprefix⟩
    have hincludes : Text.includes t "\ndata:".toList = false := by
      rw [← Bool.not_eq_true, includes_iff_infix]
      exact fun hcontained => hfree (hcontained.subset List.mem_cons_self)
    rw [dataFramesOf, htrim] at hlast
    simp only [hincludes, Bool.not_false, Bool.true_and, Bool.not_eq_true',
      ← Bool.not_eq_true, List.isPrefixOf_iff_prefix, hprefix, not_false_eq_true, if_true] at hlast
    split at hlast
    · cases hlast
    · exact (Option.some.inj hlast).symm

/-- **A stream of CR alone** with more than one line is not read. -/
lemma parse_cr {s : Stream} {p : Text} {v : Json Units ν} (hp : p ∈ s.messages)
    (hparse : parse toNumber p = some v) (hends : ∀ row ∈ s.rows, row.2 = .cr)
    (hmany : (linesOf s.rows).length ≠ 1) {frame : Text}
    (hlast : (dataFramesOf s.text).getLast? = some frame) : parse toNumber frame = none := by
  obtain ⟨blank, inside, last, close, after, hcore⟩ := core_of_message hp
  have hlines := linesOf_core hcore
  cases inside with
  | nil =>
    rw [hlines] at hmany
    exact absurd rfl hmany
  | cons row inside =>
    obtain ⟨l, hl⟩ := Option.isSome_iff_exists.mp (hcore.head row rfl)
    have hinside : ∀ row' ∈ row :: inside, row'.2 = .cr := fun row' hmem => hends row' (by
      rw [hcore.eq]
      exact List.mem_append_left _ (List.mem_append_right _ hmem))
    have hrest : ∀ row' ∈ inside, row'.2 = .cr := fun row' hmem =>
      hinside row' (List.mem_cons_of_mem _ hmem)
    -- the first line, and what follows its CR
    obtain ⟨later, hlater⟩ : ∃ later, later = rowsText inside ++ Text.trimEnd last.text := ⟨_, rfl⟩
    have htrim : Text.trim s.text = l.text ++ '\r' :: later := by
      rw [trim_core hcore, hlater, rowsText, List.flatMap_cons, Row.line, hl,
        hinside row List.mem_cons_self]
      simp only [List.append_assoc]
      rfl
    have hfree : '\n' ∉ l.text ++ '\r' :: later := by
      rw [← htrim, trim_core hcore]
      intro hmem
      rcases List.mem_append.mp hmem with hmem | hmem
      · exact newline_not_mem_rowsText hinside hmem
      · exact newline_not_mem (isInner_line last) ((prefix_trimEnd _).subset hmem)
    by_cases hword : ∃ l ∈ linesOf inside ++ [last], l.data ≠ none
    · obtain ⟨before, rest, heq, hbefore, hhead⟩ := exists_data_word hrest hword
      rw [← hlater] at heq
      have hnone : ∀ t : Text, EndsLine t → parse toNumber (t ++ ("data".toList ++ rest)) = none := by
        intro t ht
        refine parse_data_word ?_ hhead
        rcases ht with rfl | ⟨t, rfl⟩
        · exact Or.inl rfl
        · exact Or.inr ⟨t, '\r', rfl, Or.inr rfl⟩
      have hsplit : ∀ t : Text, t ++ '\r' :: later =
          (t ++ '\r' :: before) ++ ("data".toList ++ rest) := by
        intro t
        rw [heq, List.append_assoc, List.cons_append]
      rcases dataFramesOf_one htrim hfree hlast with ⟨rfl, -⟩ | ⟨data, hdata, rfl⟩
      · rw [hsplit]
        exact hnone _ (hbefore.append _)
      · have hreturn : '\r' ∉ "data:".toList := by decide
        have hprefix : "data:".toList <+: l.text := by
          rw [← List.isPrefixOf_iff_prefix, ← Text.isPrefixOf_append_cons hreturn l.text later,
            List.isPrefixOf_iff_prefix]
          exact ⟨data, hdata.symm⟩
        obtain ⟨value, hvalue⟩ := hprefix
        have hdata' : data = (value ++ '\r' :: before) ++ ("data".toList ++ rest) := by
          rw [← hvalue, List.append_assoc] at hdata
          rw [← hsplit]
          exact (List.append_cancel_left hdata).symm
        rw [hdata']
        show parse toNumber (Text.trimStart (_ ++ 'd' :: ("ata".toList ++ rest))) = none
        rw [Text.trimStart_append_cons _ rfl]
        exact hnone _ (hbefore.append value).trimStart
    · -- the first line has the whole message
      have hdata : l.data = some p := by
        refine message_single ?_ hp
        have hnone : (linesOf inside ++ [last]).filterMap EventStream.Line.data = [] := by
          rw [List.filterMap_eq_nil_iff]
          intro l hmem
          by_contra hdata
          exact hword ⟨l, hmem, hdata⟩
        have hcons : linesOf s.rows = l :: (linesOf inside ++ [last]) := by
          rw [hlines, linesOf, List.filterMap_cons, hl]
          rfl
        rw [streamData_linesOf, hcons, List.filterMap_cons, hnone]
        cases l.data <;> rfl
      obtain ⟨value, hvalue, hcarried⟩ : ∃ value, l.text = "data:".toList ++ value ∧
          Carried toNumber [Text.trimStart value] [p] := by
        obtain ⟨-, rfl⟩ | ⟨v, htext, rfl⟩ := data_cases hdata
        · exact absurd (exists_of_parse hparse) (by decide)
        · exact ⟨v.written.tail, htext, carried_value v (Or.inl rfl)⟩
      have hspace : value.all Text.isSpace = false := by
        obtain ⟨piece, hpiece, hspace⟩ :=
          hcarried.shows ⟨p, List.mem_singleton_self _, exists_of_parse hparse⟩
        rw [List.mem_singleton.mp hpiece, Text.all_trimStart] at hspace
        exact hspace
      have hlaterspace : later.all Text.isSpace = false := by
        rw [hlater, List.all_append, Text.all_trimEnd, not_space_line, Bool.and_false]
      rcases dataFramesOf_one htrim hfree hlast with ⟨-, hnot⟩ | ⟨data, hdata, rfl⟩
      · rw [hvalue, List.append_assoc] at hnot
        exact absurd (List.prefix_append _ _) hnot
      · rw [hvalue, List.append_assoc] at hdata
        have hjoin : Text.trimStart data = Text.join ['\r'] [Text.trimStart value, later] := by
          rw [← List.append_cancel_left hdata, Text.trimStart_append_text hspace,
            Text.join_cons_cons, Text.join, List.intercalate_singleton, List.append_assoc]
          rfl
        have hfirst : Reader.begin.lines toNumber [Text.trimStart value] =
            some ⟨.between, .done v⟩ := by
          refine hcarried.reads rfl ?_
          rw [lines_cons, parse_iff.mp hparse]
          rfl
        rw [hjoin, Option.eq_none_iff_forall_ne_some]
        intro v' hparse'
        replace hparse' := (parse_join_iff (Or.inr rfl)).mp hparse'
        rw [← List.singleton_append, lines_append, hfirst, Option.bind_some,
          lines_done ⟨later, List.mem_singleton_self _, hlaterspace⟩] at hparse'
        cases hparse'

end Frame

/-! ## Which responses are read -/

section Response

variable {ν : Type}

/-- A response without an error. -/
structure Response (ν : Type) where
  id : Json Units ν
  result : Json Units ν
  isId : isId id = true

/-- What the code should return. -/
def Response.data (r : Response ν) : JsonRpcResponse ν := ⟨some r.id, some r.result, none⟩

/-- The text is JSON for the response. -/
def Response.IsText (toNumber : Text → ν) (r : Response ν) (p : Text) : Prop :=
  ∃ members, parse toNumber p = some (.object members) ∧
    member (units "jsonrpc".toList) members = some (.string (units "2.0".toList)) ∧
    member (units "id".toList) members = some r.id ∧
    member (units "result".toList) members = some r.result ∧
    member (units "error".toList) members = none

/-- One line that is not blank, or no CR alone and a last message that is separated. -/
def Readable (s : Stream) : Prop :=
  (linesOf s.rows).length = 1 ∨ ((∀ row ∈ s.rows, row.2 ≠ .cr) ∧ Separated s.events)

variable {toNumber : Text → ν} {showNumber : ν → Text}

lemma responseFrom_last {body frame : Text} {v : Json Units ν} {r : Response ν} {p : Text}
    (hp : r.IsText toNumber p) (hv : parse toNumber p = some v)
    (hlast : (dataFramesOf body).getLast? = some frame)
    (hframe : parse toNumber frame = some v) :
    responseFrom toNumber showNumber body = .ok r.data := by
  obtain ⟨members, hparse, hversion, hid, hresult, herror⟩ := hp
  rw [hv] at hparse
  obtain rfl := Option.some.inj hparse
  have hdata : jsonRpcResponse (.object members) = some r.data := by
    rw [jsonRpcResponse, hversion, hid, hresult, herror]
    simp only [Option.bind_some, asString, if_true, optional, r.isId, Option.map_some]
    rfl
  rw [responseFrom, hlast]
  simp only [hframe, hdata]
  rfl

lemma responseFrom_none {body frame : Text} (hlast : (dataFramesOf body).getLast? = some frame)
    (hframe : parse toNumber frame = none) (data : JsonRpcResponse ν) :
    responseFrom toNumber showNumber body ≠ .ok data := by
  rw [responseFrom, hlast]
  simp only [hframe]
  exact fun h => Except.noConfusion rfl rfl (heq_of_eq h)

/-- Without CR alone the response is read when its frame has no other message. -/
lemma responseFrom_iff_separated {s : Stream} {notes : List Text} {p : Text} {r : Response ν}
    (hp : r.IsText toNumber p) (hmessages : s.messages = notes ++ [p])
    (hnotes : ∀ note ∈ notes, (parse toNumber note).isSome = true)
    (hends : ∀ row ∈ s.rows, row.2 ≠ .cr) :
    responseFrom toNumber showNumber s.text = .ok r.data ↔ Separated s.events := by
  obtain ⟨v, hv⟩ : ∃ v, parse toNumber p = some v := ⟨_, hp.choose_spec.1⟩
  have hread : ∀ values ∈ messageData s.events,
      ∃ v, parse toNumber (Text.join "\n".toList values) = some v := by
    intro values hvalues
    have hmem : Text.join "\n".toList values ∈ notes ++ [p] := by
      rw [← hmessages, messages_eq]
      exact List.mem_map.mpr ⟨values, hvalues, rfl⟩
    rcases List.mem_append.mp hmem with hmem | hmem
    · exact Option.isSome_iff_exists.mp (hnotes _ hmem)
    · rw [List.mem_singleton.mp hmem]
      exact ⟨v, hv⟩
  have hne : messageData s.events ≠ [] := by
    intro hnil
    rw [messages_eq, hnil] at hmessages
    exact List.append_ne_nil_of_right_ne_nil _ (List.cons_ne_nil _ _) hmessages.symm
  obtain ⟨pieces, hlast, hcarried⟩ := getLast?_dataFramesOf toNumber hends
    (fun values hvalues => isShown_of_parse (hread values hvalues).choose_spec) hne
  have hsuffix : lastBlock [] s.events <:+ messageData s.events := lastBlock_suffix
  rw [separated_iff, ← List.nil_append (messageData s.events), ← length_lastBlock]
  generalize lastBlock [] s.events = block at hcarried hsuffix
  cases hcarried with
  | nil =>
    exact ⟨fun hok => absurd hok (responseFrom_none hlast rfl _), fun h => absurd h (by decide)⟩
  | @cons piece values _ _ hfirst hrest =>
    cases hrest with
    | nil =>
      refine ⟨fun _ => rfl, fun _ => ?_⟩
      obtain ⟨before, hbefore⟩ := hsuffix
      have hvalues : before.map (Text.join "\n".toList) ++ [Text.join "\n".toList values] =
          notes ++ [p] := by
        rw [← hmessages, messages_eq, ← hbefore, List.map_append]
        rfl
      have hlastvalues : Text.join "\n".toList values = p :=
        List.singleton_inj.mp (List.append_inj_right' hvalues rfl)
      rw [List.flatten_singleton] at hlast
      exact responseFrom_last hp hv hlast (parse_carried hfirst (hlastvalues ▸ hv))
    | @cons second values' _ _ hsecond hrest =>
      have hmem : ∀ values'' ∈ values :: values' :: _, values'' ∈ messageData s.events :=
        fun _ hmem => hsuffix.subset hmem
      obtain ⟨v₁, hv₁⟩ := hread values (hmem _ List.mem_cons_self)
      obtain ⟨v₂, hv₂⟩ := hread values' (hmem _ (List.mem_cons_of_mem _ List.mem_cons_self))
      have hnone := parse_two (List.Forall₂.cons hfirst (List.Forall₂.cons hsecond hrest)) hv₁
        (isShown_of_parse hv₂)
      refine ⟨fun hok => absurd hok (responseFrom_none hlast hnone _), fun h => ?_⟩
      rw [List.length_cons, List.length_cons] at h
      omega

/-- **Which streams the response is read of.**  A response that is sent as plain JSON is read.  Sent
as a stream after notes it is read when the stream has one line that is not blank, or when no line
ends with CR alone and a blank line that ends with LF alone stands between it and the last note.  Of
the streams without CR alone, and of those with CR alone everywhere, no others are read. -/
theorem response_read_iff {r : Response ν} {p : Text} (hp : r.IsText toNumber p) :
    responseFrom toNumber showNumber p = .ok r.data ∧
    ∀ (s : Stream) (notes : List Text), s.messages = notes ++ [p] →
      (∀ note ∈ notes, (parse toNumber note).isSome = true) →
      (Readable s → responseFrom toNumber showNumber s.text = .ok r.data) ∧
      ((∀ row ∈ s.rows, row.2 ≠ .cr) ∨ (∀ row ∈ s.rows, row.2 = .cr) →
        (responseFrom toNumber showNumber s.text = .ok r.data ↔ Readable s)) := by
  obtain ⟨v, hv⟩ : ∃ v, parse toNumber p = some v := ⟨_, hp.choose_spec.1⟩
  obtain ⟨hframes, htrim⟩ := dataFramesOf_json hv
  refine ⟨responseFrom_last hp hv (by rw [hframes]; rfl) htrim, fun s notes hmessages hnotes => ?_⟩
  have hmem : p ∈ s.messages := by
    rw [hmessages]
    exact List.mem_append_right _ (List.mem_singleton_self p)
  have hread : Readable s → responseFrom toNumber showNumber s.text = .ok r.data := by
    rintro (hone | ⟨hends, hseparated⟩)
    · obtain ⟨frame, hlast, hframe⟩ := dataFramesOf_line hmem hv hone
      exact responseFrom_last hp hv hlast hframe
    · exact (responseFrom_iff_separated hp hmessages hnotes hends).mpr hseparated
  refine ⟨hread, fun hends => ⟨fun hok => ?_, hread⟩⟩
  rcases hends with hends | hends
  · exact Or.inr ⟨hends, (responseFrom_iff_separated hp hmessages hnotes hends).mp hok⟩
  · by_contra hnot
    have hmany : (linesOf s.rows).length ≠ 1 := fun hone => hnot (Or.inl hone)
    cases hlast : (dataFramesOf s.text).getLast? with
    | none =>
      rw [responseFrom, hlast] at hok
      cases hok
    | some frame =>
      exact responseFrom_none hlast (parse_cr hmem hv hends hmany hlast) _ hok

end Response

/-! ## A notification before the response -/

/-- A notification of progress. -/
def progressNote : Text :=
  "\x7b\"jsonrpc\":\"2.0\",\"method\":\"notifications/progress\"\x7d".toList

/-- The response to a call. -/
def callResponse : Text := "\x7b\"jsonrpc\":\"2.0\",\"id\":2,\"result\":true\x7d".toList

/-- What is in the response. -/
def callData : Response Int := ⟨.number 2, .bool true, rfl⟩

/-- A notification and a response, with all lines ended alike. -/
def notedStream (e : LineEnd) : Stream where
  byteOrderMark := false
  events :=
    [⟨[(.field .data (some ⟨true, progressNote, by decide, by decide⟩), e)], e⟩,
      ⟨[(.field .data (some ⟨true, callResponse, by decide, by decide⟩), e)], e⟩]
  unambiguous := by cases e <;> decide

lemma callData_isText : callData.IsText wholeNumbers.read callResponse :=
  ⟨_, rfl, rfl, rfl, rfl, rfl⟩

/-- With LF the response is read after the notification. -/
theorem response_read_lf :
    responseFrom wholeNumbers.read wholeNumbers.write (notedStream .lf).text = .ok callData.data :=
  ((response_read_iff callData_isText).2 (notedStream .lf) [progressNote] rfl
    (by rintro note hnote; rw [List.mem_singleton.mp hnote]; rfl)).1
      (Or.inr ⟨by decide, ⟨(notedStream .lf).events.take 1, (notedStream .lf).events.drop 1, rfl,
        by decide, rfl⟩⟩)

/-- **With CRLF, and with CR, it is not.** -/
theorem response_lost :
    (notedStream .crlf).messages = [progressNote, callResponse] ∧
      (notedStream .cr).messages = [progressNote, callResponse] ∧
      (parse wholeNumbers.read progressNote).isSome = true ∧
      callData.IsText wholeNumbers.read callResponse ∧
      responseFrom wholeNumbers.read wholeNumbers.write (notedStream .crlf).text =
        .error ⟨units "The client returned a response that is not JSON".toList⟩ ∧
      responseFrom wholeNumbers.read wholeNumbers.write (notedStream .cr).text =
        .error ⟨units "The client returned a response that is not JSON".toList⟩ :=
  ⟨rfl, rfl, rfl, callData_isText, rfl, rfl⟩

end Mcp

end OpenMcc
