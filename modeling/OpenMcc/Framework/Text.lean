import Mathlib.Data.List.Basic
import Mathlib.Tactic.Lemma

/-!
# Text as a list of characters

A text is the list of its characters, which is how the code that scans one reads it.  The
operations here are the ones of the source's own standard library, under its names: `includes`,
`trim`, `trimStart` and the splitting at white space.  `isSpace` is that library's notion of white
space, which its regular expressions write `\s`.
-/

namespace OpenMcc

/-- A text, character by character. -/
abbrev Text := List Char

namespace Text

/-- White space and line ends, as `trim` and `\s` read them. -/
def isSpace (c : Char) : Bool :=
  let n := c.toNat
  (0x09 ≤ n && n ≤ 0x0d) || n == 0x20 || n == 0xa0 || n == 0x1680 ||
    (0x2000 ≤ n && n ≤ 0x200a) || n == 0x2028 || n == 0x2029 || n == 0x202f || n == 0x205f ||
    n == 0x3000 || n == 0xfeff

/-- The characters that end a line: the ones `.` does not match and `^` may follow. -/
def isLineTerminator (c : Char) : Bool :=
  c == '\n' || c == '\r' || c.toNat == 0x2028 || c.toNat == 0x2029

/-- A decimal digit, `\d`. -/
def isDigit (c : Char) : Bool := '0' ≤ c && c ≤ '9'

/-- The text occurs somewhere inside the other. -/
def includes (t marker : Text) : Bool :=
  match t with
  | [] => marker.isEmpty
  | c :: rest => marker.isPrefixOf (c :: rest) || includes rest marker

/-- The text without the white space it starts with. -/
def trimStart (t : Text) : Text := t.dropWhile isSpace

/-- The text without the white space it ends with. -/
def trimEnd (t : Text) : Text := (t.reverse.dropWhile isSpace).reverse

/-- The text without the white space around it. -/
def trim (t : Text) : Text := trimEnd (trimStart t)

/-- The text cut at each run of white space, as `split(/\s+/)` cuts it. -/
def splitSpaces : Text → List Text
  | [] => [[]]
  | c :: rest =>
    if isSpace c then
      -- a run of white space cuts once, where its last character stands
      if rest.head?.any isSpace then splitSpaces rest else [] :: splitSpaces rest
    else
      match splitSpaces rest with
      | [] => [[c]]
      | word :: words => (c :: word) :: words

/-- The pieces joined with one separator between any two of them. -/
def join (separator : Text) (pieces : List Text) : Text := separator.intercalate pieces

example : splitSpaces "script  pwn now".toList =
    ["script".toList, "pwn".toList, "now".toList] := by decide

/-- The lines of a text: what `split("\n")` cuts it into. -/
def lines (t : Text) : List Text := t.splitOn '\n'

/-- The length the source measures: a character outside the basic plane counts twice. -/
def utf16Length : Text → Nat
  | [] => 0
  | c :: t => (if c.toNat < 0x10000 then 1 else 2) + utf16Length t

/-- The value of a hexadecimal digit. -/
def hexDigit (c : Char) : Option Nat :=
  if '0' ≤ c ∧ c ≤ '9' then some (c.toNat - '0'.toNat)
  else if 'a' ≤ c ∧ c ≤ 'f' then some (c.toNat - 'a'.toNat + 10)
  else if 'A' ≤ c ∧ c ≤ 'F' then some (c.toNat - 'A'.toNat + 10)
  else none

/-- The number that hexadecimal digits write after a number already read. -/
def hexNumber : Nat → Text → Option Nat
  | n, [] => some n
  | n, c :: rest => (hexDigit c).bind fun digit => hexNumber (n * 16 + digit) rest

/-- The texts of strings, spelled out.  The strings of a closed statement are replaced by their
characters with it, as the kernel reads a string literal. -/
inductive SpelledOut : List String → List Text → Prop
  | nil : SpelledOut [] []
  | cons {t : Text} {strings : List String} {texts : List Text} : SpelledOut strings texts →
      SpelledOut (String.ofList t :: strings) (t :: texts)

lemma SpelledOut.map_toList {strings : List String} {texts : List Text}
    (h : SpelledOut strings texts) : strings.map String.toList = texts := by
  induction h with
  | nil => rfl
  | cons _ ih => rw [List.map_cons, String.toList_ofList, ih]

/-- A number for a text: texts with different numbers are different. -/
def number (t : Text) : Nat := t.foldl (fun n c => n * 0x110000 + c.toNat) 0

/-! ## Where the characters of a result come from -/

/-- A word cut out of a text is made of that text's characters. -/
lemma mem_of_mem_splitSpaces {c : Char} {word : Text} :
    ∀ {t : Text}, word ∈ splitSpaces t → c ∈ word → c ∈ t
  | [], hword, hc => by
      simp only [splitSpaces, List.mem_singleton] at hword
      rw [hword] at hc
      exact hc
  | x :: rest, hword, hc => by
      rw [splitSpaces] at hword
      split at hword
      · have hrest : word = [] ∨ word ∈ splitSpaces rest := by
          split at hword
          · exact Or.inr hword
          · exact List.mem_cons.mp hword
        rcases hrest with hnil | hrest
        · rw [hnil] at hc
          cases hc
        · exact List.mem_cons_of_mem x (mem_of_mem_splitSpaces hrest hc)
      · cases hwords : splitSpaces rest with
        | nil =>
            rw [hwords, List.mem_singleton] at hword
            rw [hword, List.mem_singleton] at hc
            exact hc ▸ List.mem_cons_self
        | cons first words =>
            rw [hwords, List.mem_cons] at hword
            rcases hword with heq | hmem
            · rw [heq, List.mem_cons] at hc
              rcases hc with hx | hfirst
              · exact hx ▸ List.mem_cons_self
              · refine List.mem_cons_of_mem x (mem_of_mem_splitSpaces ?_ hfirst)
                exact hwords ▸ List.mem_cons_self
            · refine List.mem_cons_of_mem x (mem_of_mem_splitSpaces ?_ hc)
              exact hwords ▸ List.mem_cons_of_mem first hmem

/-- Where the first mark is, the text is cut in one way. -/
lemma append_cons_inj {x : Char} {a b rest rest' : Text} (ha : x ∉ a) (hb : x ∉ b)
    (h : a ++ x :: rest = b ++ x :: rest') : a = b ∧ rest = rest' := by
  induction a generalizing b with
  | nil =>
    cases b with
    | nil => exact ⟨rfl, (List.cons.inj h).2⟩
    | cons c b => exact absurd ((List.cons.inj h).1 ▸ List.mem_cons_self) hb
  | cons c a ih =>
    cases b with
    | nil => exact absurd ((List.cons.inj h).1 ▸ List.mem_cons_self) ha
    | cons c' b =>
      obtain ⟨rfl, hrest⟩ := List.cons.inj h
      obtain ⟨rfl, hend⟩ := ih (fun hmem => ha (List.mem_cons_of_mem _ hmem))
        (fun hmem => hb (List.mem_cons_of_mem _ hmem)) hrest
      exact ⟨rfl, hend⟩

/-- Where the last mark is, the text is cut in one way. -/
lemma append_cons_inj' {x : Char} {a b rest rest' : Text} (hrest : x ∉ rest) (hrest' : x ∉ rest')
    (h : a ++ x :: rest = b ++ x :: rest') : a = b ∧ rest = rest' := by
  have hreverse := congrArg List.reverse h
  simp only [List.reverse_append, List.reverse_cons, List.append_assoc, List.singleton_append]
    at hreverse
  obtain ⟨hend, hstart⟩ := append_cons_inj (fun hmem => hrest (List.mem_reverse.1 hmem))
    (fun hmem => hrest' (List.mem_reverse.1 hmem)) hreverse
  exact ⟨List.reverse_inj.1 hstart, List.reverse_inj.1 hend⟩

lemma join_cons_cons (separator first second : Text) (pieces : List Text) :
    join separator (first :: second :: pieces) =
      first ++ separator ++ join separator (second :: pieces) :=
  List.intercalate_cons_cons

lemma join_append (separator : Text) {left right : List Text} (hleft : left ≠ [])
    (hright : right ≠ []) :
    join separator (left ++ right) = join separator left ++ separator ++ join separator right := by
  induction left with
  | nil => exact absurd rfl hleft
  | cons first left ih =>
    cases left with
    | nil =>
      obtain ⟨second, right, rfl⟩ := List.exists_cons_of_ne_nil hright
      have hfirst : join separator [first] = first := List.intercalate_singleton
      rw [List.singleton_append, join_cons_cons, hfirst]
    | cons second left =>
      rw [List.cons_append, List.cons_append, join_cons_cons, join_cons_cons, ← List.cons_append,
        ih (List.cons_ne_nil _ _)]
      simp only [List.append_assoc]

/-- A character of a joined text is one of the separator or of a piece. -/
lemma mem_join {separator : Text} {c : Char} :
    ∀ {pieces : List Text}, c ∈ join separator pieces →
      c ∈ separator ∨ ∃ piece ∈ pieces, c ∈ piece
  | [], h => by
      rw [join, List.intercalate_nil] at h
      cases h
  | [piece], h => by
      rw [join, List.intercalate_singleton] at h
      exact Or.inr ⟨piece, List.mem_cons_self, h⟩
  | first :: second :: pieces, h => by
      rw [join_cons_cons, List.mem_append, List.mem_append] at h
      rcases h with (hfirst | hsep) | hrest
      · exact Or.inr ⟨first, List.mem_cons_self, hfirst⟩
      · exact Or.inl hsep
      · rcases mem_join hrest with hsep | ⟨piece, hpiece, hc⟩
        · exact Or.inl hsep
        · exact Or.inr ⟨piece, List.mem_cons_of_mem first hpiece, hc⟩

/-- Trimming keeps only characters of the text. -/
lemma mem_of_mem_trim {c : Char} {t : Text} (h : c ∈ trim t) : c ∈ t := by
  rw [trim, trimEnd, List.mem_reverse] at h
  have h' := (List.dropWhile_sublist _).mem h
  rw [List.mem_reverse] at h'
  exact (List.dropWhile_sublist _).mem h'

/-! ## Trimming -/

lemma trimStart_append {space : Text} (h : space.all isSpace = true) (t : Text) :
    trimStart (space ++ t) = trimStart t :=
  List.dropWhile_append_of_pos (List.all_eq_true.mp h)

lemma trimStart_cons {c : Char} (h : isSpace c = false) (t : Text) :
    trimStart (c :: t) = c :: t := by
  rw [trimStart, List.dropWhile_cons, if_neg (by rw [h]; exact Bool.false_ne_true)]

lemma all_trimStart (t : Text) : (trimStart t).all isSpace = t.all isSpace := by
  have hall := congrArg (List.all · isSpace) (List.takeWhile_append_dropWhile (p := isSpace) (l := t))
  rw [List.all_append, List.all_takeWhile, Bool.true_and] at hall
  exact hall

lemma all_trimEnd (t : Text) : (trimEnd t).all isSpace = t.all isSpace := by
  rw [trimEnd, List.all_reverse, ← List.all_reverse (l := t)]
  exact all_trimStart t.reverse

/-- What white space at the start leaves of a text is an end of it. -/
lemma trimStart_append_cons (t : Text) {c : Char} (h : isSpace c = false) (t' : Text) :
    trimStart (t ++ c :: t') = trimStart t ++ c :: t' := by
  rw [trimStart, List.dropWhile_append]
  split
  · next hempty =>
    rw [trimStart, List.isEmpty_iff.mp hempty]
    exact trimStart_cons h t'
  · rfl

lemma trimStart_append_text {t : Text} (h : t.all isSpace = false) (t' : Text) :
    trimStart (t ++ t') = trimStart t ++ t' := by
  rw [trimStart, List.dropWhile_append]
  split
  · next hempty =>
    have hall := all_trimStart t
    rw [trimStart, List.isEmpty_iff.mp hempty, h] at hall
    cases hall
  · rfl

lemma trimEnd_append_space (t : Text) {space : Text} (h : space.all isSpace = true) :
    trimEnd (t ++ space) = trimEnd t := by
  rw [trimEnd, List.reverse_append, List.dropWhile_append_of_pos]
  · rfl
  · exact fun c hc => List.all_eq_true.mp h c (List.mem_reverse.mp hc)

lemma trimEnd_append (t : Text) {t' : Text} (h : t'.all isSpace = false) :
    trimEnd (t ++ t') = t ++ trimEnd t' := by
  have hne : ¬ (t'.reverse.dropWhile isSpace).isEmpty = true := by
    intro hempty
    obtain ⟨c, hc, hspace⟩ := List.all_eq_false.mp h
    have hall := List.takeWhile_append_dropWhile (p := isSpace) (l := t'.reverse)
    rw [List.isEmpty_iff.mp hempty, List.append_nil] at hall
    have hmem : c ∈ t'.reverse.takeWhile isSpace := by
      rw [hall, List.mem_reverse]
      exact hc
    exact hspace (List.all_eq_true.mp List.all_takeWhile c hmem)
  rw [trimEnd, List.reverse_append, List.dropWhile_append, if_neg hne, List.reverse_append,
    List.reverse_reverse]
  rfl

lemma trimEnd_cons {c : Char} (h : isSpace c = false) (t : Text) :
    trimEnd (c :: t) = c :: trimEnd t := by
  by_cases ht : t.all isSpace = true
  · have hnil : trimEnd t = [] := trimEnd_append_space [] ht
    have hone : trimEnd [c] = [c] := by
      rw [trimEnd, List.reverse_singleton, List.dropWhile_cons,
        if_neg (by rw [h]; exact Bool.false_ne_true), List.reverse_singleton]
    rw [← List.singleton_append, trimEnd_append_space [c] ht, hone, hnil]
  · rw [Bool.not_eq_true] at ht
    exact trimEnd_append [c] ht

/-- A text that is trimmed begins with no white space. -/
lemma head_trim (t : Text) : ((trim t).head?.any isSpace) = false := by
  cases hstart : trimStart t with
  | nil =>
    rw [trim, hstart]
    rfl
  | cons c rest =>
    have hc : isSpace c = false := by
      have hhead := List.head?_dropWhile_not isSpace t
      rw [← trimStart, hstart] at hhead
      simpa using hhead
    rw [trim, hstart, trimEnd_cons hc]
    exact hc

/-! ## Letters -/

/-- Where the letters and the digits of ASCII lie. -/
lemma range_of_isAlphanum {c : Char} (h : c.isAlphanum = true) :
    0x30 ≤ c.toNat ∧ c.toNat ≤ 0x7a := by
  have h : ((decide (c.val ≥ 'A'.val ∧ c.val ≤ 'Z'.val) || (c.val ≥ 'a'.val && c.val ≤ 'z'.val)) ||
    (c.val ≥ '0'.val && c.val ≤ '9'.val)) = true := h
  simp only [Bool.or_eq_true, Bool.and_eq_true, decide_eq_true_eq, UInt32.le_iff_toNat_le,
    ge_iff_le] at h
  rcases h with (⟨hle, hge⟩ | ⟨hle, hge⟩) | ⟨hle, hge⟩
  · exact ⟨Nat.le_trans (by decide) hle, Nat.le_trans hge (by decide)⟩
  · exact ⟨Nat.le_trans (by decide) hle, Nat.le_trans hge (by decide)⟩
  · exact ⟨Nat.le_trans (by decide) hle, Nat.le_trans hge (by decide)⟩

/-! ## Lines -/

/-- What a text is cut at is in none of its pieces. -/
lemma not_mem_of_mem_splitOn {x : Char} {piece t : Text} (h : piece ∈ t.splitOn x) :
    x ∉ piece := by
  induction t generalizing piece with
  | nil =>
    rw [List.splitOn_nil, List.mem_singleton] at h
    rw [h]
    exact List.not_mem_nil
  | cons c t ih =>
    rw [List.splitOn_cons_eq_if_modifyHead] at h
    split at h
    · obtain rfl | htail := List.mem_cons.1 h
      · exact List.not_mem_nil
      · exact ih htail
    · rename_i hc
      obtain ⟨first, rest, hpieces⟩ := List.exists_cons_of_ne_nil (List.splitOn_ne_nil x t)
      rw [hpieces, List.modifyHead_cons] at h
      obtain rfl | htail := List.mem_cons.1 h
      · intro hmem
        obtain rfl | hfirst := List.mem_cons.1 hmem
        · exact hc (beq_self_eq_true _)
        · exact ih (hpieces ▸ List.mem_cons_self) hfirst
      · exact ih (hpieces ▸ List.mem_cons_of_mem _ htail)

/-- No line of a text holds a line feed. -/
lemma not_mem_of_mem_lines {line t : Text} (h : line ∈ lines t) : '\n' ∉ line :=
  not_mem_of_mem_splitOn h

/-- A text without a mark at the start of a text ends before the first such mark. -/
lemma isPrefixOf_append_cons {c : Char} {marker : Text} (hmarker : c ∉ marker)
    (line rest : Text) : marker.isPrefixOf (line ++ c :: rest) = marker.isPrefixOf line := by
  rw [Bool.eq_iff_iff, List.isPrefixOf_iff_prefix, List.isPrefixOf_iff_prefix]
  refine ⟨fun h => ?_, fun h => h.trans (List.prefix_append _ _)⟩
  obtain h' | ⟨tail, rfl⟩ := List.prefix_or_prefix_of_prefix h (List.prefix_append _ _)
  · exact h'
  · cases tail with
    | nil => exact ⟨[], by simp⟩
    | cons x tail =>
      rw [List.prefix_append_right_inj, List.cons_prefix_cons] at h
      rw [h.1] at hmarker
      exact absurd (List.mem_append_right _ List.mem_cons_self) hmarker

/-- A marker without a line feed is on one side of a line feed. -/
lemma includes_append_newline {line rest marker : Text} (hmarker : '\n' ∉ marker)
    (hne : marker ≠ []) :
    includes (line ++ '\n' :: rest) marker = (includes line marker || includes rest marker) := by
  induction line with
  | nil =>
    have hstarts := isPrefixOf_append_cons hmarker [] rest
    rw [List.nil_append] at hstarts
    show (marker.isPrefixOf ('\n' :: rest) || includes rest marker) = _
    rw [hstarts]
    cases marker with
    | nil => exact absurd rfl hne
    | cons x marker => rfl
  | cons c line ih =>
    have hstarts := isPrefixOf_append_cons hmarker (c :: line) rest
    rw [List.cons_append] at hstarts
    rw [List.cons_append, includes, includes, hstarts, ih, Bool.or_assoc]

/-- A marker without a line feed is in one of the lines. -/
lemma includes_join {marker : Text} (hmarker : '\n' ∉ marker) (hne : marker ≠ []) :
    ∀ pieces : List Text, includes (join "\n".toList pieces) marker = pieces.any (includes · marker)
  | [] => by
      obtain ⟨x, marker, rfl⟩ := List.exists_cons_of_ne_nil hne
      rfl
  | [piece] => by
      rw [join, List.intercalate_singleton, List.any_cons, List.any_nil, Bool.or_false]
  | first :: second :: pieces => by
      rw [join_cons_cons, List.append_assoc, List.any_cons, ← includes_join hmarker hne]
      exact includes_append_newline hmarker hne

/-- Joining lines by line feeds and cutting the result gives the lines back. -/
lemma lines_join {pieces : List Text} (hne : pieces ≠ [])
    (hpieces : ∀ piece ∈ pieces, '\n' ∉ piece) : lines (join "\n".toList pieces) = pieces :=
  List.splitOn_intercalate '\n' hpieces hne

end Text

end OpenMcc
