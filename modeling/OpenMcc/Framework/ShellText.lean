import OpenMcc.Framework.Text

/-!
# Texts in commands of a shell

A shell takes a character of a command line as one of its own, or as standing for itself (`marks`),
which quotes and backslashes tell apart.  A text in single quotes stands for itself wherever the
command stands outside of quotes (`marks_quoted`).  What is inside `$(…)` is a command of its own and
is read apart.

Of patterns for the names of files only what is documented of characters is used (`Fnmatch`): a
backslash makes any character stand for itself.
-/

namespace OpenMcc.ShellText

/-- A character of a command line, as the shell takes it. -/
inductive Mark
  /-- One that the shell may give a meaning. -/
  | code (c : Char)
  /-- One that stands for itself. -/
  | text (c : Char)
  deriving DecidableEq, Repr

/-- The quotes a command line is in. -/
inductive Quote
  | outside | single | double
  deriving DecidableEq, Repr

/-- A character between double quotes. -/
def inDouble (c : Char) : Mark := if c = '$' ∨ c = '`' then .code c else .text c

/-- The characters that a backslash between double quotes belongs to. -/
def escapesInDouble (c : Char) : Bool := c == '$' || c == '`' || c == '"' || c == '\\'

/-- A command line as the shell takes it, and `none` where a quote is not closed. -/
def marks : Quote → Text → Option (List Mark)
  | .outside, [] => some []
  | .outside, '\'' :: t => marks .single t
  | .outside, '"' :: t => marks .double t
  | .outside, '\\' :: c :: t => (marks .outside t).map (.text c :: ·)
  | .outside, '\\' :: [] => none
  | .outside, c :: t => (marks .outside t).map (.code c :: ·)
  | .single, [] => none
  | .single, '\'' :: t => marks .outside t
  | .single, c :: t => (marks .single t).map (.text c :: ·)
  | .double, [] => none
  | .double, '"' :: t => marks .outside t
  | .double, '\\' :: c :: t =>
    (marks .double t).map fun rest =>
      if escapesInDouble c then .text c :: rest else .text '\\' :: inDouble c :: rest
  | .double, c :: t => (marks .double t).map (inDouble c :: ·)

/-- The words of a command line. -/
def words (line : Text) : Option (List (List Mark)) :=
  (marks .outside line).map fun ms => ms.splitOn (.code ' ')

/-- A text in single quotes. -/
def singleQuote (value : Text) : Text :=
  '\'' :: (value.flatMap fun c => if c = '\'' then "'\\''".toList else [c]) ++ ['\'']

/-- The characters that are neither a quote nor a backslash. -/
def isPlain (c : Char) : Bool := c != '\'' && c != '"' && c != '\\'

lemma marks_plain {t : Text} (h : t.all isPlain = true) (rest : Text) :
    marks .outside (t ++ rest) = (marks .outside rest).map (t.map .code ++ ·) := by
  induction t with
  | nil => exact Option.map_id'.symm
  | cons c t ih =>
    rw [List.all_cons, Bool.and_eq_true] at h
    have hc : c ≠ '\'' ∧ c ≠ '"' ∧ c ≠ '\\' := by
      have hplain := h.1
      simp only [isPlain, Bool.and_eq_true, bne_iff_ne] at hplain
      exact ⟨hplain.1.1, hplain.1.2, hplain.2⟩
    have hcons : marks .outside (c :: (t ++ rest)) =
        (marks .outside (t ++ rest)).map (.code c :: ·) := by
      rw [marks]
      · exact hc.1
      · exact hc.2.1
      · exact fun d t' heq _ => hc.2.2 heq
      · exact fun heq _ => hc.2.2 heq
    rw [List.cons_append, hcons, ih h.2, Option.map_map, List.map_cons]
    rfl

/-- **A text in single quotes** stands for itself. -/
lemma marks_quoted (value rest : Text) :
    marks .outside (singleQuote value ++ rest) =
      (marks .outside rest).map (value.map .text ++ ·) := by
  have hinner : ∀ value : Text,
      marks .single ((value.flatMap fun c => if c = '\'' then "'\\''".toList else [c]) ++
        ('\'' :: rest)) = (marks .outside rest).map (value.map .text ++ ·) := by
    intro value
    induction value with
    | nil => exact Option.map_id'.symm
    | cons c value ih =>
      rw [List.flatMap_cons, List.append_assoc]
      split
      · -- The quotes are closed for a quote, and opened again.
        rename_i heq
        have hquote : ∀ t, marks .single ("'\\''".toList ++ t) =
            (marks .single t).map (.text '\'' :: ·) := fun _ => rfl
        rw [hquote, ih, Option.map_map, heq]
        rfl
      · rename_i hne
        have hcons : ∀ t, marks .single ([c] ++ t) = (marks .single t).map (.text c :: ·) := by
          intro t
          rw [List.singleton_append, marks]
          exact hne
        rw [hcons, ih, Option.map_map]
        rfl
  have hopen : marks .outside (singleQuote value ++ rest) =
      marks .single ((value.flatMap fun c => if c = '\'' then "'\\''".toList else [c]) ++
        ('\'' :: rest)) := by
    rw [singleQuote, List.cons_append, List.cons_append, List.append_assoc, List.singleton_append]
    rfl
  rw [hopen, hinner]

/-! ## Words -/

/-- A piece of a command line that is read as a word, or a part of one. -/
structure Reads (piece : Text) (word : List Mark) : Prop where
  marks : ∀ rest, marks .outside (piece ++ rest) = (marks .outside rest).map (word ++ ·)
  space : .code ' ' ∉ word

lemma Reads.plain {t : Text} (h : t.all (fun c => isPlain c && c != ' ') = true) :
    Reads t (t.map .code) where
  marks := marks_plain (List.all_eq_true.2 fun c hc =>
    (Bool.and_eq_true_iff.1 (List.all_eq_true.1 h c hc)).1)
  space hspace := by
    obtain ⟨c, hc, heq⟩ := List.mem_map.1 hspace
    have hne := (Bool.and_eq_true_iff.1 (List.all_eq_true.1 h c hc)).2
    cases heq
    exact absurd hne (by decide)

lemma Reads.quoted (value : Text) : Reads (singleQuote value) (value.map .text) where
  marks := marks_quoted value
  space hspace := by
    obtain ⟨c, -, heq⟩ := List.mem_map.1 hspace
    cases heq

lemma Reads.append {piece piece' : Text} {word word' : List Mark} (h : Reads piece word)
    (h' : Reads piece' word') : Reads (piece ++ piece') (word ++ word') where
  marks rest := by
    rw [List.append_assoc, h.marks, h'.marks, Option.map_map]
    simp only [List.append_assoc]
    rfl
  space hspace := by
    obtain hspace | hspace := List.mem_append.1 hspace
    · exact h.space hspace
    · exact h'.space hspace

lemma marks_join {pieces : List (Text × List Mark)} (h : ∀ p ∈ pieces, Reads p.1 p.2)
    (hne : pieces ≠ []) : marks .outside (Text.join [' '] (pieces.map Prod.fst)) =
      some (List.intercalate [.code ' '] (pieces.map Prod.snd)) := by
  induction pieces with
  | nil => exact absurd rfl hne
  | cons p pieces ih =>
    have hp := h p List.mem_cons_self
    cases pieces with
    | nil =>
      have hmarks := hp.marks []
      rw [List.append_nil, marks, Option.map_some, List.append_nil] at hmarks
      rw [List.map_singleton, List.map_singleton, Text.join, List.intercalate_singleton,
        List.intercalate_singleton, hmarks]
    | cons q pieces =>
      have hq := ih (fun r hr => h r (List.mem_cons_of_mem _ hr)) (List.cons_ne_nil _ _)
      have hspace : ∀ t, marks .outside (' ' :: t) = (marks .outside t).map (.code ' ' :: ·) :=
        fun _ => rfl
      rw [List.map_cons, List.map_cons] at hq ⊢
      rw [List.map_cons, List.map_cons, Text.join_cons_cons, List.intercalate_cons_cons,
        List.append_assoc, hp.marks, List.singleton_append, hspace, hq]
      simp only [Option.map_some, List.append_assoc, List.singleton_append]

/-- **Pieces with a blank between any two of them** are the words. -/
lemma words_join {pieces : List (Text × List Mark)} (h : ∀ p ∈ pieces, Reads p.1 p.2)
    (hne : pieces ≠ []) :
    words (Text.join [' '] (pieces.map Prod.fst)) = some (pieces.map Prod.snd) := by
  rw [words, marks_join h hne, Option.map_some, List.splitOn_intercalate]
  · intro word hword
    obtain ⟨p, hp, rfl⟩ := List.mem_map.1 hword
    exact (h p hp).space
  · exact fun hnil => hne (List.map_eq_nil_iff.1 hnil)

/-! ## Patterns -/

/-- What a program does with a pattern, as far as it is documented of single characters. -/
structure Fnmatch where
  accepts : Text → Text → Prop
  nil : ∀ name, accepts [] name ↔ name = []
  ordinary : ∀ c pattern name, c ∉ "*?[\\".toList →
    (accepts (c :: pattern) name ↔ ∃ rest, name = c :: rest ∧ accepts pattern rest)
  escaped : ∀ c pattern name,
    accepts ('\\' :: c :: pattern) name ↔ ∃ rest, name = c :: rest ∧ accepts pattern rest

/-- A pattern with a backslash before each character of some kind. -/
def escape (special : Char → Bool) (name : Text) : Text :=
  name.flatMap fun c => if special c then ['\\', c] else [c]

/-- **An escaped name** is the only one that the pattern accepts. -/
lemma Fnmatch.accepts_escape (f : Fnmatch) {special : Char → Bool} {name : Text}
    (h : ∀ c ∈ name, special c = false → c ∉ "*?[\\".toList) (other : Text) :
    f.accepts (escape special name) other ↔ other = name := by
  induction name generalizing other with
  | nil => exact f.nil other
  | cons c name ih =>
    have hname := ih fun d hd => h d (List.mem_cons_of_mem _ hd)
    have hone : f.accepts (escape special (c :: name)) other ↔
        ∃ rest, other = c :: rest ∧ f.accepts (escape special name) rest := by
      rw [escape, List.flatMap_cons]
      split
      · exact f.escaped c _ other
      · rename_i hspecial
        rw [Bool.not_eq_true] at hspecial
        exact f.ordinary c _ other (h c List.mem_cons_self hspecial)
    rw [hone]
    constructor
    · rintro ⟨rest, rfl, hrest⟩
      rw [(hname rest).1 hrest]
    · rintro rfl
      exact ⟨name, rfl, (hname name).2 rfl⟩

end OpenMcc.ShellText
