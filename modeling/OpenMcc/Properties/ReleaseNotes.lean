import Mathlib.Data.List.TakeWhile
import OpenMcc.Construction.ReleaseNotes

/-!
# Release notes keep what was written

Every round of the two loops uses up a part of the text and leaves the letters and digits of that
part in what it makes (`takeInline_spec`, `letters_roleOf`), apart from a line that opens a fence.
It also begins what it makes where that part began, which puts the starts in order.  Both carry
over to whole notes (`notes_keep_letters`).
-/

namespace OpenMcc.ReleaseNotes

/-! ## Letters and digits -/

/-- White space and the marks of ASCII are no letters and digits. -/
structure IsWordClass (word : Char → Bool) : Prop where
  space : ∀ c, Text.isSpace c = true → word c = false
  mark : ∀ c, c.toNat < 128 → c.isAlphanum = false → word c = false

/-- The letters and digits of a text. -/
def letters (word : Char → Bool) (t : Text) : Text := t.filter word

lemma take_length_takeWhile {α : Type} (p : α → Bool) (l : List α) :
    l.take (l.takeWhile p).length = l.takeWhile p :=
  (List.prefix_iff_eq_take.mp (List.takeWhile_prefix p)).symm

lemma takeWhile_append_drop {α : Type} (p : α → Bool) (l : List α) :
    l.takeWhile p ++ l.drop (l.takeWhile p).length = l := by
  rw [← take_length_takeWhile p l, List.length_take, Nat.min_eq_left, List.take_append_drop]
  exact (List.takeWhile_sublist p).length_le

section Letters

variable {word : Char → Bool}

lemma letters_append (t t' : Text) : letters word (t ++ t') = letters word t ++ letters word t' :=
  List.filter_append ..

lemma letters_eq_nil {t : Text} (h : ∀ c ∈ t, word c = false) : letters word t = [] :=
  List.filter_eq_nil_iff.mpr fun c hc => by rw [h c hc]; exact Bool.false_ne_true

lemma letters_cons {c : Char} (h : word c = false) (t : Text) :
    letters word (c :: t) = letters word t := by
  rw [letters, List.filter_cons, h]
  rfl

lemma letters_take_drop (n : Nat) (t : Text) :
    letters word (t.take n) ++ letters word (t.drop n) = letters word t := by
  rw [← letters_append, List.take_append_drop]

lemma letters_drop {n : Nat} {t : Text} (h : ∀ c ∈ t.take n, word c = false) :
    letters word (t.drop n) = letters word t := by
  rw [← letters_take_drop n t, letters_eq_nil h, List.nil_append]

lemma letters_dropWhile {p : Char → Bool} (hp : ∀ c, p c = true → word c = false) (t : Text) :
    letters word (t.dropWhile p) = letters word t := by
  induction t with
  | nil => rfl
  | cons c t ih =>
    rw [List.dropWhile_cons]
    split
    · next hc => rw [ih, letters_cons (hp c hc)]
    · rfl

/-- Nothing but such characters is left out at the end. -/
lemma letters_dropWhileEnd {p : Char → Bool} (hp : ∀ c, p c = true → word c = false) (t : Text) :
    letters word (t.reverse.dropWhile p).reverse = letters word t := by
  have h := letters_dropWhile hp t.reverse
  rw [letters, letters] at h ⊢
  rw [List.filter_reverse, h, List.filter_reverse, List.reverse_reverse]

variable (hword : IsWordClass word)
include hword

lemma IsWordClass.blank {c : Char} (h : isBlankChar c = true) : word c = false := by
  rw [isBlankChar, Bool.or_eq_true, beq_iff_eq, beq_iff_eq] at h
  rcases h with rfl | rfl
  · exact hword.space _ rfl
  · exact hword.space _ rfl

lemma IsWordClass.newline : word '\n' = false := hword.space _ rfl

lemma letters_trimSpaceEnd (t : Text) : letters word (trimSpaceEnd t) = letters word t :=
  letters_dropWhileEnd (fun _ => hword.blank) t

lemma letters_trimEnd (t : Text) : letters word (Text.trimEnd t) = letters word t :=
  letters_dropWhileEnd hword.space t

lemma letters_trim (t : Text) : letters word (Text.trim t) = letters word t :=
  (letters_trimEnd hword _).trans (letters_dropWhile hword.space t)

lemma letters_join (lines : List Text) :
    letters word (Text.join "\n".toList lines) = lines.flatMap (letters word) := by
  induction lines with
  | nil => rfl
  | cons first lines ih =>
    cases lines with
    | nil =>
      rw [Text.join, List.intercalate_singleton, List.flatMap_cons, List.flatMap_nil,
        List.append_nil]
    | cons second lines =>
      have hnewline : letters word "\n".toList = [] := letters_cons hword.newline []
      rw [Text.join_cons_cons, letters_append, letters_append, ih, hnewline, List.append_nil]
      rfl

/-! ## Lines -/

lemma letters_skipIndent (line : Text) : letters word (skipIndent line) = letters word line := by
  refine letters_drop fun c hc => ?_
  rw [← List.take_take, take_length_takeWhile] at hc
  have hspace := List.mem_takeWhile_imp (List.mem_of_mem_take hc)
  rw [beq_iff_eq.mp hspace]
  exact hword.space _ rfl

lemma letters_isBlank {line : Text} (h : isBlank line = true) : letters word line = [] := by
  rw [← letters_trim hword line, List.isEmpty_iff.mp h]
  rfl

lemma letters_withoutIndent (line : Text) :
    letters word (withoutIndent line) = letters word line := by
  unfold withoutIndent
  split
  · next h =>
    obtain ⟨rest, rfl⟩ := List.isPrefixOf_iff_prefix.mp h
    rw [letters_append, letters_eq_nil (t := "    ".toList)]
    · rfl
    · intro c hc
      have hblanks : "    ".toList.all isBlankChar = true := by decide
      exact hword.blank (List.all_eq_true.mp hblanks c hc)
  · split
    · next h =>
      obtain ⟨rest, rfl⟩ := List.head?_eq_some_iff.mp (beq_iff_eq.mp h)
      exact (letters_cons (hword.space _ rfl) rest).symm
    · rfl

lemma letters_afterBlanks {t text : Text} (h : afterBlanks t = some text) :
    letters word text = letters word t := by
  unfold afterBlanks at h
  split at h
  · rw [← Option.some.inj h]
    exact letters_dropWhile (fun _ => hword.blank) t
  · cases h

lemma letters_headingTextOf (raw : Text) :
    letters word (headingTextOf raw) = letters word raw := by
  have hkept : letters word ((trimSpaceEnd raw).reverse.dropWhile (· == '#')).reverse =
      letters word raw := by
    rw [letters_dropWhileEnd, letters_trimSpaceEnd hword]
    intro c hc
    rw [beq_iff_eq.mp hc]
    exact hword.mark _ (by decide) (by decide)
  unfold headingTextOf
  extract_lets text kept
  split
  · exact letters_trimSpaceEnd hword raw
  · split
    · next hnone =>
      rw [← hkept]
      change _ = letters word kept
      rw [List.getLast?_eq_none_iff.mp hnone]
    · split
      · rw [letters_trimSpaceEnd hword]
        exact hkept
      · exact letters_trimSpaceEnd hword raw

lemma letters_headingOf {line text : Text} (h : headingOf line = some text) :
    letters word text = letters word line := by
  unfold headingOf at h
  extract_lets marks at h
  split at h
  · rw [letters_afterBlanks hword h, letters_drop, letters_skipIndent hword]
    intro c hc
    rw [take_length_takeWhile] at hc
    have hmark := List.mem_takeWhile_imp hc
    rw [beq_iff_eq.mp hmark]
    exact hword.mark _ (by decide) (by decide)
  · cases h

lemma letters_bulletOf {line text : Text} (h : bulletOf line = some text) :
    letters word text = letters word line := by
  cases line with
  | nil => cases h
  | cons c line =>
    rw [bulletOf] at h
    split at h
    · next hmark =>
      rw [letters_afterBlanks hword h, letters_cons]
      simp only [Bool.or_eq_true, beq_iff_eq] at hmark
      rcases hmark with (rfl | rfl) | rfl <;> exact hword.mark _ (by decide) (by decide)
    · cases h

lemma letters_numberedOf {line number text : Text} (h : numberedOf line = some (number, text)) :
    letters word number ++ letters word text = letters word line := by
  unfold numberedOf at h
  extract_lets digits at h
  split at h
  · split at h
    · next c rest hrest =>
      split at h
      · next hmark =>
        obtain ⟨text', htext, heq⟩ := Option.map_eq_some_iff.mp h
        obtain ⟨rfl, rfl⟩ := Prod.mk.inj heq
        have hc : word c = false := by
          simp only [Bool.or_eq_true, beq_iff_eq] at hmark
          rcases hmark with rfl | rfl <;> exact hword.mark _ (by decide) (by decide)
        rw [letters_afterBlanks hword htext, ← letters_cons hc rest, ← hrest,
          ← letters_take_drop digits.length line, take_length_takeWhile]
      · cases h
    · cases h
  · cases h

end Letters

/-! ## Fences -/

/-- The lines of a source, apart from those that open a fence.  `fence` is the mark of the fence
that is open. -/
def withoutOpeners (fence : Option Text) : List Text → List Text
  | [] => []
  | line :: lines =>
    match fence with
    | some mark =>
      line :: withoutOpeners (if closesFence mark line then none else some mark) lines
    | none =>
      match fenceOf line with
      | some mark => withoutOpeners (some mark) lines
      | none => line :: withoutOpeners none lines

/-- A line that opens a fence has its marks. -/
lemma mem_of_fenceOf {line mark : Text} (h : fenceOf line = some mark) :
    (∃ c, mark.head? = some c ∧ (c = '`' ∨ c = '~')) ∧
      ('`' ∈ skipIndent line ∨ '~' ∈ skipIndent line) := by
  have hhead : ∀ m : Char, 3 ≤ ((skipIndent line).takeWhile (· == m)).length →
      ((skipIndent line).takeWhile (· == m)).head? = some m ∧ m ∈ skipIndent line := by
    intro m hlength
    obtain ⟨c, rest, heq⟩ := List.exists_cons_of_length_pos (Nat.lt_of_lt_of_le (by decide) hlength)
    have hmem : c ∈ (skipIndent line).takeWhile (· == m) := heq ▸ List.mem_cons_self
    have hc := List.mem_takeWhile_imp hmem
    rw [beq_iff_eq.mp hc] at heq hmem
    exact ⟨by rw [heq]; rfl, (List.takeWhile_sublist _).mem hmem⟩
  unfold fenceOf at h
  extract_lets ticks tildes at h
  split at h
  · next hlength =>
    obtain ⟨hfirst, hmem⟩ := hhead '`' hlength
    rw [← Option.some.inj h]
    exact ⟨⟨'`', hfirst, Or.inl rfl⟩, Or.inl hmem⟩
  · split at h
    · next hlength =>
      obtain ⟨hfirst, hmem⟩ := hhead '~' hlength
      rw [← Option.some.inj h]
      exact ⟨⟨'~', hfirst, Or.inr rfl⟩, Or.inr hmem⟩
    · cases h

lemma fenceOf_isBlank {line : Text} (h : isBlank line = true) : fenceOf line = none := by
  have hmark : ∀ m : Char, Text.isSpace m = false → m ∉ skipIndent line := by
    intro m hm hmem
    have hspace : ∀ c, Text.isSpace c = true → (c == m) = false := by
      intro c hc
      rw [beq_eq_false_iff_ne]
      rintro rfl
      rw [hm] at hc
      cases hc
    have htrim : letters (· == m) (Text.trim line) = letters (· == m) line :=
      (letters_dropWhileEnd hspace _).trans (letters_dropWhile hspace line)
    rw [List.isEmpty_iff.mp h] at htrim
    have hline : m ∈ line := (List.drop_sublist _ _).mem hmem
    have hkept : m ∈ letters (· == m) line := List.mem_filter.mpr ⟨hline, beq_self_eq_true m⟩
    rw [← htrim] at hkept
    cases hkept
  cases hfence : fenceOf line with
  | none => rfl
  | some mark =>
    rcases (mem_of_fenceOf hfence).2 with hmem | hmem
    · exact absurd hmem (hmark _ (by decide))
    · exact absurd hmem (hmark _ (by decide))

lemma fenceOf_isIndented {line : Text} (h : isIndented line = true) : fenceOf line = none := by
  have hskip : ∃ c rest, skipIndent line = c :: rest ∧ isBlankChar c = true := by
    rw [isIndented, Bool.or_eq_true, List.isPrefixOf_iff_prefix, beq_iff_eq] at h
    rcases h with ⟨rest, rfl⟩ | hhead
    · refine ⟨' ', rest, ?_, rfl⟩
      have hmin : min 3 (("    ".toList ++ rest).takeWhile (· == ' ')).length = 3 := by
        change min 3 ((rest.takeWhile (· == ' ')).length + 1 + 1 + 1 + 1) = 3
        omega
      rw [skipIndent, hmin]
      rfl
    · obtain ⟨rest, rfl⟩ := List.head?_eq_some_iff.mp hhead
      exact ⟨'\t', rest, rfl, rfl⟩
  obtain ⟨c, rest, hline, hc⟩ := hskip
  have hnone : ∀ m : Char, isBlankChar m = false → (c :: rest).takeWhile (· == m) = [] := by
    intro m hm
    rw [List.takeWhile_cons, if_neg]
    rw [beq_iff_eq]
    rintro rfl
    rw [hm] at hc
    cases hc
  simp only [fenceOf, hline, hnone '`' rfl, hnone '~' rfl]
  rfl

/-- Lines that open no fence are all kept. -/
lemma withoutOpeners_append {lines rest : List Text} (h : ∀ line ∈ lines, fenceOf line = none) :
    withoutOpeners none (lines ++ rest) = lines ++ withoutOpeners none rest := by
  induction lines with
  | nil => rfl
  | cons line lines ih =>
    rw [List.cons_append, withoutOpeners, h line List.mem_cons_self,
      ih fun line hline => h line (List.mem_cons_of_mem _ hline)]
    rfl

section Fences

variable {word : Char → Bool} (hword : IsWordClass word)
include hword

/-- The line that closes a fence has no letters. -/
lemma letters_closesFence {line mark opener : Text} (hopener : fenceOf opener = some mark)
    (h : closesFence mark line = true) : letters word line = [] := by
  obtain ⟨c, hhead, hc⟩ := (mem_of_fenceOf hopener).1
  rw [closesFence, Bool.and_eq_true] at h
  rw [← letters_skipIndent hword, ← letters_trimEnd hword]
  refine letters_eq_nil fun d hd => ?_
  have heq := List.all_eq_true.mp h.2 d hd
  rw [hhead, beq_iff_eq, Option.some.injEq] at heq
  rcases hc with rfl | rfl
  · rw [heq]
    exact hword.mark _ (by decide) (by decide)
  · rw [heq]
    exact hword.mark _ (by decide) (by decide)

/-- A fence takes the lines up to the one that closes it. -/
lemma letters_fence {mark opener : Text} (hopener : fenceOf opener = some mark)
    (lines : List Text) :
    (withoutOpeners (some mark) lines).flatMap (letters word) =
      (lines.takeWhile (!closesFence mark ·)).flatMap (letters word) ++
        (withoutOpeners none (lines.drop
          ((lines.takeWhile (!closesFence mark ·)).length + 1))).flatMap (letters word) := by
  induction lines with
  | nil => rfl
  | cons line lines ih =>
    rw [withoutOpeners]
    cases hcloses : closesFence mark line with
    | true =>
      rw [if_pos rfl, List.flatMap_cons, letters_closesFence hword hopener hcloses,
        List.takeWhile_cons, if_neg (by rw [hcloses]; decide)]
      rfl
    | false =>
      rw [if_neg Bool.false_ne_true, List.flatMap_cons, ih, List.takeWhile_cons,
        if_pos (by rw [hcloses]; rfl), List.flatMap_cons, List.append_assoc]
      rfl

/-- The letters of what a line begins. -/
def Role.letters (word : Char → Bool) (line : Text) : Role → Text
  | .code body => body.flatMap (ReleaseNotes.letters word)
  | .blank => []
  | .heading text => ReleaseNotes.letters word text
  | .bullet text => ReleaseNotes.letters word text
  | .numbered number text => ReleaseNotes.letters word number ++ ReleaseNotes.letters word text
  | .paragraph => ReleaseNotes.letters word line

/-- Nothing but lines without letters is left out at the end of an indented block. -/
lemma letters_indented (lines : List Text) :
    ((lines.map withoutIndent).reverse.dropWhile isBlank).reverse.flatMap (letters word) =
      lines.flatMap (letters word) := by
  have hdrop : ∀ body : List Text, (body.dropWhile isBlank).reverse.flatMap (letters word) =
      body.reverse.flatMap (letters word) := by
    intro body
    induction body with
    | nil => rfl
    | cons line body ih =>
      rw [List.dropWhile_cons]
      split
      · next hblank =>
        rw [ih, List.reverse_cons, List.flatMap_append, List.flatMap_singleton,
          letters_isBlank hword hblank, List.append_nil]
      · rfl
  rw [hdrop, List.reverse_reverse, List.flatMap_map]
  exact List.flatMap_congr fun line _ => letters_withoutIndent hword line

/-- **What a line begins** has the letters of the lines that go with it. -/
lemma letters_roleOf (fresh : Bool) (line : Text) (rest : List Text) :
    (withoutOpeners none (line :: rest)).flatMap (letters word) =
      (roleOf fresh line rest).1.letters word line ++
        (withoutOpeners none (rest.drop (roleOf fresh line rest).2)).flatMap (letters word) := by
  cases hfence : fenceOf line with
  | some mark =>
    simp only [withoutOpeners, roleOf, hfence]
    exact letters_fence hword hfence rest
  | none =>
    have hline : (withoutOpeners none (line :: rest)).flatMap (letters word) =
        letters word line ++ (withoutOpeners none rest).flatMap (letters word) := by
      simp only [withoutOpeners, hfence]
      rfl
    simp only [roleOf, hfence]
    split
    · next hblank =>
      rw [hline, letters_isBlank hword hblank]
      rfl
    split
    · next hindented =>
      rw [Bool.and_eq_true] at hindented
      have hopen : ∀ current ∈ rest.takeWhile fun current => isIndented current || isBlank current,
          fenceOf current = none := by
        intro current hcurrent
        have hcase := List.mem_takeWhile_imp hcurrent
        rw [Bool.or_eq_true] at hcase
        rcases hcase with h | h
        · exact fenceOf_isIndented h
        · exact fenceOf_isBlank h
      rw [Role.letters, letters_indented hword, hline, List.flatMap_cons, List.append_assoc,
        ← List.flatMap_append, ← withoutOpeners_append hopen]
      congr 3
      exact (takeWhile_append_drop _ rest).symm
    split
    · next hheading =>
      rw [hline]
      cases htext : headingOf line with
      | none =>
        rw [htext] at hheading
        exact absurd rfl hheading
      | some text =>
        change _ = letters word (headingTextOf text) ++ _
        rw [letters_headingTextOf hword, letters_headingOf hword htext]
        rfl
    · rw [hline]
      cases hbullet : bulletOf line with
      | some text =>
        change _ = letters word text ++ _
        rw [letters_bulletOf hword hbullet]
        rfl
      | none =>
        cases hnumbered : numberedOf line with
        | some numbered =>
          obtain ⟨number, text⟩ := numbered
          change _ = (letters word number ++ letters word text) ++ _
          rw [letters_numberedOf hword hnumbered]
          rfl
        | none => rfl

end Fences

/-! ## Spans -/

section Marks

variable {word : Char → Bool}

lemma takeWhile_eq_replicate (c : Char) (t : Text) :
    t.takeWhile (· == c) = List.replicate (t.takeWhile (· == c)).length c :=
  List.eq_replicate_of_mem fun c' hmem => by
    have h := List.mem_takeWhile_imp hmem
    exact beq_iff_eq.mp h

lemma findBacktickClose_eq {length : Nat} {source inner : Text}
    (h : findBacktickClose length source = some inner) :
    ∃ tail, source = inner ++ List.replicate length '`' ++ tail := by
  have hsplit : ∀ source : Text, source = source.takeWhile (· != '`') ++
      ((source.drop (source.takeWhile (· != '`')).length).takeWhile (· == '`') ++
        source.drop ((source.takeWhile (· != '`')).length +
          ((source.drop (source.takeWhile (· != '`')).length).takeWhile (· == '`')).length)) := by
    intro source
    rw [← List.drop_drop, takeWhile_append_drop, takeWhile_append_drop]
  fun_induction findBacktickClose length source generalizing inner with
  | case1 => cases h
  | case2 source before run hzero =>
    rename_i hlength
    refine ⟨source.drop (before.length + run.length), ?_⟩
    rw [← Option.some.inj h, ← hlength, ← takeWhile_eq_replicate, List.append_assoc]
    exact hsplit source
  | case3 source before run hzero hlength =>
    rename_i ih
    obtain ⟨more, hmore, rfl⟩ := Option.map_eq_some_iff.mp h
    obtain ⟨tail, htail⟩ := ih hmore
    refine ⟨tail, ?_⟩
    rw [List.append_assoc, List.append_assoc, List.append_assoc, ← List.append_assoc more, ← htail]
    exact hsplit source

lemma findEmphasisClose_eq {char before : Char} {mark source more : Text}
    (h : findEmphasisClose word char mark before source = some more) :
    ∃ tail, source = more ++ mark ++ tail := by
  induction source generalizing before more with
  | nil => cases h
  | cons c rest ih =>
    rw [findEmphasisClose] at h
    split at h
    · next hcloses =>
      simp only [Bool.and_eq_true] at hcloses
      obtain ⟨tail, htail⟩ := List.isPrefixOf_iff_prefix.mp hcloses.1.1.1
      exact ⟨tail, by rw [← Option.some.inj h, List.nil_append, htail]⟩
    · obtain ⟨more, hmore, rfl⟩ := Option.map_eq_some_iff.mp h
      obtain ⟨tail, htail⟩ := ih hmore
      exact ⟨tail, by rw [htail]; rfl⟩

lemma linkOf_eq {t : Text} {link : Text × Text} (h : linkOf t = some link) :
    ∃ tail, t = '[' :: link.1 ++ "](".toList ++ link.2 ++ ')' :: tail := by
  unfold linkOf at h
  split at h
  · next t =>
    split at h
    · next u hlabel =>
      split at h
      · next tail hurl =>
        refine ⟨tail, ?_⟩
        rw [← Option.some.inj h]
        conv_lhs => rw [← List.takeWhile_append_dropWhile (p := isLabelChar) (l := t), hlabel,
          ← List.takeWhile_append_dropWhile (p := isUrlChar) (l := u), hurl]
        simp
      · cases h
    · cases h
  · cases h

end Marks

/-- The letters of what a span says. -/
def SpanContent.letters (word : Char → Bool) : SpanContent → Text
  | .text t | .code t | .bold t | .italic t => ReleaseNotes.letters word t
  | .link label url => ReleaseNotes.letters word label ++ ReleaseNotes.letters word url

/-- The letters of what is taken at a place. -/
def Taken.letters (word : Char → Bool) : Taken → Text
  | .plain value => ReleaseNotes.letters word value
  | .span content => content.letters word

section Spans

variable {word : Char → Bool}

lemma letters_replicate {c : Char} (hc : word c = false) (n : Nat) :
    letters word (List.replicate n c) = [] :=
  letters_eq_nil fun _ hd => (List.eq_of_mem_replicate hd) ▸ hc

lemma takeEmphasis_spec {before : Option Char} {char : Char} (hchar : word char = false)
    (rest : Text) :
    1 ≤ (takeEmphasis word before char rest).2 ∧
      (takeEmphasis word before char rest).1.letters word =
        letters word ((char :: rest).take (takeEmphasis word before char rest).2) := by
  have hmark : ∃ n, (if rest.head? = some char then [char, char] else [char]) =
      List.replicate (n + 1) char ∧ (char :: rest).take (n + 1) = List.replicate (n + 1) char := by
    split
    · next hhead =>
      obtain ⟨rest, rfl⟩ := List.head?_eq_some_iff.mp hhead
      exact ⟨1, rfl, rfl⟩
    · exact ⟨0, rfl, rfl⟩
  obtain ⟨n, hmark, htake⟩ := hmark
  unfold takeEmphasis
  rw [hmark]
  extract_lets mark
  have hlength : mark.length = n + 1 := List.length_replicate
  have hplain : Taken.letters word (.plain mark) =
      letters word ((char :: rest).take mark.length) := by
    rw [hlength, htake]
    rfl
  split
  · exact ⟨hlength ▸ Nat.succ_le_succ (Nat.zero_le n), hplain⟩
  · next first inside hinside =>
    extract_lets opens
    cases hfind : if opens = true then findEmphasisClose word char mark first inside else none with
    | none => exact ⟨hlength ▸ Nat.succ_le_succ (Nat.zero_le n), hplain⟩
    | some more =>
      have hclose : findEmphasisClose word char mark first inside = some more := by
        split at hfind
        · exact hfind
        · cases hfind
      obtain ⟨tail, htail⟩ := findEmphasisClose_eq hclose
      have hused : (char :: rest).take (mark.length + (more.length + 1) + mark.length) =
          mark ++ (first :: more) ++ mark := by
        have hsource : char :: rest = mark ++ (first :: more) ++ mark ++ tail := by
          rw [← List.take_append_drop mark.length (char :: rest), hinside, htail, hlength, htake]
          simp [mark]
        rw [hsource]
        exact List.take_left' (by simp; omega)
      refine ⟨by dsimp only; omega, ?_⟩
      change Taken.letters word (.span (if _ then _ else _)) = letters word (List.take _ _)
      rw [hused, letters_append, letters_append, letters_replicate hchar, List.nil_append,
        List.append_nil]
      split <;> rfl

variable (hword : IsWordClass word)
include hword

lemma letters_unpad (inner : Text) : letters word (unpad inner) = letters word inner := by
  unfold unpad
  split
  · next h =>
    obtain ⟨-, hhead, hlast⟩ := h
    have hspace : letters word [' '] = [] := letters_cons (hword.space _ rfl) []
    obtain ⟨rest, rfl⟩ := List.head?_eq_some_iff.mp hhead
    rw [List.tail_cons, letters_cons (hword.space _ rfl)]
    cases hrest : rest.getLast? with
    | none =>
      rw [List.getLast?_eq_none_iff.mp hrest]
      rfl
    | some c =>
      rw [List.getLast?_cons, hrest, Option.getD_some, Option.some.injEq] at hlast
      obtain ⟨front, rfl⟩ := List.getLast?_eq_some_iff.mp hrest
      rw [List.dropLast_concat, letters_append, hlast, hspace, List.append_nil]
  · rfl

lemma takeBackticks_spec {source : Text} (h : source.head? = some '`') :
    1 ≤ (takeBackticks source).2 ∧ (takeBackticks source).1.letters word =
      letters word (source.take (takeBackticks source).2) := by
  have hmark : word '`' = false := hword.mark _ (by decide) (by decide)
  have hrun : 1 ≤ (source.takeWhile (· == '`')).length := by
    obtain ⟨rest, rfl⟩ := List.head?_eq_some_iff.mp h
    exact Nat.succ_le_succ (Nat.zero_le _)
  have hticks := takeWhile_eq_replicate '`' source
  have hsource : source = List.replicate (source.takeWhile (· == '`')).length '`' ++
      source.drop (source.takeWhile (· == '`')).length := by
    rw [← hticks, takeWhile_append_drop]
  unfold takeBackticks
  extract_lets run
  split
  · refine ⟨hrun, ?_⟩
    rw [Taken.letters, letters_replicate hmark, take_length_takeWhile, hticks,
      letters_replicate hmark]
  · next inner hinner =>
    obtain ⟨tail, htail⟩ := findBacktickClose_eq hinner
    refine ⟨by dsimp only; omega, ?_⟩
    have htake : source.take (run + inner.length + run) =
        List.replicate run '`' ++ inner ++ List.replicate run '`' := by
      change source.drop _ = _ at htail
      rw [htail, ← List.append_assoc, ← List.append_assoc] at hsource
      rw [hsource]
      exact List.take_left' (by simp [run]; omega)
    rw [htake, letters_append, letters_append, letters_replicate hmark, List.nil_append,
      List.append_nil]
    exact letters_unpad hword inner

/-- **What is taken at a place** has the letters of what is used up there. -/
lemma takeInline_spec (before : Option Char) (char : Char) (rest : Text) :
    1 ≤ (takeInline word before char rest).2 ∧
      (takeInline word before char rest).1.letters word =
        letters word ((char :: rest).take (takeInline word before char rest).2) := by
  unfold takeInline
  split
  · next h =>
    refine ⟨Nat.le_succ 1, ?_⟩
    obtain ⟨rfl, -⟩ := h
    exact (letters_cons (hword.mark _ (by decide) (by decide)) _).symm
  split
  · next h =>
    subst h
    exact takeBackticks_spec hword rfl
  split
  · exact ⟨Nat.succ_le_succ (Nat.zero_le _), rfl⟩
  split
  · next link hlink =>
    obtain ⟨tail, htail⟩ := linkOf_eq hlink
    refine ⟨Nat.succ_le_succ (Nat.zero_le _), ?_⟩
    have hused : (char :: rest).take (linkLength link) =
        '[' :: link.1 ++ "](".toList ++ link.2 ++ [')'] := by
      rw [htail, ← List.singleton_append (x := ')'), ← List.append_assoc]
      exact List.take_left' (by simp [linkLength]; omega)
    have hmark : ∀ c : Char, c.toNat < 128 → c.isAlphanum = false → letters word [c] = [] :=
      fun c hlt hmark => letters_cons (hword.mark c hlt hmark) []
    have hmiddle : letters word "](".toList = [] :=
      (letters_cons (hword.mark _ (by decide) (by decide)) _).trans
        (hmark '(' (by decide) (by decide))
    rw [hused, letters_append, letters_append, letters_append, hmiddle,
      hmark ')' (by decide) (by decide), letters_cons (hword.mark _ (by decide) (by decide)),
      List.append_nil, List.append_nil]
    rfl
  split
  · next h =>
    refine takeEmphasis_spec ?_ rest
    rcases h with rfl | rfl
    · exact hword.mark _ (by decide) (by decide)
    · exact hword.mark _ (by decide) (by decide)
  · exact ⟨Nat.le_refl 1, rfl⟩

end Spans

/-! ## The text of a block -/

/-- The letters of spans. -/
def spanLetters (word : Char → Bool) (spans : List Span) : Text :=
  spans.flatMap fun span => span.content.letters word

namespace Inline

/-- The letters of the spans so far and of the text after them. -/
def letters (word : Char → Bool) (i : Inline) : Text :=
  spanLetters word i.spans ++ ReleaseNotes.letters word i.plain

/-- The spans so far, and the text after them, begin one after the other and before this place. -/
structure Ordered (i : Inline) (place : Nat) : Prop where
  spans : i.spans.Pairwise (·.start < ·.start)
  before : ∀ span ∈ i.spans, span.start < place
  plain : i.plain ≠ [] → i.plainStart < place ∧ ∀ span ∈ i.spans, span.start < i.plainStart

variable {word : Char → Bool} {i : Inline} {place : Nat}

lemma letters_flush : i.flush.letters word = i.letters word := by
  unfold flush letters
  split
  · next h => rw [h]
  · rw [spanLetters, List.flatMap_append, List.append_assoc]
    congr 1
    exact (List.append_nil _).trans (List.append_nil _)

lemma letters_add (taken : Taken) :
    (i.add place taken).letters word = i.letters word ++ taken.letters word := by
  cases taken with
  | plain value =>
    rw [add, letters, letters, letters_append, ← List.append_assoc]
    rfl
  | span content =>
    have hflush : spanLetters word i.flush.spans = i.letters word := by
      rw [← letters_flush]
      exact (List.append_nil _).symm
    change spanLetters word (i.flush.spans ++ [⟨place, content⟩]) ++ [] = _
    rw [List.append_nil, ← hflush, spanLetters, List.flatMap_append, List.flatMap_singleton]
    rfl

lemma Ordered.mono (h : i.Ordered place) {place' : Nat} (hle : place ≤ place') :
    i.Ordered place' :=
  ⟨h.spans, fun span hspan => Nat.lt_of_lt_of_le (h.before span hspan) hle,
    fun hne => ⟨Nat.lt_of_lt_of_le (h.plain hne).1 hle, (h.plain hne).2⟩⟩

lemma ordered_append {spans : List Span} (h : spans.Pairwise (·.start < ·.start)) {span : Span}
    (hlast : ∀ s ∈ spans, s.start < span.start) :
    (spans ++ [span]).Pairwise (·.start < ·.start) := by
  rw [List.pairwise_append]
  refine ⟨h, List.pairwise_singleton _ _, fun s hs t ht => ?_⟩
  rw [List.mem_singleton.mp ht]
  exact hlast s hs

lemma Ordered.flush (h : i.Ordered place) : i.flush.Ordered place := by
  by_cases hplain : i.plain = []
  · refine ⟨?_, ?_, fun hne => absurd rfl hne⟩
    · rw [Inline.flush, if_pos hplain]
      exact h.spans
    · rw [Inline.flush, if_pos hplain]
      exact h.before
  · obtain ⟨hplace, hspans⟩ := h.plain hplain
    refine ⟨?_, ?_, fun hne => absurd rfl hne⟩
    · rw [Inline.flush, if_neg hplain]
      exact ordered_append h.spans hspans
    · rw [Inline.flush, if_neg hplain]
      intro span hspan
      rcases List.mem_append.mp hspan with hmem | hmem
      · exact h.before span hmem
      · rw [List.mem_singleton.mp hmem]
        exact hplace

lemma Ordered.add (h : i.Ordered place) (taken : Taken) :
    (i.add place taken).Ordered (place + 1) := by
  cases taken with
  | plain value =>
    refine ⟨h.spans, (h.mono (Nat.le_succ place)).before, fun _ => ?_⟩
    rw [Inline.add]
    dsimp only
    split
    · exact ⟨Nat.lt_succ_self place, h.before⟩
    · next hne => exact ⟨Nat.lt_succ_of_lt (h.plain hne).1, (h.plain hne).2⟩
  | span content =>
    refine ⟨ordered_append h.flush.spans h.flush.before, ?_, fun hne => absurd rfl hne⟩
    intro span hspan
    rcases List.mem_append.mp hspan with hmem | hmem
    · exact Nat.lt_succ_of_lt (h.flush.before span hmem)
    · rw [List.mem_singleton.mp hmem]
      exact Nat.lt_succ_self place

end Inline

section Text

variable {word : Char → Bool}

lemma utf16Length_pos {t : Text} (h : t ≠ []) : 1 ≤ Text.utf16Length t := by
  cases t with
  | nil => exact absurd rfl h
  | cons c t =>
    rw [Text.utf16Length]
    split <;> omega

lemma drop_cons {α : Type} {n : Nat} (h : 1 ≤ n) (x : α) (l : List α) :
    (x :: l).drop n = l.drop (n - 1) := by
  obtain ⟨m, rfl⟩ := Nat.exists_eq_add_of_le' h
  rfl

variable (hword : IsWordClass word)
include hword

/-- **No letter of a text is lost**: what one round takes is what it uses up. -/
lemma letters_inlineFrom (i : Inline) (place : Nat) (before : Option Char) (t : Text) :
    spanLetters word (inlineFrom word i place before t).spans =
      i.letters word ++ letters word t := by
  fun_induction inlineFrom word i place before t with
  | case1 i place before =>
    rw [← Inline.letters_flush]
    exact ((List.append_nil _).trans (List.append_nil _)).symm
  | case2 i place before char rest taken used ih =>
    obtain ⟨hpos, hletters⟩ := takeInline_spec hword before char rest
    rw [ih, Inline.letters_add, hletters, List.append_assoc, ← drop_cons hpos char rest,
      letters_take_drop]

lemma ordered_inlineFrom {i : Inline} {place : Nat} (before : Option Char) (t : Text)
    (h : i.Ordered place) :
    (inlineFrom word i place before t).spans.Pairwise (·.start < ·.start) := by
  fun_induction inlineFrom word i place before t with
  | case1 i place before => exact h.flush.spans
  | case2 i place before char rest taken used ih =>
    have hpos := (takeInline_spec hword before char rest).1
    have hused : used ≠ [] := by
      intro hnil
      have hlength := congrArg List.length hnil
      rw [List.length_take, List.length_cons, List.length_nil] at hlength
      change min (takeInline word before char rest).2 (rest.length + 1) = 0 at hlength
      omega
    exact ih ((h.add _).mono (Nat.add_le_add_left (utf16Length_pos hused) place))

/-- The spans of a text have its letters and begin one after the other. -/
lemma letters_parseInline (t : Text) : spanLetters word (parseInline word t) = letters word t :=
  letters_inlineFrom hword _ 0 none t

lemma ordered_parseInline (t : Text) : (parseInline word t).Pairwise (·.start < ·.start) :=
  ordered_inlineFrom hword none t
    ⟨List.Pairwise.nil, fun _ hmem => absurd hmem List.not_mem_nil, fun hne => absurd rfl hne⟩

end Text

/-! ## Blocks -/

/-- The spans of a block. -/
def BlockContent.spans : BlockContent → List Span
  | .paragraph spans | .heading spans | .bullet spans | .numbered _ spans => spans
  | .code _ => []

/-- The letters of a block. -/
def BlockContent.letters (word : Char → Bool) : BlockContent → Text
  | .paragraph spans | .heading spans | .bullet spans => spanLetters word spans
  | .numbered number spans => ReleaseNotes.letters word number ++ spanLetters word spans
  | .code t => ReleaseNotes.letters word t

/-- The letters of blocks. -/
def blockLetters (word : Char → Bool) (blocks : List Block) : Text :=
  blocks.flatMap fun block => block.content.letters word

/-- The blocks are few and begin one after the other before this place, and so do the spans of
each. -/
structure Ordered (blocks : List Block) (place : Nat) : Prop where
  length : blocks.length ≤ releaseNoteMaxBlocks
  increasing : blocks.Pairwise (·.start < ·.start)
  before : ∀ block ∈ blocks, block.start < place
  spans : ∀ block ∈ blocks, block.content.spans.Pairwise (·.start < ·.start)

namespace Notes

variable {word : Char → Bool} {n : Notes}

/-- What is pushed while nothing is cut off. -/
lemma push_uncapped {start : Nat} {text : Text} {content : Text → BlockContent}
    (h : (n.push start text content).capped = false) :
    n.capped = false ∧
      (n.push start text content).blocks = n.blocks ++ [⟨start, content text⟩] := by
  simp only [push, Bool.or_eq_false_iff, bne_eq_false_iff_eq, decide_eq_false_iff_not] at h
  obtain ⟨⟨hcapped, htext⟩, hlength⟩ := h
  refine ⟨hcapped, ?_⟩
  rw [push]
  dsimp only
  rw [if_neg hlength, htext]

/-- The letters of the blocks so far and of the paragraph after them. -/
def letters (word : Char → Bool) (n : Notes) : Text :=
  blockLetters word n.blocks ++ n.paragraph.flatMap (ReleaseNotes.letters word)

lemma blockLetters_push {start : Nat} {text : Text} {content : Text → BlockContent}
    (h : (n.push start text content).capped = false) :
    blockLetters word (n.push start text content).blocks =
      blockLetters word n.blocks ++ (content text).letters word := by
  rw [(push_uncapped h).2, blockLetters, List.flatMap_append, List.flatMap_singleton]
  rfl

variable (hword : IsWordClass word)
include hword

lemma flushParagraph_letters (h : (n.flushParagraph word).capped = false) :
    n.capped = false ∧ (n.flushParagraph word).paragraph = [] ∧
      blockLetters word (n.flushParagraph word).blocks = n.letters word := by
  unfold flushParagraph at h ⊢
  split
  · next hparagraph =>
    rw [if_pos hparagraph] at h
    refine ⟨h, hparagraph, ?_⟩
    rw [letters, hparagraph]
    exact (List.append_nil _).symm
  · next hparagraph =>
    rw [if_neg hparagraph] at h
    have hpush : (n.push n.paragraphStart (Text.join "\n".toList n.paragraph)
      fun text => .paragraph (parseInline word text)).capped = false := h
    refine ⟨(push_uncapped hpush).1, rfl, ?_⟩
    change blockLetters word (n.push n.paragraphStart (Text.join "\n".toList n.paragraph)
      fun text => .paragraph (parseInline word text)).blocks = _
    rw [blockLetters_push hpush, letters, ← letters_join hword]
    exact congrArg _ (letters_parseInline hword _)

/-- **What a line begins** is added to the notes with its letters. -/
lemma take_letters {start : Nat} {line : Text} {role : Role}
    (h : (n.take word start line role).capped = false) :
    n.capped = false ∧
      (n.take word start line role).letters word = n.letters word ++ role.letters word line := by
  have hpush : ∀ {text : Text} {content : Text → BlockContent},
      ((n.flushParagraph word).push start text content).capped = false →
      (content text).letters word = role.letters word line →
      n.capped = false ∧ ((n.flushParagraph word).push start text content).letters word =
        n.letters word ++ role.letters word line := by
    intro text content h hcontent
    obtain ⟨hcapped, hparagraph, hletters⟩ := flushParagraph_letters hword (push_uncapped h).1
    refine ⟨hcapped, ?_⟩
    rw [letters, blockLetters_push h, hletters, hcontent]
    change _ ++ (n.flushParagraph word).paragraph.flatMap _ = _
    rw [hparagraph]
    exact List.append_nil _
  cases role with
  | code body => exact hpush h (letters_join hword body)
  | blank =>
    obtain ⟨hcapped, hparagraph, hletters⟩ := flushParagraph_letters hword h
    refine ⟨hcapped, ?_⟩
    change blockLetters word (n.flushParagraph word).blocks ++
      (n.flushParagraph word).paragraph.flatMap _ = _ ++ []
    rw [hparagraph, hletters]
    rfl
  | heading text => exact hpush h (letters_parseInline hword text)
  | bullet text => exact hpush h (letters_parseInline hword text)
  | numbered number text =>
    exact hpush h (congrArg _ (letters_parseInline hword text))
  | paragraph =>
    refine ⟨h, ?_⟩
    change blockLetters word n.blocks ++ (n.paragraph ++ [line]).flatMap _ = _
    rw [List.flatMap_append, List.flatMap_singleton, ← List.append_assoc]
    rfl

end Notes

/-- The blocks so far are in order, and so is the paragraph after them, before this place. -/
structure Notes.Ordered (n : Notes) (place : Nat) : Prop where
  blocks : ReleaseNotes.Ordered n.blocks place
  paragraph : n.paragraph ≠ [] →
    n.paragraphStart < place ∧ ∀ block ∈ n.blocks, block.start < n.paragraphStart

namespace Notes

variable {word : Char → Bool} {n : Notes} {place : Nat}

lemma Ordered.mono (h : n.Ordered place) {place' : Nat} (hle : place ≤ place') :
    n.Ordered place' where
  blocks := ⟨h.blocks.length, h.blocks.increasing,
    fun block hblock => Nat.lt_of_lt_of_le (h.blocks.before block hblock) hle, h.blocks.spans⟩
  paragraph hne := ⟨Nat.lt_of_lt_of_le (h.paragraph hne).1 hle, (h.paragraph hne).2⟩

/-- A block that begins after all others is pushed. -/
lemma push_ordered {start : Nat} (text : Text) (content : Text → BlockContent)
    (h : ReleaseNotes.Ordered n.blocks place) (hstart : ∀ block ∈ n.blocks, block.start < start)
    (hplace : start < place)
    (hspans : (content (bounded text)).spans.Pairwise (·.start < ·.start)) :
    ReleaseNotes.Ordered (n.push start text content).blocks place := by
  rw [push]
  dsimp only
  split
  · exact h
  · next hlength =>
    have hmem : ∀ {P : Block → Prop}, (∀ block ∈ n.blocks, P block) →
        P ⟨start, content (bounded text)⟩ →
        ∀ block ∈ n.blocks ++ [⟨start, content (bounded text)⟩], P block := by
      intro P hold hnew block hblock
      rcases List.mem_append.mp hblock with hmem | hmem
      · exact hold block hmem
      · rw [List.mem_singleton.mp hmem]
        exact hnew
    refine ⟨?_, ?_, hmem h.before hplace, hmem h.spans hspans⟩
    · rw [List.length_append, List.length_singleton]
      omega
    · rw [List.pairwise_append]
      refine ⟨h.increasing, List.pairwise_singleton _ _, fun block hblock new hnew => ?_⟩
      rw [List.mem_singleton.mp hnew]
      exact hstart block hblock

variable (hword : IsWordClass word)
include hword

lemma Ordered.flushParagraph (h : n.Ordered place) :
    ReleaseNotes.Ordered (n.flushParagraph word).blocks place ∧
      (n.flushParagraph word).paragraph = [] := by
  unfold Notes.flushParagraph
  split
  · next hparagraph => exact ⟨h.blocks, hparagraph⟩
  · next hparagraph =>
    obtain ⟨hplace, hstart⟩ := h.paragraph hparagraph
    exact ⟨push_ordered (Text.join "\n".toList n.paragraph)
      (fun text => .paragraph (parseInline word text)) h.blocks hstart hplace
      (ordered_parseInline hword _), rfl⟩

lemma Ordered.take (h : n.Ordered place) {line : Text} (role : Role) :
    (n.take word place line role).Ordered (place + 1) := by
  obtain ⟨hflush, hparagraph⟩ := h.flushParagraph hword
  have hflushed : (n.flushParagraph word).Ordered (place + 1) :=
    Ordered.mono ⟨hflush, fun hne => absurd hparagraph hne⟩ (Nat.le_succ place)
  have hpush : ∀ (text : Text) (content : Text → BlockContent),
      (content (bounded text)).spans.Pairwise (·.start < ·.start) →
      ((n.flushParagraph word).push place text content).Ordered (place + 1) := by
    intro text content hspans
    exact ⟨push_ordered text content hflushed.blocks hflush.before (Nat.lt_succ_self place) hspans,
      fun hne => absurd hparagraph hne⟩
  cases role with
  | code body => exact hpush (Text.join "\n".toList body) .code List.Pairwise.nil
  | blank => exact hflushed
  | heading text =>
    exact hpush text (fun text => .heading (parseInline word text)) (ordered_parseInline hword _)
  | bullet text =>
    exact hpush text (fun text => .bullet (parseInline word text)) (ordered_parseInline hword _)
  | numbered number text =>
    exact hpush text (fun text => .numbered number (parseInline word text))
      (ordered_parseInline hword _)
  | paragraph =>
    refine ⟨(h.mono (Nat.le_succ place)).blocks, fun _ => ?_⟩
    change (if n.paragraph = [] then place else n.paragraphStart) < place + 1 ∧
      ∀ block ∈ n.blocks, block.start < if n.paragraph = [] then place else n.paragraphStart
    split
    · exact ⟨Nat.lt_succ_self place, h.blocks.before⟩
    · next hne => exact ⟨Nat.lt_succ_of_lt (h.paragraph hne).1, (h.paragraph hne).2⟩

end Notes

/-! ## Notes -/

section Notes

variable {word : Char → Bool}

/-- The lines begin one after the other, from this place on. -/
def StartFrom (place : Nat) (lines : List (Nat × Text)) : Prop :=
  lines.Pairwise (·.1 < ·.1) ∧ ∀ line ∈ lines, place ≤ line.1

lemma startFrom_withStarts (place : Nat) (lines : List Text) :
    StartFrom place (withStarts place lines) := by
  induction lines generalizing place with
  | nil => exact ⟨List.Pairwise.nil, fun _ hmem => absurd hmem List.not_mem_nil⟩
  | cons line lines ih =>
    obtain ⟨hincreasing, hfrom⟩ := ih (place + line.utf16Length + 1)
    refine ⟨List.pairwise_cons.mpr ⟨fun other hother => ?_, hincreasing⟩, fun other hother => ?_⟩
    · have hle := hfrom other hother
      dsimp only
      omega
    · rcases List.mem_cons.mp hother with rfl | hmem
      · exact Nat.le_refl place
      · have hle := hfrom other hmem
        omega

lemma textsOf_withStarts (place : Nat) (lines : List Text) :
    textsOf (withStarts place lines) = lines := by
  induction lines generalizing place with
  | nil => rfl
  | cons line lines ih => exact congrArg (line :: ·) (ih _)

variable (hword : IsWordClass word)
include hword

/-- **No letter of the lines is lost** while nothing is cut off. -/
lemma letters_parseLines (n : Notes) (lines : List (Nat × Text))
    (h : (parseLines word n lines).capped = false) :
    n.capped = false ∧ blockLetters word (parseLines word n lines).blocks =
      n.letters word ++ (withoutOpeners none (textsOf lines)).flatMap (letters word) := by
  fun_induction parseLines word n lines with
  | case1 n =>
    obtain ⟨hcapped, -, hletters⟩ := Notes.flushParagraph_letters hword h
    exact ⟨hcapped, hletters.trans (List.append_nil _).symm⟩
  | case2 n start line rest role ih =>
    obtain ⟨htaken, hletters⟩ := ih h
    obtain ⟨hcapped, hrole⟩ := Notes.take_letters hword htaken
    refine ⟨hcapped, ?_⟩
    have hdrop : textsOf (rest.drop role.2) = (textsOf rest).drop role.2 := List.map_drop
    rw [hletters, hrole, hdrop, List.append_assoc]
    exact congrArg _ (letters_roleOf hword n.paragraph.isEmpty line (textsOf rest)).symm

lemma ordered_parseLines {n : Notes} {place : Nat} {lines : List (Nat × Text)}
    (h : n.Ordered place) (hlines : StartFrom place lines) :
    ∃ bound, Ordered (parseLines word n lines).blocks bound := by
  fun_induction parseLines word n lines generalizing place with
  | case1 n => exact ⟨place, (h.flushParagraph hword).1⟩
  | case2 n start line rest role =>
    rename_i ih
    obtain ⟨hincreasing, hfrom⟩ := hlines
    rw [List.pairwise_cons] at hincreasing
    have hstart := h.mono (hfrom _ List.mem_cons_self)
    refine ih (hstart.take hword role.1) ⟨hincreasing.2.drop, fun other hother => ?_⟩
    exact hincreasing.1 other (List.mem_of_mem_drop hother)

/-- The lines have the letters of the source. -/
lemma letters_linesOf (source : Text) :
    (linesOf source).flatMap (letters word) = letters word source := by
  have hnormalise : letters word (normaliseLineEnds source) = letters word source := by
    have hreturn : word '\r' = false := hword.space _ rfl
    fun_induction normaliseLineEnds source with
    | case1 => rfl
    | case2 rest ih =>
      rw [letters_cons hword.newline, ih, letters_cons hreturn, letters_cons hword.newline]
    | case3 rest hne ih => rw [letters_cons hword.newline, ih, letters_cons hreturn]
    | case4 c rest hne hne' ih =>
      rw [letters, List.filter_cons, letters, List.filter_cons]
      rw [letters, letters] at ih
      rw [ih]
  rw [← letters_join hword, linesOf, ← hnormalise]
  exact congrArg _ (List.intercalate_splitOn '\n')

/-- **Release notes keep what was written.**  Of every source the blocks are few, they begin one
after the other, and so do the spans of each.  If nothing was cut off, they have the letters and
digits of the source in their order, apart from those of the lines that open a fence. -/
theorem notes_keep_letters (source : Text) :
    let notes := parseReleaseNotes word source
    notes.blocks.length ≤ releaseNoteMaxBlocks ∧
      notes.blocks.Pairwise (·.start < ·.start) ∧
      (∀ block ∈ notes.blocks, block.content.spans.Pairwise (·.start < ·.start)) ∧
      (notes.capped = false →
        blockLetters word notes.blocks =
          (withoutOpeners none (linesOf source)).flatMap (letters word)) ∧
      (linesOf source).flatMap (letters word) = letters word source := by
  intro notes
  have hempty : Notes.Ordered ⟨⟨[], false⟩, [], 0⟩ 0 :=
    ⟨⟨Nat.zero_le _, List.Pairwise.nil, fun _ hmem => absurd hmem List.not_mem_nil,
      fun _ hmem => absurd hmem List.not_mem_nil⟩, fun hne => absurd rfl hne⟩
  obtain ⟨bound, hordered⟩ :=
    ordered_parseLines hword hempty (startFrom_withStarts 0 (linesOf source))
  refine ⟨hordered.length, hordered.increasing, hordered.spans, fun hcapped => ?_,
    letters_linesOf hword source⟩
  have hletters := (letters_parseLines hword _ _ hcapped).2
  rw [textsOf_withStarts] at hletters
  exact hletters

end Notes

/-- The letters and digits of ASCII are such a class. -/
lemma isWordClass_isAlphanum : IsWordClass Char.isAlphanum where
  mark _ _ h := h
  space c h := by
    by_contra hne
    rw [Bool.not_eq_false] at hne
    have hrange := Text.range_of_isAlphanum hne
    simp only [Text.isSpace, Bool.or_eq_true, Bool.and_eq_true, decide_eq_true_eq, beq_iff_eq] at h
    omega

/-- Of a note with a list and a fence only the line that opens the fence is left out. -/
theorem notes_keep_letters_fenced :
    blockLetters Char.isAlphanum
        (parseReleaseNotes Char.isAlphanum "1. **Run** `it`\n\n```sh\nup 2\n```".toList).blocks =
      "1Runitup2".toList :=
  ((notes_keep_letters isWordClass_isAlphanum _).2.2.2.1 (by decide +kernel)).trans
    (by decide +kernel)

end OpenMcc.ReleaseNotes
