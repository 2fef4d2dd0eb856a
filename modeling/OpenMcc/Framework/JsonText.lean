import Mathlib.Tactic.IntervalCases
import OpenMcc.Framework.Text

/-!
# Strings as JSON writes them

`quote` writes a string as `JSON.stringify` does.  A written string says where it ends, so what
follows one after another is read back in one way (`quote_append_inj`), and no line end is in one.
-/

namespace OpenMcc

namespace Json

/-- A character inside a string. -/
def escape (c : Char) : Text :=
  if c = '"' then ['\\', '"']
  else if c = '\\' then ['\\', '\\']
  else if c.toNat = 0x08 then ['\\', 'b']
  else if c.toNat = 0x09 then ['\\', 't']
  else if c.toNat = 0x0a then ['\\', 'n']
  else if c.toNat = 0x0c then ['\\', 'f']
  else if c.toNat = 0x0d then ['\\', 'r']
  else if c.toNat < 0x20 then
    ['\\', 'u', '0', '0', Nat.digitChar (c.toNat / 16), Nat.digitChar (c.toNat % 16)]
  else [c]

/-- A string. -/
def quote (t : Text) : Text := '"' :: t.flatMap escape ++ ['"']

/-- The character that a letter after a backslash stands for. -/
def unescapeLetter : Char → Char
  | 'b' => Char.ofNat 0x08
  | 't' => Char.ofNat 0x09
  | 'n' => Char.ofNat 0x0a
  | 'f' => Char.ofNat 0x0c
  | 'r' => Char.ofNat 0x0d
  | c => c

/-- The first character inside a string, and what follows it. -/
def unescape : Text → Option (Char × Text)
  | [] => none
  | '"' :: _ => none
  | '\\' :: 'u' :: '0' :: '0' :: high :: low :: rest =>
    (Text.hexNumber 0 [high, low]).map fun n => (Char.ofNat n, rest)
  | '\\' :: letter :: rest => some (unescapeLetter letter, rest)
  | c :: rest => some (c, rest)

/-- A character that nothing is done to. -/
lemma unescape_cons {c : Char} (hquote : c ≠ '"') (hslash : c ≠ '\\') (rest : Text) :
    unescape (c :: rest) = some (c, rest) := by
  unfold unescape
  split
  · next heq => cases heq
  · next heq => exact absurd (List.cons.inj heq).1 hquote
  · next heq => exact absurd (List.cons.inj heq).1 hslash
  · next heq => exact absurd (List.cons.inj heq).1 hslash
  · next heq =>
    obtain ⟨hfirst, hrest⟩ := List.cons.inj heq
    rw [hfirst, hrest]

/-- Nothing is done to a character past the control characters that is neither a quote nor a
backslash. -/
lemma escape_plain {c : Char} (hquote : c ≠ '"') (hslash : c ≠ '\\') (h : ¬c.toNat < 0x20) :
    escape c = [c] := by
  unfold escape
  rw [if_neg hquote, if_neg hslash, if_neg (by omega), if_neg (by omega), if_neg (by omega),
    if_neg (by omega), if_neg (by omega), if_neg h]

/-- What holds of the control characters, of a quote, of a backslash and of every character that
nothing is done to holds of all. -/
lemma char_cases {P : Char → Prop} (hcontrol : ∀ n < 0x20, P (Char.ofNat n)) (hquote : P '"')
    (hslash : P '\\') (hplain : ∀ c, c ≠ '"' → c ≠ '\\' → ¬c.toNat < 0x20 → P c) (c : Char) :
    P c := by
  by_cases hlow : c.toNat < 0x20
  · have h := hcontrol c.toNat hlow
    rwa [Char.ofNat_toNat] at h
  · by_cases heq : c = '"'
    · rwa [heq]
    · by_cases heq' : c = '\\'
      · rwa [heq']
      · exact hplain c heq heq' hlow

/-- What `escape` writes is read back. -/
lemma unescape_escape (c : Char) (rest : Text) : unescape (escape c ++ rest) = some (c, rest) := by
  revert c
  refine char_cases ?_ rfl rfl ?_
  · intro n hn
    interval_cases n <;> rfl
  · intro c hquote hslash hlow
    rw [escape_plain hquote hslash hlow]
    exact unescape_cons hquote hslash rest

lemma escape_append_inj {c c' : Char} {rest rest' : Text}
    (h : escape c ++ rest = escape c' ++ rest') : c = c' ∧ rest = rest' := by
  have hread := congrArg unescape h
  rw [unescape_escape, unescape_escape, Option.some.injEq, Prod.mk.injEq] at hread
  exact hread

/-- The closing quote is no character of the string. -/
lemma quote_ne_escape_append {c : Char} {rest rest' : Text} :
    '"' :: rest ≠ escape c ++ rest' := by
  intro h
  have hread := congrArg unescape h
  rw [unescape_escape] at hread
  cases hread

/-- **A written string says where it ends.** -/
lemma quote_append_inj {t t' : Text} {rest rest' : Text}
    (h : quote t ++ rest = quote t' ++ rest') : t = t' ∧ rest = rest' := by
  have hinner : ∀ {t t' : Text},
      t.flatMap escape ++ '"' :: rest = t'.flatMap escape ++ '"' :: rest' →
      t = t' ∧ rest = rest' := by
    intro t
    induction t with
    | nil =>
      intro t' h
      cases t' with
      | nil => exact ⟨rfl, (List.cons.inj h).2⟩
      | cons c t' =>
        rw [List.flatMap_cons, List.append_assoc] at h
        exact absurd h quote_ne_escape_append
    | cons c t ih =>
      intro t' h
      cases t' with
      | nil =>
        rw [List.flatMap_cons, List.append_assoc] at h
        exact absurd h.symm quote_ne_escape_append
      | cons c' t' =>
        rw [List.flatMap_cons, List.flatMap_cons, List.append_assoc, List.append_assoc] at h
        obtain ⟨rfl, hrest⟩ := escape_append_inj h
        obtain ⟨rfl, hend⟩ := ih hrest
        exact ⟨rfl, hend⟩
  simp only [quote, List.cons_append, List.append_assoc] at h
  exact hinner (List.cons.inj h).2

/-- A line end is written with letters. -/
lemma newline_not_mem_quote (t : Text) : '\n' ∉ quote t := by
  have hescape : ∀ c, '\n' ∉ escape c := by
    refine char_cases ?_ (by decide) (by decide) ?_
    · intro n hn
      interval_cases n <;> decide
    · intro c hquote hslash hlow hmem
      rw [escape_plain hquote hslash hlow, List.mem_singleton] at hmem
      rw [← hmem] at hlow
      exact hlow (by decide)
  intro hmem
  obtain hmem | hmem := List.mem_append.1 hmem
  · obtain heq | hmem := List.mem_cons.1 hmem
    · exact absurd heq (by decide)
    · obtain ⟨c, -, hmem⟩ := List.mem_flatMap.1 hmem
      exact hescape c hmem
  · exact absurd (List.mem_singleton.1 hmem) (by decide)

end Json

end OpenMcc
