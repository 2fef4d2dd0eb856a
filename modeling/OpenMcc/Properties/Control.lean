import OpenMcc.Construction.Control
import Mathlib.Data.List.TakeWhile

/-!
# What a sendable line makes the client do

A line is safe when it is one line and runs a command of the client itself only if that is an
allowed one (`SafeLine`).  The two rewriting branches of `controlLine` always write a safe line.
The third sends the text out as it stands after a look at its first character, so white space in
front of a slash hides it (`sendableLine_unsafe`), and `sendableLine_safe_iff` says that this is
the only way an unsafe line gets out.
-/

namespace OpenMcc

/-! ## The words of an allowed command -/

lemma printable_of_mem_internalCommands :
    ∀ name ∈ internalCommands, ∀ c ∈ name, 0x21 ≤ c.toNat ∧ c.toNat ≤ 0x7e := by
  have hall : (internalCommands.all fun name =>
      name.all fun c => 0x21 ≤ c.toNat && c.toNat ≤ 0x7e) = true := by rfl
  simpa only [List.all_eq_true, Bool.and_eq_true, decide_eq_true_eq] using hall

variable {toLowerCase : Text → Text} {client : ControlClient} {text line name : Text}

lemma ControlClient.isSpace_of_internal (hname : name ∈ internalCommands) {c : Char}
    (hc : c ∈ name) : client.isSpace c = false := by
  obtain ⟨hlow, hhigh⟩ := printable_of_mem_internalCommands name hname c hc
  exact client.printable c hlow hhigh

/-- The first word of an allowed command with its arguments is the command. -/
lemma ControlClient.firstWord_join (hname : name ∈ internalCommands) (args : List Text) :
    client.firstWord (Text.join " ".toList (name :: args)) = name := by
  have hinside : ∀ c ∈ name, (!client.isSpace c) = true := fun c hc => by
    rw [client.isSpace_of_internal hname hc, Bool.not_false]
  cases args with
  | nil =>
      rw [Text.join, List.intercalate_singleton]
      exact List.takeWhile_eq_self_iff.mpr hinside
  | cons arg args =>
      rw [Text.join_cons_cons, List.append_assoc, firstWord,
        List.takeWhile_append_of_pos hinside]
      have hblank : (" ".toList ++ Text.join " ".toList (arg :: args)).takeWhile
          (fun c => !client.isSpace c) = [] := by
        change (' ' :: Text.join " ".toList (arg :: args)).takeWhile _ = []
        rw [List.takeWhile_cons, client.space]
        rfl
      rw [hblank, List.append_nil]

lemma ControlClient.internalCommand_slash (client : ControlClient) (rest : Text) :
    client.internalCommand ('/' :: rest) =
      if rest.head? = some '/' then none else some (client.firstWord rest) := by
  have hslash : client.isSpace '/' = false := client.printable _ (by decide) (by decide)
  simp only [internalCommand, List.dropWhile_cons, hslash, Bool.false_eq_true, if_false]

/-- A line that starts with a character that is neither white space nor a slash is chat. -/
lemma ControlClient.internalCommand_of_head {first : Char} {rest : Text}
    (hspace : client.isSpace first = false) (hslash : first ≠ '/') :
    client.internalCommand (first :: rest) = none := by
  simp only [internalCommand, List.dropWhile_cons, hspace, Bool.false_eq_true, if_false]
  split
  case h_1 tail heq => exact absurd (List.cons.inj heq).1 hslash
  case h_2 => rfl

/-! ## The branches of `controlLine` -/

/-- The three ways a line comes about. -/
lemma controlLine_cases (h : controlLine toLowerCase text = .ok line) :
    (∃ rest name, text = internalCommandPrefix :: rest ∧ name ∈ internalCommands ∧
      line = '/' :: Text.join " ".toList
        (name :: (Text.splitSpaces (Text.trim rest)).tail)) ∨
    (text.head? = some '/' ∧ line = '/' :: text) ∨
    (text.head? ≠ some '/' ∧ text.head? ≠ some internalCommandPrefix ∧ line = text) := by
  unfold controlLine at h
  split at h
  case h_1 =>
    cases h
    exact Or.inr (Or.inr ⟨by simp, by simp, rfl⟩)
  case h_2 first rest =>
    split at h
    case isTrue hfirst =>
      split at h
      case isTrue hslash =>
        cases h
        exact Or.inr (Or.inl ⟨by rw [hslash]; rfl, rfl⟩)
      case isFalse hslash =>
        cases h
        refine Or.inr (Or.inr ⟨?_, ?_, rfl⟩)
        · simpa using hslash
        · simpa using hfirst
    case isFalse hfirst =>
      have hbangless : first = internalCommandPrefix := not_not.mp hfirst
      simp only at h
      split at h
      case isTrue => cases h
      case isFalse hname =>
        split at h
        case isTrue => cases h
        case isFalse =>
          cases h
          exact Or.inl ⟨rest, _, by rw [hbangless], not_not.mp hname, rfl⟩

lemma sendableLine_inv (h : sendableLine toLowerCase text = .ok line) :
    hasControlCharacter text = false ∧ controlLine toLowerCase text = .ok line := by
  unfold sendableLine at h
  split at h
  case isTrue => cases h
  case isFalse hcontrol =>
    refine ⟨by simpa using hcontrol, ?_⟩
    cases hslash : refuseDoubleSlashCredential text with
    | error e =>
        rw [hslash] at h
        cases h
    | ok =>
        rw [hslash] at h
        exact h

/-! ## One line -/

lemma visible_of_no_control (h : hasControlCharacter text = false) {c : Char} (hc : c ∈ text) :
    0x20 ≤ c.toNat := by
  simp only [hasControlCharacter, List.any_eq_false, Bool.or_eq_true, decide_eq_true_eq,
    beq_iff_eq, not_or] at h
  exact Nat.not_lt.mp (h c hc).1

/-- Every character of a line the code writes is visible, and so none ends the line. -/
lemma sendableLine_visible (h : sendableLine toLowerCase text = .ok line) :
    ∀ c ∈ line, 0x20 ≤ c.toNat := by
  obtain ⟨hcontrol, hline⟩ := sendableLine_inv h
  have htext : ∀ c ∈ text, 0x20 ≤ c.toNat := fun c hc => visible_of_no_control hcontrol hc
  intro c hc
  rcases controlLine_cases hline with ⟨rest, name, heq, hname, hjoin⟩ | ⟨_, hdouble⟩ | ⟨_, _, hsame⟩
  · rw [hjoin, List.mem_cons] at hc
    rcases hc with rfl | hc
    · decide
    rcases Text.mem_join hc with hsep | ⟨piece, hpiece, hin⟩
    · rw [List.mem_singleton.mp hsep]
      decide
    rcases List.mem_cons.mp hpiece with hfirst | hargs
    · have := (printable_of_mem_internalCommands name hname c (hfirst ▸ hin)).1
      omega
    · have hmem := Text.mem_of_mem_splitSpaces (List.mem_of_mem_tail hargs) hin
      exact htext c (heq ▸ List.mem_cons_of_mem _ (Text.mem_of_mem_trim hmem))
  · rw [hdouble, List.mem_cons] at hc
    rcases hc with rfl | hc
    · decide
    · exact htext c hc
  · exact htext c (hsame ▸ hc)

lemma sendableLine_singleLine (h : sendableLine toLowerCase text = .ok line) :
    '\n' ∉ line ∧ '\r' ∉ line := by
  constructor
  · intro hc
    exact absurd (sendableLine_visible h _ hc) (by decide)
  · intro hc
    exact absurd (sendableLine_visible h _ hc) (by decide)

/-! ## The safe lines -/

/-- White space, then one slash and a word that no allowed command has: what the third branch of
`controlLine` does not look for. -/
def HidesInternalCommand (client : ControlClient) (text : Text) : Prop :=
  text.head?.any client.isSpace = true ∧
    ∃ name, client.internalCommand text = some name ∧ name ∉ internalCommands

/-- **A sendable line is safe exactly when the text does not hide a client command behind white
space**, whatever the client takes for white space and however a name is lower-cased. -/
theorem sendableLine_safe_iff (h : sendableLine toLowerCase text = .ok line) :
    SafeLine client line ↔ ¬ HidesInternalCommand client text := by
  obtain ⟨-, hline⟩ := sendableLine_inv h
  obtain ⟨hnl, hcr⟩ := sendableLine_singleLine h
  have hslash : client.isSpace '/' = false := client.printable _ (by decide) (by decide)
  have hbang : client.isSpace internalCommandPrefix = false :=
    client.printable _ (by decide) (by decide)
  rcases controlLine_cases hline with ⟨rest, name, heq, hname, hjoin⟩ | ⟨hhead, hdouble⟩ |
    ⟨hslashes, hbangless, hsame⟩
  · -- an allowed command is written with one slash
    constructor
    · rintro - ⟨hspace, -⟩
      rw [heq, List.head?_cons, Option.any_some, hbang] at hspace
      cases hspace
    · rintro -
      refine ⟨hnl, hcr, fun word hword => ?_⟩
      rw [hjoin, ControlClient.internalCommand_slash] at hword
      split at hword
      · cases hword
      · cases hword
        exact (ControlClient.firstWord_join hname _).symm ▸ hname
  · -- a slash is doubled
    constructor
    · rintro - ⟨hspace, -⟩
      rw [hhead, Option.any_some, hslash] at hspace
      cases hspace
    · rintro -
      refine ⟨hnl, hcr, fun word hword => ?_⟩
      rw [hdouble, ControlClient.internalCommand_slash, if_pos hhead] at hword
      cases hword
  · -- the text goes out as it stands
    rw [hsame] at hnl hcr ⊢
    constructor
    · rintro ⟨-, -, hsafe⟩ ⟨-, word, hword, hnot⟩
      exact hnot (hsafe word hword)
    · intro hhides
      refine ⟨hnl, hcr, fun word hword => ?_⟩
      by_contra hnot
      refine hhides ⟨?_, word, hword, hnot⟩
      cases text with
      | nil => cases hword
      | cons first tail =>
          rw [List.head?_cons, Option.any_some]
          by_contra hspace
          rw [ControlClient.internalCommand_of_head (by simpa using hspace)
            (by simpa using hslashes)] at hword
          cases hword

/-- A client that takes blanks and tabs for white space. -/
def blankClient : ControlClient where
  isSpace c := c == ' ' || c == '\t'
  space := rfl
  printable c hlow hhigh := by
    have hblank : c ≠ ' ' := fun h => by rw [h] at hlow; exact absurd hlow (by decide)
    have htab : c ≠ '\t' := fun h => by rw [h] at hlow; exact absurd hlow (by decide)
    simp [hblank, htab]

/-- The lower-casing of the first 128 characters. -/
def asciiLowerCase (t : Text) : Text := t.map Char.toLower

/-- A blank before `/script` gets the line past the list of allowed commands. -/
theorem sendableLine_unsafe :
    ¬ ∀ (client : ControlClient) (text line : Text), instanceCommandText text = true →
      sendableLine asciiLowerCase text = .ok line → SafeLine client line := by
  intro hall
  have hsafe := hall blankClient " /script pwn".toList " /script pwn".toList (by decide) (by rfl)
  exact absurd (hsafe.2.2 "script".toList (by decide)) (by decide)

/-- An allowed command is written for the client to run it. -/
theorem sendableLine_safe_iff_move :
    sendableLine asciiLowerCase "! MOVE  up".toList = .ok "/move up".toList ∧
      (SafeLine blankClient "/move up".toList ↔
        ¬ HidesInternalCommand blankClient "! MOVE  up".toList) := by
  have hline : sendableLine asciiLowerCase "! MOVE  up".toList = .ok "/move up".toList := by
    decide +kernel
  exact ⟨hline, sendableLine_safe_iff hline⟩

end OpenMcc
