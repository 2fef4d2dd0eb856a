import Mathlib.Data.List.TakeWhile
import OpenMcc.Construction.AuthorisedKeys

/-!
# When the authorised key is one that the manager can use

The scanner cuts a line at every run of blanks and looks for the first word that is named like a
type of keys.  The server reads the line as a grammar: a key, or options up to the first blank
outside quotes and then a key.  On a line that both take for the key the two agree about the options
but for their order (`serves_iff_reopened`): of `restrict` and `port-forwarding` the last one counts
to the server, and the scanner asks only that both are there.

The lines that they take need not be the same, and the theorem at the end tells these cases apart.
-/

namespace OpenMcc

namespace AuthorisedKeys

/-! ## Fields -/

/-- A word that is no type of keys. -/
def isText (c : Char) : Bool := !isBlank c

lemma fields_eq (t : Text) : fields t = t.takeWhile isText ::
    if t.dropWhile isText = [] then []
    else fields ((t.dropWhile isText).dropWhile isBlank) := by
  induction t with
  | nil => rfl
  | cons c rest ih =>
    rw [fields, List.takeWhile_cons, List.dropWhile_cons]
    by_cases hc : isBlank c = true
    · have htext : ¬ isText c = true := by
        rw [isText, hc]
        exact Bool.false_ne_true
      rw [if_pos hc, if_neg htext, if_neg htext, if_neg (List.cons_ne_nil _ _), List.dropWhile_cons,
        if_pos hc]
      cases rest with
      | nil => rfl
      | cons b rest =>
        by_cases hb : isBlank b = true
        · have hbtext : ¬ isText b = true := by
            rw [isText, hb]
            exact Bool.false_ne_true
          rw [if_pos (by exact hb), ih, List.takeWhile_cons, if_neg hbtext, List.dropWhile_cons,
            if_neg hbtext, if_neg (List.cons_ne_nil _ _)]
        · rw [if_neg (by exact hb), List.dropWhile_cons, if_neg hb]
    · have htext : isText c = true := by
        rw [isText, Bool.eq_false_iff.mpr hc]
        rfl
      rw [if_neg hc, if_pos htext, if_pos htext, ih, List.modifyHead_cons]

lemma fields_of_blank {c : Char} (hc : isBlank c = true) (rest : Text) :
    fields (c :: rest) = [] :: fields (rest.dropWhile isBlank) := by
  have htext : ¬ isText c = true := by
    rw [isText, hc]
    exact Bool.false_ne_true
  rw [fields_eq, List.takeWhile_cons, if_neg htext, List.dropWhile_cons, if_neg htext,
    if_neg (List.cons_ne_nil _ _), List.dropWhile_cons, if_pos hc]

lemma optionFields_cons {first : Text} {others : List Text} :
    optionFields (first :: others) =
      if isKeytype first = true then [] else first :: optionFields others := by
  rw [optionFields, List.takeWhile_cons]
  cases isKeytype first <;> rfl

/-! ## Options -/

lemma advance_cons {c : Char} {t : Text} (h : ∀ t', c = '\\' → t = '"' :: t' → False)
    (quoted : Bool) : advance quoted (c :: t) =
      if isBlank c && !quoted then ([], c :: t)
      else
        (c :: (advance (if c = '"' then !quoted else quoted) t).1,
          (advance (if c = '"' then !quoted else quoted) t).2) := by
  rw [advance]
  exact h

lemma splitOptions_cons {c : Char} {t : Text} (h : ∀ t', c = '\\' → t = '"' :: t' → False)
    (quoted : Bool) : splitOptions quoted (c :: t) =
      if c = ',' && !quoted then [] :: splitOptions quoted t
      else (splitOptions (if c = '"' then !quoted else quoted) t).modifyHead (c :: ·) := by
  rw [splitOptions]
  exact h

/-- A text without quotes is cut at its first blank. -/
lemma advance_unquoted {t : Text} (h : '"' ∉ t.takeWhile isText) :
    advance false t = (t.takeWhile isText, t.dropWhile isText) := by
  induction t with
  | nil => rfl
  | cons c t ih =>
    by_cases hc : isBlank c = true
    · have htext : ¬ isText c = true := by
        rw [isText, hc]
        exact Bool.false_ne_true
      have hslash : ∀ t', c = '\\' → t = '"' :: t' → False := by
        rintro t' rfl -
        exact absurd hc (by decide)
      rw [advance_cons hslash, hc, List.takeWhile_cons, List.dropWhile_cons, if_neg htext,
        if_neg htext]
      rfl
    · have htext : isText c = true := by
        rw [isText, Bool.eq_false_iff.mpr hc]
        rfl
      rw [List.takeWhile_cons, if_pos htext] at h
      have hquote : c ≠ '"' := fun heq => h (by rw [heq]; exact List.mem_cons_self)
      have hslash : ∀ t', c = '\\' → t = '"' :: t' → False := by
        rintro t' - rfl
        exact h (List.mem_cons_of_mem _ List.mem_cons_self)
      rw [advance_cons hslash, Bool.eq_false_iff.mpr hc, if_neg hquote,
        ih fun hmem => h (List.mem_cons_of_mem _ hmem), List.takeWhile_cons, List.dropWhile_cons,
        if_pos htext, if_pos htext]
      rfl

lemma splitOptions_unquoted {t : Text} (h : '"' ∉ t) : splitOptions false t = t.splitOn ',' := by
  induction t with
  | nil => rfl
  | cons c t ih =>
    have hquote : c ≠ '"' := fun heq => h (by rw [heq]; exact List.mem_cons_self)
    have hslash : ∀ t', c = '\\' → t = '"' :: t' → False := by
      rintro t' - rfl
      exact h (List.mem_cons_of_mem _ List.mem_cons_self)
    have ih := ih fun hmem => h (List.mem_cons_of_mem _ hmem)
    rw [splitOptions_cons hslash, if_neg hquote, ih, List.splitOn_cons_eq_if_modifyHead]
    by_cases hc : c = ','
    · simp [hc]
    · simp [hc]

/-- After each `restrict` port forwarding is turned on again. -/
def Reopened (options : List Text) : Prop :=
  ∀ before after, options = before ++ restrictOption :: after → portForwardingOption ∈ after

lemma reopened_cons (option : Text) (options : List Text) :
    Reopened (option :: options) ↔
      (option = restrictOption → portForwardingOption ∈ options) ∧ Reopened options := by
  constructor
  · intro h
    refine ⟨fun heq => h [] options (by rw [heq]; rfl), fun before after heq => ?_⟩
    exact h (option :: before) after (by rw [heq]; rfl)
  · rintro ⟨hfirst, hrest⟩ before after heq
    cases before with
    | nil =>
      obtain ⟨rfl, rfl⟩ := List.cons.inj heq
      exact hfirst rfl
    | cons first before =>
      obtain ⟨rfl, rfl⟩ := List.cons.inj heq
      exact hrest before after rfl

section Server

variable {κ : Type} (server : SshServer κ)

lemma readOption_known {t : Text} (h : isKnown t = true) :
    server.readOption t = some
      ⟨if t = restrictOption then some false
        else if t = portForwardingOption then some true else none, false⟩ := by
  rw [isKnown, Bool.or_eq_true, Bool.or_eq_true, beq_iff_eq, beq_iff_eq, List.contains_iff_mem] at h
  rcases h with (rfl | rfl) | hmem
  · exact server.readOption_restrict _ (by decide)
  · exact server.readOption_portForwarding _ (by decide)
  · have hrestrict : t ≠ restrictOption := by
      rintro rfl
      exact absurd hmem (by decide)
    have hforward : t ≠ portForwardingOption := by
      rintro rfl
      exact absurd hmem (by decide)
    rw [if_neg hrestrict, if_neg hforward]
    exact server.readOption_other _ (List.mem_map_of_mem hmem)

/-- The options that the scanner knows, from left to right. -/
lemma foldlM_known {options : List Text} (h : options.all isKnown = true) : ∀ g : Grant,
    g.command = false → ∃ g' : Grant,
      options.foldlM (fun g option => (server.readOption option).map g.apply) g = some g' ∧
      g'.command = false ∧
      (g'.portForwarding = true ↔
        Reopened options ∧ (g.portForwarding = true ∨ portForwardingOption ∈ options)) := by
  induction options with
  | nil =>
    intro g hg
    refine ⟨g, rfl, hg, fun hport => ⟨fun before after heq => ?_, Or.inl hport⟩, ?_⟩
    · exact absurd heq (by simp)
    · rintro ⟨-, hport | hmem⟩
      · exact hport
      · exact absurd hmem List.not_mem_nil
  | cons option options ih =>
    intro g hg
    rw [List.all_cons, Bool.and_eq_true] at h
    obtain ⟨g', hfold, hcommand, hport⟩ := ih h.2 (g.apply
      ⟨if option = restrictOption then some false
        else if option = portForwardingOption then some true else none, false⟩)
      (by rw [Grant.apply, hg]; rfl)
    refine ⟨g', ?_, hcommand, hport.trans ?_⟩
    · rw [List.foldlM_cons, readOption_known server h.1]
      exact hfold
    · rw [reopened_cons]
      by_cases hrestrict : option = restrictOption
      · have happly : (g.apply ⟨if option = restrictOption then some false
            else if option = portForwardingOption then some true else none, false⟩).portForwarding =
            false := by
          rw [if_pos hrestrict]
          rfl
        rw [happly]
        constructor
        · rintro ⟨hre, hfalse | hmem⟩
          · cases hfalse
          · exact ⟨⟨fun _ => hmem, hre⟩, Or.inr (List.mem_cons_of_mem _ hmem)⟩
        · rintro ⟨⟨hfirst, hre⟩, -⟩
          exact ⟨hre, Or.inr (hfirst hrestrict)⟩
      · by_cases hforward : option = portForwardingOption
        · have happly : (g.apply ⟨if option = restrictOption then some false
              else if option = portForwardingOption then some true else none,
              false⟩).portForwarding = true := by
            rw [if_neg hrestrict, if_pos hforward]
            rfl
          rw [happly]
          constructor
          · rintro ⟨hre, -⟩
            exact ⟨⟨fun h => absurd h hrestrict, hre⟩,
              Or.inr (by rw [hforward]; exact List.mem_cons_self)⟩
          · rintro ⟨⟨-, hre⟩, -⟩
            exact ⟨hre, Or.inl rfl⟩
        · have happly : (g.apply ⟨if option = restrictOption then some false
              else if option = portForwardingOption then some true else none,
              false⟩).portForwarding = g.portForwarding := by
            rw [if_neg hrestrict, if_neg hforward]
            rfl
          rw [happly]
          constructor
          · rintro ⟨hre, hport | hmem⟩
            · exact ⟨⟨fun h => absurd h hrestrict, hre⟩, Or.inl hport⟩
            · exact ⟨⟨fun h => absurd h hrestrict, hre⟩, Or.inr (List.mem_cons_of_mem _ hmem)⟩
          · rintro ⟨⟨-, hre⟩, hport | hmem⟩
            · exact ⟨hre, Or.inl hport⟩
            · exact ⟨hre, Or.inr ((List.mem_cons.mp hmem).resolve_left fun h =>
                hforward h.symm)⟩

/-! ## A line -/

/-- A text that is named like a type of keys begins with plain characters. -/
lemma exists_plain {s : Text} (h : isKeytype s = true) : ∃ p, p <+: s ∧
    (∀ c ∈ p, isBlank c = false ∧ c ≠ '"' ∧ c ≠ '\\' ∧ c ≠ ',') ∧
    ∀ t, isKeytype (p ++ t) = true := by
  have hplain : ∀ p : Text,
      p.all (fun c => !isBlank c && (c != '"' && (c != '\\' && c != ','))) = true →
      ∀ c ∈ p, isBlank c = false ∧ c ≠ '"' ∧ c ≠ '\\' ∧ c ≠ ',' := by
    intro p hp c hc
    have hchar := List.all_eq_true.mp hp c hc
    simp only [Bool.and_eq_true, Bool.not_eq_true', bne_iff_ne] at hchar
    exact hchar
  have hname : ∀ p t : Text, p.isPrefixOf (p ++ t) = true := fun p t =>
    List.isPrefixOf_iff_prefix.mpr (List.prefix_append p t)
  rw [isKeytype, Bool.or_eq_true, Bool.or_eq_true] at h
  rcases h with (h | h) | h
  · refine ⟨"ssh-".toList, List.isPrefixOf_iff_prefix.mp h, hplain _ rfl, fun t => ?_⟩
    rw [isKeytype, hname]
    rfl
  · refine ⟨"ecdsa-".toList, List.isPrefixOf_iff_prefix.mp h, hplain _ rfl, fun t => ?_⟩
    rw [isKeytype, hname, Bool.or_true]
    rfl
  · refine ⟨"sk-".toList, List.isPrefixOf_iff_prefix.mp h, hplain _ rfl, fun t => ?_⟩
    rw [isKeytype, hname, Bool.or_true]

lemma advance_append {p : Text}
    (hp : ∀ c ∈ p, isBlank c = false ∧ c ≠ '"' ∧ c ≠ '\\' ∧ c ≠ ',') (t : Text) :
    (advance false (p ++ t)).1 = p ++ (advance false t).1 := by
  induction p with
  | nil => rfl
  | cons c p ih =>
    obtain ⟨hblank, hquote, hslash, -⟩ := hp c List.mem_cons_self
    rw [List.cons_append, advance_cons fun _ h => absurd h hslash, hblank, if_neg hquote]
    show c :: (advance false (p ++ t)).1 = _
    rw [ih fun c hc => hp c (List.mem_cons_of_mem _ hc), List.cons_append]

lemma splitOptions_ne_nil (quoted : Bool) (t : Text) : splitOptions quoted t ≠ [] := by
  have hmodify : ∀ (f : Text → Text) (l : List Text), l ≠ [] → l.modifyHead f ≠ [] := by
    intro f l hl
    cases l with
    | nil => exact absurd rfl hl
    | cons first others => exact List.cons_ne_nil _ _
  fun_induction splitOptions quoted t with
  | case1 => exact List.cons_ne_nil _ _
  | case2 quoted t ih => exact hmodify _ _ ih
  | case3 => exact List.cons_ne_nil _ _
  | case4 quoted c t _ _ ih => exact hmodify _ _ ih

lemma splitOptions_append {p : Text}
    (hp : ∀ c ∈ p, isBlank c = false ∧ c ≠ '"' ∧ c ≠ '\\' ∧ c ≠ ',') (t : Text) :
    ∃ first others, splitOptions false (p ++ t) = (p ++ first) :: others := by
  induction p with
  | nil =>
    obtain ⟨first, others, heq⟩ := List.exists_cons_of_ne_nil (splitOptions_ne_nil false t)
    exact ⟨first, others, heq⟩
  | cons c p ih =>
    obtain ⟨-, hquote, hslash, hcomma⟩ := hp c List.mem_cons_self
    obtain ⟨first, others, heq⟩ := ih fun c hc => hp c (List.mem_cons_of_mem _ hc)
    refine ⟨first, others, ?_⟩
    rw [List.cons_append, splitOptions_cons fun _ h => absurd h hslash, if_neg hquote, heq,
      decide_eq_false hcomma]
    rfl

/-- Options that begin like a type of keys are not read. -/
lemma readOptions_keytype {t : Text} (h : isKeytype (t.takeWhile isText) = true) :
    server.readOptions (advance false t).1 = none := by
  obtain ⟨p, hprefix, hp, hkeytype⟩ := exists_plain h
  obtain ⟨rest, rfl⟩ := hprefix.trans (List.takeWhile_prefix isText)
  obtain ⟨first, others, heq⟩ := splitOptions_append hp (advance false rest).1
  rw [SshServer.readOptions, advance_append hp, heq, List.foldlM_cons,
    server.readOption_keytype _ (hkeytype first)]
  rfl

lemma key_cons {k : κ} {key : Text} (hkey : server.readKey key = some k) :
    ∃ c rest, key = c :: rest ∧ isBlank c = false ∧ c ≠ '#' := by
  obtain ⟨type, blob, more, hfields, htype, -⟩ := server.readKey_fields key k hkey
  cases key with
  | nil => cases hfields
  | cons c rest =>
    rw [fields_eq] at hfields
    obtain rfl := (List.cons.inj hfields).1
    refine ⟨c, rest, rfl, ?_, ?_⟩
    · by_contra hc
      rw [Bool.not_eq_false] at hc
      rw [List.takeWhile_cons, if_neg (by rw [isText, hc]; exact Bool.false_ne_true)] at htype
      cases htype
    · rintro rfl
      rw [List.takeWhile_cons, if_pos (by decide)] at htype
      cases htype

lemma material_ne_nil {k : κ} {key : Text} (hkey : server.readKey key = some k) :
    material key ≠ [] := by
  obtain ⟨type, blob, more, hfields, htype, hblob⟩ := server.readKey_fields key k hkey
  have htypene : type ≠ [] := by
    rintro rfl
    cases htype
  have hfilter : (fields key).filter (· ≠ []) = type :: blob :: more.filter (· ≠ []) := by
    rw [hfields, List.filter_cons, if_pos (decide_eq_true htypene), List.filter_cons,
      if_pos (decide_eq_true hblob)]
  rw [material, hfilter]
  exact hblob

variable [DecidableEq κ] (k : κ)

lemma reopened_nil : Reopened [] := fun before after heq => by
  cases before <;> cases heq

/-- The fields of a line without the blanks before it. -/
lemma fields_dropWhile (line : Text) : line = line.dropWhile isBlank ∨
    fields line = [] :: fields (line.dropWhile isBlank) := by
  cases line with
  | nil => exact Or.inl rfl
  | cons c rest =>
    rw [List.dropWhile_cons]
    by_cases hc : isBlank c = true
    · rw [if_pos hc]
      exact Or.inr (fields_of_blank hc rest)
    · rw [if_neg hc]
      exact Or.inl rfl

lemma isClean_of_verdict {blob line : Text} (h : verdict blob line = some true) :
    isClean (fields line) = true := by
  rw [verdict] at h
  split at h
  · cases h
  · split at h
    · cases h
    · split at h
      · split at h
        · exact Option.some.inj h
        · cases h
      · cases h

/-- What a clean line with options is made of. -/
lemma isClean_cons {f : List Text} {first : Text} {others : List Text}
    (hfields : optionFields f = first :: others) (h : isClean f = true) :
    '"' ∉ first ∧ (optionTokens f).all isKnown = true := by
  rw [isClean, if_neg (by rw [hfields]; exact List.cons_ne_nil _ _)] at h
  split at h
  · cases h
  · next hdangerous =>
    rw [Bool.and_eq_true] at h
    refine ⟨fun hquote => hdangerous ?_, h.1⟩
    rw [hfields, List.any_cons, List.contains_iff_mem.mpr hquote]
    rfl

/-- **A line that both readers take** serves the manager when each `restrict` is taken back. -/
lemma serves_iff_reopened {blob line : Text} {g : Grant} (hverdict : verdict blob line = some true)
    (hgrant : server.grant k line = some g) :
    g.serves = true ↔ Reopened (optionTokens (fields line)) := by
  have hclean := isClean_of_verdict hverdict
  rw [SshServer.grant] at hgrant
  have hcases := fields_dropWhile line
  generalize hrest : line.dropWhile isBlank = t at hgrant hcases
  split at hgrant
  · cases hgrant
  next hguard =>
  split at hgrant
  case h_1 found hkey =>
    -- the key stands at the start: there are no options
    obtain ⟨type, blob', more, hfields, htype, -⟩ := server.readKey_fields t found hkey
    have hnone : optionTokens (fields line) = [] := by
      rcases hcases with rfl | hblank
      · rw [hfields, optionTokens, optionFields_cons, if_pos htype]
        rfl
      · rw [hblank, hfields, optionTokens, optionFields_cons, if_neg (by decide),
          optionFields_cons, if_pos htype]
        rfl
    rw [hnone]
    split at hgrant
    · rw [← Option.some.inj hgrant]
      exact ⟨fun _ => reopened_nil, fun _ => rfl⟩
    · cases hgrant
  case h_2 hnokey =>
    split at hgrant
    case h_2 => cases hgrant
    case h_1 found hkey =>
    split at hgrant
    case isFalse => cases hgrant
    have hword : ¬ isKeytype (t.takeWhile isText) = true := by
      intro hkeytype
      rw [readOptions_keytype server hkeytype] at hgrant
      cases hgrant
    have hfields := fields_eq t
    rcases hcases with rfl | hblank
    · -- the options are the first field, and the key follows
      have hoptions : optionFields (fields line) = line.takeWhile isText :: optionFields
          (if line.dropWhile isText = [] then []
            else fields ((line.dropWhile isText).dropWhile isBlank)) := by
        rw [hfields, optionFields_cons, if_neg hword]
      obtain ⟨hquote, hknown⟩ := isClean_cons hoptions hclean
      rw [advance_unquoted hquote] at hkey hgrant
      obtain ⟨type, blob', more, hfields', htype, -⟩ := server.readKey_fields _ found hkey
      have hrestne : line.dropWhile isText ≠ [] := by
        intro hnil
        rw [hnil] at hfields'
        cases hfields'
      have hone : optionFields (fields line) = [line.takeWhile isText] := by
        rw [hoptions, if_neg hrestne, hfields', optionFields_cons, if_pos htype]
      have hne : line.takeWhile isText ≠ [] := by
        cases line with
        | nil => exact absurd (Or.inl rfl) hguard
        | cons c rest =>
          have hc : ¬ isBlank c = true := by
            intro hc
            rw [List.dropWhile_cons, if_pos hc] at hrest
            have hlength := (List.dropWhile_sublist isBlank (l := rest)).length_le
            rw [hrest, List.length_cons] at hlength
            omega
          rw [List.takeWhile_cons, if_pos (by rw [isText, Bool.eq_false_iff.mpr hc]; rfl)]
          exact List.cons_ne_nil _ _
      have htokens : optionTokens (fields line) = splitOptions false (line.takeWhile isText) := by
        rw [optionTokens, hone, Text.join, List.intercalate_singleton, tokens, if_neg hne,
          splitOptions_unquoted hquote]
      rw [htokens] at hknown ⊢
      obtain ⟨g', hfold, hcommand, hport⟩ := foldlM_known server hknown {} rfl
      rw [SshServer.readOptions, hfold] at hgrant
      rw [← Option.some.inj hgrant, Grant.serves, hcommand, Bool.not_false, Bool.and_true, hport]
      exact ⟨fun h => h.1, fun h => ⟨h, Or.inl rfl⟩⟩
    · -- with a blank before it the scanner takes an empty option
      have hoptions : optionFields (fields line) = [] :: t.takeWhile isText :: optionFields
          (if t.dropWhile isText = [] then []
            else fields ((t.dropWhile isText).dropWhile isBlank)) := by
        rw [hblank, hfields, optionFields_cons, if_neg (by decide), optionFields_cons,
          if_neg hword]
      have hknown := (isClean_cons hoptions hclean).2
      have hcomma : ∀ rest : Text, (tokens (',' :: rest)).all isKnown = false := by
        intro rest
        rw [tokens, if_neg (List.cons_ne_nil _ _), List.splitOn_cons_eq_if_modifyHead,
          if_pos (beq_self_eq_true _), List.all_cons]
        rfl
      rw [optionTokens, hoptions, Text.join_cons_cons] at hknown
      rw [show [] ++ ",".toList ++ _ = ',' :: _ from rfl, hcomma] at hknown
      cases hknown

/-! ## The file -/

/-- The first line that the scanner takes for the key. -/
def taken (blob file : Text) : Option Text :=
  (records file).find? fun line => (verdict blob line).isSome

/-- The first line that the server takes for the key. -/
def SshServer.held (file : Text) : Option Text :=
  (records file).find? fun line => (server.grant k line).isSome

lemma findSome?_eq {α β : Type} (f : α → Option β) (l : List α) :
    l.findSome? f = (l.find? fun x => (f x).isSome).bind f := by
  induction l with
  | nil => rfl
  | cons x l ih =>
    rw [List.findSome?_cons, List.find?_cons]
    cases hx : f x with
    | none => exact ih
    | some y => exact hx.symm

lemma decide_eq (file : Text) :
    server.decide k file = (server.held k file).bind (server.grant k) :=
  findSome?_eq _ _

lemma step_decided {blob : Text} {s : Scan} (h : s.decided = true) (lines : List Text) :
    (lines.foldl (Scan.step blob) s).present = s.present ∧
      (lines.foldl (Scan.step blob) s).clean = s.clean := by
  induction lines generalizing s with
  | nil => exact ⟨rfl, rfl⟩
  | cons line lines ih =>
    have hstep : Scan.step blob s line = { s with nr := s.nr + 1 } := by
      rw [Scan.step]
      exact if_pos h
    rw [List.foldl_cons, hstep]
    exact ih (by exact h)

/-- **The scanner** goes by the first line that it takes. -/
lemma foldl_step (blob : Text) (lines : List Text) : ∀ {s : Scan}, s.decided = false →
    s.present = false → s.clean = false →
      (lines.foldl (Scan.step blob) s).present =
          (lines.find? fun line => (verdict blob line).isSome).isSome ∧
        (lines.foldl (Scan.step blob) s).clean =
          ((lines.findSome? (verdict blob)).getD false) := by
  induction lines with
  | nil => exact fun _ hpresent hclean => ⟨hpresent, hclean⟩
  | cons line lines ih =>
    intro s hdecided hpresent hclean
    rw [List.foldl_cons, List.find?_cons, List.findSome?_cons, Scan.step]
    simp only [hdecided, Bool.false_eq_true, if_false]
    cases hverdict : verdict blob line with
    | none => exact ih rfl hpresent hclean
    | some clean =>
      cases clean with
      | true => exact step_decided rfl lines
      | false =>
        obtain ⟨hpresent', hclean'⟩ := @step_decided blob
          { s with nr := s.nr + 1, decided := true, present := true, badline := s.nr + 1 } rfl lines
        exact ⟨hpresent', hclean'.trans hclean⟩

lemma scan_present {blob : Text} (hblob : blob ≠ []) (file : Text) :
    (scan blob file).present = (taken blob file).isSome := by
  rw [scan, if_neg hblob]
  exact (foldl_step blob (records file) rfl rfl rfl).1

lemma scan_clean {blob : Text} (hblob : blob ≠ []) (file : Text) :
    (scan blob file).clean = ((taken blob file).bind (verdict blob)).getD false := by
  rw [scan, if_neg hblob, taken, ← findSome?_eq]
  exact (foldl_step blob (records file) rfl rfl rfl).2

lemma getLast?_lines {file : Text} (h : (Text.lines file).getLast? = some []) :
    file = [] ∨ file.getLast? = some '\n' := by
  obtain ⟨before, hlines⟩ := List.getLast?_eq_some_iff.mp h
  have hjoin : Text.join "\n".toList (Text.lines file) = file := List.intercalate_splitOn '\n'
  rw [hlines] at hjoin
  cases before with
  | nil => exact Or.inl hjoin.symm
  | cons first before =>
    right
    have hempty : Text.join "\n".toList [[]] = [] := rfl
    rw [← hjoin, Text.join_append _ (List.cons_ne_nil _ _) (List.cons_ne_nil _ _), hempty,
      List.append_nil, List.getLast?_append]
    rfl

/-- **The key is a line of its own** after the lines there were. -/
lemma records_append {key : Text} (hline : '\n' ∉ key) (file : Text) :
    records (append file key) = records file ++ [key] := by
  have hkey : Text.lines (key ++ ['\n']) = [key] ++ [[]] :=
    List.splitOn_append_cons_self_of_not_mem hline []
  have hrecords : ∀ {t : Text} {lines : List Text}, Text.lines t = lines ++ [[]] →
      records t = lines := by
    intro t lines h
    rw [records, h, if_pos (List.getLast?_concat), List.dropLast_concat]
  have hnewline : ∀ t : Text, Text.lines (t ++ '\n' :: (key ++ ['\n'])) =
      Text.lines t ++ [key] ++ [[]] := by
    intro t
    rw [Text.lines, List.splitOn_append_cons_self, List.append_assoc, ← hkey]
    rfl
  by_cases hnil : file = []
  · subst hnil
    exact hrecords hkey
  by_cases hend : file.getLast? = some '\n'
  · obtain ⟨before, rfl⟩ := List.getLast?_eq_some_iff.mp hend
    have hlines : Text.lines (before ++ ['\n']) = Text.lines before ++ [[]] := by
      rw [Text.lines, List.splitOn_append_cons_self]
      rfl
    rw [hrecords hlines, append, if_neg (fun h => h.2 hend)]
    refine hrecords ?_
    rw [List.append_assoc, List.append_assoc]
    exact hnewline before
  · have hrecord : records file = Text.lines file :=
      if_neg fun h => (getLast?_lines h).elim hnil hend
    rw [hrecord, append, if_pos ⟨hnil, hend⟩]
    refine hrecords ?_
    rw [List.append_assoc, List.append_assoc]
    exact hnewline file

/-- A line that is the key alone lets it do everything. -/
lemma grant_key {key : Text} (hkey : server.readKey key = some k) :
    server.grant k key = some {} := by
  obtain ⟨c, rest, rfl, hc, hhash⟩ := key_cons server hkey
  have hdrop : (c :: rest).dropWhile isBlank = c :: rest := by
    rw [List.dropWhile_cons, if_neg (by rw [hc]; exact Bool.false_ne_true)]
  have hguard : ¬ (c :: rest = [] ∨ (c :: rest).head? = some '#') := by
    rintro (hnil | hhead)
    · cases hnil
    · exact hhash (Option.some.inj hhead)
  rw [SshServer.grant]
  simp only [hdrop, if_neg hguard, hkey, if_true]

/-! ## When the step leaves a key that serves -/

/-- The scanner stops; or neither reader takes a line; or both take the same one and each `restrict`
in it is taken back; or the server goes by another line, which serves. -/
def Agrees (blob file : Text) : Prop :=
  (∃ line, taken blob file = some line ∧ verdict blob line = some false) ∨
    (taken blob file = none ∧ server.held k file = none) ∨
    (∃ line, taken blob file = some line ∧ server.held k file = some line ∧
      Reopened (optionTokens (fields line))) ∨
    ∃ line g, server.held k file = some line ∧ taken blob file ≠ some line ∧
      server.grant k line = some g ∧ g.serves = true

end Server

/-! ## A server -/

lemma isKeytype_lower {t : Text} (h : isKeytype t = true) : isKeytype (lower t) = true := by
  have hlower : ∀ p : Text, lower p = p → p.isPrefixOf t = true →
      p.isPrefixOf (lower t) = true := by
    intro p hp hprefix
    rw [List.isPrefixOf_iff_prefix] at hprefix ⊢
    obtain ⟨rest, rfl⟩ := hprefix
    exact ⟨lower rest, by rw [lower, lower, List.map_append]; exact congrArg (· ++ _) hp.symm⟩
  rw [isKeytype, Bool.or_eq_true, Bool.or_eq_true] at h ⊢
  rcases h with (h | h) | h
  · exact Or.inl (Or.inl (hlower _ (by decide) h))
  · exact Or.inl (Or.inr (hlower _ (by decide) h))
  · exact Or.inr (hlower _ (by decide) h)

/-- The key of the one type that a plain server knows. -/
def plainKey (t : Text) : Option Text :=
  match fields t with
  | type :: blob :: _ =>
    if (type == "ssh-ed25519".toList && !blob.isEmpty) = true then some blob else none
  | _ => none

/-- The options that a plain server knows. -/
def plainOption (t : Text) : Option Effect :=
  if isKeytype t then none
  else if (lower t == restrictOption) = true then some ⟨some false, false⟩
  else if (lower t == portForwardingOption) = true then some ⟨some true, false⟩
  else if (otherOptions.map lower).elem (lower t) then some ⟨none, false⟩
  else if "command=".toList.isPrefixOf (lower t) then some ⟨none, true⟩
  else none

lemma plainKey_fields (t k : Text) (h : plainKey t = some k) : ∃ type blob more,
    fields t = type :: blob :: more ∧ isKeytype type = true ∧ blob ≠ [] := by
  rw [plainKey] at h
  split at h
  · next type blob more heq =>
    split at h
    · next hkey =>
      rw [Bool.and_eq_true, beq_iff_eq] at hkey
      refine ⟨type, blob, more, heq, by rw [hkey.1]; rfl, ?_⟩
      rintro rfl
      exact absurd hkey.2 Bool.false_ne_true
    · cases h
  · cases h

lemma plainOption_restrict (t : Text) (h : lower t = restrictOption) :
    plainOption t = some ⟨some false, false⟩ := by
  have hkeytype : ¬ isKeytype t = true := fun hkey => by
    have hlower := isKeytype_lower hkey
    rw [h] at hlower
    exact absurd hlower (by decide)
  rw [plainOption, if_neg hkeytype, if_pos (beq_iff_eq.2 h)]

lemma plainOption_portForwarding (t : Text) (h : lower t = portForwardingOption) :
    plainOption t = some ⟨some true, false⟩ := by
  have hkeytype : ¬ isKeytype t = true := fun hkey => by
    have hlower := isKeytype_lower hkey
    rw [h] at hlower
    exact absurd hlower (by decide)
  rw [plainOption, if_neg hkeytype, if_neg (by rw [h]; decide), if_pos (beq_iff_eq.2 h)]

lemma plainOption_other (t : Text) (h : lower t ∈ otherOptions.map lower) :
    plainOption t = some ⟨none, false⟩ := by
  have hkeytype : ¬ isKeytype t = true := fun hkey =>
    absurd (isKeytype_lower hkey)
      ((by decide : ∀ o ∈ otherOptions.map lower, ¬ isKeytype o = true) _ h)
  have hnamed : lower t ≠ restrictOption ∧ lower t ≠ portForwardingOption :=
    (by decide : ∀ o ∈ otherOptions.map lower, o ≠ restrictOption ∧ o ≠ portForwardingOption) _ h
  rw [plainOption, if_neg hkeytype, if_neg fun heq => hnamed.1 (beq_iff_eq.1 heq),
    if_neg fun heq => hnamed.2 (beq_iff_eq.1 heq), if_pos (List.elem_iff.2 h)]

lemma plainOption_keytype (t : Text) (h : isKeytype t = true) : plainOption t = none :=
  if_pos h

/-- A server that knows one type of keys. -/
def plainServer : SshServer Text where
  readKey := plainKey
  readOption := plainOption
  readKey_fields := plainKey_fields
  readOption_restrict := plainOption_restrict
  readOption_portForwarding := plainOption_portForwarding
  readOption_other := plainOption_other
  readOption_keytype := plainOption_keytype

/-- **The other way round** the step ends well too, and the key does not serve. -/
theorem order_is_missed :
    (authorise "/home/pi".toList "ssh-ed25519 AAAAC3Nz manager".toList
        "port-forwarding,restrict ssh-ed25519 AAAAC3Nz\n".toList).refused = false ∧
      (plainServer.decide "AAAAC3Nz".toList
        (authorise "/home/pi".toList "ssh-ed25519 AAAAC3Nz manager".toList
          "port-forwarding,restrict ssh-ed25519 AAAAC3Nz\n".toList).file).map Grant.serves =
        some false := by
  decide +kernel

end AuthorisedKeys

end OpenMcc
