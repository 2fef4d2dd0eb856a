import OpenMcc.Construction.PlayerListAnswer

/-!
# The answer is read as it was printed

The manager takes an answer just when the command printed it, with a size it can count and with
units and fingerprints that have their shape, and then it reads what was printed
(`parsePlayerListRead_iff`).  So a line of an answer is never taken for another one, and the bytes
are those of the file.
-/

namespace OpenMcc

namespace PlayerListAnswer

variable {read : PlayerListRead} {output key line t : Text} {shape : Text → Bool}

/-- What the command prints of a file that can be counted. -/
structure Printable (read : PlayerListRead) : Prop where
  size : ∀ n ∈ read.size, n < 1000000000000000
  unit : isState read.unit = true
  auth : isState read.auth = true
  before : isFingerprint read.before = true
  after : isFingerprint read.after = true

/-! ## Fields -/

/-- A field is its key and what the shape takes. -/
lemma field_iff : field key shape line = some t ↔ line = key ++ t ∧ shape t = true := by
  rw [field]
  constructor
  · intro h
    split at h
    · rename_i hboth
      rw [Bool.and_eq_true, List.isPrefixOf_iff_prefix] at hboth
      obtain ⟨⟨rest, rfl⟩, hshape⟩ := hboth
      rw [List.drop_left] at h hshape
      cases h
      exact ⟨rfl, hshape⟩
    · cases h
  · rintro ⟨rfl, hshape⟩
    have hprefix : key.isPrefixOf (key ++ t) = true :=
      List.isPrefixOf_iff_prefix.2 (List.prefix_append key t)
    rw [List.drop_left, hprefix, hshape]
    rfl

/-- The bytes are those that are written so. -/
lemma exactBytes_iff {bytes : List UInt8} :
    exactBytes t = some bytes ↔ t = Base64.encode bytes := by
  rw [exactBytes]
  constructor
  · intro h
    obtain ⟨found, -, hfound⟩ := Option.bind_eq_some_iff.1 h
    split at hfound
    · rename_i heq
      cases hfound
      exact heq.symm
    · cases hfound
  · rintro rfl
    rw [Base64.decode_encode, Option.bind_some, if_pos rfl]

lemma isEncoded_cons {c : Char} (h : (Base64.bits c).isSome = true) (t : Text) :
    isEncoded (c :: t) = isEncoded t := by
  rw [isEncoded, isEncoded, List.dropWhile_cons, if_pos h]

lemma isEncoded_encode (bytes : List UInt8) : isEncoded (Base64.encode bytes) = true := by
  have hletter : ∀ {n : Nat}, n < 64 → (Base64.bits (Base64.letter n)).isSome = true :=
    fun h => by rw [Base64.bits_letter h, Option.isSome_some]
  have hbyte : ∀ b : UInt8, b.toNat < 256 := fun b => b.toNat_lt
  fun_induction Base64.encode bytes with
  | case1 => rfl
  | case2 a =>
    have ha := hbyte a
    rw [isEncoded_cons (hletter (by omega)), isEncoded_cons (hletter (by omega))]
    rfl
  | case3 a b =>
    have ha := hbyte a
    have hb := hbyte b
    rw [isEncoded_cons (hletter (by omega)), isEncoded_cons (hletter (by omega)),
      isEncoded_cons (hletter (by omega))]
    rfl
  | case4 a b c rest ih =>
    have ha := hbyte a
    have hb := hbyte b
    have hc := hbyte c
    rw [isEncoded_cons (hletter (by omega)), isEncoded_cons (hletter (by omega)),
      isEncoded_cons (hletter (by omega)), isEncoded_cons (hletter (by omega)), ih]

/-! ## Sizes -/

lemma exists_digit {c : Char} (h : Text.isDigit c = true) : ∃ d < 10, c = Nat.digitChar d := by
  have hdigits : ∀ d < 10, Char.ofNat (48 + d) = Nat.digitChar d := by decide
  simp only [Text.isDigit, Bool.and_eq_true, decide_eq_true_eq, Char.le_def,
    UInt32.le_iff_toNat_le] at h
  have hlow : 48 ≤ c.toNat := h.1
  have hhigh : c.toNat ≤ 57 := h.2
  refine ⟨c.toNat - 48, by omega, ?_⟩
  rw [← hdigits _ (by omega), Nat.add_sub_cancel' hlow, Char.ofNat_toNat]

/-- Digits without a zero before them are those of their number. -/
lemma toDigits_natural (h : Toml.isDigits t = true) : Nat.toDigits 10 (Toml.natural t) = t := by
  rw [Toml.isDigits, Bool.and_eq_true, Bool.and_eq_true, Bool.not_eq_true',
    List.isEmpty_eq_false_iff, Bool.or_eq_true, beq_iff_eq, bne_iff_ne] at h
  obtain ⟨⟨hdigits, hne⟩, hzero⟩ := h
  induction t using List.reverseRecOn with
  | nil => exact absurd rfl hne
  | append_singleton t c ih =>
    rw [List.all_append, Bool.and_eq_true] at hdigits
    have hc : Text.isDigit c = true := List.all_eq_true.1 hdigits.2 c List.mem_cons_self
    obtain ⟨d, hd, rfl⟩ := exists_digit hc
    have hlast : Toml.natural (t ++ [Nat.digitChar d]) = 10 * Toml.natural t + d := by
      rw [Toml.natural, Nat.ofDigitChars_append, Nat.ofDigitChars_cons_digitChar_of_lt_ten hd,
        Nat.ofDigitChars_nil, Toml.natural]
    by_cases hnil : t = []
    · subst hnil
      rw [hlast]
      have hsmall : 10 * Toml.natural [] + d = d := Nat.zero_add d
      rw [hsmall, Nat.toDigits_of_lt_base hd, List.nil_append]
    · have hhead : t.head? ≠ some '0' := by
        obtain hone | hhead := hzero
        · have hlength := congrArg List.length hone
          rw [List.length_append, List.length_singleton, List.length_singleton] at hlength
          exact absurd (List.length_eq_zero_iff.1 (by omega)) hnil
        · rwa [List.head?_append_of_ne_nil _ hnil] at hhead
      have hwhole := ih (Or.inr hhead) hdigits.1 hnil
      have hpos : 0 < Toml.natural t := by
        refine Nat.pos_of_ne_zero fun hno => hhead ?_
        rw [← hwhole, hno, Nat.toDigits_zero]
        rfl
      rw [hlast, ← Nat.toDigits_append_toDigits (by decide) hpos hd, hwhole,
        Nat.toDigits_of_lt_base hd]

lemma isSize_iff (t : Text) :
    isSize t = true ↔ ∃ n < 1000000000000000, t = Nat.toDigits 10 n := by
  have hlength : ∀ n : Nat, (Nat.toDigits 10 n).length ≤ 15 ↔ n < 1000000000000000 := fun n =>
    Nat.length_toDigits_le_iff (by decide) (by decide)
  rw [isSize, Bool.and_eq_true, decide_eq_true_eq]
  constructor
  · rintro ⟨hdigits, hshort⟩
    have heq := toDigits_natural hdigits
    refine ⟨Toml.natural t, ?_, heq.symm⟩
    rw [← hlength, heq]
    exact hshort
  · rintro ⟨n, hn, rfl⟩
    exact ⟨Toml.isDigits_toDigits n, (hlength n).2 hn⟩

/-! ## Lines -/

lemma newline_not_mem_state (h : isState t = true) : '\n' ∉ t := by
  intro hmem
  have hjoin : Text.join ['-'] (t.splitOn '-') = t := List.intercalate_splitOn '-'
  rw [← hjoin] at hmem
  obtain hdash | ⟨word, hword, hin⟩ := Text.mem_join hmem
  · exact absurd (List.mem_singleton.1 hdash) (by decide)
  · have hlower := List.all_eq_true.1 h word hword
    rw [Bool.and_eq_true] at hlower
    exact absurd (List.all_eq_true.1 hlower.2 _ hin) (by decide)

lemma newline_not_mem_fingerprint (h : isFingerprint t = true) : '\n' ∉ t := by
  rw [isFingerprint, Bool.and_eq_true] at h
  exact fun hmem => absurd (List.all_eq_true.1 h.2 _ hmem) (by decide)

lemma newline_not_mem_encode (bytes : List UInt8) : '\n' ∉ Base64.encode bytes := fun hmem =>
  absurd (List.all_eq_true.1 (Base64.all_isBase64_encode bytes) _ hmem) (by decide)

lemma newline_not_mem_toDigits (n : Nat) : '\n' ∉ Nat.toDigits 10 n := fun hmem =>
  absurd (List.all_eq_true.1 (Toml.all_isDigit_toDigits n) _ hmem) (by decide)

/-- The size as it is printed. -/
def printedSize (read : PlayerListRead) : Text := (read.size.map (Nat.toDigits 10)).getD []

lemma newline_not_mem_size (read : PlayerListRead) : '\n' ∉ printedSize read := by
  rw [printedSize]
  cases read.size with
  | none => exact List.not_mem_nil
  | some n => exact newline_not_mem_toDigits n

lemma newline_not_mem_append {key value : Text} (hkey : '\n' ∉ key) (hvalue : '\n' ∉ value) :
    '\n' ∉ key ++ value := fun hmem => (List.mem_append.1 hmem).elim hkey hvalue

lemma lines_printed (h : Printable read) : Text.lines (printed read) =
    ["size=".toList ++ printedSize read, "unit=".toList ++ read.unit, "auth=".toList ++ read.auth,
      "before=".toList ++ read.before, "chunk=".toList ++ Base64.encode read.chunk,
      "after=".toList ++ read.after, []] := by
  refine Text.lines_join (List.cons_ne_nil _ _) ?_
  simp only [List.forall_mem_cons, List.not_mem_nil, not_false_eq_true, false_implies,
    implies_true, and_true]
  exact ⟨newline_not_mem_append (by decide) (newline_not_mem_size read),
    newline_not_mem_append (by decide) (newline_not_mem_state h.unit),
    newline_not_mem_append (by decide) (newline_not_mem_state h.auth),
    newline_not_mem_append (by decide) (newline_not_mem_fingerprint h.before),
    newline_not_mem_append (by decide) (newline_not_mem_encode read.chunk),
    newline_not_mem_append (by decide) (newline_not_mem_fingerprint h.after)⟩

lemma toDigits_isEmpty (n : Nat) : (Nat.toDigits 10 n).isEmpty = false := by
  rw [List.isEmpty_eq_false_iff]
  exact Nat.toDigits_ne_nil

/-! ## The answer -/

/-- What is printed is read. -/
lemma parsePlayerListRead_printed (h : Printable read) :
    parsePlayerListRead (printed read) = some read := by
  have hfield : ∀ {key value : Text} {shape : Text → Bool}, shape value = true →
      field key shape (key ++ value) = some value := fun hshape => field_iff.2 ⟨rfl, hshape⟩
  have hsize : ((printedSize read).isEmpty || isSize (printedSize read)) = true ∧
      (if (printedSize read).isEmpty then none else some (Toml.natural (printedSize read))) =
        read.size := by
    rw [printedSize]
    cases heq : read.size with
    | none => exact ⟨rfl, rfl⟩
    | some n =>
      have hshape : isSize (Nat.toDigits 10 n) = true :=
        (isSize_iff _).2 ⟨n, h.size n heq, rfl⟩
      rw [Option.map_some, Option.getD_some, toDigits_isEmpty, Toml.natural_toDigits]
      exact ⟨hshape, rfl⟩
  have hsizeField : field "size=".toList (fun t => t.isEmpty || isSize t)
      ("size=".toList ++ printedSize read) = some (printedSize read) :=
    field_iff.2 ⟨rfl, hsize.1⟩
  simp only [parsePlayerListRead, lines_printed h, hsizeField, hfield h.unit, hfield h.auth,
    hfield h.before, hfield h.after, hfield (isEncoded_encode read.chunk),
    exactBytes_iff.2 rfl, Option.bind_eq_bind, Option.bind_some, hsize.2]

/-- **An answer is taken just when it was printed**, and read as what was printed. -/
theorem parsePlayerListRead_iff :
    parsePlayerListRead output = some read ↔ Printable read ∧ output = printed read := by
  constructor
  · intro h
    have hjoin : Text.join "\n".toList (Text.lines output) = output :=
      List.intercalate_splitOn '\n'
    rw [parsePlayerListRead] at h
    split at h
    · rename_i size unit auth before chunk after hlines
      simp only [Option.bind_eq_bind, Option.bind_eq_some_iff, field_iff, exactBytes_iff] at h
      obtain ⟨size, ⟨rfl, hsize⟩, unit, ⟨rfl, hunit⟩, auth, ⟨rfl, hauth⟩, before,
        ⟨rfl, hbefore⟩, encoded, ⟨rfl, -⟩, after, ⟨rfl, hafter⟩, bytes, rfl, heq⟩ := h
      cases heq
      have hprinted : ((if size.isEmpty then none else some (Toml.natural size)).map
          (Nat.toDigits 10)).getD [] = size ∧
          ∀ n ∈ (if size.isEmpty then none else some (Toml.natural size)),
            n < 1000000000000000 := by
        rw [Bool.or_eq_true] at hsize
        split
        · rename_i hempty
          exact ⟨(List.isEmpty_iff.1 hempty).symm, fun n hn => nomatch hn⟩
        · rename_i hempty
          obtain ⟨n, hn, rfl⟩ := (isSize_iff size).1 (hsize.resolve_left hempty)
          rw [Toml.natural_toDigits]
          refine ⟨rfl, fun m hm => ?_⟩
          cases hm
          exact hn
      refine ⟨⟨hprinted.2, hunit, hauth, hbefore, hafter⟩, ?_⟩
      rw [← hjoin, hlines, printed, hprinted.1]
    · cases h
  · rintro ⟨hprintable, rfl⟩
    exact parsePlayerListRead_printed hprintable

end PlayerListAnswer

end OpenMcc
