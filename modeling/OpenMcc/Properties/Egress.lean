import OpenMcc.Construction.Egress

/-!
# An address is judged by its value

Every text that writes an address is read to the bytes of that address (`parseAddress_spells`), the
comparison of `within` is that of the first bits (`within_iff`), and `normalised` goes over from an
address to the one it stands for (`normalised_bytes`).  So a verdict depends on nothing but the
address meant, and the ranges it has to avoid are those of the tables.
-/

namespace OpenMcc

namespace Egress

open Ip

/-! ## Texts are read to the addresses they write -/

lemma parseByte_octet {n : Nat} (hn : n < 256) : parseByte (octet n) = some n := by
  obtain ⟨hvalue, hdigits, hpos, hlength⟩ := octet_spec n hn
  have hshort : ¬255 < n := by omega
  simp [parseByte, hdigits, hvalue, hshort, hpos, hlength]

lemma parseV4_of_v4 {t : Text} {bytes : List Nat} (h : V4 t bytes) : parseV4 t = some bytes := by
  have hpieces := h.pieces
  cases h with
  | dotted ha hb hc hd =>
    rw [parseV4, hpieces]
    simp [parseByte_octet, ha, hb, hc, hd]

lemma embed_pair {a b c d : Nat} (hb : b < 256) (hd : d < 256) :
    embed [a, b, c, d] = some [a * 256 + b, c * 256 + d] := by
  have hfirst := Nat.shiftLeft_add_eq_or_of_lt (i := 8) hb a
  have hlast := Nat.shiftLeft_add_eq_or_of_lt (i := 8) hd c
  rw [embed, ← hfirst, ← hlast, Nat.shiftLeft_eq, Nat.shiftLeft_eq]

lemma hextetsOfGroups_of_groups {t : Text} {groups : List Nat} (h : Groups true t groups) :
    hextetsOfGroups (t.splitOn ':') = some groups := by
  induction h with
  | @hextet t g hg =>
    have hdot : t.contains '.' = false := by
      rw [List.contains_eq_mem, decide_eq_false_iff_not]
      exact not_mem_hextet hg rfl
    rw [List.splitOn_eq_singleton (not_mem_hextet hg rfl), hextetsOfGroups, hdot, hg]
    rfl
  | @octets t a b c d _ hfour =>
    have hdot : t.contains '.' = true := by
      rw [List.contains_eq_mem, decide_eq_true_eq]
      exact hfour.chars.1
    have hsmall := hfour.bytes_spec.2
    rw [List.splitOn_eq_singleton (hfour.chars.2 ':' rfl (by simp)), hextetsOfGroups, hdot,
      parseV4_of_v4 hfour]
    exact embed_pair (hsmall b (by simp)) (hsmall d (by simp))
  | @cons t rest g groups hg _ ih =>
    rw [List.splitOn_append_cons_self_of_not_mem (not_mem_hextet hg rfl), hextetsOfGroups, hg, ih]
    obtain ⟨next, pieces, hpieces⟩ := List.exists_cons_of_ne_nil (List.splitOn_ne_nil ':' rest)
    rw [hpieces]
    rfl

lemma hextetsOf_of_half {t : Text} {groups : List Nat} (h : Half true t groups) :
    hextetsOf t = some groups := by
  rcases h with ⟨rfl, rfl⟩ | h
  · rfl
  · rw [hextetsOf, if_neg (by simpa using h.not_nil.1), hextetsOfGroups_of_groups h]

/-! ## Cutting at a double colon -/

lemma splitDoubleColon_cons {c : Char} {rest : Text}
    (h : ∀ more, c = ':' → rest = ':' :: more → False) :
    splitDoubleColon (c :: rest) = (splitDoubleColon rest).modifyHead (c :: ·) :=
  splitDoubleColon.eq_3 c rest h

/-- Text without a colon stays in the piece it starts. -/
lemma splitDoubleColon_append {t : Text} (h : ':' ∉ t) (rest : Text) :
    splitDoubleColon (t ++ rest) = (splitDoubleColon rest).modifyHead (t ++ ·) := by
  induction t with
  | nil => cases hs : splitDoubleColon rest <;> simp [hs]
  | cons c t ih =>
    rw [List.mem_cons, not_or] at h
    rw [List.cons_append, splitDoubleColon_cons fun _ heq _ => h.1 heq.symm, ih h.2,
      List.modifyHead_modifyHead]
    rfl

/-- Groups stay in the piece they start. -/
lemma splitDoubleColon_groups {dotted : Bool} {t : Text} {groups : List Nat}
    (h : Groups dotted t groups) (rest : Text) :
    splitDoubleColon (t ++ rest) = (splitDoubleColon rest).modifyHead (t ++ ·) := by
  induction h with
  | hextet hg => exact splitDoubleColon_append (not_mem_hextet hg rfl) rest
  | octets _ hfour => exact splitDoubleColon_append (hfour.chars.2 ':' rfl (by simp)) rest
  | @cons t more g groups hg hgroups ih =>
    have hne : ∀ tail, ':' = ':' → more ++ rest = ':' :: tail → False := by
      intro tail _ heq
      obtain ⟨c, others, rfl, hc⟩ := hgroups.head
      rw [List.cons_append, List.cons.injEq] at heq
      exact hc heq.1
    rw [List.append_assoc, List.cons_append,
      splitDoubleColon_append (not_mem_hextet hg rfl), splitDoubleColon_cons hne, ih,
      List.modifyHead_modifyHead, List.modifyHead_modifyHead]
    congr 1
    funext piece
    simp

lemma splitDoubleColon_half {dotted : Bool} {t : Text} {groups : List Nat}
    (h : Half dotted t groups) (rest : Text) :
    splitDoubleColon (t ++ rest) = (splitDoubleColon rest).modifyHead (t ++ ·) := by
  rcases h with ⟨rfl, -⟩ | h
  · exact splitDoubleColon_append (by simp) rest
  · exact splitDoubleColon_groups h rest

lemma splitDoubleColon_whole {dotted : Bool} {t : Text} {groups : List Nat}
    (h : Half dotted t groups) : splitDoubleColon t = [t] := by
  have hsplit := splitDoubleColon_half h []
  rw [List.append_nil] at hsplit
  rw [hsplit]
  simp [splitDoubleColon]

lemma splitDoubleColon_short {first last : List Nat} {head tail : Text}
    (hfirst : Half false head first) (hlast : Half true tail last) :
    splitDoubleColon (head ++ ':' :: ':' :: tail) = [head, tail] := by
  rw [splitDoubleColon_half hfirst, splitDoubleColon, splitDoubleColon_whole hlast]
  simp

lemma octetsOf_eq {groups : List Nat} (h : ∀ g ∈ groups, g < 65536) :
    octetsOf groups = octets groups := by
  rw [octetsOf, octets]
  refine List.flatMap_congr fun g hg => ?_
  have hsmall := h g hg
  have hhigh : g >>> 8 &&& 0xff = g / 256 := by
    rw [Nat.shiftRight_eq_div_pow, Nat.and_two_pow_sub_one_eq_mod _ 8]
    omega
  have hlow : g &&& 0xff = g % 256 := Nat.and_two_pow_sub_one_eq_mod _ 8
  rw [hhigh, hlow]

lemma parseV6_of_v6 {t : Text} {groups : List Nat} (h : V6 t groups) :
    parseV6 t = some (octets groups) := by
  have hzone : t.contains '%' = false := by
    rw [List.contains_eq_mem, decide_eq_false_iff_not]
    exact h.not_mem rfl rfl (by simp) (by simp)
  obtain ⟨hlength, hsmall⟩ := h.groups_spec
  rw [parseV6, hzone]
  cases h with
  | full hgroups =>
    rw [splitDoubleColon_whole (Or.inr hgroups)]
    simp [hextetsOf_of_half (Or.inr hgroups), hlength, v6Groups, octetsOf_eq hsmall]
  | @short head tail first last hfirst hlast hgap =>
    have hdot : Half true head first := hfirst.imp_right Groups.dot
    have hone : ¬(v6Groups : Int) - first.length - last.length < 1 := by
      rw [v6Groups]
      omega
    have hoctets := octetsOf_eq hsmall
    rw [List.append_assoc] at hoctets
    rw [splitDoubleColon_short hfirst hlast]
    simp [hextetsOf_of_half hdot, hextetsOf_of_half hlast, hone]
    exact hoctets

/-! ## Every text is read to the address it writes -/

lemma isIP_eq_four {t : Text} : isIP t = 4 ↔ ∃ bytes, V4 t bytes := by
  rw [isIP]
  constructor
  · intro h
    have hsome : (readV4 t).isSome = true := by
      by_contra hnone
      rw [if_neg hnone] at h
      split at h <;> omega
    obtain ⟨bytes, hbytes⟩ := Option.isSome_iff_exists.mp hsome
    exact ⟨bytes, readV4_iff.mp hbytes⟩
  · rintro ⟨bytes, h⟩
    rw [readV4_iff.mpr h]
    rfl

lemma isIP_eq_six {t : Text} : isIP t = 6 ↔ ∃ groups, V6 t groups := by
  rw [← isV6_iff, isIP]
  constructor
  · intro h
    by_contra hsix
    rw [if_neg hsix] at h
    split at h <;> omega
  · intro h
    obtain ⟨groups, hgroups⟩ := isV6_iff.mp h
    have hnone : ¬(readV4 t).isSome = true := by
      intro hsome
      obtain ⟨bytes, hbytes⟩ := Option.isSome_iff_exists.mp hsome
      exact (readV4_iff.mp hbytes).not_v6 hgroups
    rw [if_neg hnone, if_pos h]

/-- **A text is read to the bytes of the address it writes.** -/
lemma parseAddress_spells {t : Text} {a : Address} (h : Spells t a) :
    parseAddress t = some a.bytes := by
  rcases h with hfour | ⟨groups, hsix, hbytes⟩
  · rw [parseAddress, if_pos (isIP_eq_four.mpr ⟨_, hfour⟩), parseV4_of_v4 hfour]
  · have hfamily := isIP_eq_six.mpr ⟨_, hsix⟩
    rw [parseAddress, hfamily, if_neg (by simp), if_pos rfl, parseV6_of_v6 hsix, hbytes]

/-- A text that is read writes an address. -/
lemma spells_of_parseAddress {t : Text} {bytes : List Nat} (h : parseAddress t = some bytes) :
    ∃ a, Spells t a ∧ a.bytes = bytes := by
  have hfamily : (∃ bytes, V4 t bytes) ∨ ∃ groups, V6 t groups := by
    rw [← isIP_eq_four, ← isIP_eq_six]
    rw [parseAddress] at h
    by_cases hfour : isIP t = 4
    · exact Or.inl hfour
    · rw [if_neg hfour, Option.ite_none_right_eq_some] at h
      exact Or.inr h.1
  obtain ⟨a, hspells⟩ : ∃ a, Spells t a := by
    rcases hfamily with ⟨bytes, hfour⟩ | ⟨groups, hsix⟩
    · obtain ⟨hlength, hsmall⟩ := hfour.bytes_spec
      exact ⟨⟨bytes, Or.inl hlength, hsmall⟩, Or.inl hfour⟩
    · obtain ⟨hlength, hsmall⟩ := hsix.groups_spec
      have hsize : (octets groups).length = 16 := by rw [octets_length, hlength]
      exact ⟨⟨octets groups, Or.inr hsize, octets_small hsmall⟩, Or.inr ⟨groups, hsix, rfl⟩⟩
  refine ⟨a, hspells, ?_⟩
  exact Option.some.inj ((parseAddress_spells hspells).symm.trans h)

/-! ## `within` compares first bits -/

lemma mask_eq : ∀ width < 9, ∀ b < 256,
    b &&& (0xff <<< (8 - width) &&& 0xff) = b / 2 ^ (8 - width) * 2 ^ (8 - width) := by
  decide +kernel

lemma masked_iff {width left right : Nat} (hwidth : width < 9) (hleft : left < 256)
    (hright : right < 256) :
    (left &&& (0xff <<< (8 - width) &&& 0xff) == right &&& (0xff <<< (8 - width) &&& 0xff)) = true ↔
      left / 2 ^ (8 - width) = right / 2 ^ (8 - width) := by
  rw [beq_iff_eq, mask_eq width hwidth left hleft, mask_eq width hwidth right hright]
  exact Nat.mul_left_inj (Nat.two_pow_pos _).ne'

lemma two_pow_bytes (m : Nat) : 256 ^ m = 2 ^ (8 * m) := by
  rw [Nat.pow_mul]

/-- Shifting out bits of the last bytes only leaves the first byte where it is. -/
lemma number_cons_div {b m low shift : Nat} (hshift : shift ≤ 8 * m) :
    (b * 256 ^ m + low) / 2 ^ shift = b * 2 ^ (8 * m - shift) + low / 2 ^ shift := by
  have hpow : 256 ^ m = 2 ^ (8 * m - shift) * 2 ^ shift := by
    rw [two_pow_bytes, ← Nat.pow_add]
    congr 1
    omega
  rw [hpow, ← Nat.mul_assoc, Nat.add_comm, Nat.add_mul_div_right _ _ (Nat.two_pow_pos shift),
    Nat.add_comm]

/-- Shifting out the last bytes and more leaves bits of the first byte only. -/
lemma number_cons_div_more {b m low shift : Nat} (hlow : low < 256 ^ m) :
    (b * 256 ^ m + low) / 2 ^ (8 * m + shift) = b / 2 ^ shift := by
  rw [two_pow_bytes] at hlow ⊢
  rw [Nat.pow_add, ← Nat.div_div_eq_div_mul, Nat.add_comm,
    Nat.add_mul_div_right _ _ (Nat.two_pow_pos _), Nat.div_eq_of_lt hlow, Nat.zero_add]

lemma low_div_lt {m low shift : Nat} (hlow : low < 256 ^ m) (hshift : shift ≤ 8 * m) :
    low / 2 ^ shift < 2 ^ (8 * m - shift) := by
  rw [Nat.div_lt_iff_lt_mul (Nat.two_pow_pos shift), ← Nat.pow_add, Nat.sub_add_cancel hshift,
    ← two_pow_bytes]
  exact hlow

lemma digit_unique {q x y u v : Nat} (hu : u < q) (hv : v < q) :
    x * q + u = y * q + v ↔ x = y ∧ u = v := by
  constructor
  · intro h
    have hq : 0 < q := by omega
    have hdiv := congrArg (· / q) h
    simp only [Nat.mul_comm _ q, Nat.mul_add_div hq, Nat.div_eq_of_lt hu, Nat.div_eq_of_lt hv,
      Nat.add_zero] at hdiv
    rw [hdiv] at h
    exact ⟨hdiv, Nat.add_left_cancel h⟩
  · rintro ⟨rfl, rfl⟩
    rfl

lemma bitsAgree_iff : ∀ {left right : List Nat} {remaining : Nat},
    left.length = right.length → remaining ≤ 8 * left.length → (∀ b ∈ left, b < 256) →
      (∀ b ∈ right, b < 256) →
        (bitsAgree left right remaining = true ↔
          number left / 2 ^ (8 * left.length - remaining) =
            number right / 2 ^ (8 * left.length - remaining))
  | left, right, 0, hlength, _, hleft, hright => by
      have hl := number_lt hleft
      have hr := number_lt hright
      rw [two_pow_bytes] at hl hr
      rw [← hlength] at hr
      rw [Nat.sub_zero, Nat.div_eq_of_lt hl, Nat.div_eq_of_lt hr]
      simp [bitsAgree]
  | [], _, remaining + 1, _, hle, _, _ => by
      simp at hle
  | _ :: _, [], _, hlength, _, _, _ => by
      simp at hlength
  | left :: lefts, right :: rights, remaining + 1, hlength, hle, hleft, hright => by
      rw [List.forall_mem_cons] at hleft hright
      rw [List.length_cons, List.length_cons, Nat.add_right_cancel_iff] at hlength
      rw [List.length_cons] at hle
      have hlow := number_lt hleft.2
      have hlow' := number_lt hright.2
      rw [← hlength] at hlow'
      rw [bitsAgree, Bool.and_eq_true, number_cons, number_cons, List.length_cons, ← hlength]
      by_cases hfull : 8 ≤ remaining + 1
      · have hshift : 8 * (lefts.length + 1) - (remaining + 1) =
            8 * lefts.length - (remaining + 1 - 8) := by omega
        have hshift' : 8 * lefts.length - (remaining + 1 - 8) ≤ 8 * lefts.length := by omega
        rw [Nat.min_eq_left hfull, masked_iff (by omega) hleft.1 hright.1,
          bitsAgree_iff hlength (by omega) hleft.2 hright.2, hshift, number_cons_div hshift',
          number_cons_div hshift',
          digit_unique (low_div_lt hlow hshift') (low_div_lt hlow' hshift')]
        simp
      · have hshift : 8 * (lefts.length + 1) - (remaining + 1) =
            8 * lefts.length + (8 - (remaining + 1)) := by omega
        rw [Nat.min_eq_right (by omega), masked_iff (by omega) hleft.1 hright.1, Nat.sub_self,
          hshift, number_cons_div_more hlow, number_cons_div_more hlow']
        simp [bitsAgree]

/-- A range is well formed where its bytes are those of an address that its prefix fits. -/
structure AllowanceFits (limit : AddressAllowance) : Prop where
  small : ∀ b ∈ limit.bytes, b < 256
  fits : limit.bits ≤ 8 * limit.bytes.length

/-- **`within` compares the first bits.** -/
lemma within_iff {bytes : List Nat} {limit : AddressAllowance} (hbytes : ∀ b ∈ bytes, b < 256)
    (hlimit : AllowanceFits limit) :
    within bytes limit = true ↔ SamePrefix limit.bits bytes limit.bytes := by
  rw [within, SamePrefix]
  by_cases hlength : bytes.length = limit.bytes.length
  · have hfits : ¬limit.bytes.length * 8 < limit.bits := by
      have hfits := hlimit.fits
      omega
    rw [if_neg (not_not.mpr hlength), if_neg hfits,
      bitsAgree_iff hlength (hlength ▸ hlimit.fits) hbytes hlimit.small]
    simp [hlength]
  · simp [hlength]

/-- Whole bytes agree where they are the same. -/
lemma bitsAgree_bytes : ∀ {count : Nat} {left right : List Nat}, count ≤ left.length →
    count ≤ right.length → (∀ b ∈ left, b < 256) → (∀ b ∈ right, b < 256) →
      (bitsAgree left right (8 * count) = true ↔ left.take count = right.take count)
  | 0, _, _, _, _, _, _ => by
      simp [bitsAgree]
  | count + 1, [], _, hle, _, _, _ => by
      simp at hle
  | count + 1, _ :: _, [], _, hle, _, _ => by
      simp at hle
  | count + 1, left :: lefts, right :: rights, hle, hle', hleft, hright => by
      rw [List.forall_mem_cons] at hleft hright
      rw [List.length_cons, Nat.add_le_add_iff_right] at hle hle'
      have hsucc : 8 * (count + 1) = 8 * count + 7 + 1 := by omega
      have hrest : 8 * count + 7 + 1 - 8 = 8 * count := by omega
      rw [hsucc, bitsAgree, Bool.and_eq_true, Nat.min_eq_left (by omega),
        masked_iff (by omega) hleft.1 hright.1, hrest,
        bitsAgree_bytes hle hle' hleft.2 hright.2]
      simp

/-- **`normalised` goes over to the address meant.** -/
lemma normalised_bytes (a : Address) : normalised a.bytes = a.unmapped.bytes := by
  rw [normalised, Address.unmapped]
  rcases a.size with hsize | hsize
  · have hne : ¬a.bytes.take 12 = mappedBytes := by
      intro heq
      have hlength := congrArg List.length heq
      rw [List.length_take, hsize] at hlength
      exact absurd hlength (by decide)
    rw [dif_neg hne, hsize]
    rfl
  · have hwithin : within a.bytes mappedV4.toAddressAllowance = true ↔
        a.bytes.take 12 = mappedBytes := by
      have hagree : bitsAgree a.bytes mappedV4.bytes (8 * 12) = true ↔
          a.bytes.take 12 = mappedV4.bytes.take 12 :=
        bitsAgree_bytes (by omega) (by decide) a.small (by decide)
      rw [within, if_neg (by rw [hsize]; decide), if_neg (by decide)]
      exact hagree
    by_cases hmapped : a.bytes.take 12 = mappedBytes
    · rw [dif_pos hmapped, hwithin.mpr hmapped, hsize]
      rfl
    · have hnot : within a.bytes mappedV4.toAddressAllowance = false := by
        rw [← Bool.not_eq_true, hwithin]
        exact hmapped
      rw [dif_neg hmapped, hnot, hsize]
      rfl

/-! ## The tables -/

lemma allowanceOf_fits {text : Text} {limit : AddressAllowance}
    (h : allowanceOf text = some limit) : AllowanceFits limit := by
  simp only [allowanceOf, Option.bind_eq_bind, Option.bind_eq_some_iff] at h
  obtain ⟨bytes, hparsed, h⟩ := h
  obtain ⟨a, -, hbytes⟩ := spells_of_parseAddress hparsed
  have hsmall : ∀ b ∈ bytes, b < 256 := by
    rw [← hbytes]
    exact a.small
  split at h
  · rw [← Option.some.inj h]
    exact ⟨hsmall, (Nat.mul_comm _ _).le⟩
  · rw [Option.ite_none_right_eq_some, Option.ite_none_left_eq_some] at h
    obtain ⟨-, hfits, h⟩ := h
    rw [← Option.some.inj h]
    exact ⟨hsmall, by simpa [Nat.mul_comm] using hfits⟩

/-- The address lies in the range. -/
def Range.Covers (limit : Range) (a : Address) : Prop :=
  SamePrefix limit.bits a.bytes limit.bytes

lemma ranges_fit {entries : List (String × Text)} {limit : Range} (h : limit ∈ ranges entries) :
    AllowanceFits limit.toAddressAllowance := by
  obtain ⟨entry, -, hrange⟩ := List.mem_filterMap.mp h
  rw [range, Option.map_eq_some_iff] at hrange
  obtain ⟨allowance, hallowance, rfl⟩ := hrange
  exact allowanceOf_fits hallowance

lemma covers_iff {limit : Range} (hlimit : AllowanceFits limit.toAddressAllowance) (a : Address) :
    within a.bytes limit.toAddressAllowance = true ↔ limit.Covers a :=
  within_iff a.small hlimit

/-- No range of a table covers the address where `within` finds none. -/
lemma find_eq_none {entries : List (String × Text)} {a : Address} :
    (ranges entries).find? (fun limit => within a.bytes limit.toAddressAllowance) = none ↔
      ∀ limit ∈ ranges entries, ¬limit.Covers a := by
  rw [List.find?_eq_none]
  refine forall₂_congr fun limit hlimit => ?_
  rw [covers_iff (ranges_fit hlimit)]

lemma tables_size :
    (∀ limit ∈ neverV4 ++ forbiddenV4, limit.bytes.length = 4) ∧
      ∀ limit ∈ neverV6 ++ nonGlobalV6 ++ forbiddenV6, limit.bytes.length = 16 := by
  decide +kernel

/-! ## Verdicts on addresses -/

lemma verifyAddress_spells {t : Text} {a : Address} (h : Spells t a) (policy : EgressPolicy)
    (hostAllowed : Bool) :
    verifyAddress t policy hostAllowed = verifyBytes a.unmapped.bytes policy hostAllowed := by
  rw [verifyAddress, parseAddress_spells h, ← normalised_bytes]

lemma neverOf_eq (a : Address) :
    a.bytes.length = 4 ∧ neverOf a.bytes = neverV4 ∨
      a.bytes.length = 16 ∧ neverOf a.bytes = neverV6 := by
  rcases a.size with hsize | hsize
  · exact Or.inl ⟨hsize, if_pos hsize⟩
  · exact Or.inr ⟨hsize, if_neg (by omega)⟩

/-- A range of the other family does not cover the address. -/
lemma not_covers {limit : Range} {a : Address} {size : Nat} (hlimit : limit.bytes.length = size)
    (ha : a.bytes.length ≠ size) : ¬limit.Covers a :=
  fun hcovers => ha (hcovers.1.trans hlimit)

lemma find_never_eq_none {a : Address} :
    (neverOf a.bytes).find? (fun limit => within a.bytes limit.toAddressAllowance) = none ↔
      ∀ limit ∈ neverV4 ++ neverV6, ¬limit.Covers a := by
  rw [List.forall_mem_append]
  obtain ⟨hfour, hsix⟩ := tables_size
  rcases neverOf_eq a with ⟨hsize, hnever⟩ | ⟨hsize, hnever⟩
  · rw [hnever]
    refine find_eq_none.trans ⟨fun h => ⟨h, fun limit hlimit => ?_⟩, fun h => h.1⟩
    exact not_covers (hsix limit (by simp [hlimit])) (by omega)
  · rw [hnever]
    refine find_eq_none.trans ⟨fun h => ⟨fun limit hlimit => ?_, h⟩, fun h => h.2⟩
    exact not_covers (hfour limit (by simp [hlimit])) (by omega)

lemma SamePrefix.weaken {bits bits' : Nat} {left right : List Nat} (h : SamePrefix bits left right)
    (hle : bits' ≤ bits) : SamePrefix bits' left right := by
  obtain ⟨hlength, hsame⟩ := h
  refine ⟨hlength, ?_⟩
  have hsplit : 8 * left.length - bits' =
      8 * left.length - bits + (8 * left.length - bits' - (8 * left.length - bits)) := by omega
  rw [hsplit, Nat.pow_add, ← Nat.div_div_eq_div_mul, ← Nat.div_div_eq_div_mul, hsame]

/-- The ranges of addresses that are not in global use are apart from those that are. -/
lemma not_nonGlobal {a : Address} (hglobal : globalV6.Covers a) :
    ∀ limit ∈ nonGlobalV6, ¬limit.Covers a := by
  intro limit hlimit hcovers
  have hdisjoint : ∀ limit ∈ nonGlobalV6,
      3 ≤ limit.bits ∧ ¬SamePrefix 3 limit.bytes globalV6.bytes := by
    decide +kernel
  obtain ⟨hbits, hother⟩ := hdisjoint limit hlimit
  have hfirst := SamePrefix.weaken hcovers hbits
  have hlength : 8 * limit.bytes.length = 8 * a.bytes.length := by rw [hfirst.1]
  refine hother ⟨hfirst.1.symm.trans hglobal.1, ?_⟩
  rw [hlength, ← hfirst.2]
  exact hglobal.2

lemma globalV6_fits : AllowanceFits globalV6.toAddressAllowance := by
  constructor <;> decide

/-- The ranges that `softDeny` looks for miss the address. -/
structure OpenlyReached (a : Address) : Prop where
  outside : ∀ limit ∈ forbiddenV4 ++ nonGlobalV6 ++ forbiddenV6, ¬limit.Covers a
  isGlobal : a.bytes.length = 16 → globalV6.Covers a

lemma softDeny_eq_none {a : Address} : softDeny a.bytes = none ↔ OpenlyReached a := by
  obtain ⟨hfour, hsix⟩ := tables_size
  rcases a.size with hsize | hsize
  · rw [softDeny, if_pos hsize, forbiddenV4, find_eq_none, ← forbiddenV4]
    constructor
    · intro h
      refine ⟨fun limit hlimit => ?_, fun hlong => by omega⟩
      rw [List.append_assoc, List.mem_append] at hlimit
      rcases hlimit with hlimit | hlimit
      · exact h limit hlimit
      · exact not_covers (hsix limit (by simp [List.mem_append.mp hlimit])) (by omega)
    · intro h limit hlimit
      exact h.outside limit (by simp [hlimit])
  · rw [softDeny, if_neg (by omega)]
    by_cases hglobal : globalV6.Covers a
    · rw [(covers_iff globalV6_fits a).mpr hglobal, if_neg (by simp), forbiddenV6, find_eq_none,
        ← forbiddenV6]
      constructor
      · intro h
        refine ⟨fun limit hlimit => ?_, fun _ => hglobal⟩
        rw [List.mem_append, List.mem_append] at hlimit
        rcases hlimit with (hlimit | hlimit) | hlimit
        · exact not_covers (hfour limit (by simp [hlimit])) (by omega)
        · exact not_nonGlobal hglobal limit hlimit
        · exact h limit hlimit
      · intro h limit hlimit
        exact h.outside limit (by simp [hlimit])
    · have hwithin : within a.bytes globalV6.toAddressAllowance = false := by
        rw [← Bool.not_eq_true, covers_iff globalV6_fits]
        exact hglobal
      rw [hwithin]
      constructor
      · intro h
        simp at h
      · intro h
        exact absurd (h.isGlobal hsize) hglobal

/-- **What `verifyBytes` allows.** -/
lemma verifyBytes_allowed {a : Address} {policy : EgressPolicy} {hostAllowed : Bool} :
    (verifyBytes a.bytes policy hostAllowed).isAllowed = true ↔
      (∀ limit ∈ neverV4 ++ neverV6, ¬limit.Covers a) ∧
        (OpenlyReached a ∨ hostAllowed = true ∨
          ∃ allowance ∈ policy.allowedAddresses, within a.bytes allowance = true) := by
  rw [← find_never_eq_none, ← softDeny_eq_none]
  unfold verifyBytes
  split
  · next never hnever =>
    rw [hnever]
    simp [AddressVerdict.isAllowed]
  · next hnever =>
    rw [hnever, ← List.any_eq_true, ← Bool.or_eq_true]
    split
    · next hsoft => simp [hsoft, AddressVerdict.isAllowed]
    · next hit hsoft =>
      rw [hsoft]
      by_cases hnamed : (hostAllowed || policy.allowedAddresses.any (within a.bytes)) = true
      · simp [hnamed, AddressVerdict.isAllowed]
      · simp [hnamed, AddressVerdict.isAllowed]

/-! ## Wider policies -/

/-- The policy with more hosts and addresses named. -/
structure Widens (policy wider : EgressPolicy) : Prop where
  http : wider.allowHttp = policy.allowHttp
  hosts : policy.allowedHosts ⊆ wider.allowedHosts
  addresses : policy.allowedAddresses ⊆ wider.allowedAddresses

variable {policy wider : EgressPolicy} {hostAllowed hostAllowed' named : Bool}

lemma named_widens {bytes : List Nat} (hwider : Widens policy wider)
    (hhost : hostAllowed = true → hostAllowed' = true)
    (h : (hostAllowed || policy.allowedAddresses.any fun limit => within bytes limit) = true) :
    (hostAllowed' || wider.allowedAddresses.any fun limit => within bytes limit) = true := by
  rw [Bool.or_eq_true, List.any_eq_true] at h ⊢
  refine h.imp hhost ?_
  rintro ⟨limit, hlimit, hwithin⟩
  exact ⟨limit, hwider.addresses hlimit, hwithin⟩

/-- An address that is allowed stays allowed, and stays named if it was. -/
lemma verifyBytes_widens {bytes : List Nat} (hwider : Widens policy wider)
    (hhost : hostAllowed = true → hostAllowed' = true)
    (h : verifyBytes bytes policy hostAllowed = .allowed named) :
    ∃ named', verifyBytes bytes wider hostAllowed' = .allowed named' ∧
      (named = true → named' = true) := by
  unfold verifyBytes at h ⊢
  split at h
  · cases h
  · next hnever =>
    split at h
    · next hsoft =>
      refine ⟨_, rfl, fun hnamed => named_widens hwider hhost ?_⟩
      rw [AddressVerdict.allowed.inj h]
      exact hnamed
    · next hit hsoft =>
      dsimp only at h ⊢
      split at h
      · next hnamed =>
        refine ⟨true, ?_, fun _ => rfl⟩
        rw [if_pos (named_widens hwider hhost hnamed)]
      · cases h

lemma verifyAddress_widens {t : Text} (hwider : Widens policy wider)
    (hhost : hostAllowed = true → hostAllowed' = true)
    (h : verifyAddress t policy hostAllowed = .allowed named) :
    ∃ named', verifyAddress t wider hostAllowed' = .allowed named' ∧
      (named = true → named' = true) := by
  unfold verifyAddress at h ⊢
  split at h
  · cases h
  · next parsed hparsed => exact verifyBytes_widens hwider hhost h

variable {toLowerCase : Text → Text} {parseUrl : Text → Option Url} {raw hostname : Text}

lemma hostIsAllowed_widens (hwider : Widens policy wider)
    (h : hostIsAllowed toLowerCase hostname policy = true) :
    hostIsAllowed toLowerCase hostname wider = true := by
  rw [hostIsAllowed, List.contains_iff_mem] at h ⊢
  exact hwider.hosts h

lemma verifyProtocol_widens {parsed : Url} {named' : Bool} (hwider : Widens policy wider)
    (hnamed : named = true → named' = true)
    (h : (verifyProtocol parsed policy named).isAllowed = true) :
    (verifyProtocol parsed wider named').isAllowed = true := by
  unfold verifyProtocol at h ⊢
  rw [hwider.http]
  split at h
  · next hhttp =>
    rw [if_pos hhttp]
    split at h
    · cases h
    · next hopen =>
      rw [Bool.or_eq_true, not_or, Bool.not_eq_true', Bool.not_eq_true', Bool.not_eq_false,
        Bool.not_eq_false] at hopen
      rw [hopen.1, hnamed hopen.2]
      rfl
  · next hhttp =>
    rw [if_neg hhttp]
    rfl

lemma not_local_widens (hwider : Widens policy wider)
    (h : ¬(!hostIsAllowed toLowerCase hostname policy && looksLocalName hostname) = true) :
    ¬(!hostIsAllowed toLowerCase hostname wider && looksLocalName hostname) = true := by
  rw [Bool.and_eq_true, Bool.not_eq_true', not_and'] at h ⊢
  intro hlocal hnone
  refine h hlocal ?_
  by_contra hallowed
  have hwide := hostIsAllowed_widens hwider (Bool.not_eq_false _ ▸ hallowed)
  rw [hnone] at hwide
  cases hwide

lemma guard_isAllowed {condition : Prop} [Decidable condition] {reason : Text}
    {category : RejectionCategory} {rest : UrlVerdict} :
    (if condition then UrlVerdict.refused reason category else rest).isAllowed = true ↔
      ¬condition ∧ rest.isAllowed = true := by
  by_cases h : condition
  · simp [h, UrlVerdict.isAllowed]
  · simp [h]

/-- A web address that is allowed stays allowed. -/
lemma verifyDestinationUrl_widens (hwider : Widens policy wider)
    (h : (verifyDestinationUrl toLowerCase parseUrl raw policy).isAllowed = true) :
    (verifyDestinationUrl toLowerCase parseUrl raw wider).isAllowed = true := by
  unfold verifyDestinationUrl at h ⊢
  split at h
  · cases h
  · next parsed hparsed =>
    simp only [guard_isAllowed] at h ⊢
    obtain ⟨hprotocol, hlogin, hhash, hhostname, h⟩ := h
    refine ⟨hprotocol, hlogin, hhash, hhostname, ?_⟩
    by_cases hliteral : isIP (bareHostname parsed.hostname) ≠ 0
    · rw [if_pos hliteral] at h ⊢
      split at h
      · cases h
      · next named hverdict =>
        obtain ⟨named', hwide, hnamed⟩ :=
          verifyAddress_widens hwider (hostIsAllowed_widens hwider) hverdict
        rw [hwide]
        refine verifyProtocol_widens hwider ?_ h
        rw [Bool.or_eq_true, Bool.or_eq_true]
        exact Or.imp (hostIsAllowed_widens hwider) hnamed
    · rw [if_neg hliteral, guard_isAllowed] at h ⊢
      exact ⟨not_local_widens hwider h.1,
        verifyProtocol_widens hwider (hostIsAllowed_widens hwider) h.2⟩

/-- A host that is allowed stays allowed. -/
lemma verifyDestinationHost_widens (hwider : Widens policy wider)
    (h : (verifyDestinationHost toLowerCase raw policy).isAllowed = true) :
    (verifyDestinationHost toLowerCase raw wider).isAllowed = true := by
  simp only [verifyDestinationHost, guard_isAllowed] at h ⊢
  obtain ⟨hhostname, h⟩ := h
  refine ⟨hhostname, ?_⟩
  by_cases hliteral : isIP (toLowerCase (bareHostname (Text.trim raw))) ≠ 0
  · rw [if_pos hliteral] at h ⊢
    split at h
    · next named hverdict =>
      obtain ⟨named', hwide, -⟩ :=
        verifyAddress_widens hwider (hostIsAllowed_widens hwider) hverdict
      rw [hwide]
      rfl
    · cases h
  · rw [if_neg hliteral, guard_isAllowed, guard_isAllowed] at h ⊢
    exact ⟨h.1, not_local_widens hwider h.2.1, h.2.2⟩

/-! ## Ranges that are never reached -/

/-- The address lies in a range that is never reached. -/
def NeverReached (a : Address) : Prop := ∃ limit ∈ neverV4 ++ neverV6, limit.Covers a

lemma verifyAddress_never {t : Text} {a : Address} (h : Spells t a)
    (hnever : NeverReached a.unmapped) :
    (verifyAddress t policy hostAllowed).isAllowed = false := by
  rw [verifyAddress_spells h, ← Bool.not_eq_true, verifyBytes_allowed]
  rintro ⟨hnone, -⟩
  obtain ⟨limit, hlimit, hcovers⟩ := hnever
  exact hnone limit hlimit hcovers

lemma isIP_ne_zero {t : Text} {a : Address} (h : Spells t a) : isIP t ≠ 0 := by
  rcases h with hfour | ⟨groups, hsix, -⟩
  · rw [isIP_eq_four.mpr ⟨_, hfour⟩]
    simp
  · rw [isIP_eq_six.mpr ⟨_, hsix⟩]
    simp

lemma verifyDestinationUrl_never {parsed : Url} {a : Address} (hparsed : parseUrl raw = some parsed)
    (h : Spells (bareHostname parsed.hostname) a) (hnever : NeverReached a.unmapped) :
    (verifyDestinationUrl toLowerCase parseUrl raw policy).isAllowed = false := by
  rw [← Bool.not_eq_true]
  intro hallowed
  unfold verifyDestinationUrl at hallowed
  rw [hparsed] at hallowed
  simp only [guard_isAllowed, if_pos (isIP_ne_zero h)] at hallowed
  obtain ⟨-, -, -, -, hallowed⟩ := hallowed
  split at hallowed
  · cases hallowed
  · next named hverdict =>
    have hrefused : (verifyAddress (bareHostname parsed.hostname) policy
        (hostIsAllowed toLowerCase (bareHostname parsed.hostname) policy)).isAllowed = false :=
      verifyAddress_never h hnever
    rw [hverdict] at hrefused
    cases hrefused

lemma verifyDestinationHost_never {a : Address}
    (h : Spells (toLowerCase (bareHostname (Text.trim raw))) a) (hnever : NeverReached a.unmapped) :
    (verifyDestinationHost toLowerCase raw policy).isAllowed = false := by
  rw [← Bool.not_eq_true]
  intro hallowed
  simp only [verifyDestinationHost, guard_isAllowed, if_pos (isIP_ne_zero h)] at hallowed
  obtain ⟨-, hallowed⟩ := hallowed
  split at hallowed
  · next named hverdict =>
    have hrefused : (verifyAddress (toLowerCase (bareHostname (Text.trim raw))) policy
        (hostIsAllowed toLowerCase (toLowerCase (bareHostname (Text.trim raw))) policy)).isAllowed =
          false := verifyAddress_never h hnever
    rw [hverdict] at hrefused
    cases hrefused
  · cases hallowed

/-- What is allowed without a name lies outside of every range, and in global use. -/
lemma openlyReached_of_allowed {t : Text}
    (h : (verifyAddress t publicOnly false).isAllowed = true) :
    ∃ a, Spells t a ∧ ¬NeverReached a.unmapped ∧ OpenlyReached a.unmapped := by
  have hparsed : ∃ bytes, parseAddress t = some bytes := by
    unfold verifyAddress at h
    split at h
    · cases h
    · next bytes hparsed => exact ⟨bytes, hparsed⟩
  obtain ⟨bytes, hparsed⟩ := hparsed
  obtain ⟨a, hspells, -⟩ := spells_of_parseAddress hparsed
  rw [verifyAddress_spells hspells, verifyBytes_allowed] at h
  obtain ⟨hnever, hopen | hhost | ⟨limit, hlimit, -⟩⟩ := h
  · refine ⟨a, hspells, ?_, hopen⟩
    rintro ⟨limit, hlimit, hcovers⟩
    exact hnever limit hlimit hcovers
  · cases hhost
  · cases hlimit

/-- **An address is judged by its value.**  Whatever writes an address that is never reached is
refused, at a destination too; under `PUBLIC_ONLY`, which names no host, what is allowed lies
outside of every range and, where it is a long address, in global use; two spellings of one address
get the same verdict; and a policy that names more allows what the narrower one allows. -/
theorem addresses_judged_by_value (toLowerCase : Text → Text) (parseUrl : Text → Option Url) :
    (∀ (t : Text) (a : Address) (policy : EgressPolicy) (hostAllowed : Bool), Spells t a →
      NeverReached a.unmapped → (verifyAddress t policy hostAllowed).isAllowed = false) ∧
    (∀ (raw : Text) (parsed : Url) (a : Address) (policy : EgressPolicy),
      parseUrl raw = some parsed → Spells (bareHostname parsed.hostname) a →
        NeverReached a.unmapped →
          (verifyDestinationUrl toLowerCase parseUrl raw policy).isAllowed = false) ∧
    (∀ (raw : Text) (a : Address) (policy : EgressPolicy),
      Spells (toLowerCase (bareHostname (Text.trim raw))) a → NeverReached a.unmapped →
        (verifyDestinationHost toLowerCase raw policy).isAllowed = false) ∧
    (∀ hostname, hostIsAllowed toLowerCase hostname publicOnly = false) ∧
    (∀ t, (verifyAddress t publicOnly false).isAllowed = true →
      ∃ a, Spells t a ∧ ¬NeverReached a.unmapped ∧ OpenlyReached a.unmapped) ∧
    (∀ (t t' : Text) (a a' : Address) (policy : EgressPolicy) (hostAllowed : Bool), Spells t a →
      Spells t' a' → a.unmapped = a'.unmapped →
        verifyAddress t policy hostAllowed = verifyAddress t' policy hostAllowed) ∧
    ∀ policy wider, Widens policy wider →
      (∀ (t : Text) (hostAllowed hostAllowed' : Bool),
        (hostAllowed = true → hostAllowed' = true) →
          (verifyAddress t policy hostAllowed).isAllowed = true →
            (verifyAddress t wider hostAllowed').isAllowed = true) ∧
      (∀ raw, (verifyDestinationUrl toLowerCase parseUrl raw policy).isAllowed = true →
        (verifyDestinationUrl toLowerCase parseUrl raw wider).isAllowed = true) ∧
      ∀ raw, (verifyDestinationHost toLowerCase raw policy).isAllowed = true →
        (verifyDestinationHost toLowerCase raw wider).isAllowed = true := by
  refine ⟨fun t a policy hostAllowed h hnever => verifyAddress_never h hnever,
    fun raw parsed a policy hparsed h hnever => verifyDestinationUrl_never hparsed h hnever,
    fun raw a policy h hnever => verifyDestinationHost_never h hnever, fun hostname => rfl,
    fun t h => openlyReached_of_allowed h, ?_, ?_⟩
  · intro t t' a a' policy hostAllowed h h' hsame
    rw [verifyAddress_spells h, verifyAddress_spells h', hsame]
  · intro policy wider hwider
    refine ⟨?_, fun raw => verifyDestinationUrl_widens hwider,
      fun raw => verifyDestinationHost_widens hwider⟩
    intro t hostAllowed hostAllowed' hhost hallowed
    cases hverdict : verifyAddress t policy hostAllowed with
    | refused reason category =>
      rw [hverdict] at hallowed
      cases hallowed
    | allowed named =>
      obtain ⟨named', hwide, -⟩ := verifyAddress_widens hwider hhost hverdict
      rw [hwide]
      rfl

/-- An address of a private network. -/
def tenOne : Address where
  bytes := [10, 0, 0, 1]
  size := Or.inl rfl
  small := by decide

/-- A named host is reached under `PUBLIC_ONLY` too, at an address of a private network. -/
theorem named_host_reached :
    Spells "10.0.0.1".toList tenOne ∧ (∃ limit ∈ forbiddenV4, limit.Covers tenOne.unmapped) ∧
      (verifyAddress "10.0.0.1".toList publicOnly true).isAllowed = true := by
  refine ⟨Or.inl (readV4_iff.mp (by decide)), ?_, by decide +kernel⟩
  have hcovers : ∃ limit ∈ forbiddenV4,
      SamePrefix limit.bits tenOne.unmapped.bytes limit.bytes := by
    decide +kernel
  exact hcovers

end Egress

end OpenMcc
