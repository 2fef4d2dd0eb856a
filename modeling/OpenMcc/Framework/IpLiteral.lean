import Mathlib.Data.Nat.Digits.Defs
import OpenMcc.Framework.Text

/-!
# The texts that write an address

An address is its bytes, four or sixteen of them, the most significant first.  `V4` and `V6` are
the grammars of the texts that write one: four decimal octets without leading zeros, and eight
groups of hexadecimal digits, of which one run of zero groups may be left out at `::` and the last
two may be written as four octets.  Both are relations, read off the notation and not off a parser;
`readV4` and `isV6` decide them.

`SamePrefix` is the meaning of a prefix length: the numbers that two addresses stand for agree once
the bits after the prefix are shifted out.
-/

namespace OpenMcc

namespace Ip

/-! ## Octets and groups -/

/-- The decimal notation of an octet. -/
def octet (n : Nat) : Text := Nat.toDigits 10 n

/-- The number that decimal digits write. -/
def decimal (t : Text) : Nat := t.foldl (fun n c => n * 10 + (c.toNat - '0'.toNat)) 0

/-- The value of a group: one to four hexadecimal digits. -/
def hextet (t : Text) : Option Nat :=
  if 1 ≤ t.length ∧ t.length ≤ 4 then Text.hexNumber 0 t else none

/-- The bytes of groups. -/
def octets (groups : List Nat) : List Nat := groups.flatMap fun g => [g / 256, g % 256]

/-! ## The grammars -/

/-- The text writes four octets. -/
inductive V4 : Text → List Nat → Prop
  | dotted {a b c d : Nat} : a < 256 → b < 256 → c < 256 → d < 256 →
      V4 (octet a ++ '.' :: (octet b ++ '.' :: (octet c ++ '.' :: octet d))) [a, b, c, d]

/-- The text writes groups with a colon between any two of them; where it may end `dotted`, the
last two may be written as four octets. -/
inductive Groups (dotted : Bool) : Text → List Nat → Prop
  | hextet {t : Text} {g : Nat} : Ip.hextet t = some g → Groups dotted t [g]
  | octets {t : Text} {a b c d : Nat} : dotted = true → V4 t [a, b, c, d] →
      Groups dotted t [a * 256 + b, c * 256 + d]
  | cons {t rest : Text} {g : Nat} {groups : List Nat} : Ip.hextet t = some g →
      Groups dotted rest groups → Groups dotted (t ++ ':' :: rest) (g :: groups)

/-- One side of `::`, which may be empty. -/
def Half (dotted : Bool) (t : Text) (groups : List Nat) : Prop :=
  t = [] ∧ groups = [] ∨ Groups dotted t groups

/-- The text writes eight groups. -/
inductive V6 : Text → List Nat → Prop
  | full {t : Text} {groups : List Nat} : Groups true t groups → groups.length = 8 → V6 t groups
  | short {head tail : Text} {first last : List Nat} : Half false head first →
      Half true tail last → first.length + last.length < 8 →
      V6 (head ++ ':' :: ':' :: tail)
        (first ++ List.replicate (8 - first.length - last.length) 0 ++ last)

/-! ## Addresses -/

/-- An address of either family. -/
structure Address where
  bytes : List Nat
  size : bytes.length = 4 ∨ bytes.length = 16
  small : ∀ b ∈ bytes, b < 256
  deriving DecidableEq, Repr

/-- The number that bytes stand for. -/
def number (bytes : List Nat) : Nat := Nat.ofDigits 256 bytes.reverse

/-- The numbers of as many bytes agree in their first bits. -/
def SamePrefix (bits : Nat) (left right : List Nat) : Prop :=
  left.length = right.length ∧
    number left / 2 ^ (8 * left.length - bits) = number right / 2 ^ (8 * left.length - bits)

instance (bits : Nat) (left right : List Nat) : Decidable (SamePrefix bits left right) :=
  inferInstanceAs (Decidable (_ ∧ _))

/-- The text is one of the spellings of the address. -/
def Spells (t : Text) (a : Address) : Prop :=
  V4 t a.bytes ∨ ∃ groups, V6 t groups ∧ a.bytes = octets groups

/-- The bytes before the four of an address of the other family. -/
def mappedBytes : List Nat := [0, 0, 0, 0, 0, 0, 0, 0, 0, 0, 255, 255]

/-- The address itself, and the short one where this is how a long one writes it. -/
def Address.unmapped (a : Address) : Address :=
  if h : a.bytes.take 12 = mappedBytes then
    ⟨a.bytes.drop 12, by
      have hlength : (a.bytes.take 12).length = 12 := by
        rw [h]
        rfl
      rw [List.length_take] at hlength
      rw [List.length_drop]
      rcases a.size with hsize | hsize <;> omega,
      fun b hb => a.small b (List.mem_of_mem_drop hb)⟩
  else a

/-! ## Reading the grammars -/

/-- The value of a decimal octet without leading zeros. -/
def readOctet (t : Text) : Option Nat :=
  if decimal t < 256 ∧ octet (decimal t) = t then some (decimal t) else none

/-- The four octets that a text writes. -/
def readV4 (t : Text) : Option (List Nat) :=
  match t.splitOn '.' with
  | [a, b, c, d] => [a, b, c, d].mapM readOctet
  | _ => none

/-- The two groups of four octets. -/
def pairUp : List Nat → Option (List Nat)
  | [a, b, c, d] => some [a * 256 + b, c * 256 + d]
  | _ => none

/-- The groups that the pieces between the colons write. -/
def readGroups (dotted : Bool) : List Text → Option (List Nat)
  | [] => none
  | [t] =>
    ((hextet t).map fun g => [g]).or (if dotted then (readV4 t).bind pairUp else none)
  | t :: next :: rest =>
    (hextet t).bind fun g => (readGroups dotted (next :: rest)).map fun groups => g :: groups

/-- The groups of one side of `::`. -/
def readHalf (dotted : Bool) (t : Text) : Option (List Nat) :=
  if t = [] then some [] else readGroups dotted (t.splitOn ':')

/-- The text has a `::` at the place, with sides that leave at least one group out. -/
def isShortAt (t : Text) (place : Nat) : Bool :=
  "::".toList.isPrefixOf (t.drop place) &&
    (readHalf false (t.take place)).any fun first =>
      (readHalf true (t.drop (place + 2))).any fun last => first.length + last.length < 8

/-- The text writes eight groups. -/
def isV6 (t : Text) : Bool :=
  (readGroups true (t.splitOn ':')).any (fun groups => groups.length == 8) ||
    (List.range t.length).any (isShortAt t)

/-! ## What octets and groups are made of -/

lemma octet_spec : ∀ n < 256, decimal (octet n) = n ∧ (octet n).all Text.isDigit = true ∧
    1 ≤ (octet n).length ∧ (octet n).length ≤ 3 := by
  decide +kernel

lemma not_mem_octet {n : Nat} {c : Char} (hn : n < 256) (hc : Text.isDigit c = false) :
    c ∉ octet n := by
  intro hmem
  have hdigit := List.all_eq_true.mp (octet_spec n hn).2.1 c hmem
  rw [hc] at hdigit
  exact absurd hdigit (by simp)

lemma readOctet_octet {n : Nat} (hn : n < 256) : readOctet (octet n) = some n := by
  rw [readOctet, (octet_spec n hn).1, if_pos ⟨hn, rfl⟩]

lemma readOctet_eq_some {t : Text} {n : Nat} (h : readOctet t = some n) :
    n < 256 ∧ t = octet n := by
  rw [readOctet, Option.ite_none_right_eq_some, Option.some.injEq] at h
  rw [← h.2]
  exact ⟨h.1.1, h.1.2.symm⟩

lemma hexDigit_lt {c : Char} {digit : Nat} (h : Text.hexDigit c = some digit) : digit < 16 := by
  have hclass : c ≤ '9' ∧ digit = c.toNat - '0'.toNat ∨
      c ≤ 'f' ∧ digit = c.toNat - 'a'.toNat + 10 ∨
        c ≤ 'F' ∧ digit = c.toNat - 'A'.toNat + 10 := by
    unfold Text.hexDigit at h
    grind
  rcases hclass with ⟨hle, rfl⟩ | ⟨hle, rfl⟩ | ⟨hle, rfl⟩
  · have hnat : c.toNat ≤ '9'.toNat := hle
    have hlast : '9'.toNat = 57 := rfl
    have hfirst : '0'.toNat = 48 := rfl
    omega
  · have hnat : c.toNat ≤ 'f'.toNat := hle
    have hlast : 'f'.toNat = 102 := rfl
    have hfirst : 'a'.toNat = 97 := rfl
    omega
  · have hnat : c.toNat ≤ 'F'.toNat := hle
    have hlast : 'F'.toNat = 70 := rfl
    have hfirst : 'A'.toNat = 65 := rfl
    omega

lemma hexNumber_eq_some :
    ∀ {t : Text} {n value : Nat}, Text.hexNumber n t = some value →
      value < (n + 1) * 16 ^ t.length ∧ ∀ c ∈ t, Text.hexDigit c ≠ none
  | [], n, value, h => by
      rw [Text.hexNumber, Option.some.injEq] at h
      rw [h]
      exact ⟨by simp, by simp⟩
  | c :: rest, n, value, h => by
      rw [Text.hexNumber, Option.bind_eq_some_iff] at h
      obtain ⟨digit, hdigit, hrest⟩ := h
      obtain ⟨hvalue, hdigits⟩ := hexNumber_eq_some hrest
      have hsmall := hexDigit_lt hdigit
      refine ⟨?_, List.forall_mem_cons.mpr ⟨by rw [hdigit]; simp, hdigits⟩⟩
      calc value < (n * 16 + digit + 1) * 16 ^ rest.length := hvalue
        _ ≤ ((n + 1) * 16) * 16 ^ rest.length := Nat.mul_le_mul_right _ (by omega)
        _ = (n + 1) * 16 ^ (c :: rest).length := by
          rw [List.length_cons, Nat.pow_succ, Nat.mul_assoc, Nat.mul_comm 16]

lemma hextet_eq_some {t : Text} {g : Nat} (h : hextet t = some g) :
    g < 65536 ∧ t ≠ [] ∧ ∀ c ∈ t, Text.hexDigit c ≠ none := by
  rw [hextet, Option.ite_none_right_eq_some] at h
  obtain ⟨⟨hpos, hle⟩, h⟩ := h
  obtain ⟨hvalue, hdigits⟩ := hexNumber_eq_some h
  refine ⟨?_, List.length_pos_iff.mp hpos, hdigits⟩
  calc g < (0 + 1) * 16 ^ t.length := hvalue
    _ ≤ (0 + 1) * 16 ^ 4 := Nat.mul_le_mul_left _ (Nat.pow_le_pow_right (by omega) hle)

/-- A character that is no hexadecimal digit does not occur in a group. -/
lemma not_mem_hextet {t : Text} {g : Nat} {c : Char} (h : hextet t = some g)
    (hc : Text.hexDigit c = none) : c ∉ t := fun hmem => (hextet_eq_some h).2.2 c hmem hc

/-! ## The readers decide the grammars -/

lemma V4.bytes_spec {t : Text} {bytes : List Nat} (h : V4 t bytes) :
    bytes.length = 4 ∧ ∀ b ∈ bytes, b < 256 := by
  cases h with
  | dotted ha hb hc hd =>
    refine ⟨rfl, fun b hmem => ?_⟩
    simp only [List.mem_cons, List.not_mem_nil, or_false] at hmem
    rcases hmem with rfl | rfl | rfl | rfl <;> assumption

lemma V4.pieces {t : Text} {bytes : List Nat} (h : V4 t bytes) :
    t.splitOn '.' = bytes.map octet := by
  cases h with
  | dotted ha hb hc hd =>
    rw [List.splitOn_append_cons_self_of_not_mem (not_mem_octet ha rfl),
      List.splitOn_append_cons_self_of_not_mem (not_mem_octet hb rfl),
      List.splitOn_append_cons_self_of_not_mem (not_mem_octet hc rfl),
      List.splitOn_eq_singleton (not_mem_octet hd rfl)]
    rfl

/-- Four octets hold digits and dots only, and a dot. -/
lemma V4.chars {t : Text} {bytes : List Nat} (h : V4 t bytes) :
    '.' ∈ t ∧ ∀ c, Text.isDigit c = false → c ≠ '.' → c ∉ t := by
  cases h with
  | dotted ha hb hc hd =>
    refine ⟨by simp, fun c hdigit hdot => ?_⟩
    simp [not_mem_octet ha hdigit, not_mem_octet hb hdigit, not_mem_octet hc hdigit,
      not_mem_octet hd hdigit, hdot]

lemma readV4_iff {t : Text} {bytes : List Nat} : readV4 t = some bytes ↔ V4 t bytes := by
  constructor
  · intro h
    unfold readV4 at h
    split at h
    · next a b c d hsplit =>
      simp only [List.mapM_cons, List.mapM_nil, Option.bind_eq_bind, Option.pure_def,
        Option.bind_eq_some_iff, Option.some.injEq] at h
      obtain ⟨na, ha, _, ⟨nb, hb, _, ⟨nc, hc, _, ⟨nd, hd, _, rfl, rfl⟩, rfl⟩, rfl⟩, rfl⟩ := h
      have ht : t = a ++ '.' :: (b ++ '.' :: (c ++ '.' :: d)) := by
        have hjoin : ['.'].intercalate (t.splitOn '.') = t := List.intercalate_splitOn '.'
        rw [hsplit] at hjoin
        rw [← hjoin]
        simp [List.intercalate_cons_cons]
      obtain ⟨hna, rfl⟩ := readOctet_eq_some ha
      obtain ⟨hnb, rfl⟩ := readOctet_eq_some hb
      obtain ⟨hnc, rfl⟩ := readOctet_eq_some hc
      obtain ⟨hnd, rfl⟩ := readOctet_eq_some hd
      rw [ht]
      exact V4.dotted hna hnb hnc hnd
    · cases h
  · intro h
    rw [readV4, h.pieces]
    cases h with
    | dotted ha hb hc hd =>
      simp [readOctet_octet, ha, hb, hc, hd]

lemma Groups.not_nil {dotted : Bool} {t : Text} {groups : List Nat} (h : Groups dotted t groups) :
    t ≠ [] ∧ groups ≠ [] := by
  cases h with
  | hextet hg => exact ⟨(hextet_eq_some hg).2.1, by simp⟩
  | octets _ hfour => exact ⟨List.ne_nil_of_mem hfour.chars.1, by simp⟩
  | cons hg hrest => exact ⟨by simp, by simp⟩

lemma Groups.small {dotted : Bool} {t : Text} {groups : List Nat} (h : Groups dotted t groups) :
    ∀ g ∈ groups, g < 65536 := by
  induction h with
  | hextet hg =>
    intro g hmem
    rw [List.mem_singleton.mp hmem]
    exact (hextet_eq_some hg).1
  | octets _ hfour =>
    intro g hmem
    have hsmall := hfour.bytes_spec.2
    simp only [List.mem_cons, List.not_mem_nil, or_false] at hmem
    simp only [List.mem_cons, List.not_mem_nil, or_false, forall_eq_or_imp, forall_eq] at hsmall
    rcases hmem with rfl | rfl <;> omega
  | cons hg _ ih =>
    intro g hmem
    rcases List.mem_cons.mp hmem with rfl | hmem
    · exact (hextet_eq_some hg).1
    · exact ih g hmem

/-- Groups hold hexadecimal digits, colons and dots only. -/
lemma Groups.not_mem {dotted : Bool} {t : Text} {groups : List Nat} (h : Groups dotted t groups)
    {c : Char} (hc : Text.hexDigit c = none) (hdigit : Text.isDigit c = false) (hdot : c ≠ '.')
    (hcolon : c ≠ ':') : c ∉ t := by
  induction h with
  | hextet hg => exact not_mem_hextet hg hc
  | octets _ hfour => exact hfour.chars.2 c hdigit hdot
  | cons hg _ ih =>
    rw [List.mem_append, List.mem_cons]
    rintro (hmem | heq | hmem)
    · exact not_mem_hextet hg hc hmem
    · exact hcolon heq
    · exact ih hmem

lemma Groups.dot {t : Text} {groups : List Nat} (h : Groups false t groups) :
    Groups true t groups := by
  induction h with
  | hextet hg => exact .hextet hg
  | octets hdotted => cases hdotted
  | cons hg _ ih => exact .cons hg ih

lemma readGroups_of_groups {dotted : Bool} {t : Text} {groups : List Nat}
    (h : Groups dotted t groups) : readGroups dotted (t.splitOn ':') = some groups := by
  induction h with
  | hextet hg =>
    rw [List.splitOn_eq_singleton (not_mem_hextet hg rfl), readGroups, hg]
    rfl
  | @octets t a b c d hdotted hfour =>
    have hnone : hextet t = none := by
      rw [Option.eq_none_iff_forall_ne_some]
      intro g hg
      exact not_mem_hextet hg rfl hfour.chars.1
    rw [List.splitOn_eq_singleton (hfour.chars.2 ':' rfl (by simp)), readGroups, hnone,
      if_pos hdotted, readV4_iff.mpr hfour]
    rfl
  | @cons t rest g groups hg _ ih =>
    rw [List.splitOn_append_cons_self_of_not_mem (not_mem_hextet hg rfl)]
    obtain ⟨next, pieces, hpieces⟩ := List.exists_cons_of_ne_nil (List.splitOn_ne_nil ':' rest)
    rw [hpieces] at ih
    rw [hpieces, readGroups, hg, ih]
    rfl

lemma groups_of_readGroups {dotted : Bool} :
    ∀ {pieces : List Text} {groups : List Nat}, readGroups dotted pieces = some groups →
      Groups dotted ([':'].intercalate pieces) groups
  | [], groups, h => by
      rw [readGroups] at h
      cases h
  | [t], groups, h => by
      rw [List.intercalate_singleton]
      cases hg : hextet t with
      | some g =>
        rw [readGroups, hg, Option.map_some, Option.some_or,
          Option.some.injEq] at h
        rw [← h]
        exact Groups.hextet hg
      | none =>
        rw [readGroups, hg, Option.map_none, Option.none_or,
          Option.ite_none_right_eq_some, Option.bind_eq_some_iff] at h
        obtain ⟨hdotted, bytes, hbytes, hpair⟩ := h
        unfold pairUp at hpair
        split at hpair
        · rw [← Option.some.inj hpair]
          exact Groups.octets hdotted (readV4_iff.mp hbytes)
        · cases hpair
  | t :: next :: rest, groups, h => by
      rw [readGroups, Option.bind_eq_some_iff] at h
      obtain ⟨g, hg, h⟩ := h
      obtain ⟨others, hothers, rfl⟩ := Option.map_eq_some_iff.mp h
      have hrest := groups_of_readGroups hothers
      rw [List.intercalate_cons_cons, List.append_assoc]
      exact Groups.cons hg hrest

lemma readGroups_iff {dotted : Bool} {t : Text} {groups : List Nat} :
    readGroups dotted (t.splitOn ':') = some groups ↔ Groups dotted t groups := by
  refine ⟨fun h => ?_, readGroups_of_groups⟩
  have hjoined := groups_of_readGroups h
  rwa [List.intercalate_splitOn] at hjoined

lemma readHalf_iff {dotted : Bool} {t : Text} {groups : List Nat} :
    readHalf dotted t = some groups ↔ Half dotted t groups := by
  rw [readHalf, Half]
  by_cases ht : t = []
  · rw [if_pos ht, Option.some.injEq]
    constructor
    · intro h
      exact Or.inl ⟨ht, h.symm⟩
    · rintro (⟨-, h⟩ | h)
      · exact h.symm
      · exact absurd ht h.not_nil.1
  · rw [if_neg ht, readGroups_iff]
    exact ⟨Or.inr, fun h => h.resolve_left fun hnil => ht hnil.1⟩

lemma isShortAt_iff {t : Text} {place : Nat} : isShortAt t place = true ↔
    "::".toList <+: t.drop place ∧ ∃ first last, Half false (t.take place) first ∧
      Half true (t.drop (place + 2)) last ∧ first.length + last.length < 8 := by
  rw [isShortAt, Bool.and_eq_true, List.isPrefixOf_iff_prefix, Option.any_eq_true]
  simp only [Option.any_eq_true, decide_eq_true_eq, readHalf_iff]
  constructor
  · rintro ⟨hmark, first, hfirst, last, hlast, hlength⟩
    exact ⟨hmark, first, last, hfirst, hlast, hlength⟩
  · rintro ⟨hmark, first, last, hfirst, hlast, hlength⟩
    exact ⟨hmark, first, hfirst, last, hlast, hlength⟩

/-- `isV6` accepts the texts that write eight groups. -/
lemma isV6_iff {t : Text} : isV6 t = true ↔ ∃ groups, V6 t groups := by
  rw [isV6, Bool.or_eq_true, Option.any_eq_true, List.any_eq_true]
  constructor
  · rintro (⟨groups, hread, hlength⟩ | ⟨place, -, hplace⟩)
    · exact ⟨groups, V6.full (readGroups_iff.mp hread) (beq_iff_eq.mp hlength)⟩
    · obtain ⟨⟨tail, htail⟩, first, last, hfirst, hlast, hlength⟩ := isShortAt_iff.mp hplace
      have ht : t = t.take place ++ ':' :: ':' :: t.drop (place + 2) := by
        have hdrop : t.drop (place + 2) = tail := by
          rw [← List.drop_drop, ← htail]
          rfl
        rw [hdrop]
        exact (List.take_append_drop place t).symm.trans (congrArg _ htail.symm)
      rw [ht]
      exact ⟨_, V6.short hfirst hlast hlength⟩
  · rintro ⟨groups, h⟩
    cases h with
    | full hgroups hlength =>
      exact Or.inl ⟨groups, readGroups_iff.mpr hgroups, beq_iff_eq.mpr hlength⟩
    | @short head tail first last hfirst hlast hlength =>
      refine Or.inr ⟨head.length, ?_, isShortAt_iff.mpr ⟨?_, first, last, ?_, ?_, hlength⟩⟩
      · rw [List.mem_range, List.length_append, List.length_cons]
        omega
      · rw [List.drop_left]
        exact ⟨tail, rfl⟩
      · rwa [List.take_left]
      · rw [← List.drop_drop, List.drop_left]
        exact hlast

lemma Half.small {dotted : Bool} {t : Text} {groups : List Nat} (h : Half dotted t groups) :
    ∀ g ∈ groups, g < 65536 := by
  rcases h with ⟨-, rfl⟩ | h
  · simp
  · exact h.small

lemma Half.not_mem {dotted : Bool} {t : Text} {groups : List Nat} (h : Half dotted t groups)
    {c : Char} (hc : Text.hexDigit c = none) (hdigit : Text.isDigit c = false) (hdot : c ≠ '.')
    (hcolon : c ≠ ':') : c ∉ t := by
  rcases h with ⟨rfl, -⟩ | h
  · simp
  · exact h.not_mem hc hdigit hdot hcolon

lemma V6.groups_spec {t : Text} {groups : List Nat} (h : V6 t groups) :
    groups.length = 8 ∧ ∀ g ∈ groups, g < 65536 := by
  cases h with
  | full hgroups hlength => exact ⟨hlength, hgroups.small⟩
  | short hfirst hlast hlength =>
    constructor
    · rw [List.length_append, List.length_append, List.length_replicate]
      omega
    · intro g hmem
      rw [List.mem_append, List.mem_append, List.mem_replicate] at hmem
      rcases hmem with (hmem | ⟨-, rfl⟩) | hmem
      · exact hfirst.small g hmem
      · omega
      · exact hlast.small g hmem

lemma V6.not_mem {t : Text} {groups : List Nat} (h : V6 t groups) {c : Char}
    (hc : Text.hexDigit c = none) (hdigit : Text.isDigit c = false) (hdot : c ≠ '.')
    (hcolon : c ≠ ':') : c ∉ t := by
  cases h with
  | full hgroups => exact hgroups.not_mem hc hdigit hdot hcolon
  | short hfirst hlast =>
    simp [hfirst.not_mem hc hdigit hdot hcolon, hlast.not_mem hc hdigit hdot hcolon, hcolon]

lemma Groups.colon {dotted : Bool} {t : Text} {groups : List Nat} (h : Groups dotted t groups)
    (hlong : 2 < groups.length) : ':' ∈ t := by
  cases h with
  | hextet => simp at hlong
  | octets => simp at hlong
  | cons => simp

lemma Groups.head {dotted : Bool} {t : Text} {groups : List Nat} (h : Groups dotted t groups) :
    ∃ c rest, t = c :: rest ∧ c ≠ ':' := by
  obtain ⟨c, rest, hcons⟩ := List.exists_cons_of_ne_nil h.not_nil.1
  refine ⟨c, rest, hcons, ?_⟩
  rintro rfl
  have hcolon : Text.hexDigit ':' = none := rfl
  cases h with
  | hextet hg => exact not_mem_hextet hg hcolon (by rw [hcons]; simp)
  | octets _ hfour => exact hfour.chars.2 ':' rfl (by simp) (by rw [hcons]; simp)
  | @cons first _ _ _ hg hrest =>
    obtain ⟨d, more, rfl⟩ := List.exists_cons_of_ne_nil (hextet_eq_some hg).2.1
    rw [List.cons_append, List.cons.injEq] at hcons
    exact not_mem_hextet hg hcolon (by rw [hcons.1]; simp)

lemma V6.colon {t : Text} {groups : List Nat} (h : V6 t groups) : ':' ∈ t := by
  cases h with
  | full hgroups hlength => exact hgroups.colon (by omega)
  | short => simp

/-- No text writes addresses of both families. -/
lemma V4.not_v6 {t : Text} {bytes groups : List Nat} (h : V4 t bytes) : ¬V6 t groups :=
  fun hsix => h.chars.2 ':' rfl (by simp) hsix.colon

/-! ## The bytes of groups, and the numbers of bytes -/

lemma octets_length (groups : List Nat) : (octets groups).length = 2 * groups.length := by
  induction groups with
  | nil => rfl
  | cons g groups ih =>
    rw [octets, List.flatMap_cons, List.length_append, ← octets, ih, List.length_cons]
    simp only [List.length_cons, List.length_nil]
    omega

lemma octets_small {groups : List Nat} (h : ∀ g ∈ groups, g < 65536) :
    ∀ b ∈ octets groups, b < 256 := by
  intro b hb
  obtain ⟨g, hg, hb⟩ := List.mem_flatMap.mp hb
  have hsmall := h g hg
  simp only [List.mem_cons, List.not_mem_nil, or_false] at hb
  rcases hb with rfl | rfl <;> omega

lemma number_cons (b : Nat) (bytes : List Nat) :
    number (b :: bytes) = b * 256 ^ bytes.length + number bytes := by
  rw [number, List.reverse_cons, Nat.ofDigits_append, Nat.ofDigits_singleton, List.length_reverse,
    Nat.mul_comm, Nat.add_comm, number]

lemma number_lt {bytes : List Nat} (h : ∀ b ∈ bytes, b < 256) :
    number bytes < 256 ^ bytes.length := by
  induction bytes with
  | nil => simp [number]
  | cons b bytes ih =>
    have hb := h b List.mem_cons_self
    have hrest := ih fun c hc => h c (List.mem_cons_of_mem b hc)
    rw [number_cons, List.length_cons]
    calc b * 256 ^ bytes.length + number bytes
        < b * 256 ^ bytes.length + 256 ^ bytes.length := Nat.add_lt_add_left hrest _
      _ = (b + 1) * 256 ^ bytes.length := by rw [Nat.add_mul, Nat.one_mul]
      _ ≤ 256 * 256 ^ bytes.length := Nat.mul_le_mul_right _ hb
      _ = 256 ^ (bytes.length + 1) := by rw [Nat.pow_succ, Nat.mul_comm]

end Ip

end OpenMcc
