import Mathlib
import OpenMcc.Framework.Text

/-!
# Documents of tables, keys and values

The fragment of TOML 1.0 that a plain configuration is written in: a line is empty, the header of a
table or a key with its value, and a value is a string in double quotes, a number, a boolean, an
array or an inline table.  `Spells` is the grammar of the texts that write a list of statements, and
`document` is the value that the statements mean, if they are `Valid`: no table and no key is
defined twice, and no key is also a table.

Numbers are those of the reader: `round` takes the number that is written to the one it stands for.
-/

namespace OpenMcc

namespace Toml

variable {ν : Type}

/-! ## Values -/

/-- A value of a document. -/
inductive Value (ν : Type)
  | text (t : Text)
  | number (n : ν)
  | boolean (b : Bool)
  /-- A value of another kind: a date, or an integer that no number of the reader stands for. -/
  | other
  | list (entries : List (Value ν))
  | table (entries : List (Text × Value ν))

/-- What a table holds under a key. -/
def Value.field : Value ν → Text → Option (Value ν)
  | .table entries, key => entries.lookup key
  | _, _ => none

/-- What is found under one key after another. -/
def Value.descend : Value ν → List Text → Option (Value ν)
  | value, [] => some value
  | value, key :: path => (value.field key).bind fun found => found.descend path

/-! ## The texts that write a value -/

/-- A character that stands for itself in a string. -/
def isPlain (c : Char) : Bool :=
  c != '"' && c != '\\' && (0x20 ≤ c.toNat || c == '\t') && c.toNat != 0x7f

/-- The short escapes. -/
def escapes : List (Char × Char) :=
  [('b', Char.ofNat 8), ('t', '\t'), ('n', '\n'), ('f', Char.ofNat 12), ('r', '\r'), ('"', '"'),
    ('\\', '\\')]

/-- What stands between the quotes of a string. -/
inductive Body : Text → Text → Prop
  | nil : Body [] []
  | plain {c : Char} {s t : Text} : isPlain c = true → Body s t → Body (c :: s) (c :: t)
  | escape {e c : Char} {s t : Text} : escapes.lookup e = some c → Body s t →
      Body ('\\' :: e :: s) (c :: t)
  | code {hex s t : Text} {c : Char} : hex.length = 4 → Text.hexNumber 0 hex = some c.toNat →
      Body s t → Body ('\\' :: 'u' :: (hex ++ s)) (c :: t)

/-- The digits of a whole number, without leading zeros. -/
def isDigits (t : Text) : Bool :=
  t.all Text.isDigit && !t.isEmpty && (t == ['0'] || t.head? != some '0')

/-- The number that digits write. -/
def natural (t : Text) : Nat := Nat.ofDigitChars 10 t 0

/-- A text without its sign, and whether it has one. -/
def unsigned : Text → Bool × Text
  | '-' :: rest => (true, rest)
  | t => (false, t)

/-- The notation of a whole number. -/
def isInteger (t : Text) : Bool := isDigits (unsigned t).2

/-- The whole number that a text writes. -/
def integer (t : Text) : Int :=
  if (unsigned t).1 then -(natural (unsigned t).2 : Int) else natural (unsigned t).2

/-- The notation of a decimal fraction. -/
def isFraction (t : Text) : Bool :=
  match (unsigned t).2.splitOn '.' with
  | [whole, part] => isDigits whole && part.all Text.isDigit && !part.isEmpty
  | _ => false

/-- The decimal fraction that a text writes. -/
def fraction (t : Text) : Rat :=
  match (unsigned t).2.splitOn '.' with
  | [whole, part] =>
    let value : Rat := natural (whole ++ part) / 10 ^ part.length
    if (unsigned t).1 then -value else value
  | _ => 0

/-- The largest whole number that every reader's numbers can hold, with all the smaller ones. -/
def maxInteger : Nat := 2 ^ 53 - 1

/-- A key that needs no quotes. -/
def isBareKey (t : Text) : Bool :=
  !t.isEmpty && t.all fun c =>
    Text.isDigit c || ('a' ≤ c && c ≤ 'z') || ('A' ≤ c && c ≤ 'Z') || c == '_' || c == '-'

/-- An assignment of a text to a key. -/
def assignment (key value : Text) : Text := key ++ " = ".toList ++ value

/-- The text writes the value. -/
inductive SpellsValue (round : Rat → ν) : Text → Value ν → Prop
  | text {body t : Text} : Body body t → SpellsValue round ('"' :: (body ++ ['"'])) (.text t)
  | boolean (b : Bool) :
      SpellsValue round (if b then "true".toList else "false".toList) (.boolean b)
  | integer {t : Text} : isInteger t = true → (Toml.integer t).natAbs ≤ maxInteger →
      SpellsValue round t (.number (round (Toml.integer t)))
  | fraction {t : Text} : isFraction t = true →
      SpellsValue round t (.number (round (Toml.fraction t)))
  | nil : SpellsValue round "[]".toList (.list [])
  | list {entries : List (Text × Value ν)} : entries ≠ [] →
      (∀ entry ∈ entries, SpellsValue round entry.1 entry.2) →
      SpellsValue round
        ("[ ".toList ++ Text.join ", ".toList (entries.map Prod.fst) ++ " ]".toList)
        (.list (entries.map Prod.snd))
  | inline {entries : List (Text × Text × Value ν)} : entries ≠ [] →
      (entries.map Prod.fst).Nodup → (∀ entry ∈ entries, isBareKey entry.1 = true) →
      (∀ entry ∈ entries, SpellsValue round entry.2.1 entry.2.2) →
      SpellsValue round
        ("\x7b ".toList ++ Text.join ", ".toList (entries.map fun entry =>
          assignment entry.1 entry.2.1) ++ " \x7d".toList)
        (.table (entries.map fun entry => (entry.1, entry.2.2)))

/-! ## Numbers as they are written -/

section Writing

variable {n : Nat}

lemma isDigit_of_mem_toDigits {c : Char} (hc : c ∈ Nat.toDigits 10 n) : Text.isDigit c = true := by
  have hdigit := Nat.isDigit_of_mem_toDigits (by decide) (by decide) hc
  simpa [Char.isDigit, Text.isDigit, Char.le_def] using hdigit

lemma all_isDigit_toDigits (n : Nat) : (Nat.toDigits 10 n).all Text.isDigit = true :=
  List.all_eq_true.mpr fun _ hc => isDigit_of_mem_toDigits hc

lemma head_toDigits : ∀ n : Nat, 0 < n → (Nat.toDigits 10 n).head? ≠ some '0' := by
  intro n hn
  induction n using Nat.base_induction 10 (by decide) with
  | single m hm =>
    have hdigit : ∀ m < 10, 0 < m → some (Nat.digitChar m) ≠ some '0' := by decide
    rw [Nat.toDigits_of_lt_base hm, List.head?_cons]
    exact hdigit m hm hn
  | digit m k hk hm ih =>
    rw [← Nat.toDigits_append_toDigits (by decide) hm hk,
      List.head?_append_of_ne_nil _ Nat.toDigits_ne_nil]
    exact ih hm

lemma isDigits_toDigits (n : Nat) : isDigits (Nat.toDigits 10 n) = true := by
  have hne : (Nat.toDigits 10 n).isEmpty = false := by
    rw [List.isEmpty_eq_false_iff]
    exact Nat.toDigits_ne_nil
  rw [isDigits, all_isDigit_toDigits, hne]
  by_cases hn : n = 0
  · subst hn
    decide
  · have hhead := head_toDigits n (Nat.pos_of_ne_zero hn)
    simp [hhead]

@[simp] lemma natural_toDigits (n : Nat) : natural (Nat.toDigits 10 n) = n :=
  Nat.ofDigitChars_ten_toDigits

/-- Digits write less than their number allows. -/
lemma natural_lt : ∀ {t : Text}, t.all Text.isDigit = true → natural t < 10 ^ t.length
  | [], _ => by decide
  | c :: t, h => by
    rw [List.all_cons, Bool.and_eq_true] at h
    have hrest : Nat.ofDigitChars 10 t 0 < 10 ^ t.length := natural_lt h.2
    have hdigit : c.toNat - '0'.toNat ≤ 9 := by
      have hc := h.1
      simp only [Text.isDigit, Bool.and_eq_true, decide_eq_true_eq, Char.le_def,
        UInt32.le_iff_toNat_le] at hc
      have hnine : c.toNat ≤ '9'.toNat := hc.2
      have : '9'.toNat - '0'.toNat = 9 := by decide
      omega
    have hlead : 10 ^ t.length * (c.toNat - '0'.toNat) ≤ 10 ^ t.length * 9 :=
      Nat.mul_le_mul_left _ hdigit
    rw [natural, Nat.ofDigitChars_cons, Nat.ofDigitChars_eq_ofDigitChars_zero, List.length_cons,
      Nat.pow_succ, Nat.mul_zero, Nat.zero_add]
    omega

lemma unsigned_of_digit {c : Char} {t : Text} (h : Text.isDigit c = true) :
    unsigned (c :: t) = (false, c :: t) := by
  have hne : c ≠ '-' := by
    rintro rfl
    exact absurd h (by decide)
  rw [unsigned]
  rintro rest hcons
  exact hne (List.cons.inj hcons).1

lemma unsigned_of_digits {t rest : Text} (h : t.all Text.isDigit = true) (hne : t ≠ []) :
    unsigned (t ++ rest) = (false, t ++ rest) := by
  obtain ⟨c, t, rfl⟩ := List.exists_cons_of_ne_nil hne
  rw [List.all_cons, Bool.and_eq_true] at h
  exact unsigned_of_digit h.1

/-- A decimal fraction in two parts. -/
lemma fraction_append {whole part : Text} (hwhole : isDigits whole = true)
    (hpart : part.all Text.isDigit = true) (hne : part ≠ []) :
    isFraction (whole ++ '.' :: part) = true ∧
      fraction (whole ++ '.' :: part) = natural (whole ++ part) / 10 ^ part.length := by
  have hdots : ∀ {t : Text}, t.all Text.isDigit = true → '.' ∉ t := by
    intro t ht hmem
    exact absurd (List.all_eq_true.mp ht _ hmem) (by decide)
  have hdigits : whole.all Text.isDigit = true ∧ whole ≠ [] := by
    rw [isDigits, Bool.and_eq_true, Bool.and_eq_true] at hwhole
    refine ⟨hwhole.1.1, ?_⟩
    rintro rfl
    exact absurd hwhole.1.2 (by decide)
  have hunsigned : unsigned (whole ++ '.' :: part) = _ :=
    unsigned_of_digits hdigits.1 hdigits.2
  have hsplit : (whole ++ '.' :: part).splitOn '.' = [whole, part] := by
    rw [List.splitOn_append_cons_self_of_not_mem (hdots hdigits.1),
      List.splitOn_eq_singleton (hdots hpart)]
  have hempty : part.isEmpty = false := List.isEmpty_eq_false_iff.mpr hne
  constructor
  · rw [isFraction, hunsigned]
    simp [hsplit, hwhole, hpart, hempty]
  · rw [fraction, hunsigned]
    simp [hsplit]

end Writing

/-! ## Documents -/

/-- A statement of a document. -/
inductive Statement (ν : Type)
  | header (path : List Text)
  | assign (key : Text) (value : Value ν)

/-- The line writes the statement, or none. -/
inductive SpellsLine (round : Rat → ν) : Text → Option (Statement ν) → Prop
  | blank : SpellsLine round [] none
  | header {path : List Text} : path ≠ [] → (∀ key ∈ path, isBareKey key = true) →
      SpellsLine round ('[' :: (Text.join ['.'] path ++ [']'])) (some (.header path))
  | assign {key t : Text} {value : Value ν} : isBareKey key = true → SpellsValue round t value →
      SpellsLine round (assignment key t) (some (.assign key value))

/-- The text writes the statements, each on a line of its own. -/
def Spells (round : Rat → ν) (text : Text) (statements : List (Statement ν)) : Prop :=
  ∃ lines : List (Text × Option (Statement ν)), lines ≠ [] ∧
    (∀ line ∈ lines, SpellsLine round line.1 line.2) ∧
      text = Text.join ['\n'] (lines.map Prod.fst) ∧ statements = lines.filterMap Prod.snd

/-- What statements define, with their paths: values, and tables that no value is given for. -/
def items : List Text → List (Statement ν) → List (List Text × Option (Value ν))
  | _, [] => []
  | _, .header path :: rest => (path, none) :: items path rest
  | table, .assign key value :: rest => (table ++ [key], some value) :: items table rest

/-- Nothing is defined twice, and nothing is defined inside of a value. -/
structure Distinct (defined : List (List Text × Option (Value ν))) : Prop where
  nodup : (defined.map Prod.fst).Nodup
  leaf : ∀ path value, (path, some value) ∈ defined → ∀ item ∈ defined, path <+: item.1 →
    item.1 = path

/-- The statements define each table and each key once. -/
def Valid (statements : List (Statement ν)) : Prop := Distinct (items [] statements)

/-! ## What a document means -/

/-- What is defined behind a key. -/
def behind (key : Text) (defined : List (List Text × Option (Value ν))) :
    List (List Text × Option (Value ν)) :=
  defined.filterMap fun item =>
    match item.1 with
    | [] => none
    | first :: rest => if first = key then some (rest, item.2) else none

/-- The first keys of what is defined. -/
def firstKeys (defined : List (List Text × Option (Value ν))) : List Text :=
  (defined.filterMap fun item => item.1.head?).dedup

/-- The value given for the place itself. -/
def given (defined : List (List Text × Option (Value ν))) : Option (Value ν) :=
  defined.findSome? fun item => if item.1 = [] then item.2 else none

/-- The value at a place: the one given, or the table of what is defined behind each key. -/
def node : Nat → List (List Text × Option (Value ν)) → Value ν
  | 0, _ => .table []
  | depth + 1, defined =>
    match given defined with
    | some value => value
    | none => .table ((firstKeys defined).map fun key => (key, node depth (behind key defined)))

/-- The depth of what is defined. -/
def depth (defined : List (List Text × Option (Value ν))) : Nat :=
  (defined.map fun item => item.1.length).foldr max 0 + 1

/-- The value that statements mean. -/
def document (statements : List (Statement ν)) : Value ν :=
  node (depth (items [] statements)) (items [] statements)

/-- A reader of the language: what a text's statements mean is what it reads, if they are valid. -/
def Implements (round : Rat → ν) (parse : Text → Option (Value ν)) : Prop :=
  ∀ text statements, Spells round text statements → Valid statements →
    parse text = some (document statements)

/-! ## Where a document has a value -/

section Meaning

variable {defined : List (List Text × Option (Value ν))} {key : Text} {path : List Text}

lemma mem_behind {value : Option (Value ν)} :
    (path, value) ∈ behind key defined ↔ (key :: path, value) ∈ defined := by
  rw [behind, List.mem_filterMap]
  constructor
  · rintro ⟨⟨full, found⟩, hmem, hitem⟩
    cases full with
    | nil => simp at hitem
    | cons first rest =>
      simp only [Option.ite_none_right_eq_some, Option.some.injEq, Prod.mk.injEq] at hitem
      obtain ⟨rfl, rfl, rfl⟩ := hitem
      exact hmem
  · intro hmem
    exact ⟨(key :: path, value), hmem, by simp⟩

lemma map_behind (key : Text) (defined : List (List Text × Option (Value ν))) :
    (behind key defined).map (fun item => key :: item.1) =
      (defined.map Prod.fst).filter fun path => path.head? == some key := by
  induction defined with
  | nil => rfl
  | cons item defined ih =>
    obtain ⟨full, value⟩ := item
    cases full with
    | nil => simpa [behind] using ih
    | cons first rest =>
      by_cases hfirst : first = key
      · subst hfirst
        simpa [behind] using ih
      · simpa [behind, hfirst] using ih

lemma Distinct.behind (h : Distinct defined) (key : Text) :
    Distinct (Toml.behind key defined) where
  nodup := by
    have hsub := h.nodup.filter fun path => path.head? == some key
    rw [← map_behind] at hsub
    have hcons : (((Toml.behind key defined).map Prod.fst).map fun path => key :: path).Nodup := by
      rw [List.map_map]
      exact hsub
    exact hcons.of_map
  leaf path value hmem item hitem hprefix := by
    have hbehind := h.leaf (key :: path) value (mem_behind.mp hmem) (key :: item.1, item.2)
      (mem_behind.mp hitem) (List.prefix_cons_inj key |>.mpr hprefix)
    exact (List.cons.inj hbehind).2

lemma given_eq_some (h : Distinct defined) {value : Value ν} (hmem : ([], some value) ∈ defined) :
    given defined = some value := by
  cases hgiven : given defined with
  | none =>
    rw [given, List.findSome?_eq_none_iff] at hgiven
    exact absurd (hgiven _ hmem) (by simp)
  | some found =>
    obtain ⟨⟨path, other⟩, hitem, hfound⟩ := List.exists_of_findSome?_eq_some hgiven
    rw [Option.ite_none_right_eq_some] at hfound
    obtain ⟨rfl, rfl⟩ := hfound
    have hsame := List.inj_on_of_nodup_map h.nodup hitem hmem rfl
    rw [Prod.mk.injEq] at hsame
    exact hsame.2

lemma given_eq_none (h : ∀ value, ([], some value) ∉ defined) : given defined = none := by
  rw [given, List.findSome?_eq_none_iff]
  rintro ⟨path, value⟩ hmem
  by_cases hpath : path = []
  · rw [if_pos hpath]
    cases value with
    | none => rfl
    | some value => exact absurd (hpath ▸ hmem) (h value)
  · rw [if_neg hpath]

lemma mem_firstKeys : key ∈ firstKeys defined ↔ ∃ path value, (key :: path, value) ∈ defined := by
  rw [firstKeys, List.mem_dedup, List.mem_filterMap]
  constructor
  · rintro ⟨⟨path, value⟩, hmem, hhead⟩
    obtain ⟨rest, rfl⟩ := List.head?_eq_some_iff.mp hhead
    exact ⟨rest, value, hmem⟩
  · rintro ⟨path, value, hmem⟩
    exact ⟨(key :: path, value), hmem, rfl⟩

lemma lookup_keys {keys : List Text} (f : Text → Value ν) :
    (keys.map fun key => (key, f key)).lookup key = if key ∈ keys then some (f key) else none := by
  induction keys with
  | nil => rfl
  | cons first keys ih =>
    rw [List.map_cons, List.lookup_cons]
    by_cases hkey : key = first
    · subst hkey
      simp
    · rw [beq_false_of_ne hkey]
      simp [hkey, ih]

/-- What a table holds under a key is what is defined behind it. -/
lemma field_node (hnone : given defined = none) {value : Option (Value ν)}
    (hmem : (key :: path, value) ∈ defined) (count : Nat) :
    (node (count + 1) defined).field key = some (node count (behind key defined)) := by
  rw [node, hnone, Value.field, lookup_keys, if_pos (mem_firstKeys.mpr ⟨path, value, hmem⟩)]

/-- **A value is found where it is defined.** -/
lemma descend_node (h : Distinct defined) {value : Value ν} {count : Nat}
    (hmem : (path, some value) ∈ defined) (hcount : path.length < count) :
    (node count defined).descend path = some value := by
  induction path generalizing defined count with
  | nil =>
    obtain ⟨more, rfl⟩ := Nat.exists_eq_add_of_lt hcount
    rw [Value.descend, node, given_eq_some h hmem]
  | cons key path ih =>
    obtain ⟨more, rfl⟩ := Nat.exists_eq_add_of_lt hcount
    have hnone : given defined = none := by
      refine given_eq_none fun outer houter => ?_
      have heq := h.leaf [] outer houter _ hmem List.nil_prefix
      exact absurd heq (by simp)
    rw [List.length_cons] at hcount ⊢
    rw [Value.descend, field_node hnone hmem, Option.bind_some]
    exact ih (h.behind key) (mem_behind.mpr hmem) (by omega)

/-- A table that nothing is defined inside of is found empty. -/
lemma descend_empty {count : Nat} (hmem : (path, none) ∈ defined)
    (halone : ∀ item ∈ defined, path <+: item.1 → item = (path, none))
    (hleaf : ∀ outer value, (outer, some value) ∈ defined → ¬outer <+: path)
    (hcount : path.length < count) :
    (node count defined).descend path = some (.table []) := by
  induction path generalizing defined count with
  | nil =>
    obtain ⟨more, rfl⟩ := Nat.exists_eq_add_of_lt hcount
    have hkeys : firstKeys defined = [] := by
      rw [List.eq_nil_iff_forall_not_mem]
      intro key hkey
      obtain ⟨rest, value, hitem⟩ := mem_firstKeys.mp hkey
      exact absurd (halone _ hitem List.nil_prefix) (by simp)
    rw [Value.descend, node,
      given_eq_none fun value hvalue => hleaf [] value hvalue List.nil_prefix, hkeys]
    rfl
  | cons key path ih =>
    obtain ⟨more, rfl⟩ := Nat.exists_eq_add_of_lt hcount
    have hnone : given defined = none :=
      given_eq_none fun value hvalue => hleaf [] value hvalue List.nil_prefix
    rw [List.length_cons] at hcount ⊢
    rw [Value.descend, field_node hnone hmem, Option.bind_some]
    refine ih (mem_behind.mpr hmem) (fun item hitem hprefix => ?_) (fun outer value houter => ?_)
      (by omega)
    · have hsame := halone (key :: item.1, item.2) (mem_behind.mp hitem)
        ((List.prefix_cons_inj key).mpr hprefix)
      rw [Prod.mk.injEq, List.cons.injEq] at hsame
      exact Prod.ext hsame.1.2 hsame.2
    · intro hprefix
      exact hleaf (key :: outer) value (mem_behind.mp houter)
        ((List.prefix_cons_inj key).mpr hprefix)

/-- Nothing is found where nothing is defined. -/
lemma descend_absent (hpath : path ≠ []) (habsent : ∀ item ∈ defined, ¬path <+: item.1)
    (hleaf : ∀ outer value, (outer, some value) ∈ defined → ¬outer <+: path) (count : Nat) :
    (node count defined).descend path = none := by
  induction path generalizing defined count with
  | nil => exact absurd rfl hpath
  | cons key path ih =>
    rw [Value.descend]
    cases count with
    | zero => rfl
    | succ count =>
      have hnone : given defined = none :=
        given_eq_none fun value hvalue => hleaf [] value hvalue List.nil_prefix
      by_cases hkey : ∃ rest value, (key :: rest, value) ∈ defined
      · obtain ⟨rest, value, hmem⟩ := hkey
        rw [field_node hnone hmem, Option.bind_some]
        refine ih ?_ (fun item hitem hprefix => ?_) (fun outer value houter hprefix => ?_) count
        · rintro rfl
          exact habsent _ hmem ((List.prefix_cons_inj key).mpr List.nil_prefix)
        · exact habsent (key :: item.1, item.2) (mem_behind.mp hitem)
            ((List.prefix_cons_inj key).mpr hprefix)
        · exact hleaf (key :: outer) value (mem_behind.mp houter)
            ((List.prefix_cons_inj key).mpr hprefix)
      · rw [node, hnone, Value.field, lookup_keys, if_neg fun hmem => hkey (mem_firstKeys.mp hmem)]
        rfl

lemma lt_depth {item : List Text × Option (Value ν)} (hmem : item ∈ defined) :
    item.1.length < depth defined := by
  have hle : ∀ lengths : List Nat, ∀ n ∈ lengths, n ≤ lengths.foldr max 0 := by
    intro lengths n hn
    induction lengths with
    | nil => cases hn
    | cons first lengths ih =>
      rw [List.foldr_cons]
      rcases List.mem_cons.mp hn with rfl | hn
      · exact Nat.le_max_left _ _
      · exact (ih hn).trans (Nat.le_max_right _ _)
  exact Nat.lt_succ_of_le (hle _ _ (List.mem_map.mpr ⟨item, hmem, rfl⟩))

end Meaning

section Documents

variable {statements : List (Statement ν)} {path : List Text}

/-- **A document has the values that its statements assign.** -/
lemma descend_document (h : Valid statements) {value : Value ν}
    (hmem : (path, some value) ∈ items [] statements) :
    (document statements).descend path = some value :=
  descend_node h hmem (lt_depth hmem)

end Documents

end Toml

end OpenMcc
