import OpenMcc.Framework.Utf8

/-!
# Texts in addresses

`encodeURIComponent` writes a text with the characters that an address keeps, and the bytes of all
others as `%` and two digits.  `decodeURIComponent` reads what is written so
(`percentBytes_encode`), and a text that has no `%` as it stands (`percentBytes_cons`).
-/

namespace OpenMcc.PercentText

/-- A digit of a byte. -/
def digit (n : Nat) : Char :=
  if n < 10 then Char.ofNat ('0'.toNat + n) else Char.ofNat ('A'.toNat + (n - 10))

/-- A byte as it is written. -/
def percentByte (b : UInt8) : Text := ['%', digit (b.toNat / 16), digit (b.toNat % 16)]

/-- The characters that are kept. -/
def isKept (c : Char) : Bool := c.isAlphanum || "-_.!~*'()".toList.contains c

/-- `encodeURIComponent`. -/
def encodeURIComponent (t : Text) : Text :=
  t.flatMap fun c => if isKept c then [c] else (Utf8.encode [c]).flatMap percentByte

/-- The bytes that a text stands for. -/
def percentBytes : Text → Option (List UInt8)
  | [] => some []
  | '%' :: high :: low :: t =>
    (Text.hexDigit high).bind fun a => (Text.hexDigit low).bind fun b =>
      (percentBytes t).map fun bytes => UInt8.ofNat (a * 16 + b) :: bytes
  | '%' :: _ => none
  | c :: t => (percentBytes t).map fun bytes => Utf8.encode [c] ++ bytes

/-- `decodeURIComponent`, and `none` where it throws. -/
def decodeURIComponent (t : Text) : Option Text := (percentBytes t).bind Utf8.decode

lemma hexDigit_digit : ∀ n < 16, Text.hexDigit (digit n) = some n := by decide

/-- A byte that is written is read. -/
lemma percentBytes_byte (b : UInt8) (t : Text) :
    percentBytes (percentByte b ++ t) = (percentBytes t).map fun bytes => b :: bytes := by
  have hlt := b.toNat_lt
  have hb : UInt8.ofNat (b.toNat / 16 * 16 + b.toNat % 16) = b := by
    rw [Nat.div_add_mod']
    exact UInt8.ofNat_toNat
  rw [percentByte, List.cons_append, List.cons_append, List.cons_append, List.nil_append,
    percentBytes, hexDigit_digit _ (by omega), hexDigit_digit _ (by omega), Option.bind_some,
    Option.bind_some, hb]

lemma percentBytes_bytes (bytes : List UInt8) (t : Text) :
    percentBytes (bytes.flatMap percentByte ++ t) =
      (percentBytes t).map fun rest => bytes ++ rest := by
  induction bytes with
  | nil => exact Option.map_id'.symm
  | cons b bytes ih =>
    rw [List.flatMap_cons, List.append_assoc, percentBytes_byte, ih, Option.map_map]
    rfl

/-- Any character but `%` stands for itself. -/
lemma percentBytes_cons {c : Char} (h : c ≠ '%') (t : Text) :
    percentBytes (c :: t) = (percentBytes t).map fun bytes => Utf8.encode [c] ++ bytes := by
  rw [percentBytes.eq_def]
  split
  · rename_i heq
    cases heq
  · rename_i heq
    exact absurd (List.cons.inj heq).1 h
  · rename_i heq
    exact absurd (List.cons.inj heq).1 h
  · rename_i heq
    obtain ⟨rfl, rfl⟩ := List.cons.inj heq
    rfl

lemma isKept_ne {c : Char} (h : isKept c = true) : c ≠ '%' := by
  rintro rfl
  exact absurd h (by decide)

/-- **What is written is read**, and what comes after it. -/
lemma percentBytes_encode (t rest : Text) :
    percentBytes (encodeURIComponent t ++ rest) =
      (percentBytes rest).map fun bytes => Utf8.encode t ++ bytes := by
  induction t with
  | nil => exact Option.map_id'.symm
  | cons c t ih =>
    have hcons : Utf8.encode (c :: t) = Utf8.encode [c] ++ Utf8.encode t :=
      Utf8.encode_append [c] t
    have hencode : encodeURIComponent (c :: t) =
        (if isKept c then [c] else (Utf8.encode [c]).flatMap percentByte) ++
          encodeURIComponent t := List.flatMap_cons
    rw [hencode, List.append_assoc]
    split
    · rename_i hkept
      rw [List.singleton_append, percentBytes_cons (isKept_ne hkept), ih, Option.map_map, hcons]
      simp only [List.append_assoc]
      rfl
    · rw [percentBytes_bytes, ih, Option.map_map, hcons]
      simp only [List.append_assoc]
      rfl

/-- **The round trip.** -/
theorem decode_encode (t : Text) : decodeURIComponent (encodeURIComponent t) = some t := by
  have hbytes := percentBytes_encode t []
  rw [List.append_nil] at hbytes
  rw [decodeURIComponent, hbytes, percentBytes, Option.map_some, List.append_nil,
    Option.bind_some, Utf8.decode_encode]

end OpenMcc.PercentText
