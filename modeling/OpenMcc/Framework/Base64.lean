import OpenMcc.Framework.Text

/-!
# Base64

Three bytes are written in four letters of six bits each, and what is left at the end is filled up
with `=`.  `decode` reads what `encode` writes (`decode_encode`).
-/

namespace OpenMcc.Base64

/-- The letter for six bits. -/
def letter (n : Nat) : Char :=
  if n < 26 then Char.ofNat ('A'.toNat + n)
  else if n < 52 then Char.ofNat ('a'.toNat + (n - 26))
  else if n < 62 then Char.ofNat ('0'.toNat + (n - 52))
  else if n = 62 then '+'
  else '/'

/-- The six bits of a letter. -/
def bits (c : Char) : Option Nat :=
  if 'A' ≤ c ∧ c ≤ 'Z' then some (c.toNat - 'A'.toNat)
  else if 'a' ≤ c ∧ c ≤ 'z' then some (c.toNat - 'a'.toNat + 26)
  else if '0' ≤ c ∧ c ≤ '9' then some (c.toNat - '0'.toNat + 52)
  else if c = '+' then some 62
  else if c = '/' then some 63
  else none

/-- A character of the encoding. -/
def isBase64 (c : Char) : Bool := (bits c).isSome || c == '='

/-- The encoding of the bytes. -/
def encode : List UInt8 → Text
  | [] => []
  | [a] => [letter (a.toNat / 4), letter (a.toNat % 4 * 16), '=', '=']
  | [a, b] =>
    [letter (a.toNat / 4), letter (a.toNat % 4 * 16 + b.toNat / 16), letter (b.toNat % 16 * 4), '=']
  | a :: b :: c :: rest =>
    letter (a.toNat / 4) :: letter (a.toNat % 4 * 16 + b.toNat / 16) ::
      letter (b.toNat % 16 * 4 + c.toNat / 64) :: letter (c.toNat % 64) :: encode rest

/-- The bytes of an encoding. -/
def decode : Text → Option (List UInt8)
  | [] => some []
  | w :: x :: y :: z :: rest => do
    let w ← bits w
    let x ← bits x
    let first := UInt8.ofNat (w * 4 + x / 16)
    if y = '=' ∧ z = '=' ∧ rest = [] then
      some [first]
    else
      let y ← bits y
      let second := UInt8.ofNat (x % 16 * 16 + y / 4)
      if z = '=' ∧ rest = [] then
        some [first, second]
      else
        let z ← bits z
        let bytes ← decode rest
        some (first :: second :: UInt8.ofNat (y % 4 * 64 + z) :: bytes)
  | _ => none

lemma bits_letter {n : Nat} (h : n < 64) : bits (letter n) = some n := by
  revert n
  decide

lemma letter_ne_pad {n : Nat} (h : n < 64) : letter n ≠ '=' := by
  revert n
  decide

lemma isBase64_letter {n : Nat} (h : n < 64) : isBase64 (letter n) = true := by
  rw [isBase64, bits_letter h]
  rfl

lemma ofNat_eq {a : UInt8} {n : Nat} (h : n = a.toNat) : UInt8.ofNat n = a := by
  rw [h, UInt8.ofNat_toNat]

/-- **The round trip.** -/
lemma decode_encode (bytes : List UInt8) : decode (encode bytes) = some bytes := by
  fun_induction encode bytes with
  | case1 => rfl
  | case2 a =>
    have ha := a.toNat_lt
    simp only [decode, bits_letter (show a.toNat / 4 < 64 by omega),
      bits_letter (show a.toNat % 4 * 16 < 64 by omega), Option.bind_eq_bind, Option.bind_some,
      ofNat_eq (show a.toNat / 4 * 4 + a.toNat % 4 * 16 / 16 = a.toNat by omega), and_self, if_true]
  | case3 a b =>
    have ha := a.toNat_lt
    have hb := b.toNat_lt
    simp only [decode, bits_letter (show a.toNat / 4 < 64 by omega),
      bits_letter (show a.toNat % 4 * 16 + b.toNat / 16 < 64 by omega),
      bits_letter (show b.toNat % 16 * 4 < 64 by omega), Option.bind_eq_bind, Option.bind_some,
      letter_ne_pad (show b.toNat % 16 * 4 < 64 by omega), and_self, false_and, if_true, if_false,
      ofNat_eq (show a.toNat / 4 * 4 + (a.toNat % 4 * 16 + b.toNat / 16) / 16 = a.toNat by omega),
      ofNat_eq (show (a.toNat % 4 * 16 + b.toNat / 16) % 16 * 16 + b.toNat % 16 * 4 / 4 = b.toNat
        by omega)]
  | case4 a b c rest ih =>
    have ha := a.toNat_lt
    have hb := b.toNat_lt
    have hc := c.toNat_lt
    simp only [decode, bits_letter (show a.toNat / 4 < 64 by omega),
      bits_letter (show a.toNat % 4 * 16 + b.toNat / 16 < 64 by omega),
      bits_letter (show b.toNat % 16 * 4 + c.toNat / 64 < 64 by omega),
      bits_letter (show c.toNat % 64 < 64 by omega), Option.bind_eq_bind, Option.bind_some,
      letter_ne_pad (show b.toNat % 16 * 4 + c.toNat / 64 < 64 by omega),
      letter_ne_pad (show c.toNat % 64 < 64 by omega), false_and, if_false, ih,
      ofNat_eq (show a.toNat / 4 * 4 + (a.toNat % 4 * 16 + b.toNat / 16) / 16 = a.toNat by omega),
      ofNat_eq (show (a.toNat % 4 * 16 + b.toNat / 16) % 16 * 16 +
        (b.toNat % 16 * 4 + c.toNat / 64) / 4 = b.toNat by omega),
      ofNat_eq (show (b.toNat % 16 * 4 + c.toNat / 64) % 4 * 64 + c.toNat % 64 = c.toNat by omega)]

lemma isBase64_pad : isBase64 '=' = true := rfl

lemma all_isBase64_encode (bytes : List UInt8) : (encode bytes).all isBase64 = true := by
  fun_induction encode bytes with
  | case1 => rfl
  | case2 a =>
    have ha := a.toNat_lt
    simp [isBase64_pad, isBase64_letter (show a.toNat / 4 < 64 by omega),
      isBase64_letter (show a.toNat % 4 * 16 < 64 by omega)]
  | case3 a b =>
    have ha := a.toNat_lt
    have hb := b.toNat_lt
    simp [isBase64_pad, isBase64_letter (show a.toNat / 4 < 64 by omega),
      isBase64_letter (show a.toNat % 4 * 16 + b.toNat / 16 < 64 by omega),
      isBase64_letter (show b.toNat % 16 * 4 < 64 by omega)]
  | case4 a b c rest ih =>
    have ha := a.toNat_lt
    have hb := b.toNat_lt
    have hc := c.toNat_lt
    rw [List.all_cons, List.all_cons, List.all_cons, List.all_cons, ih,
      isBase64_letter (show a.toNat / 4 < 64 by omega),
      isBase64_letter (show a.toNat % 4 * 16 + b.toNat / 16 < 64 by omega),
      isBase64_letter (show b.toNat % 16 * 4 + c.toNat / 64 < 64 by omega),
      isBase64_letter (show c.toNat % 64 < 64 by omega)]
    rfl

example : encode [77, 97] = "TWE=".toList ∧ decode "TWE=".toList = some [77, 97] := by decide

end OpenMcc.Base64
