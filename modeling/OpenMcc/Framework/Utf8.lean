import OpenMcc.Framework.Text

/-!
# Texts and their bytes

`encode` writes a text in UTF-8, and `decode` reads the bytes back (`decode_encode`).  A byte below
128 stands for its own character and is part of no other (`mem_of_mem_encode`).
-/

namespace OpenMcc.Utf8

/-- The bytes of a text. -/
def encode (t : Text) : List UInt8 := t.flatMap String.utf8EncodeChar

/-- The text of the bytes, if they are one. -/
def decode (bytes : List UInt8) : Option Text := bytes.toByteArray.utf8Decode?.map Array.toList

lemma encode_append (t t' : Text) : encode (t ++ t') = encode t ++ encode t' :=
  List.flatMap_append

lemma decode_encode (t : Text) : decode (encode t) = some t := by
  have h : (encode t).toByteArray.utf8Decode? = some t.toArray := List.utf8Decode?_utf8Encode
  rw [decode, h]
  rfl

/-- The bytes of a character below 128, and of any other. -/
lemma utf8EncodeChar_cases (c : Char) :
    (∃ b : UInt8, String.utf8EncodeChar c = [b] ∧ b.toNat = c.toNat) ∨
      ∀ b ∈ String.utf8EncodeChar c, 128 ≤ b.toNat := by
  have hbyte : ∀ n lead : Nat, 128 ≤ lead → n + lead < 256 →
      128 ≤ (UInt8.ofNat (n + lead)).toNat := by
    intro n lead hlead hlt
    rw [UInt8.toNat_ofNat_of_lt' hlt]
    omega
  fun_cases String.utf8EncodeChar c with
  | case1 v h =>
    left
    exact ⟨_, rfl, UInt8.toNat_ofNat_of_lt' (Nat.lt_of_le_of_lt h (by decide))⟩
  | case2 v h h' =>
    right
    simp only [List.mem_cons, List.not_mem_nil, or_false, forall_eq_or_imp, forall_eq]
    exact ⟨hbyte _ _ (by decide) (by omega), hbyte _ _ (by decide) (by omega)⟩
  | case3 v h h' h'' =>
    right
    simp only [List.mem_cons, List.not_mem_nil, or_false, forall_eq_or_imp, forall_eq]
    exact ⟨hbyte _ _ (by decide) (by omega), hbyte _ _ (by decide) (by omega),
      hbyte _ _ (by decide) (by omega)⟩
  | case4 v h h' h'' =>
    right
    simp only [List.mem_cons, List.not_mem_nil, or_false, forall_eq_or_imp, forall_eq]
    exact ⟨hbyte _ _ (by decide) (by omega), hbyte _ _ (by decide) (by omega),
      hbyte _ _ (by decide) (by omega), hbyte _ _ (by decide) (by omega)⟩

/-- A byte below 128 stands for its own character. -/
lemma mem_of_mem_encode {t : Text} {b : UInt8} (hb : b.toNat < 128) (h : b ∈ encode t) :
    ∃ c ∈ t, c.toNat = b.toNat := by
  obtain ⟨c, hc, hmem⟩ := List.mem_flatMap.mp h
  rcases utf8EncodeChar_cases c with ⟨byte, hbytes, hval⟩ | hlarge
  · rw [hbytes] at hmem
    obtain rfl := List.mem_singleton.mp hmem
    exact ⟨c, hc, hval.symm⟩
  · exact absurd (hlarge b hmem) (by omega)

end OpenMcc.Utf8
