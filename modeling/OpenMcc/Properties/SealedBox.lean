import OpenMcc.Construction.SealedBox
import OpenMcc.Framework.Base64
import OpenMcc.Framework.Utf8

/-!
# Changing the keys loses no secret

A pair of keys that `generateKeyPair` made is put before the ones there are.  Then the store is made
of the longer text too, it seals under the new pair, and it opens what the old store has sealed
(`rotate`).  That the text names the key everyone knows is seen before the store is made, and just
when the store would have that key (`usesKnownInsecureKey_iff`).
-/

namespace OpenMcc

namespace SealedBox

variable {sodium : Sodium} {IsPair : Bytes → Bytes → Prop} {drawn : KeyEntry → Bytes}
  {store : SecretStore} {spec : Text}

/-! ## Texts of entries -/

lemma trim_eq_self {t : Text} (hhead : ∀ c ∈ t.head?, Text.isSpace c = false)
    (hlast : ∀ c ∈ t.getLast?, Text.isSpace c = false) : Text.trim t = t := by
  cases t with
  | nil => rfl
  | cons c t =>
    rw [Text.trim, Text.trimStart_cons (hhead c rfl)]
    obtain ⟨before, last, heq⟩ := List.eq_nil_or_concat (c :: t) |>.resolve_left
      (List.cons_ne_nil _ _)
    rw [List.concat_eq_append] at heq
    rw [heq] at hlast ⊢
    have hspace : Text.isSpace last = false := hlast last List.getLast?_concat
    rw [Text.trimEnd, List.reverse_append, List.reverse_singleton, List.singleton_append,
      List.dropWhile_cons, if_neg (by rw [hspace]; exact Bool.false_ne_true), List.reverse_cons,
      List.reverse_reverse]

lemma entryTexts_cons {raw : Text} (hcomma : ',' ∉ raw) (spec : Text) :
    entryTexts (raw ++ ',' :: spec) =
      (if Text.trim raw = [] then [] else [Text.trim raw]) ++ entryTexts spec := by
  rw [entryTexts, List.splitOn_append_cons_self, List.splitOn_eq_singleton hcomma,
    List.singleton_append, List.map_cons, List.filter_cons, entryTexts]
  by_cases hempty : Text.trim raw = []
  · rw [if_pos hempty, hempty]
    rfl
  · rw [if_neg hempty, if_pos, List.singleton_append]
    rw [Bool.not_eq_true', List.isEmpty_eq_false_iff]
    exact hempty

section Generated

variable (hdoc : Documented sodium IsPair) {keyId : Text} {publicKey privateKey : Bytes}
include hdoc

lemma not_mem_toBase64 (bytes : Bytes) : ':' ∉ sodium.toBase64 bytes ∧
    ',' ∉ sodium.toBase64 bytes :=
  ⟨fun h => (hdoc.toBase64_plain bytes _ h).1 rfl, fun h => (hdoc.toBase64_plain bytes _ h).2.1 rfl⟩

/-- What is generated is parsed. -/
lemma parseEntry_generateKeyPair (hid : keyId ≠ []) (hcolon : ':' ∉ keyId)
    (hpublic : publicKey ≠ []) (hprivate : privateKey ≠ []) :
    parseEntry sodium (generateKeyPair sodium keyId publicKey privateKey) =
      .ok ⟨keyId, publicKey, privateKey⟩ := by
  have hsplit : (generateKeyPair sodium keyId publicKey privateKey).splitOn ':' =
      [keyId, sodium.toBase64 publicKey, sodium.toBase64 privateKey] := by
    rw [generateKeyPair, List.splitOn_append_cons_self, List.splitOn_append_cons_self,
      List.splitOn_eq_singleton hcolon, List.splitOn_eq_singleton (not_mem_toBase64 hdoc _).1,
      List.splitOn_eq_singleton (not_mem_toBase64 hdoc _).1]
    rfl
  have hfull : ¬ (keyId = [] ∨ sodium.toBase64 publicKey = [] ∨
      sodium.toBase64 privateKey = []) := by
    rintro (h | h | h)
    · exact hid h
    · exact hdoc.toBase64_ne_nil _ hpublic h
    · exact hdoc.toBase64_ne_nil _ hprivate h
  rw [parseEntry, hsplit]
  simp only [if_neg hfull, hdoc.fromBase64_toBase64]

lemma trim_generateKeyPair (hhead : keyId.head?.any Text.isSpace = false) (hid : keyId ≠ [])
    (hprivate : privateKey ≠ []) :
    Text.trim (generateKeyPair sodium keyId publicKey privateKey) =
      generateKeyPair sodium keyId publicKey privateKey := by
  refine trim_eq_self ?_ ?_
  · intro c hc
    rw [generateKeyPair, List.head?_append_of_ne_nil _ hid] at hc
    rw [Option.mem_def.1 hc] at hhead
    exact hhead
  · intro c hc
    have hne := hdoc.toBase64_ne_nil _ hprivate
    have hend : generateKeyPair sodium keyId publicKey privateKey =
        (keyId ++ ':' :: (sodium.toBase64 publicKey ++ [':'])) ++ sodium.toBase64 privateKey := by
      simp only [generateKeyPair, List.append_assoc, List.cons_append, List.nil_append]
    rw [hend, List.getLast?_append_of_ne_nil _ hne] at hc
    exact (hdoc.toBase64_plain _ c (List.mem_of_getLast? hc)).2.2

end Generated

/-! ## The store that is made -/

lemma mapM_ok_cons {α β ε : Type} {f : α → Except ε β} {a : α} {as : List α} {b : β}
    (ha : f a = .ok b) : (a :: as).mapM f =
      match as.mapM f with
      | .error error => .error error
      | .ok bs => .ok (b :: bs) := by
  rw [List.mapM_cons, ha]
  cases as.mapM f with
  | error error => rfl
  | ok bs => rfl

/-- What holds of the entries that a store is made of. -/
lemma storeOf_eq_ok {entries : List KeyEntry} (h : storeOf sodium drawn entries = .ok store) :
    store.entries = entries ∧
      ∃ units, (entries.mapM fun entry => verifyKeyPair sodium (drawn entry) entry) =
        .ok units := by
  rw [storeOf] at h
  split at h
  · split at h
    · cases h
    · rename_i units hunits
      split at h
      · cases h
      · cases h
        exact ⟨rfl, units, hunits⟩
  · cases h

lemma createSecretStore_eq_ok (h : createSecretStore sodium drawn spec = .ok store) :
    (entryTexts spec).mapM (parseEntry sodium) = .ok store.entries ∧
      ∃ units, (store.entries.mapM fun entry => verifyKeyPair sodium (drawn entry) entry) =
        .ok units := by
  rw [createSecretStore] at h
  split at h
  · cases h
  · rename_i entries hentries
    obtain ⟨rfl, hunits⟩ := storeOf_eq_ok h
    exact ⟨hentries, hunits⟩

/-- Every step of a loop that ends well has gone well. -/
lemma ok_of_mapM {α β ε : Type} {f : α → Except ε β} {as : List α} {bs : List β}
    (h : as.mapM f = .ok bs) {a : α} (ha : a ∈ as) : ∃ b, f a = .ok b := by
  induction as generalizing bs with
  | nil => exact absurd ha List.not_mem_nil
  | cons a' as ih =>
    cases hfirst : f a' with
    | error error =>
      rw [List.mapM_cons, hfirst] at h
      cases h
    | ok b =>
      rw [mapM_ok_cons hfirst] at h
      obtain rfl | hmem := List.mem_cons.1 ha
      · exact ⟨b, hfirst⟩
      · cases hrest : as.mapM f with
        | error error =>
          rw [hrest] at h
          cases h
        | ok bs => exact ih hrest hmem

lemma isPair_of_verify (hdoc : Documented sodium IsPair) {bytes : Bytes} {entry : KeyEntry}
    (h : verifyKeyPair sodium bytes entry = .ok ()) : IsPair entry.publicKey entry.privateKey := by
  rw [verifyKeyPair] at h
  split at h
  · cases h
  · split at h
    · cases h
    · split at h
      · rename_i htest
        obtain ⟨message, hopen, -⟩ := Option.bind_eq_some_iff.1 htest
        exact hdoc.tells _ _ _ _ (Option.isSome_iff_exists.2 ⟨message, hopen⟩)
      · cases h

lemma verify_of_isPair (hdoc : Documented sodium IsPair) (bytes : Bytes) {entry : KeyEntry}
    (hpair : IsPair entry.publicKey entry.privateKey)
    (hpublic : entry.publicKey.length = sodium.publicKeyBytes)
    (hprivate : entry.privateKey.length = sodium.secretKeyBytes) :
    verifyKeyPair sodium bytes entry = .ok () := by
  rw [verifyKeyPair, if_neg (not_not.2 hpublic), if_neg (not_not.2 hprivate),
    hdoc.opens _ _ hpair, Option.bind_some, hdoc.toString_fromString, if_pos rfl]

/-- The entries of a store are pairs. -/
lemma isPair_of_mem (hdoc : Documented sodium IsPair)
    (h : createSecretStore sodium drawn spec = .ok store) {entry : KeyEntry}
    (hentry : entry ∈ store.entries) : IsPair entry.publicKey entry.privateKey := by
  obtain ⟨-, units, hunits⟩ := createSecretStore_eq_ok h
  obtain ⟨done, hverify⟩ := ok_of_mapM hunits hentry
  exact isPair_of_verify hdoc hverify

lemma SecretStore.active_mem (store : SecretStore) : store.active ∈ store.entries :=
  List.mem_of_head? store.head

lemma SecretStore.find_of_mem (store : SecretStore) {entry : KeyEntry}
    (hentry : entry ∈ store.entries) :
    (store.entries.find? fun other => other.keyId == entry.keyId) = some entry := by
  have hsome : (store.entries.find? fun other => other.keyId == entry.keyId).isSome := by
    rw [List.find?_isSome]
    exact ⟨entry, hentry, beq_self_eq_true _⟩
  obtain ⟨found, hfound⟩ := Option.isSome_iff_exists.1 hsome
  have hid : found.keyId = entry.keyId := by
    have hfits := List.find?_some hfound
    exact beq_iff_eq.1 hfits
  have hmem := List.mem_of_find?_eq_some hfound
  rw [hfound, List.inj_on_of_nodup_map store.distinct hmem hentry hid]

/-- **What was sealed is opened** by every store that has the entry. -/
lemma openText_sealText (hdoc : Documented sodium IsPair) {other : SecretStore}
    (hentry : store.active ∈ other.entries)
    (hpair : IsPair store.active.publicKey store.active.privateKey) (bytes : Bytes)
    (plaintext : Text) :
    other.openText sodium (store.sealText sodium bytes plaintext) = .ok plaintext := by
  rw [SecretStore.openText, SecretStore.sealText, other.find_of_mem hentry]
  simp only [hdoc.fromBase64_toBase64, Option.bind_some, hdoc.opens _ _ hpair,
    hdoc.toString_fromString]

/-! ## A new pair of keys -/

section New

variable (hdoc : Documented sodium IsPair) {keyId : Text} {publicKey privateKey : Bytes}
  (hid : keyId ≠ [])
  (hseparators : ':' ∉ keyId ∧ ',' ∉ keyId ∧ keyId.head?.any Text.isSpace = false)
  (hpair : IsPair publicKey privateKey) (hpublic : publicKey.length = sodium.publicKeyBytes)
  (hprivate : privateKey.length = sodium.secretKeyBytes)
include hdoc hid hseparators hpair hpublic hprivate

/-- A pair that was generated stands before entries that make a store. -/
lemma createSecretStore_generated {entries : List KeyEntry} {units : List Unit}
    (hentries : (entryTexts spec).mapM (parseEntry sodium) = .ok entries)
    (hunits : (entries.mapM fun entry => verifyKeyPair sodium (drawn entry) entry) = .ok units)
    (hdistinct : (entries.map KeyEntry.keyId).Nodup)
    (hnew : keyId ∉ entries.map KeyEntry.keyId) :
    ∃ new, createSecretStore sodium drawn
        (generateKeyPair sodium keyId publicKey privateKey ++ ',' :: spec) = .ok new ∧
      new.active = ⟨keyId, publicKey, privateKey⟩ ∧
      new.entries = ⟨keyId, publicKey, privateKey⟩ :: entries := by
  obtain ⟨hcolon, hcomma, hhead⟩ := hseparators
  have hpublic' : publicKey ≠ [] := List.ne_nil_of_length_pos (hpublic ▸ hdoc.publicKeyBytes)
  have hprivate' : privateKey ≠ [] := List.ne_nil_of_length_pos (hprivate ▸ hdoc.secretKeyBytes)
  have hraw : ',' ∉ generateKeyPair sodium keyId publicKey privateKey := by
    simp only [generateKeyPair, List.mem_append, List.mem_cons, not_or]
    exact ⟨hcomma, by decide, (not_mem_toBase64 hdoc _).2, by decide, (not_mem_toBase64 hdoc _).2⟩
  have htrim : Text.trim (generateKeyPair sodium keyId publicKey privateKey) =
      generateKeyPair sodium keyId publicKey privateKey :=
    trim_generateKeyPair hdoc hhead hid hprivate'
  have hnil : generateKeyPair sodium keyId publicKey privateKey ≠ [] := by
    rw [generateKeyPair]
    exact List.append_ne_nil_of_left_ne_nil hid _
  have hparse := parseEntry_generateKeyPair hdoc hid hcolon hpublic' hprivate'
  have hverify : verifyKeyPair sodium (drawn ⟨keyId, publicKey, privateKey⟩)
      ⟨keyId, publicKey, privateKey⟩ = .ok () := verify_of_isPair hdoc _ hpair hpublic hprivate
  have hnodup : (((⟨keyId, publicKey, privateKey⟩ : KeyEntry) :: entries).map
      KeyEntry.keyId).Nodup := List.nodup_cons.2 ⟨hnew, hdistinct⟩
  have hloop := @mapM_ok_cons _ _ _ (fun entry => verifyKeyPair sodium (drawn entry) entry) _
    entries _ hverify
  refine ⟨⟨⟨keyId, publicKey, privateKey⟩ :: entries, _, rfl, hnodup⟩, ?_, rfl, rfl⟩
  rw [createSecretStore, entryTexts_cons hraw, htrim, if_neg hnil, List.singleton_append,
    mapM_ok_cons hparse, hentries]
  simp only
  rw [storeOf, dif_pos hnodup, hloop, hunits]

/-- **A new pair of keys** is put before the others.  The store is made, it seals under the new
pair, and it opens all that the old one has sealed. -/
theorem rotate (hold : createSecretStore sodium drawn spec = .ok store)
    (hnew : keyId ∉ store.entries.map KeyEntry.keyId) :
    ∃ new, createSecretStore sodium drawn
        (generateKeyPair sodium keyId publicKey privateKey ++ ',' :: spec) = .ok new ∧
      new.active = ⟨keyId, publicKey, privateKey⟩ ∧
      (∀ bytes plaintext,
        new.openText sodium (new.sealText sodium bytes plaintext) = .ok plaintext) ∧
      ∀ bytes plaintext,
        new.openText sodium (store.sealText sodium bytes plaintext) = .ok plaintext := by
  obtain ⟨hentries, units, hunits⟩ := createSecretStore_eq_ok hold
  obtain ⟨new, hmade, hactive, hall⟩ := createSecretStore_generated hdoc hid hseparators hpair
    hpublic hprivate hentries hunits store.distinct hnew
  refine ⟨new, hmade, hactive, ?_, ?_⟩
  · refine openText_sealText hdoc new.active_mem ?_
    rw [hactive]
    exact hpair
  · refine openText_sealText hdoc ?_ (isPair_of_mem hdoc hold store.active_mem)
    rw [hall]
    exact List.mem_cons_of_mem _ store.active_mem

end New

/-! ## The key that everyone knows -/

lemma exists_of_mapM {α β ε : Type} {f : α → Except ε β} {p : β → Prop} {as : List α} :
    ∀ {bs : List β}, as.mapM f = .ok bs →
      ((∃ b ∈ bs, p b) ↔ ∃ a ∈ as, ∃ b, f a = .ok b ∧ p b) := by
  induction as with
  | nil =>
    intro bs h
    rw [List.mapM_nil] at h
    cases h
    simp
  | cons a as ih =>
    intro bs h
    cases hfirst : f a with
    | error error =>
      rw [List.mapM_cons, hfirst] at h
      cases h
    | ok b =>
      rw [mapM_ok_cons hfirst] at h
      cases hrest : as.mapM f with
      | error error =>
        rw [hrest] at h
        cases h
      | ok bs' =>
        rw [hrest] at h
        cases h
        rw [List.exists_mem_cons_iff, List.exists_mem_cons_iff, ih hrest, hfirst]
        simp

/-- An entry begins with its id. -/
lemma prefix_iff {raw known : Text} {entry : KeyEntry} (hknown : ':' ∉ known)
    (h : parseEntry sodium raw = .ok entry) :
    (known ++ [':']).isPrefixOf raw = true ↔ entry.keyId = known := by
  rw [parseEntry] at h
  split at h
  · rename_i keyId pub priv hsplit
    split at h
    · cases h
    · split at h
      · cases h
        have hraw : raw = keyId ++ ':' :: (pub ++ ':' :: priv) := by
          have hjoin : [':'].intercalate (raw.splitOn ':') = raw := List.intercalate_splitOn ':'
          rw [← hjoin, hsplit]
          simp [List.intercalate]
        have hcolon : ':' ∉ keyId := Text.not_mem_of_mem_splitOn (hsplit ▸ List.mem_cons_self)
        rw [List.isPrefixOf_iff_prefix, hraw]
        constructor
        · rintro ⟨rest, hrest⟩
          rw [List.append_assoc, List.singleton_append] at hrest
          exact (Text.append_cons_inj hknown hcolon hrest).1.symm
        · rintro rfl
          exact ⟨pub ++ ':' :: priv, by rw [List.append_assoc, List.singleton_append]⟩
      · cases h
  · cases h

/-- **The key that everyone knows** is seen in the text just when a store has it. -/
theorem usesKnownInsecureKey_iff (h : createSecretStore sodium drawn spec = .ok store) :
    usesKnownInsecureKey spec = true ↔
      ∃ entry ∈ store.entries, entry.keyId = knownInsecureKeyId := by
  obtain ⟨hentries, -, -⟩ := createSecretStore_eq_ok h
  rw [exists_of_mapM hentries, usesKnownInsecureKey, List.any_eq_true]
  constructor
  · rintro ⟨raw, hraw, hprefix⟩
    have hmem : Text.trim raw ∈ entryTexts spec := by
      rw [entryTexts, List.mem_filter]
      refine ⟨List.mem_map_of_mem hraw, ?_⟩
      cases htrim : Text.trim raw with
      | nil =>
        rw [htrim] at hprefix
        exact absurd hprefix (by decide)
      | cons c t => rfl
    obtain ⟨entry, hentry⟩ := ok_of_mapM hentries hmem
    exact ⟨_, hmem, entry, hentry, (prefix_iff (by decide) hentry).1 hprefix⟩
  · rintro ⟨raw, hraw, entry, hentry, hid⟩
    rw [entryTexts, List.mem_filter] at hraw
    obtain ⟨piece, hpiece, rfl⟩ := List.mem_map.1 hraw.1
    exact ⟨piece, hpiece, (prefix_iff (by decide) hentry).2 hid⟩

/-! ## A library -/

/-- A library whose pairs are of one key, and which seals by writing the key before the message. -/
def plainSodium : Sodium where
  publicKeyBytes := 32
  secretKeyBytes := 32
  fromString := Utf8.encode
  toString := Utf8.decode
  toBase64 := Base64.encode
  fromBase64 := Base64.decode
  boxSeal _ message publicKey := publicKey ++ message
  boxSealOpen ciphertext publicKey privateKey :=
    if publicKey = privateKey ∧ publicKey.isPrefixOf ciphertext then
      some (ciphertext.drop publicKey.length)
    else none

lemma plain_of_isBase64 {c : Char} (h : Base64.isBase64 c = true) :
    c ≠ ':' ∧ c ≠ ',' ∧ Text.isSpace c = false := by
  refine ⟨?_, ?_, ?_⟩
  · rintro rfl
    exact absurd h (by decide)
  · rintro rfl
    exact absurd h (by decide)
  · have hrange : 0x2b ≤ c.toNat ∧ c.toNat ≤ 0x7a := by
      rw [Base64.isBase64, Bool.or_eq_true, beq_iff_eq, Base64.bits] at h
      simp only [Char.le_def, UInt32.le_iff_toNat_le] at h
      have hA : 'A'.val.toNat = 65 := rfl
      have hZ : 'Z'.val.toNat = 90 := rfl
      have ha : 'a'.val.toNat = 97 := rfl
      have hz : 'z'.val.toNat = 122 := rfl
      have h0 : '0'.val.toNat = 48 := rfl
      have h9 : '9'.val.toNat = 57 := rfl
      rw [hA, hZ, ha, hz, h0, h9] at h
      show 0x2b ≤ c.val.toNat ∧ c.val.toNat ≤ 0x7a
      obtain h | rfl := h
      · split at h
        · omega
        · split at h
          · omega
          · split at h
            · omega
            · split at h
              · rename_i hplus
                rw [hplus]
                decide
              · split at h
                · rename_i hslash
                  rw [hslash]
                  decide
                · cases h
      · decide
    simp only [Text.isSpace, Bool.or_eq_false_iff, Bool.and_eq_false_iff, decide_eq_false_iff_not,
      beq_eq_false_iff_ne]
    omega

lemma documented_plainSodium : Documented plainSodium fun publicKey privateKey =>
    publicKey = privateKey where
  publicKeyBytes := by decide
  secretKeyBytes := by decide
  toString_fromString := Utf8.decode_encode
  fromBase64_toBase64 := Base64.decode_encode
  toBase64_ne_nil bytes hne hnil := by
    have hdecode := Base64.decode_encode bytes
    rw [show Base64.encode bytes = [] from hnil] at hdecode
    exact hne (Option.some.inj hdecode).symm
  toBase64_plain bytes c hc :=
    plain_of_isBase64 (List.all_eq_true.1 (Base64.all_isBase64_encode bytes) c hc)
  opens publicKey privateKey hpair drawn message := by
    have hfront : publicKey.isPrefixOf (publicKey ++ message) = true :=
      List.isPrefixOf_iff_prefix.2 (List.prefix_append _ _)
    show (if publicKey = privateKey ∧ publicKey.isPrefixOf (publicKey ++ message) then _
      else none) = _
    rw [if_pos ⟨hpair, hfront⟩]
    exact congrArg some List.drop_left
  tells publicKey privateKey drawn message h := by
    by_contra hne
    have hnone : plainSodium.boxSealOpen (plainSodium.boxSeal drawn message publicKey) publicKey
        privateKey = none := if_neg fun hboth => hne hboth.1
    rw [hnone] at h
    cases h

/-- A first key is followed by a second one. -/
theorem rotate_second : ∃ old new,
    createSecretStore plainSodium (fun _ => [])
      (generateKeyPair plainSodium "a".toList (List.replicate 32 1) (List.replicate 32 1) ++
        [',']) = .ok old ∧
    createSecretStore plainSodium (fun _ => [])
      (generateKeyPair plainSodium "b".toList (List.replicate 32 2) (List.replicate 32 2) ++ ',' ::
        (generateKeyPair plainSodium "a".toList (List.replicate 32 1) (List.replicate 32 1) ++
          [','])) = .ok new ∧
    new.active.keyId = "b".toList ∧
    new.openText plainSodium (old.sealText plainSodium [] "secret".toList) =
      .ok "secret".toList := by
  obtain ⟨old, hold, hactive, hentries⟩ := @createSecretStore_generated plainSodium _ (fun _ => [])
    [] documented_plainSodium "a".toList (List.replicate 32 1) (List.replicate 32 1) (by decide)
    (by decide) rfl rfl rfl [] [] rfl rfl List.nodup_nil List.not_mem_nil
  have hnext : "b".toList ∉ old.entries.map KeyEntry.keyId := by
    rw [hentries]
    decide
  obtain ⟨new, hnew, hid, -, hopens⟩ := rotate documented_plainSodium (show "b".toList ≠ [] by decide)
    (by decide) (rfl : (List.replicate 32 2 : Bytes) = List.replicate 32 2) rfl rfl hold hnext
  exact ⟨old, new, hold, hnew, by rw [hid], hopens [] "secret".toList⟩

/-- The development key is seen. -/
theorem usesKnownInsecureKey_known : ∃ store,
    createSecretStore plainSodium (fun _ => [])
      (generateKeyPair plainSodium knownInsecureKeyId (List.replicate 32 1)
        (List.replicate 32 1) ++ [',']) = .ok store ∧
    (usesKnownInsecureKey (generateKeyPair plainSodium knownInsecureKeyId (List.replicate 32 1)
        (List.replicate 32 1) ++ [',']) = true ↔
      ∃ entry ∈ store.entries, entry.keyId = knownInsecureKeyId) := by
  obtain ⟨store, hstore, -, -⟩ := @createSecretStore_generated plainSodium _ (fun _ => [])
    [] documented_plainSodium knownInsecureKeyId (List.replicate 32 1) (List.replicate 32 1)
    (by decide) (by decide) rfl rfl rfl [] [] rfl rfl List.nodup_nil List.not_mem_nil
  exact ⟨store, hstore, usesKnownInsecureKey_iff hstore⟩

end SealedBox

end OpenMcc
