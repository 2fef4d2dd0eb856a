import Mathlib.Data.List.Nodup
import OpenMcc.Framework.Text

/-!
# The keys that secrets are sealed under (`sealed-box.ts`)

`SEALBOX_KEYS` names pairs of keys, with commas between.  The first pair seals, and every pair opens
what was sealed under its id.  What libsodium does is a parameter here; `Documented` says what is
relied on.
-/

namespace OpenMcc

namespace SealedBox

/-- Bytes, such as those of a key. -/
abbrev Bytes := List UInt8

/-- What is called of libsodium. -/
structure Sodium where
  /-- `crypto_box_PUBLICKEYBYTES`. -/
  publicKeyBytes : Nat
  /-- `crypto_box_SECRETKEYBYTES`. -/
  secretKeyBytes : Nat
  fromString : Text → Bytes
  toString : Bytes → Option Text
  toBase64 : Bytes → Text
  fromBase64 : Text → Option Bytes
  /-- `crypto_box_seal` of a message for a public key, with the bytes that it draws. -/
  boxSeal : Bytes → Bytes → Bytes → Bytes
  /-- `crypto_box_seal_open` with a public and a private key. -/
  boxSealOpen : Bytes → Bytes → Bytes → Option Bytes

/-- What the documentation says, where `IsPair` holds of a public key and the private key of it. -/
structure Documented (sodium : Sodium) (IsPair : Bytes → Bytes → Prop) : Prop where
  publicKeyBytes : 0 < sodium.publicKeyBytes
  secretKeyBytes : 0 < sodium.secretKeyBytes
  toString_fromString : ∀ t, sodium.toString (sodium.fromString t) = some t
  fromBase64_toBase64 : ∀ bytes, sodium.fromBase64 (sodium.toBase64 bytes) = some bytes
  toBase64_ne_nil : ∀ bytes, bytes ≠ [] → sodium.toBase64 bytes ≠ []
  /-- The alphabet has no colon, comma or space. -/
  toBase64_plain : ∀ bytes, ∀ c ∈ sodium.toBase64 bytes,
    c ≠ ':' ∧ c ≠ ',' ∧ Text.isSpace c = false
  opens : ∀ publicKey privateKey, IsPair publicKey privateKey → ∀ drawn message,
    sodium.boxSealOpen (sodium.boxSeal drawn message publicKey) publicKey privateKey = some message
  /-- Only the private key of the recipient opens what was sealed. -/
  tells : ∀ publicKey privateKey drawn message,
    (sodium.boxSealOpen (sodium.boxSeal drawn message publicKey) publicKey privateKey).isSome →
      IsPair publicKey privateKey

/-! ## Entries -/

/-- `KeyEntry`. -/
structure KeyEntry where
  keyId : Text
  publicKey : Bytes
  privateKey : Bytes
  deriving DecidableEq, Repr

/-- Why the keys are refused. -/
inductive StoreError
  | entryShape
  /-- `from_base64` throws. -/
  | base64
  | duplicate (keyId : Text)
  | publicKeyLength (keyId : Text)
  | privateKeyLength (keyId : Text)
  | selfTest (keyId : Text)
  | empty
  deriving DecidableEq, Repr

/-- The message of an `InternalError`; `from_base64` has its own. -/
def StoreError.message : StoreError → Option Text
  | entryShape => some "SEALBOX_KEYS entry must be keyId:publicKey:privateKey".toList
  | base64 => none
  | duplicate keyId =>
    some ("Duplicate keyId '".toList ++ keyId ++ "' in SEALBOX_KEYS".toList)
  | publicKeyLength keyId =>
    some ("Key pair '".toList ++ keyId ++ "' has an invalid public key length".toList)
  | privateKeyLength keyId =>
    some ("Key pair '".toList ++ keyId ++ "' has an invalid private key length".toList)
  | selfTest keyId =>
    some ("Key pair '".toList ++ keyId ++ "' failed its seal/open self-test".toList)
  | empty => some "SEALBOX_KEYS must contain at least one key".toList

variable (sodium : Sodium)

/-- `generateKeyPair`, of the pair that was drawn. -/
def generateKeyPair (keyId : Text) (publicKey privateKey : Bytes) : Text :=
  keyId ++ ':' :: (sodium.toBase64 publicKey ++ ':' :: sodium.toBase64 privateKey)

/-- `parseEntry`. -/
def parseEntry (raw : Text) : Except StoreError KeyEntry :=
  match raw.splitOn ':' with
  | [keyId, pub, priv] =>
    if keyId = [] ∨ pub = [] ∨ priv = [] then .error .entryShape
    else
      match sodium.fromBase64 pub, sodium.fromBase64 priv with
      | some publicKey, some privateKey => .ok ⟨keyId, publicKey, privateKey⟩
      | _, _ => .error .base64
  | _ => .error .entryShape

/-- `SELF_TEST_PLAINTEXT`. -/
def selfTestPlaintext : Text := "open-mcc-manager sealed-box self-test".toList

/-- `verifyKeyPair`, with the bytes that its seal draws. -/
def verifyKeyPair (drawn : Bytes) (entry : KeyEntry) : Except StoreError Unit :=
  if entry.publicKey.length ≠ sodium.publicKeyBytes then .error (.publicKeyLength entry.keyId)
  else if entry.privateKey.length ≠ sodium.secretKeyBytes then
    .error (.privateKeyLength entry.keyId)
  else if (sodium.boxSealOpen
      (sodium.boxSeal drawn (sodium.fromString selfTestPlaintext) entry.publicKey)
      entry.publicKey entry.privateKey).bind sodium.toString = some selfTestPlaintext then .ok ()
  else .error (.selfTest entry.keyId)

/-- The id that the loop over the entries has seen already. -/
def firstDuplicate (seen : List Text) : List KeyEntry → Text
  | [] => []
  | entry :: entries =>
    if seen.contains entry.keyId then entry.keyId else firstDuplicate (entry.keyId :: seen) entries

/-! ## The store -/

/-- What `createSecretStore` keeps: the entries by their ids, and the first of them. -/
structure SecretStore where
  entries : List KeyEntry
  active : KeyEntry
  head : entries.head? = some active
  distinct : (entries.map KeyEntry.keyId).Nodup

/-- The texts of the entries. -/
def entryTexts (spec : Text) : List Text :=
  ((spec.splitOn ',').map Text.trim).filter fun raw => !raw.isEmpty

/-- The loops over the entries, once they are parsed. -/
def storeOf (drawn : KeyEntry → Bytes) (entries : List KeyEntry) :
    Except StoreError SecretStore :=
  if distinct : (entries.map KeyEntry.keyId).Nodup then
    match entries.mapM fun entry => verifyKeyPair sodium (drawn entry) entry with
    | .error error => .error error
    | .ok _ =>
      match entries, distinct with
      | [], _ => .error .empty
      | active :: rest, distinct => .ok ⟨active :: rest, active, rfl, distinct⟩
  else .error (.duplicate (firstDuplicate [] entries))

/-- `createSecretStore`, with the bytes that each self-test draws. -/
def createSecretStore (drawn : KeyEntry → Bytes) (spec : Text) : Except StoreError SecretStore :=
  match (entryTexts spec).mapM (parseEntry sodium) with
  | .error error => .error error
  | .ok entries => storeOf sodium drawn entries

/-- `SealedValue`. -/
structure SealedValue where
  ciphertext : Text
  keyId : Text
  deriving DecidableEq, Repr

/-- Why a value is not opened. -/
inductive OpenError
  | noKey (keyId : Text)
  /-- libsodium throws. -/
  | refused
  deriving DecidableEq, Repr

namespace SecretStore

variable (store : SecretStore)

/-- `seal`, with the bytes that it draws. -/
def sealText (drawn : Bytes) (plaintext : Text) : SealedValue where
  ciphertext := sodium.toBase64
    (sodium.boxSeal drawn (sodium.fromString plaintext) store.active.publicKey)
  keyId := store.active.keyId

/-- `open`. -/
def openText (value : SealedValue) : Except OpenError Text :=
  match store.entries.find? fun entry => entry.keyId == value.keyId with
  | none => .error (.noKey value.keyId)
  | some entry =>
    match (sodium.fromBase64 value.ciphertext).bind fun bytes =>
        (sodium.boxSealOpen bytes entry.publicKey entry.privateKey).bind sodium.toString with
    | none => .error .refused
    | some plaintext => .ok plaintext

end SecretStore

/-- `KNOWN_INSECURE_KEY_ID`. -/
def knownInsecureKeyId : Text := "dev-insecure-publicly-known".toList

/-- `usesKnownInsecureKey`. -/
def usesKnownInsecureKey (sealboxKeys : Text) : Bool :=
  (sealboxKeys.splitOn ',').any fun entry =>
    (knownInsecureKeyId ++ [':']).isPrefixOf (Text.trim entry)

end SealedBox

end OpenMcc
