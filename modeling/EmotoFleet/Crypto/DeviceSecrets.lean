import EmotoFleet.Foundations.Base64

/-!
# Secrets at rest

A secret is stored as an envelope: a version, the nonce, the authentication tag and the
encrypted bytes, each but the first in base64 and all divided by colons. Opening an envelope
takes it apart, checks its parts and decrypts.

The cipher, the hash function and what the platform reads out of texts that it has not written
are parameters. What was sealed comes back; and whatever text is opened, the result is a
secret that was sealed under the same key.
-/

namespace EmotoFleet.DeviceSecrets

open Base64 (Bytes)

/-- The functions of the platform: a hash, an authenticated cipher that yields the encrypted
bytes and a tag, and the readings of texts and bytes. -/
structure Platform where
  sha256 : String → Bytes
  encrypt : Bytes → Bytes → Bytes → Bytes × Bytes
  decrypt : Bytes → Bytes → Bytes → Bytes → Option Bytes
  fromBase64url : List Char → Bytes
  replaceInvalid : Bytes → String

def ivLength : Nat := 12

def authTagLength : Nat := 16

def encryptedSecretVersion : String := "v1"

/-- The bytes of a text. -/
def utf8 (text : String) : Bytes := text.toList.flatMap String.utf8EncodeChar

inductive DecryptError where
  /-- "Invalid encrypted device secret format" -/
  | invalidFormat
  /-- "Invalid initialization vector" -/
  | invalidIv
  /-- "Invalid authentication tag length" -/
  | invalidAuthTag
  /-- "Unsupported state or unable to authenticate data" -/
  | unauthentic
deriving DecidableEq

section Functions

variable (platform : Platform)

def deriveMasterKey (masterKey : String) : Bytes := platform.sha256 masterKey

/-- `iv` is what the generator of random bytes yields. -/
def encryptDeviceSecret (iv : Bytes) (deviceSecret masterKey : String) : String :=
  let (encrypted, authTag) :=
    platform.encrypt (deriveMasterKey platform masterKey) iv (utf8 deviceSecret)
  String.ofList (List.intercalate [':'] [encryptedSecretVersion.toList, Base64.encode iv,
    Base64.encode authTag, Base64.encode encrypted])

/-- Bytes that are no text are read with replacements. -/
def toUtf8 (bytes : Bytes) : String :=
  (String.fromUTF8? bytes.toByteArray).getD (platform.replaceInvalid bytes)

/-- Anything after the fourth part is ignored. -/
def decryptDeviceSecret (encryptedSecret masterKey : String) : Except DecryptError String :=
  match encryptedSecret.toList.splitOn ':' with
  | version :: ivBase64Url :: authTagBase64Url :: encryptedBase64Url :: _ =>
    if version ≠ encryptedSecretVersion.toList ∨ ivBase64Url = [] ∨ authTagBase64Url = [] ∨
        encryptedBase64Url = [] then .error .invalidFormat
    else
      let iv := platform.fromBase64url ivBase64Url
      let authTag := platform.fromBase64url authTagBase64Url
      let encrypted := platform.fromBase64url encryptedBase64Url
      if iv = [] then .error .invalidIv
      else if authTag.length ≠ authTagLength then .error .invalidAuthTag
      else
        match platform.decrypt (deriveMasterKey platform masterKey) iv encrypted authTag with
        | none => .error .unauthentic
        | some decrypted => .ok (toUtf8 platform decrypted)
  | _ => .error .invalidFormat

end Functions

/-- A call of `encryptDeviceSecret`, with the nonce that was drawn for it. -/
structure Sealing where
  masterKey : String
  iv : Bytes
  secret : String
  iv_length : iv.length = ivLength

section Laws

variable (platform : Platform)

/-- The encrypted bytes and the tag of a call. -/
def Sealing.output (sealing : Sealing) : Bytes × Bytes :=
  platform.encrypt (deriveMasterKey platform sealing.masterKey) sealing.iv (utf8 sealing.secret)

/-- What is relied on: the cipher decrypts what it encrypted in some calls and accepts nothing
else, the keys in use have hashes of their own, and the platform reads the base64 that it
wrote. -/
structure Faithful (keys : String → Prop) (sealings : Sealing → Prop) : Prop where
  decrypts : ∀ sealing, sealings sealing →
    platform.decrypt (deriveMasterKey platform sealing.masterKey) sealing.iv
      (sealing.output platform).1 (sealing.output platform).2 = some (utf8 sealing.secret)
  encrypted_length : ∀ sealing, sealings sealing →
    (sealing.output platform).1.length = (utf8 sealing.secret).length
  authTag_length : ∀ sealing, sealings sealing →
    (sealing.output platform).2.length = authTagLength
  accepts : ∀ key iv encrypted authTag decrypted,
    platform.decrypt key iv encrypted authTag = some decrypted →
    ∃ sealing, sealings sealing ∧ key = deriveMasterKey platform sealing.masterKey ∧
      iv = sealing.iv ∧ (encrypted, authTag) = sealing.output platform
  used : ∀ sealing, sealings sealing → keys sealing.masterKey
  apart : ∀ key other, keys key → keys other →
    deriveMasterKey platform key = deriveMasterKey platform other → key = other
  reads : ∀ bytes, platform.fromBase64url (Base64.encode bytes) = bytes

variable {platform} {keys : String → Prop} {sealings : Sealing → Prop}

theorem toUtf8_utf8 (text : String) : toUtf8 platform (utf8 text) = text := by
  have bytes : (utf8 text).toByteArray = text.toByteArray := String.utf8Encode_toList
  rw [toUtf8, bytes, String.fromUTF8?, dif_pos text.isValidUTF8]
  rfl

theorem utf8_eq_nil {text : String} (empty : utf8 text = []) : text = "" := by
  have bytes : (utf8 text).toByteArray = text.toByteArray := String.utf8Encode_toList
  rw [empty] at bytes
  exact String.toByteArray_inj.mp bytes.symm

/-- No part of an envelope has a colon. -/
theorem colon_not_mem_encode (bytes : Bytes) : ':' ∉ Base64.encode bytes := by
  intro member
  exact absurd (Base64.readable_of_mem_encode member) (by decide)

/-- An envelope is taken apart into the parts that it was put together from. -/
theorem splitOn_encrypt (sealing : Sealing) :
    (encryptDeviceSecret platform sealing.iv sealing.secret sealing.masterKey).toList.splitOn ':' =
      [encryptedSecretVersion.toList, Base64.encode sealing.iv,
        Base64.encode (sealing.output platform).2, Base64.encode (sealing.output platform).1] := by
  rw [encryptDeviceSecret, String.toList_ofList]
  refine List.splitOn_intercalate ':' ?_ (by simp)
  intro part member
  simp only [List.mem_cons, List.not_mem_nil, or_false] at member
  rcases member with rfl | rfl | rfl | rfl
  · decide
  · exact colon_not_mem_encode _
  · exact colon_not_mem_encode _
  · exact colon_not_mem_encode _

theorem encode_ne_nil {bytes : Bytes} (filled : bytes ≠ []) : Base64.encode bytes ≠ [] :=
  fun empty => filled (Base64.encode_eq_nil empty)

/-- A secret that is not empty comes back. -/
theorem decrypt_encrypt (faithful : Faithful platform keys sealings) {sealing : Sealing}
    (made : sealings sealing) (filled : sealing.secret ≠ "") :
    decryptDeviceSecret platform
      (encryptDeviceSecret platform sealing.iv sealing.secret sealing.masterKey)
      sealing.masterKey = .ok sealing.secret := by
  have iv_filled : sealing.iv ≠ [] := by
    intro empty
    have length := sealing.iv_length
    rw [empty] at length
    cases length
  have tag_length := faithful.authTag_length sealing made
  have tag_filled : (sealing.output platform).2 ≠ [] := by
    intro empty
    rw [empty] at tag_length
    cases tag_length
  have encrypted_filled : (sealing.output platform).1 ≠ [] := by
    intro empty
    have length := faithful.encrypted_length sealing made
    rw [empty] at length
    exact filled (utf8_eq_nil (List.eq_nil_of_length_eq_zero length.symm))
  have formed : ¬ (encryptedSecretVersion.toList ≠ encryptedSecretVersion.toList ∨
      Base64.encode sealing.iv = [] ∨ Base64.encode (sealing.output platform).2 = [] ∨
      Base64.encode (sealing.output platform).1 = []) := by
    simp [encode_ne_nil iv_filled, encode_ne_nil tag_filled, encode_ne_nil encrypted_filled]
  unfold decryptDeviceSecret
  rw [splitOn_encrypt]
  dsimp only
  rw [if_neg formed, faithful.reads, faithful.reads, faithful.reads, if_neg iv_filled,
    if_neg (not_not.mpr tag_length), faithful.decrypts sealing made]
  exact congrArg Except.ok (toUtf8_utf8 _)

/-- Whatever text is accepted, its third and fourth part are the output of a call under the
same key, and the result is the secret of this call. -/
theorem decrypt_ok (faithful : Faithful platform keys sealings) {text masterKey secret : String}
    (known : keys masterKey) (opened : decryptDeviceSecret platform text masterKey = .ok secret) :
    ∃ sealing, sealings sealing ∧ sealing.masterKey = masterKey ∧ sealing.secret = secret := by
  unfold decryptDeviceSecret at opened
  split at opened
  case h_2 => cases opened
  case h_1 version iv authTag encrypted rest parts =>
    split at opened
    case isTrue => cases opened
    case isFalse =>
      simp only at opened
      split at opened
      case isTrue => cases opened
      case isFalse =>
        split at opened
        case isTrue => cases opened
        case isFalse =>
          split at opened
          case h_1 => cases opened
          case h_2 decrypted accepted =>
            obtain ⟨sealing, made, key, nonce, output⟩ := faithful.accepts _ _ _ _ _ accepted
            have same := faithful.apart _ _ known (faithful.used sealing made) key
            have back := faithful.decrypts sealing made
            rw [← output, ← key, ← nonce, accepted] at back
            cases opened
            exact ⟨sealing, made, same.symm, by rw [Option.some.inj back, toUtf8_utf8]⟩

/-- Secrets survive being stored: what was sealed comes back, and whatever text is opened under
a key, it is refused or the result is a secret that was sealed under this key. -/
theorem secrets_survive (faithful : Faithful platform keys sealings) :
    (∀ sealing, sealings sealing → sealing.secret ≠ "" →
      decryptDeviceSecret platform
        (encryptDeviceSecret platform sealing.iv sealing.secret sealing.masterKey)
        sealing.masterKey = .ok sealing.secret) ∧
    (∀ text masterKey secret, keys masterKey →
      decryptDeviceSecret platform text masterKey = .ok secret →
      ∃ sealing, sealings sealing ∧ sealing.masterKey = masterKey ∧ sealing.secret = secret) :=
  ⟨fun _ made filled => decrypt_encrypt faithful made filled,
    fun _ _ _ known opened => decrypt_ok faithful known opened⟩

end Laws

/-! ## One call -/

def sesame : Sealing where
  masterKey := "master"
  iv := [0, 1, 2, 3, 4, 5, 6, 7, 8, 9, 10, 11]
  secret := "sésame"
  iv_length := rfl

/-- The hash of the key, and what the cipher makes of the secret. -/
def masterDigest : Bytes :=
  [252, 97, 59, 77, 253, 103, 54, 167, 189, 38, 140, 138, 14, 116, 237, 13, 28, 4, 169, 89, 245, 157,
    215, 78, 242, 135, 73, 131, 253, 68, 63, 201]

def sesameEncrypted : Bytes := [192, 125, 119, 121, 25, 249, 129]

def sesameTag : Bytes :=
  [213, 218, 47, 20, 55, 125, 235, 141, 133, 249, 192, 70, 46, 227, 70, 253]

/-- A platform that has sealed this one secret. -/
def sesamePlatform : Platform where
  sha256 text := if text = "master" then masterDigest else utf8 text
  encrypt key iv plain :=
    if key = masterDigest ∧ iv = sesame.iv ∧ plain = utf8 sesame.secret then
      (sesameEncrypted, sesameTag)
    else (plain, [])
  decrypt key iv encrypted authTag :=
    if key = masterDigest ∧ iv = sesame.iv ∧ encrypted = sesameEncrypted ∧ authTag = sesameTag then
      some (utf8 sesame.secret)
    else none
  fromBase64url := Base64.decode
  replaceInvalid _ := "\uFFFD"

theorem sesamePlatform_faithful :
    Faithful sesamePlatform (· = "master") (· = sesame) where
  decrypts := by
    rintro _ rfl
    decide
  encrypted_length := by
    rintro _ rfl
    decide
  authTag_length := by
    rintro _ rfl
    decide
  accepts := by
    intro key iv encrypted authTag decrypted accepted
    simp only [sesamePlatform] at accepted
    split at accepted
    case isFalse => cases accepted
    case isTrue same =>
      obtain ⟨rfl, rfl, rfl, rfl⟩ := same
      exact ⟨sesame, rfl, by decide, rfl, by decide⟩
  used := by
    rintro _ rfl
    rfl
  apart := by
    rintro _ _ rfl rfl -
    rfl
  reads := Base64.decode_encode

theorem sesame_survives :
    encryptDeviceSecret sesamePlatform sesame.iv "sésame" "master" =
        "v1:AAECAwQFBgcICQoL:1dovFDd9642F-cBGLuNG_Q:wH13eRn5gQ" ∧
      decryptDeviceSecret sesamePlatform
        (encryptDeviceSecret sesamePlatform sesame.iv "sésame" "master") "master" = .ok "sésame" ∧
      ∀ text secret, decryptDeviceSecret sesamePlatform text "master" = .ok secret →
        ∃ sealing, sealing = sesame ∧ sealing.masterKey = "master" ∧ sealing.secret = secret := by
  have survive := secrets_survive sesamePlatform_faithful
  exact ⟨by decide +kernel, survive.1 sesame rfl (by decide),
    fun text secret opened => survive.2 text "master" secret rfl opened⟩

end EmotoFleet.DeviceSecrets
