import ConferenceContact.Auth.TwoFactor
import ConferenceContact.Foundation.Base64

/-!
# Encrypted secrets

A secret is stored as three base64 texts with colons between them.  No base64 text has a
colon, so the parts are found again; but `decrypt` takes an empty part for a missing one,
and the ciphertext of the empty text is empty.
-/

namespace ConferenceContact

/-! ## The bytes behind the texts -/

/-- AES-256-GCM on bytes, under the configured key. -/
structure AesGcm where
  /-- The authentication tag and the ciphertext of a plaintext, for an initialization
  vector. -/
  encrypt : List UInt8 → List UInt8 → List UInt8 × List UInt8
  /-- The plaintext for an initialization vector, a tag and a ciphertext, if the tag is
  theirs. -/
  decrypt : List UInt8 → List UInt8 → List UInt8 → Option (List UInt8)
  /-- What `toString('utf8')` makes of bytes that are not UTF-8. -/
  replaceMalformed : List UInt8 → String

/-- Decryption inverts encryption; a tag has 16 bytes, and a ciphertext is as long as its
plaintext. -/
structure AesGcm.Lawful (cipher : AesGcm) : Prop where
  decrypt_encrypt : ∀ initializationVector plaintext,
    cipher.decrypt initializationVector (cipher.encrypt initializationVector plaintext).1
      (cipher.encrypt initializationVector plaintext).2 = some plaintext
  length_tag : ∀ initializationVector plaintext,
    (cipher.encrypt initializationVector plaintext).1.length = 16
  length_ciphertext : ∀ initializationVector plaintext,
    (cipher.encrypt initializationVector plaintext).2.length = plaintext.length

/-- `Buffer.from(text, 'base64')`. -/
def fromBase64 (text : String) : List UInt8 := Base64.decode text.toList

/-- `toString('base64')`. -/
def toBase64 (bytes : List UInt8) : String := String.ofList (Base64.encode bytes)

/-- `Buffer.from(text, 'utf8')`. -/
def utf8Bytes (text : String) : List UInt8 := text.toByteArray.data.toList

/-- `toString('utf8')`. -/
def AesGcm.utf8Text (cipher : AesGcm) (bytes : List UInt8) : String :=
  (String.fromUTF8? ⟨bytes.toArray⟩).getD (cipher.replaceMalformed bytes)

/-- The service encrypts UTF-8 bytes, and reads and writes base64. -/
def Deployment.withAesGcm (app : Deployment) (cipher : AesGcm) : Deployment :=
  { app with
    aesGcmEncrypt := fun initializationVector plaintext =>
      let (authTag, ciphertext) :=
        cipher.encrypt (fromBase64 initializationVector) (utf8Bytes plaintext)
      (toBase64 authTag, toBase64 ciphertext)
    aesGcmDecrypt := fun initializationVector authTag ciphertext =>
      (cipher.decrypt (fromBase64 initializationVector) (fromBase64 authTag)
        (fromBase64 ciphertext)).map cipher.utf8Text }

theorem fromBase64_toBase64 (bytes : List UInt8) : fromBase64 (toBase64 bytes) = bytes := by
  rw [fromBase64, toBase64, String.toList_ofList, Base64.decode_encode]

theorem toBase64_eq_empty_iff (bytes : List UInt8) : toBase64 bytes = "" ↔ bytes = [] := by
  rw [toBase64, ← Base64.encode_eq_nil_iff, ← String.ofList_nil, String.ofList_inj]

/-- A colon is not a character of base64. -/
theorem colon_not_mem_toBase64 (bytes : List UInt8) : ':' ∉ (toBase64 bytes).toList := by
  intro present
  rw [toBase64, String.toList_ofList] at present
  have outside : ':' ∉ '=' :: Base64.alphabet := by decide
  exact outside (Base64.encode_subset bytes present)

theorem utf8Text_utf8Bytes (cipher : AesGcm) (text : String) :
    cipher.utf8Text (utf8Bytes text) = text := by
  have valid : text.toByteArray.IsValidUTF8 := text.isValidUTF8
  have whole : String.fromUTF8? text.toByteArray = some text := by
    rw [String.fromUTF8?, dif_pos valid]
    rfl
  unfold AesGcm.utf8Text utf8Bytes
  rw [Array.toArray_toList, whole, Option.getD_some]

theorem utf8Bytes_eq_nil_iff (text : String) : utf8Bytes text = [] ↔ text = "" := by
  rw [← String.utf8ByteSize_eq_zero_iff, ← String.size_toByteArray, ← List.length_eq_zero_iff]
  rfl

/-! ## The round trip -/

/-- What is encrypted from a text is decrypted to it, unless the text is empty: then it
counts as malformed. -/
theorem EncryptionService.decrypt_encrypt
    {cipher : AesGcm}
    (lawful : cipher.Lawful)
    (app : Deployment)
    {initializationVector : List UInt8}
    (nonempty : initializationVector ≠ [])
    (plaintext : String) :
    decrypt (app.withAesGcm cipher)
        (encrypt (app.withAesGcm cipher) (toBase64 initializationVector) plaintext) =
      if plaintext = "" then .error .malformedPayload else .ok plaintext := by
  have parts : encrypt (app.withAesGcm cipher) (toBase64 initializationVector) plaintext =
      toBase64 initializationVector ++ ":" ++
        toBase64 (cipher.encrypt initializationVector (utf8Bytes plaintext)).1 ++ ":" ++
        toBase64 (cipher.encrypt initializationVector (utf8Bytes plaintext)).2 := by
    simp only [encrypt, Deployment.withAesGcm, fromBase64_toBase64]
  have decrypts : (app.withAesGcm cipher).aesGcmDecrypt (toBase64 initializationVector)
      (toBase64 (cipher.encrypt initializationVector (utf8Bytes plaintext)).1)
      (toBase64 (cipher.encrypt initializationVector (utf8Bytes plaintext)).2) =
        some plaintext := by
    simp only [Deployment.withAesGcm, fromBase64_toBase64, lawful.decrypt_encrypt,
      Option.map_some, utf8Text_utf8Bytes]
  have tagged : (cipher.encrypt initializationVector (utf8Bytes plaintext)).1 ≠ [] := by
    intro empty
    have length := lawful.length_tag initializationVector (utf8Bytes plaintext)
    rw [empty] at length
    cases length
  have text : (cipher.encrypt initializationVector (utf8Bytes plaintext)).2 = [] ↔
      plaintext = "" := by
    rw [← utf8Bytes_eq_nil_iff, ← List.length_eq_zero_iff, lawful.length_ciphertext,
      List.length_eq_zero_iff]
  rw [parts, decrypt_join (colon_not_mem_toBase64 _) (colon_not_mem_toBase64 _)
    (colon_not_mem_toBase64 _), decrypts]
  simp only [toBase64_eq_empty_iff, nonempty, tagged, text, false_or]

/-- A text comes back from its encryption, under any initialization vector, exactly if it
is not empty. -/
theorem EncryptionService.decrypt_encrypt_iff
    {cipher : AesGcm}
    (lawful : cipher.Lawful)
    (app : Deployment)
    {initializationVector : List UInt8}
    (twelve : initializationVector.length = 12)
    (plaintext : String) :
    decrypt (app.withAesGcm cipher)
        (encrypt (app.withAesGcm cipher) (toBase64 initializationVector) plaintext) =
      .ok plaintext ↔ plaintext ≠ "" := by
  have nonempty : initializationVector ≠ [] := by
    rintro rfl
    cases twelve
  rw [decrypt_encrypt lawful app nonempty]
  by_cases empty : plaintext = ""
  · simp [empty]
  · simp [empty]

/-! ## A cipher for two texts -/

/-- The first block that AES-256 in counter mode adds to a plaintext, for the key and the
initialization vector of zeros. -/
def firstBlock : List UInt8 :=
  [206, 167, 64, 61, 77, 96, 107, 110, 7, 78, 197, 211, 186, 243, 157, 24]

/-- A block is added to every sixteen bytes. -/
def addBlock (bytes : List UInt8) : List UInt8 :=
  bytes.mapIdx fun index byte => byte ^^^ firstBlock.getD (index % 16) 0

/-- The tags of the empty text and of `JBSWY3DPEHPK3PXP`, for zeros. -/
def tagUnderZeros (plaintext : List UInt8) : List UInt8 :=
  if plaintext = [] then
    [83, 15, 138, 251, 199, 69, 54, 185, 169, 99, 180, 241, 196, 203, 115, 139]
  else [246, 59, 23, 21, 128, 59, 114, 181, 203, 90, 46, 239, 4, 193, 224, 26]

/-- A cipher that does on these two texts what AES-256-GCM does. -/
def cipherUnderZeros : AesGcm where
  encrypt _ plaintext := (tagUnderZeros plaintext, addBlock plaintext)
  decrypt _ authTag ciphertext :=
    if tagUnderZeros (addBlock ciphertext) = authTag then some (addBlock ciphertext) else none
  replaceMalformed _ := "\uFFFD"

theorem cipherUnderZeros_lawful : cipherUnderZeros.Lawful where
  decrypt_encrypt _ plaintext := by
    have back : addBlock (addBlock plaintext) = plaintext := by
      have cancels (byte mask : UInt8) : byte ^^^ mask ^^^ mask = byte := by
        rw [UInt8.xor_assoc, UInt8.xor_self, UInt8.xor_zero]
      apply List.ext_getElem?
      intro index
      simp only [addBlock, List.getElem?_mapIdx, Option.map_map, Function.comp_def, cancels,
        Option.map_id']
    simp [cipherUnderZeros, back]
  length_tag _ plaintext := by
    simp only [cipherUnderZeros, tagUnderZeros]
    split <;> rfl
  length_ciphertext _ plaintext := List.length_mapIdx

/-- The secret of the tests is encrypted and comes back. -/
theorem secret_comes_back :
    EncryptionService.encrypt (openDeployment.withAesGcm cipherUnderZeros)
          (toBase64 (List.replicate 12 0)) "JBSWY3DPEHPK3PXP" =
        "AAAAAAAAAAAAAAAA:9jsXFYA7crXLWi7vBMHgGg==:hOUTahRTLz5CBpWYiaPFSA==" ∧
      EncryptionService.decrypt (openDeployment.withAesGcm cipherUnderZeros)
          (EncryptionService.encrypt (openDeployment.withAesGcm cipherUnderZeros)
            (toBase64 (List.replicate 12 0)) "JBSWY3DPEHPK3PXP") =
        .ok "JBSWY3DPEHPK3PXP" :=
  ⟨by decide +kernel, (EncryptionService.decrypt_encrypt_iff cipherUnderZeros_lawful _
    List.length_replicate _).mpr (by decide)⟩

/-- The empty text does not come back. -/
theorem empty_text_is_malformed :
    EncryptionService.encrypt (openDeployment.withAesGcm cipherUnderZeros)
          (toBase64 (List.replicate 12 0)) "" =
        "AAAAAAAAAAAAAAAA:Uw+K+8dFNrmpY7TxxMtziw==:" ∧
      EncryptionService.decrypt (openDeployment.withAesGcm cipherUnderZeros)
          (EncryptionService.encrypt (openDeployment.withAesGcm cipherUnderZeros)
            (toBase64 (List.replicate 12 0)) "") =
        .error .malformedPayload :=
  ⟨by decide +kernel, by
    rw [EncryptionService.decrypt_encrypt cipherUnderZeros_lawful _ (by decide), if_pos rfl]⟩

end ConferenceContact
