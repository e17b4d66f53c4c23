import Mathlib.Tactic.Common
import SignIn.Cipher.Sealing
import SignIn.Proofs.Except

namespace SignIn

/-- The construction of the mode without its limits: the keystream is added to the plaintext, and the tag
is taken over the associated data and what that gives. -/
def Gcm.Seals (key : Aes.Key) (nonce : Gcm.Nonce) (associated plaintext : Bytes) (m : SealedMessage) :
    Prop :=
  m.ciphertext = Gcm.applyKeystream key nonce plaintext ∧
    m.tag = (Gcm.tag key nonce associated m.ciphertext).toList

/-- Read from the side of the message, the plaintext is the ciphertext with the keystream added. -/
theorem Gcm.seals_iff {key : Aes.Key} {nonce : Gcm.Nonce} {associated plaintext : Bytes}
    {m : SealedMessage} :
    Gcm.Seals key nonce associated plaintext m ↔
      plaintext = Gcm.applyKeystream key nonce m.ciphertext ∧
        m.tag = (Gcm.tag key nonce associated m.ciphertext).toList := by
  refine and_congr_left fun _ => ⟨?_, ?_⟩
  · intro hciphertext
    rw [hciphertext, Gcm.applyKeystream_applyKeystream]
  · intro hplaintext
    rw [hplaintext, Gcm.applyKeystream_applyKeystream]

/-- A ciphertext is as long as its plaintext. -/
theorem Gcm.Seals.length_eq {key : Aes.Key} {nonce : Gcm.Nonce} {associated plaintext : Bytes}
    {m : SealedMessage} (hseals : Gcm.Seals key nonce associated plaintext m) :
    m.ciphertext.length = plaintext.length := by
  rw [hseals.1, Gcm.length_applyKeystream]

private theorem vector_mk_eq_iff {n : Nat} {bytes : Bytes} (hsize : bytes.toArray.size = n)
    {v : Vector UInt8 n} :
    Vector.mk bytes.toArray hsize = v ↔ bytes = v.toList := by
  rw [← Vector.toList_inj]
  rfl

namespace KeyedCipher

private theorem tagOf_eq_ok_iff {bytes : Bytes} {tag : Aes.Block} :
    tagOf bytes = .ok tag ↔ bytes = tag.toList := by
  unfold tagOf
  split
  · rw [Except.ok.injEq, vector_mk_eq_iff]
  · next hsize =>
    refine iff_of_false (by simp) fun heq => hsize ?_
    rw [heq, Vector.length_toList]

/-- A message is what the construction makes of a plaintext under the nonce and the key of a cipher. -/
def Seals (c : KeyedCipher) (plaintext nonce associated : Bytes) (m : SealedMessage) : Prop :=
  ∃ (n : Gcm.Nonce) (key : Aes.Key), nonceOf nonce = .ok n ∧ c.expandedKey = .ok key ∧
    Gcm.Seals key n associated plaintext m

private theorem Seals.length_eq {c : KeyedCipher} {plaintext nonce associated : Bytes} {m : SealedMessage}
    (hseals : c.Seals plaintext nonce associated m) : m.ciphertext.length = plaintext.length := by
  obtain ⟨n, key, _, _, hseals⟩ := hseals
  exact hseals.length_eq

/-- The tag follows from all the rest of a message. -/
theorem Seals.tag_eq {c : KeyedCipher} {plaintext other nonce associated ciphertext tag tag' : Bytes}
    (hseals : c.Seals plaintext nonce associated ⟨ciphertext, tag⟩)
    (hseals' : c.Seals other nonce associated ⟨ciphertext, tag'⟩) : tag = tag' := by
  obtain ⟨n, key, hnonce, hkey, hseals⟩ := hseals
  obtain ⟨n', key', hnonce', hkey', hseals'⟩ := hseals'
  rw [hnonce] at hnonce'
  rw [hkey] at hkey'
  cases hnonce'
  cases hkey'
  exact hseals.2.trans hseals'.2.symm

private theorem encrypt_eq_of_parts {c : KeyedCipher} {plaintext nonce associated : Bytes} {n : Gcm.Nonce}
    {key : Aes.Key} (hnonce : nonceOf nonce = .ok n) (hkey : c.expandedKey = .ok key) :
    c.encrypt plaintext nonce associated =
      if messageLimit < plaintext.length ∨ associatedLimit < associated.length then
        .error .messageTooLong
      else
        .ok ⟨Gcm.applyKeystream key n plaintext,
          (Gcm.tag key n associated (Gcm.applyKeystream key n plaintext)).toList⟩ := by
  rw [encrypt, hnonce, hkey]
  rfl

private theorem decrypt_eq_of_parts {c : KeyedCipher} {nonce associated : Bytes} {m : SealedMessage}
    {n : Gcm.Nonce} {tag : Aes.Block} {key : Aes.Key} (hnonce : nonceOf nonce = .ok n)
    (htag : tagOf m.tag = .ok tag) (hkey : c.expandedKey = .ok key) :
    c.decrypt m nonce associated =
      if ciphertextLimit < m.ciphertext.length ∨ associatedLimit < associated.length then
        .error .authentication
      else if Gcm.tag key n associated m.ciphertext = tag then
        .ok (Gcm.applyKeystream key n m.ciphertext)
      else .error .authentication := by
  rw [decrypt, hnonce, htag, hkey]
  rfl

/-- Sealing gives what the construction makes of a plaintext within its limits. -/
theorem encrypt_eq_ok_iff {c : KeyedCipher} {plaintext nonce associated : Bytes} {m : SealedMessage} :
    c.encrypt plaintext nonce associated = .ok m ↔
      c.Seals plaintext nonce associated m ∧ plaintext.length ≤ messageLimit ∧
        associated.length ≤ associatedLimit := by
  constructor
  · intro hencrypt
    obtain ⟨n, hnonce, hrest⟩ := bind_eq_ok_iff.1 hencrypt
    obtain ⟨key, hkey, _⟩ := bind_eq_ok_iff.1 hrest
    rw [encrypt_eq_of_parts hnonce hkey] at hencrypt
    split_ifs at hencrypt with hlong
    rw [Except.ok.injEq] at hencrypt
    have hseals : Gcm.Seals key n associated plaintext m := by
      rw [← hencrypt]
      exact ⟨by simp only, by simp only⟩
    exact ⟨⟨n, key, hnonce, hkey, hseals⟩, by omega, by omega⟩
  · rintro ⟨⟨n, key, hnonce, hkey, hciphertext, htag⟩, hmessage, hassociated⟩
    rw [encrypt_eq_of_parts hnonce hkey, if_neg (by omega), ← hciphertext, ← htag]

/-- Opening accepts what the construction makes of a plaintext, with a limit of its own. -/
theorem decrypt_eq_ok_iff {c : KeyedCipher} {plaintext nonce associated : Bytes} {m : SealedMessage} :
    c.decrypt m nonce associated = .ok plaintext ↔
      c.Seals plaintext nonce associated m ∧ plaintext.length ≤ ciphertextLimit ∧
        associated.length ≤ associatedLimit := by
  constructor
  · intro hdecrypt
    obtain ⟨n, hnonce, hrest⟩ := bind_eq_ok_iff.1 hdecrypt
    obtain ⟨tag, htag, hrest⟩ := bind_eq_ok_iff.1 hrest
    obtain ⟨key, hkey, _⟩ := bind_eq_ok_iff.1 hrest
    rw [decrypt_eq_of_parts hnonce htag hkey] at hdecrypt
    split_ifs at hdecrypt with hlong hverifies
    cases hdecrypt
    rw [Gcm.length_applyKeystream]
    refine ⟨⟨n, key, hnonce, hkey, Gcm.seals_iff.2 ⟨rfl, ?_⟩⟩, by omega, by omega⟩
    rw [tagOf_eq_ok_iff.1 htag, hverifies]
  · rintro ⟨⟨n, key, hnonce, hkey, hseals⟩, hmessage, hassociated⟩
    rw [← hseals.length_eq] at hmessage
    obtain ⟨hplaintext, htag⟩ := Gcm.seals_iff.1 hseals
    rw [decrypt_eq_of_parts hnonce (tagOf_eq_ok_iff.2 htag) hkey, if_neg (by omega), if_pos rfl,
      hplaintext]

/-- The first of the sizes of a nonce, a tag and a key with which no message can be opened. -/
def sizeFault? (c : KeyedCipher) (nonce tag : Bytes) : Option CipherError :=
  if nonce.length ≠ 12 then some (.nonceSize nonce.length)
  else if tag.length ≠ 16 then some (.tagSize tag.length)
  else if c.key.size ≠ 16 ∧ c.key.size ≠ 32 then some (.keySize c.key.size)
  else none

/-- The sizes with which a message can be opened. -/
theorem sizeFault?_eq_none_iff {c : KeyedCipher} {nonce tag : Bytes} :
    c.sizeFault? nonce tag = none ↔
      nonce.length = 12 ∧ tag.length = 16 ∧ (c.key.size = 16 ∨ c.key.size = 32) := by
  unfold sizeFault?
  split_ifs <;> simp <;> omega

private theorem ne_authentication_of_sizeFault? {c : KeyedCipher} {nonce tag : Bytes} {e : CipherError}
    (hfault : c.sizeFault? nonce tag = some e) : e ≠ .authentication := by
  unfold sizeFault? at hfault
  split_ifs at hfault <;> cases hfault <;> simp

private theorem nonceOf_eq_error {bytes : Bytes} (hsize : bytes.length ≠ 12) :
    nonceOf bytes = .error (.nonceSize bytes.length) :=
  dif_neg hsize

private theorem nonceOf_success {bytes : Bytes} (hsize : bytes.length = 12) :
    ∃ nonce, nonceOf bytes = .ok nonce :=
  ⟨_, dif_pos hsize⟩

private theorem tagOf_eq_error {bytes : Bytes} (hsize : bytes.length ≠ 16) :
    tagOf bytes = .error (.tagSize bytes.length) :=
  dif_neg hsize

private theorem tagOf_success {bytes : Bytes} (hsize : bytes.length = 16) : ∃ tag, tagOf bytes = .ok tag :=
  ⟨_, dif_pos hsize⟩

private theorem expandedKey_eq_error {c : KeyedCipher} (hsize : c.key.size ≠ 16 ∧ c.key.size ≠ 32) :
    c.expandedKey = .error (.keySize c.key.size) := by
  unfold expandedKey
  rw [Aes.Key.ofBytes?_eq_none_iff.2 hsize]
  rfl

private theorem expandedKey_success {c : KeyedCipher} (hsize : c.key.size = 16 ∨ c.key.size = 32) :
    ∃ key, c.expandedKey = .ok key := by
  unfold expandedKey
  cases hkey : Aes.Key.ofBytes? c.key.bytes with
  | some key => exact ⟨key, rfl⟩
  | none =>
    have hsizes := Aes.Key.ofBytes?_eq_none_iff.1 hkey
    simp only [CipherKey.size] at hsize
    omega

/-- Sizes are looked at before anything else, so a wrong one hides whether the tag would verify. -/
theorem decrypt_eq_error_of_sizeFault? {c : KeyedCipher} {nonce associated : Bytes} {m : SealedMessage}
    {e : CipherError} (hfault : c.sizeFault? nonce m.tag = some e) :
    c.decrypt m nonce associated = .error e := by
  unfold sizeFault? at hfault
  split_ifs at hfault with hnonce htag hkey
  · cases hfault
    rw [decrypt, nonceOf_eq_error hnonce]
    rfl
  · cases hfault
    obtain ⟨n, hn⟩ := nonceOf_success (not_not.1 hnonce)
    rw [decrypt, hn, tagOf_eq_error htag]
    rfl
  · cases hfault
    obtain ⟨n, hn⟩ := nonceOf_success (not_not.1 hnonce)
    obtain ⟨t, ht⟩ := tagOf_success (not_not.1 htag)
    rw [decrypt, hn, ht, expandedKey_eq_error hkey]
    rfl

/-- With good sizes nothing can go wrong but the tag. -/
theorem decrypt_ok_or_authentication {c : KeyedCipher} {nonce associated : Bytes} {m : SealedMessage}
    (hsizes : c.sizeFault? nonce m.tag = none) :
    (∃ plaintext, c.decrypt m nonce associated = .ok plaintext) ∨
      c.decrypt m nonce associated = .error .authentication := by
  obtain ⟨hnonce, htag, hkey⟩ := sizeFault?_eq_none_iff.1 hsizes
  obtain ⟨n, hn⟩ := nonceOf_success hnonce
  obtain ⟨t, ht⟩ := tagOf_success htag
  obtain ⟨key, hk⟩ := expandedKey_success hkey
  rw [decrypt_eq_of_parts hn ht hk]
  split_ifs
  · exact .inr rfl
  · exact .inl ⟨_, rfl⟩
  · exact .inr rfl

/-- A cipher that refuses a message says which size is wrong, or else that the tag is. -/
theorem decrypt_eq_error_iff {c : KeyedCipher} {nonce associated : Bytes} {m : SealedMessage}
    {e : CipherError} :
    c.decrypt m nonce associated = .error e ↔
      c.sizeFault? nonce m.tag = some e ∨
        (c.sizeFault? nonce m.tag = none ∧ e = .authentication ∧
          ∀ plaintext, c.decrypt m nonce associated ≠ .ok plaintext) := by
  cases hsizes : c.sizeFault? nonce m.tag with
  | some fault =>
    rw [decrypt_eq_error_of_sizeFault? hsizes]
    simp
  | none =>
    have hcases : (∃ plaintext, c.decrypt m nonce associated = .ok plaintext) ∨
        c.decrypt m nonce associated = .error .authentication := decrypt_ok_or_authentication hsizes
    rcases hcases with ⟨plaintext, hok⟩ | hrefused
    · simp [hok]
    · simp [hrefused, eq_comm]

/-- What opening accepts within the limit of sealing was sealed. The limit of opening is a tag higher, as if
the tag stood in the ciphertext. -/
theorem decrypt_eq_ok_iff_encrypt_of_le {c : KeyedCipher} {plaintext nonce associated : Bytes}
    {m : SealedMessage} (hshort : plaintext.length ≤ messageLimit) :
    c.decrypt m nonce associated = .ok plaintext ↔ c.encrypt plaintext nonce associated = .ok m := by
  have hopened : plaintext.length ≤ ciphertextLimit := Nat.le_add_right_of_le hshort
  rw [decrypt_eq_ok_iff, encrypt_eq_ok_iff, iff_true_intro hshort, iff_true_intro hopened]

/-- What was sealed opens. -/
theorem decrypt_of_encrypt {c : KeyedCipher} {plaintext nonce associated : Bytes} {m : SealedMessage}
    (hseals : c.encrypt plaintext nonce associated = .ok m) :
    c.decrypt m nonce associated = .ok plaintext :=
  (decrypt_eq_ok_iff_encrypt_of_le (encrypt_eq_ok_iff.1 hseals).2.1).2 hseals

/-- With good sizes there is a message for every plaintext, however long. -/
theorem exists_seals {c : KeyedCipher} {nonce : Bytes} (hnonce : nonce.length = 12)
    (hkey : c.key.size = 16 ∨ c.key.size = 32) (plaintext associated : Bytes) :
    ∃ m, c.Seals plaintext nonce associated m := by
  obtain ⟨n, hn⟩ := nonceOf_success hnonce
  obtain ⟨key, hk⟩ := expandedKey_success hkey
  let ciphertext := Gcm.applyKeystream key n plaintext
  exact ⟨⟨ciphertext, (Gcm.tag key n associated ciphertext).toList⟩, n, key, hn, hk,
    by simp only [ciphertext], by simp only⟩

/-- With good sizes every plaintext within the limits is sealed. -/
theorem encrypt_success {c : KeyedCipher} {plaintext nonce associated : Bytes}
    (hnonce : nonce.length = 12) (hkey : c.key.size = 16 ∨ c.key.size = 32)
    (hplaintext : plaintext.length ≤ messageLimit) (hassociated : associated.length ≤ associatedLimit) :
    ∃ m, c.encrypt plaintext nonce associated = .ok m := by
  obtain ⟨m, hseals⟩ := exists_seals hnonce hkey plaintext associated
  exact ⟨m, encrypt_eq_ok_iff.2 ⟨hseals, hplaintext, hassociated⟩⟩

/-- Opening inverts sealing, and a message that no plaintext seals to is refused. Within the limits of the
mode the two directions hold of the same plaintexts; a wrong size of the nonce, the tag or the key is told
apart from a tag that does not verify; a ciphertext opens under one tag at most; and with good sizes every
plaintext within the limits is sealed to a message that opens. -/
theorem decrypt_inverts_encrypt (c : KeyedCipher) (nonce associated : Bytes) (m : SealedMessage) :
    (m.ciphertext.length ≤ messageLimit → ∀ plaintext,
      c.decrypt m nonce associated = .ok plaintext ↔ c.encrypt plaintext nonce associated = .ok m) ∧
    ((∃ e, c.decrypt m nonce associated = .error e ∧ e ≠ .authentication) ↔
      nonce.length ≠ 12 ∨ m.tag.length ≠ 16 ∨ (c.key.size ≠ 16 ∧ c.key.size ≠ 32)) ∧
    (c.decrypt m nonce associated = .error .authentication ↔
      nonce.length = 12 ∧ m.tag.length = 16 ∧ (c.key.size = 16 ∨ c.key.size = 32) ∧
        ∀ plaintext, c.decrypt m nonce associated ≠ .ok plaintext) ∧
    (∀ plaintext, c.decrypt m nonce associated = .ok plaintext →
      ∀ tag, tag ≠ m.tag → ∀ other, c.decrypt ⟨m.ciphertext, tag⟩ nonce associated ≠ .ok other) ∧
    (nonce.length = 12 → (c.key.size = 16 ∨ c.key.size = 32) → associated.length ≤ associatedLimit →
      ∀ plaintext, plaintext.length ≤ messageLimit → ∃ sealedMessage,
        c.encrypt plaintext nonce associated = .ok sealedMessage ∧
          c.decrypt sealedMessage nonce associated = .ok plaintext) := by
  refine ⟨fun hlimit plaintext => ?_, ⟨?_, ?_⟩, ⟨?_, ?_⟩, ?_, ?_⟩
  · rw [decrypt_eq_ok_iff, encrypt_eq_ok_iff]
    refine and_congr_right fun hseals => and_congr_left fun _ => ?_
    -- The two limits differ, but both lie above the length of this ciphertext.
    rw [hseals.length_eq] at hlimit
    exact iff_of_true (Nat.le_add_right_of_le hlimit) hlimit
  · rintro ⟨e, herror, hne⟩
    rcases decrypt_eq_error_iff.1 herror with hfault | ⟨_, rfl, _⟩
    · by_contra hsizes
      have hnone : c.sizeFault? nonce m.tag = none := sizeFault?_eq_none_iff.2 (by omega)
      rw [hnone] at hfault
      cases hfault
    · exact absurd rfl hne
  · intro hsizes
    cases hfault : c.sizeFault? nonce m.tag with
    | none =>
      have hgood := sizeFault?_eq_none_iff.1 hfault
      omega
    | some e =>
      exact ⟨e, decrypt_eq_error_of_sizeFault? hfault, ne_authentication_of_sizeFault? hfault⟩
  · intro herror
    rcases decrypt_eq_error_iff.1 herror with hfault | ⟨hsizes, _, hrefused⟩
    · exact absurd rfl (ne_authentication_of_sizeFault? hfault)
    · obtain ⟨hnonce, htag, hkey⟩ := sizeFault?_eq_none_iff.1 hsizes
      exact ⟨hnonce, htag, hkey, hrefused⟩
  · rintro ⟨hnonce, htag, hkey, hrefused⟩
    exact decrypt_eq_error_iff.2 (.inr ⟨sizeFault?_eq_none_iff.2 ⟨hnonce, htag, hkey⟩, rfl, hrefused⟩)
  · intro plaintext hopens tag hne other hopens'
    exact hne ((decrypt_eq_ok_iff.1 hopens').1.tag_eq (decrypt_eq_ok_iff.1 hopens).1)
  · intro hnonce hkey hassociated plaintext hplaintext
    obtain ⟨sealedMessage, hseals⟩ := encrypt_success hnonce hkey hplaintext hassociated
    exact ⟨sealedMessage, hseals, decrypt_of_encrypt hseals⟩

/-- Three bytes under a key of zeros are sealed, opened again, and refused under any other tag. -/
theorem decrypt_inverts_encrypt_three_bytes :
    let c : KeyedCipher := ⟨⟨List.replicate 16 0⟩⟩
    let nonce := List.replicate 12 0
    ∃ m, c.encrypt [1, 2, 3] nonce [4] = .ok m ∧ c.decrypt m nonce [4] = .ok [1, 2, 3] ∧
      ∀ tag, tag ≠ m.tag → ∀ other, c.decrypt ⟨m.ciphertext, tag⟩ nonce [4] ≠ .ok other := by
  intro c nonce
  obtain ⟨m, hsealed⟩ : ∃ m, c.encrypt [1, 2, 3] nonce [4] = .ok m := ⟨_, rfl⟩
  have hlimit : m.ciphertext.length ≤ messageLimit := by
    rw [(encrypt_eq_ok_iff.1 hsealed).1.length_eq]
    decide
  obtain ⟨hinverse, _, _, htag, _⟩ := decrypt_inverts_encrypt c nonce [4] m
  have hopened := (hinverse hlimit [1, 2, 3]).2 hsealed
  exact ⟨m, hsealed, hopened, htag [1, 2, 3] hopened⟩

end KeyedCipher

end SignIn
