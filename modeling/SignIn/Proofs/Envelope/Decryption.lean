import SignIn.Proofs.Cipher.Sealing
import SignIn.Proofs.Envelope.Compact
import SignIn.Proofs.KeyDerivation

namespace SignIn.Envelope

/-- The envelopes of the supported kind. -/
theorem checkSupported_eq_ok_iff {e : Envelope} {passed : Unit} :
    e.checkSupported = .ok passed ↔
      e.header.alg = directAgreement ∧ e.header.enc = contentEncryption ∧ e.encryptedKey = [] := by
  unfold checkSupported
  split_ifs with halg henc hkey
  · exact iff_of_false (by intro h; cases h) fun h => halg h.1
  · exact iff_of_false (by intro h; cases h) fun h => henc h.2.1
  · exact iff_of_false (by intro h; cases h) fun h => hkey h.2.2
  · exact iff_of_true rfl ⟨not_not.1 halg, not_not.1 henc, not_not.1 hkey⟩

/-- A field of a header that names a party: there is something in it, and it spells the bytes of the
party. -/
def NamesParty (encoded : Option String) (party : Bytes) : Prop :=
  ∃ text, encoded = some text ∧ text ≠ "" ∧ Base64.decode .urlSafe .refused text.toList = .ok party

/-- A party is known by the bytes that its field spells. -/
theorem partyBytes_eq_ok_iff {part : EnvelopePart} {encoded : Option String} {party : Bytes} :
    partyBytes part encoded = .ok party ↔ NamesParty encoded party := by
  unfold partyBytes NamesParty
  cases encoded with
  | none => exact iff_of_false (by intro h; cases h) (by rintro ⟨_, h, _⟩; cases h)
  | some text =>
    dsimp only
    by_cases hempty : text = ""
    · rw [if_pos hempty]
      refine iff_of_false (by intro h; cases h) ?_
      rintro ⟨_, htext, hne, _⟩
      cases htext
      exact hne hempty
    · rw [if_neg hempty, decodePart, mapError_eq_ok_iff]
      constructor
      · intro hdecode
        exact ⟨text, rfl, hempty, hdecode⟩
      · rintro ⟨_, htext, _, hdecode⟩
        cases htext
        exact hdecode

/-- The key that a header asks for: derived from a secret, for the encryption and the two parties that it
names. -/
def ContentKey (header : EnvelopeHeader) (secret key : Bytes) : Prop :=
  ∃ partyU partyV, NamesParty header.apu partyU ∧ NamesParty header.apv partyV ∧
    KeyRequest.derive ⟨secret, 32, Utf8.bytesOf header.enc, partyU, partyV⟩ = .ok key

private theorem ContentKey.secret_ne_nil {header : EnvelopeHeader} {secret key : Bytes}
    (hkey : ContentKey header secret key) : secret ≠ [] := by
  obtain ⟨partyU, partyV, _, _, hderive⟩ := hkey
  exact (KeyRequest.derive_eq_ok_iff.1 hderive).1.sharedSecret

/-- Decryption is a row of steps: the header is supported and asks for a key, and the key opens the rest. -/
theorem decrypt_eq_ok_iff {e : Envelope} {secret payload : Bytes} :
    e.decrypt secret = .ok payload ↔
      (e.header.alg = directAgreement ∧ e.header.enc = contentEncryption ∧ e.encryptedKey = []) ∧
        ∃ key, ContentKey e.header secret key ∧
          (⟨⟨key⟩⟩ : KeyedCipher).decrypt ⟨e.ciphertext, e.tag⟩ e.iv (Utf8.encode e.protectedText) =
            .ok payload := by
  simp only [decrypt, bind_eq_ok_iff, mapError_eq_ok_iff, checkSupported_eq_ok_iff, partyBytes_eq_ok_iff,
    exists_const]
  refine and_congr_right fun _ => ?_
  constructor
  · rintro ⟨partyU, hpartyU, partyV, hpartyV, key, hderive, hopens⟩
    exact ⟨key, ⟨partyU, partyV, hpartyU, hpartyV, hderive⟩, hopens⟩
  · rintro ⟨key, ⟨partyU, partyV, hpartyU, hpartyV, hderive⟩, hopens⟩
    exact ⟨partyU, hpartyU, partyV, hpartyV, key, hderive, hopens⟩

/-- What a broker sends: a payload sealed with the key for two parties, with the header segment as
associated data, in compact form. -/
def sealPayload (document secret partyU partyV iv payload : Bytes) : Except EnvelopeError (List Char) := do
  let key ← (KeyRequest.derive
    ⟨secret, contentKeySize, Utf8.bytesOf contentEncryption, partyU, partyV⟩).mapError .derivation
  let m ← ((⟨⟨key⟩⟩ : KeyedCipher).encrypt payload iv (Utf8.encode (encodePart document))).mapError .cipher
  return compactForm document [] iv m.ciphertext m.tag

private theorem sealPayload_eq_ok_iff {document secret partyU partyV iv payload : Bytes} {text : List Char} :
    sealPayload document secret partyU partyV iv payload = .ok text ↔
      ∃ key m, KeyRequest.derive ⟨secret, 32, Utf8.bytesOf contentEncryption, partyU, partyV⟩ = .ok key ∧
        (⟨⟨key⟩⟩ : KeyedCipher).encrypt payload iv (Utf8.encode (encodePart document)) = .ok m ∧
        text = compactForm document [] iv m.ciphertext m.tag := by
  simp only [sealPayload, bind_eq_ok_iff, mapError_eq_ok_iff, contentKeySize]
  constructor
  · rintro ⟨key, hderive, m, hseal, htext⟩
    cases htext
    exact ⟨key, m, hderive, hseal, rfl⟩
  · rintro ⟨key, m, hderive, hseal, rfl⟩
    exact ⟨key, hderive, m, hseal, rfl⟩

/-- A payload within the limits can be sealed with every key that can be derived. -/
theorem sealPayload_success {document secret partyU partyV iv payload : Bytes}
    (hderivable : KeyRequest.Derivable
      ⟨secret, contentKeySize, Utf8.bytesOf contentEncryption, partyU, partyV⟩)
    (hiv : iv.length = 12) (hpayload : payload.length ≤ KeyedCipher.messageLimit)
    (hheader : (Utf8.encode (encodePart document)).length ≤ KeyedCipher.associatedLimit) :
    ∃ text, sealPayload document secret partyU partyV iv payload = .ok text := by
  obtain ⟨key, hderive⟩ := KeyRequest.derive_success hderivable
  have hsize : (⟨⟨key⟩⟩ : KeyedCipher).key.size = 32 := KeyRequest.length_of_derive hderive
  obtain ⟨m, hseals⟩ := KeyedCipher.encrypt_success hiv (.inr hsize) hpayload hheader
  exact ⟨_, sealPayload_eq_ok_iff.2 ⟨key, m, hderive, hseals, rfl⟩⟩

/-- The headers that a broker writes for two parties: the supported algorithms, and the parties. -/
structure Announces (header : EnvelopeHeader) (partyU partyV : Bytes) : Prop where
  alg : header.alg = "ECDH-ES"
  enc : header.enc = "A256GCM"
  apu : NamesParty header.apu partyU
  apv : NamesParty header.apv partyV

/-- A text of the supported kind, taken apart as it stands: the header segment, an empty segment for the key,
a nonce, and a message; and the key that its header and a secret give. -/
structure SupportedText (text : List Char) (header : EnvelopeHeader) (secret : Bytes)
    (headerText : List Char) (key iv : Bytes) (m : SealedMessage) : Prop where
  alg : header.alg = "ECDH-ES"
  enc : header.enc = "A256GCM"
  agreed : secret ≠ []
  segments : ∃ ivText ciphertextText tagText,
    Text.splitOn '.' text = [headerText, [], ivText, ciphertextText, tagText] ∧
      Base64.decode .urlSafe .refused ivText = .ok iv ∧
      Base64.decode .urlSafe .refused ciphertextText = .ok m.ciphertext ∧
      Base64.decode .urlSafe .refused tagText = .ok m.tag
  contentKey : ContentKey header secret key

/-- A text that is given by sealing a payload: what is sealed with the key of the text under its nonce, with
its header segment as associated data, is the message in it. -/
def IsSealed (text : List Char) (header : EnvelopeHeader) (secret payload : Bytes) : Prop :=
  ∃ (headerText : List Char) (key iv : Bytes) (m : SealedMessage),
    SupportedText text header secret headerText key iv m ∧
      (⟨⟨key⟩⟩ : KeyedCipher).encrypt payload iv (Utf8.encode headerText) = .ok m

private theorem IsSealed.length_le {text : List Char} {header : EnvelopeHeader} {secret payload : Bytes}
    (hsealed : IsSealed text header secret payload) : payload.length ≤ KeyedCipher.messageLimit := by
  obtain ⟨_, _, _, _, _, hencrypt⟩ := hsealed
  exact (KeyedCipher.encrypt_eq_ok_iff.1 hencrypt).2.1

/-- What sealing gives does not end in white space: a symbol of the tag stands there. -/
private theorem IsSealed.not_isBlank {before after : List Char} {header : EnvelopeHeader}
    {document encryptedKey iv ciphertext tag secret payload : Bytes}
    (hsealed : IsSealed (before ++ compactForm document encryptedKey iv ciphertext tag ++ after) header
      secret payload) (hbefore : '.' ∉ before) (hafter : '.' ∉ after) :
    ∀ c ∈ after, Text.isBlank c = false := by
  intro c hc
  obtain ⟨_, _, _, m, htext, _⟩ := hsealed
  obtain ⟨_, _, tagText, hsegments, _, _, htag⟩ := htext.segments
  rw [splitOn_surrounded document encryptedKey iv ciphertext tag hbefore hafter] at hsegments
  simp only [List.cons.injEq, and_true] at hsegments
  obtain ⟨_, _, _, _, rfl⟩ := hsegments
  have hspelled : encodePart tag ++ after = encodePart m.tag := Base64.decode_refused_eq_ok_iff.1 htag
  exact (Base64.mem_encode (hspelled ▸ List.mem_append_right _ hc)).2

/-- A text that is read is decrypted if what is left of it without the white space around it is of the
supported kind and its message is opened. -/
theorem decrypt_eq_ok_iff_supportedText {compact : String} {e : Envelope} (hparse : parse compact = .ok e)
    {secret payload : Bytes} :
    e.decrypt secret = .ok payload ↔
      ∃ headerText key iv m, SupportedText (Text.trim compact.toList) e.header secret headerText key iv m ∧
        (⟨⟨key⟩⟩ : KeyedCipher).decrypt m iv (Utf8.encode headerText) = .ok payload := by
  rw [decrypt_eq_ok_iff]
  constructor
  · rintro ⟨⟨halg, henc, hempty⟩, key, hkey, hopens⟩
    have hsegments := (parse_eq_ok_iff_splitOn.1 hparse).1
    rw [hempty] at hsegments
    have hdecode (bytes : Bytes) : Base64.decode .urlSafe .refused (encodePart bytes) = .ok bytes :=
      Base64.decode_refused_eq_ok_iff.2 rfl
    exact ⟨e.protectedText, key, e.iv, ⟨e.ciphertext, e.tag⟩,
      ⟨halg, henc, hkey.secret_ne_nil,
        ⟨_, _, _, hsegments, hdecode e.iv, hdecode e.ciphertext, hdecode e.tag⟩, hkey⟩, hopens⟩
  · rintro ⟨headerText, key, iv, m, htext, hopens⟩
    obtain ⟨ivText, ciphertextText, tagText, hsegments, hiv, hciphertext, htag⟩ := htext.segments
    obtain ⟨hheader, hempty, hiv, hciphertext, htag⟩ :=
      segments_unique hparse hsegments hiv hciphertext htag
    refine ⟨⟨htext.alg, htext.enc, hempty⟩, key, htext.contentKey, ?_⟩
    rw [hheader, hiv, hciphertext, htag]
    exact hopens

/-- A message that opens, put in compact form behind a header that asks for its key, is decrypted, whatever
white space stands around it. -/
theorem decrypt_compactForm {document : Bytes} {header : EnvelopeHeader}
    (hheader : Json.decodeBytes EnvelopeHeader.record.decoder document = .ok header)
    {partyU partyV : Bytes} (hannounces : Announces header partyU partyV) {secret key : Bytes}
    (hderive : KeyRequest.derive ⟨secret, 32, Utf8.bytesOf contentEncryption, partyU, partyV⟩ = .ok key)
    {iv payload : Bytes} {m : SealedMessage}
    (hopens : (⟨⟨key⟩⟩ : KeyedCipher).decrypt m iv (Utf8.encode (encodePart document)) = .ok payload)
    {before after : List Char} (hbefore : ∀ c ∈ before, Text.isBlank c = true)
    (hafter : ∀ c ∈ after, Text.isBlank c = true) :
    ∃ e, parse (String.ofList (before ++ compactForm document [] iv m.ciphertext m.tag ++ after)) = .ok e ∧
      e.decrypt secret = .ok payload := by
  refine ⟨_, parse_compactForm hheader [] iv m.ciphertext m.tag hbefore hafter, ?_⟩
  rw [decrypt_eq_ok_iff]
  refine ⟨⟨hannounces.alg, hannounces.enc, rfl⟩, key, ?_, hopens⟩
  refine ⟨partyU, partyV, hannounces.apu, hannounces.apv, ?_⟩
  rw [hannounces.enc]
  exact hderive

/-- What a broker sends is decrypted to its payload, whatever white space stands around it. -/
theorem decrypt_of_sealPayload {document : Bytes} {header : EnvelopeHeader}
    (hheader : Json.decodeBytes EnvelopeHeader.record.decoder document = .ok header)
    {partyU partyV : Bytes} (hannounces : Announces header partyU partyV) {secret iv payload : Bytes}
    {text : List Char} (hseal : sealPayload document secret partyU partyV iv payload = .ok text)
    {before after : List Char} (hbefore : ∀ c ∈ before, Text.isBlank c = true)
    (hafter : ∀ c ∈ after, Text.isBlank c = true) :
    ∃ e, parse (String.ofList (before ++ text ++ after)) = .ok e ∧ e.decrypt secret = .ok payload := by
  obtain ⟨key, m, hderive, hseals, rfl⟩ := sealPayload_eq_ok_iff.1 hseal
  exact decrypt_compactForm hheader hannounces hderive (KeyedCipher.decrypt_of_encrypt hseals) hbefore hafter

/-- The document of a header from one party of one letter to another. -/
def letterDocument : Bytes :=
  Utf8.bytesOf "\x7b\"alg\":\"ECDH-ES\",\"enc\":\"A256GCM\",\"apu\":\"QQ\",\"apv\":\"Qg\"\x7d"

private theorem decodeBytes_letterDocument :
    Json.decodeBytes EnvelopeHeader.record.decoder letterDocument =
      .ok ⟨"ECDH-ES", "A256GCM", some "QQ", some "Qg"⟩ := by
  decide +kernel

private theorem announces_letters :
    Announces ⟨"ECDH-ES", "A256GCM", some "QQ", some "Qg"⟩ [65] [66] :=
  ⟨rfl, rfl, ⟨"QQ", rfl, by decide, by decide +kernel⟩, ⟨"Qg", rfl, by decide, by decide +kernel⟩⟩

private theorem derivable_letters :
    KeyRequest.Derivable ⟨[7], 32, Utf8.bytesOf contentEncryption, [65], [66]⟩ :=
  ⟨by decide, by decide, by decide, by decide, by decide, by decide, by decide⟩

private theorem exists_sealed_letter : ∃ text,
    sealPayload letterDocument [7] [65] [66] (List.replicate 12 0) [1, 2, 3] = .ok text :=
  sealPayload_success derivable_letters (by decide) (by decide) (by decide +kernel)

/-- Decryption inverts what a broker does, for every text that is read as an envelope. It comes to a payload
within the limit of sealing exactly when the header is supported, no key is sent along, both parties are
named, there is a secret, and sealing the payload with the key derived from all that, with the header segment
as it stands in the trimmed text as associated data, gives the other segments. A longer payload cannot be
sealed; it is decrypted if it is longer by a tag at most and the construction of the mode gives the other
segments. So what a broker sends is decrypted to its payload, and what is decrypted within the limit was
sent. -/
theorem decrypt_inverts_sealPayload :
    (∀ (compact : String) (e : Envelope), parse compact = .ok e → ∀ secret payload : Bytes,
      payload.length ≤ KeyedCipher.messageLimit →
        (e.decrypt secret = .ok payload ↔
          IsSealed (Text.trim compact.toList) e.header secret payload)) ∧
    (∀ (compact : String) (e : Envelope), parse compact = .ok e → ∀ secret payload : Bytes,
      KeyedCipher.messageLimit < payload.length →
        (e.decrypt secret = .ok payload ↔
          payload.length ≤ KeyedCipher.messageLimit + 16 ∧
            ∃ (headerText : List Char) (key iv : Bytes) (m : SealedMessage),
              SupportedText (Text.trim compact.toList) e.header secret headerText key iv m ∧
                (Utf8.encode headerText).length ≤ KeyedCipher.associatedLimit ∧
                (⟨⟨key⟩⟩ : KeyedCipher).Seals payload iv (Utf8.encode headerText) m)) ∧
    (∀ (document : Bytes) (header : EnvelopeHeader) (partyU partyV : Bytes),
      Json.decodeBytes EnvelopeHeader.record.decoder document = .ok header →
      Announces header partyU partyV → ∀ (secret iv payload : Bytes) (text : List Char),
        sealPayload document secret partyU partyV iv payload = .ok text →
        ∃ e, parse (String.ofList text) = .ok e ∧ e.decrypt secret = .ok payload) ∧
    (∀ (compact : String) (e : Envelope), parse compact = .ok e → ∀ secret payload : Bytes,
      e.decrypt secret = .ok payload → payload.length ≤ KeyedCipher.messageLimit →
      ∃ document partyU partyV, Json.decodeBytes EnvelopeHeader.record.decoder document = .ok e.header ∧
        Announces e.header partyU partyV ∧
        sealPayload document secret partyU partyV e.iv payload = .ok (Text.trim compact.toList)) := by
  refine ⟨fun compact e hparse secret payload hshort => ?_, fun compact e hparse secret payload hlong => ?_,
    fun document header partyU partyV hheader hannounces secret iv payload text hseal => ?_,
    fun compact e hparse secret payload hdecrypt hshort => ?_⟩
  · rw [decrypt_eq_ok_iff_supportedText hparse, IsSealed]
    simp only [KeyedCipher.decrypt_eq_ok_iff_encrypt_of_le hshort]
  · rw [decrypt_eq_ok_iff_supportedText hparse]
    constructor
    · rintro ⟨headerText, key, iv, m, htext, hopens⟩
      obtain ⟨hseals, hlength, hassociated⟩ := KeyedCipher.decrypt_eq_ok_iff.1 hopens
      exact ⟨hlength, headerText, key, iv, m, htext, hassociated, hseals⟩
    · rintro ⟨hlength, headerText, key, iv, m, htext, hassociated, hseals⟩
      exact ⟨headerText, key, iv, m, htext,
        KeyedCipher.decrypt_eq_ok_iff.2 ⟨hseals, hlength, hassociated⟩⟩
  · obtain ⟨e, hparse, hdecrypt⟩ :=
      decrypt_of_sealPayload hheader hannounces hseal (List.forall_mem_nil _) (List.forall_mem_nil _)
    rw [List.nil_append, List.append_nil] at hparse
    exact ⟨e, hparse, hdecrypt⟩
  · obtain ⟨⟨halg, henc, hempty⟩, key, ⟨partyU, partyV, hpartyU, hpartyV, hderive⟩, hopens⟩ :=
      decrypt_eq_ok_iff.1 hdecrypt
    obtain ⟨document, hdocument, hheader⟩ := readHeader_eq_ok_iff.1 (parse_eq_ok_iff_splitOn.1 hparse).2
    refine ⟨document, partyU, partyV, hheader, ⟨halg, henc, hpartyU, hpartyV⟩, ?_⟩
    rw [sealPayload_eq_ok_iff]
    refine ⟨key, ⟨e.ciphertext, e.tag⟩, henc ▸ hderive, ?_, ?_⟩
    · -- The header segment that was authenticated is the one that writing the document gives back.
      rw [← hdocument]
      exact (KeyedCipher.decrypt_eq_ok_iff_encrypt_of_le hshort).1 hopens
    · rw [← render_eq_trim hparse, render, hdocument, hempty]
      rfl

/-- Three bytes sent from one party of one letter to another are read, decrypted, and sealed again to the
text that they came in. No bytes are decrypted without a secret. -/
theorem decrypt_inverts_sealPayload_three_bytes :
    ∃ text e, sealPayload letterDocument [7] [65] [66] (List.replicate 12 0) [1, 2, 3] = .ok text ∧
      parse (String.ofList text) = .ok e ∧ e.decrypt [7] = .ok [1, 2, 3] ∧
      IsSealed (Text.trim (String.ofList text).toList) e.header [7] [1, 2, 3] ∧
      (∀ payload, e.decrypt [] ≠ .ok payload) ∧
      ∃ document partyU partyV, Announces e.header partyU partyV ∧
        sealPayload document [7] partyU partyV e.iv [1, 2, 3] =
          .ok (Text.trim (String.ofList text).toList) := by
  obtain ⟨hdecrypts, hlong, hreads, hseals⟩ := decrypt_inverts_sealPayload
  obtain ⟨text, hseal⟩ := exists_sealed_letter
  obtain ⟨e, hparse, hdecrypt⟩ :=
    hreads _ _ _ _ decodeBytes_letterDocument announces_letters _ _ _ _ hseal
  obtain ⟨document, partyU, partyV, _, hannounces, hseal'⟩ :=
    hseals _ e hparse _ _ hdecrypt (by decide)
  refine ⟨text, e, hseal, hparse, hdecrypt, (hdecrypts _ e hparse [7] _ (by decide)).1 hdecrypt,
    fun payload hopens => ?_, document, partyU, partyV, hannounces, hseal'⟩
  rcases Nat.lt_or_ge KeyedCipher.messageLimit payload.length with hlength | hlength
  · obtain ⟨_, _, _, _, _, htext, _⟩ := (hlong _ e hparse [] payload hlength).1 hopens
    exact htext.agreed rfl
  · obtain ⟨_, _, _, _, htext, _⟩ := (hdecrypts _ e hparse [] payload hlength).1 hopens
    exact htext.agreed rfl

/-- All bytes up to the limit of opening are decrypted from a letter: the construction of the mode gives its
text, also where sealing does not. -/
private theorem exists_decrypted_letter {payload : Bytes}
    (hlimit : payload.length ≤ KeyedCipher.ciphertextLimit) : ∃ (m : SealedMessage) (e : Envelope),
      parse (String.ofList (compactForm letterDocument [] (List.replicate 12 0) m.ciphertext m.tag)) = .ok e ∧
        e.decrypt [7] = .ok payload := by
  obtain ⟨key, hderive⟩ := KeyRequest.derive_success derivable_letters
  have hsize : (⟨⟨key⟩⟩ : KeyedCipher).key.size = 32 := KeyRequest.length_of_derive hderive
  have hiv : (List.replicate 12 0 : Bytes).length = 12 := List.length_replicate
  obtain ⟨m, hseals⟩ :=
    KeyedCipher.exists_seals hiv (.inr hsize) payload (Utf8.encode (encodePart letterDocument))
  obtain ⟨e, hparse, hdecrypt⟩ := decrypt_compactForm decodeBytes_letterDocument announces_letters hderive
    (KeyedCipher.decrypt_eq_ok_iff.2 ⟨hseals, hlimit, by decide +kernel⟩)
    (List.forall_mem_nil _) (List.forall_mem_nil _)
  rw [List.nil_append, List.append_nil] at hparse
  exact ⟨m, e, hparse, hdecrypt⟩

/-- Neither the trimming nor the limit can be left out. A text between two line ends is decrypted, though
sealing does not give it as it stands. And the construction of the mode gives a text for one more zero byte
than can be sealed, and this text is decrypted to those bytes. -/
theorem decrypt_opens_more_than_isSealed :
    (∃ text e, sealPayload letterDocument [7] [65] [66] (List.replicate 12 0) [1, 2, 3] = .ok text ∧
      parse (String.ofList (['\n'] ++ text ++ ['\n'])) = .ok e ∧ e.decrypt [7] = .ok [1, 2, 3] ∧
      ¬ IsSealed (['\n'] ++ text ++ ['\n']) e.header [7] [1, 2, 3]) ∧
    ∃ (m : SealedMessage) (e : Envelope),
      let text := compactForm letterDocument [] (List.replicate 12 0) m.ciphertext m.tag
      let payload : Bytes := List.replicate (KeyedCipher.messageLimit + 1) 0
      parse (String.ofList text) = .ok e ∧ e.decrypt [7] = .ok payload ∧
        ¬ IsSealed text e.header [7] payload := by
  constructor
  · obtain ⟨text, hseal⟩ := exists_sealed_letter
    have hblank : ∀ c ∈ ['\n'], Text.isBlank c = true := List.forall_mem_singleton.2 (by decide)
    obtain ⟨e, hparse, hdecrypt⟩ :=
      decrypt_of_sealPayload decodeBytes_letterDocument announces_letters hseal hblank hblank
    refine ⟨text, e, hseal, hparse, hdecrypt, fun hsealed => ?_⟩
    obtain ⟨_, _, _, _, rfl⟩ := sealPayload_eq_ok_iff.1 hseal
    have hdotless : '.' ∉ ['\n'] := by decide
    have hend : Text.isBlank '\n' = false :=
      hsealed.not_isBlank hdotless hdotless '\n' (List.mem_singleton_self _)
    rw [hblank '\n' (List.mem_singleton_self _)] at hend
    cases hend
  · have hlength : (List.replicate (KeyedCipher.messageLimit + 1) (0 : UInt8)).length =
        KeyedCipher.messageLimit + 1 := List.length_replicate
    have hlimit : (List.replicate (KeyedCipher.messageLimit + 1) (0 : UInt8)).length ≤
        KeyedCipher.ciphertextLimit := by
      rw [hlength, KeyedCipher.ciphertextLimit]
      exact Nat.add_le_add_left (by decide) _
    obtain ⟨m, e, hparse, hdecrypt⟩ := exists_decrypted_letter hlimit
    refine ⟨m, e, hparse, hdecrypt, fun hsealed => ?_⟩
    have hshort := hsealed.length_le
    rw [hlength] at hshort
    exact Nat.not_succ_le_self _ hshort

end SignIn.Envelope
