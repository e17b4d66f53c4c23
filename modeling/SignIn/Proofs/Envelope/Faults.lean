import SignIn.Proofs.Envelope.Decryption
import SignIn.Proofs.KeyBlocks

namespace SignIn

namespace KeyedCipher

/-- The tag of a message is that of its ciphertext and the associated data, and neither is too long. -/
def Verifies (c : KeyedCipher) (m : SealedMessage) (nonce associated : Bytes) : Prop :=
  ∃ (n : Gcm.Nonce) (key : Aes.Key), nonceOf nonce = .ok n ∧ c.expandedKey = .ok key ∧
    m.tag = (Gcm.tag key n associated m.ciphertext).toList ∧
    m.ciphertext.length ≤ ciphertextLimit ∧ associated.length ≤ associatedLimit

private theorem exists_decrypt_eq_ok_iff {c : KeyedCipher} {m : SealedMessage} {nonce associated : Bytes} :
    (∃ plaintext, c.decrypt m nonce associated = .ok plaintext) ↔ c.Verifies m nonce associated := by
  constructor
  · rintro ⟨plaintext, hdecrypt⟩
    obtain ⟨⟨n, key, hnonce, hkey, hseals⟩, hlength, hassociated⟩ := decrypt_eq_ok_iff.1 hdecrypt
    exact ⟨n, key, hnonce, hkey, hseals.2, hseals.length_eq ▸ hlength, hassociated⟩
  · rintro ⟨n, key, hnonce, hkey, htag, hlength, hassociated⟩
    have hseals : Gcm.Seals key n associated (Gcm.applyKeystream key n m.ciphertext) m :=
      Gcm.seals_iff.2 ⟨rfl, htag⟩
    exact ⟨_, decrypt_eq_ok_iff.2 ⟨⟨n, key, hnonce, hkey, hseals⟩, hseals.length_eq ▸ hlength, hassociated⟩⟩

/-- With a key of a supported size the nonce is looked at first, then the size of the tag, and then the tag. -/
theorem failsBy_decrypt {c : KeyedCipher} (hkey : c.key.size = 16 ∨ c.key.size = 32) (m : SealedMessage)
    (nonce associated : Bytes) :
    FailsBy (c.decrypt m nonce associated)
      [faultIf (nonce.length ≠ 12) (.nonceSize nonce.length),
       faultIf (m.tag.length ≠ 16) (.tagSize m.tag.length),
       faultIf (¬ c.Verifies m nonce associated) .authentication] := by
  by_cases hnonce : nonce.length = 12
  · refine .skip (not_not_intro hnonce) ?_
    by_cases htag : m.tag.length = 16
    · refine .skip (not_not_intro htag) ?_
      have hsizes : c.sizeFault? nonce m.tag = none := sizeFault?_eq_none_iff.2 ⟨hnonce, htag, hkey⟩
      refine .single (fun hrefused => ?_) fun hverifies => exists_decrypt_eq_ok_iff.2 (not_not.1 hverifies)
      exact (decrypt_ok_or_authentication hsizes).resolve_left fun hopens =>
        hrefused (exists_decrypt_eq_ok_iff.1 hopens)
    · have hfault : c.sizeFault? nonce m.tag = some (.tagSize m.tag.length) := by
        rw [sizeFault?, if_neg (not_not_intro hnonce), if_pos htag]
      rw [decrypt_eq_error_of_sizeFault? hfault]
      exact .error htag
  · have hfault : c.sizeFault? nonce m.tag = some (.nonceSize nonce.length) := by
      rw [sizeFault?, if_pos hnonce]
    rw [decrypt_eq_error_of_sizeFault? hfault]
    exact .error hnonce

end KeyedCipher

namespace Envelope

private theorem failsBy_checkSupported (e : Envelope) :
    FailsBy e.checkSupported
      [faultIf (e.header.alg ≠ directAgreement) (.unsupportedAlgorithm e.header.alg),
       faultIf (e.header.enc ≠ contentEncryption) (.unsupportedEncryption e.header.enc),
       faultIf (e.encryptedKey ≠ []) .encryptedKeyPresent] :=
  .ite fun _ => .ite fun _ => .ite fun _ => .ok ()

/-- A party is missing if nothing is said of it. -/
def Missing (encoded : Option String) : Prop :=
  encoded = none ∨ encoded = some ""

/-- What is said of a party does not spell bytes, for the reason that the reader of base64 gives. -/
def undecodable (part : EnvelopePart) (encoded : Option String) : EnvelopeError → Prop :=
  fun reported => ∃ text cause, encoded = some text ∧
    Base64.decode .urlSafe .refused text.toList = .error cause ∧ reported = .encoding part cause

private theorem failsBy_partyBytes (part : EnvelopePart) (encoded : Option String) :
    FailsBy (partyBytes part encoded)
      [faultIf (Missing encoded) (.missingParty part), undecodable part encoded] := by
  cases encoded with
  | none => exact .error (.inl rfl)
  | some text =>
    by_cases hempty : text = ""
    · rw [partyBytes, if_pos hempty]
      exact .error (.inr (congrArg some hempty))
    · have hpresent : ¬ Missing (some text) := by
        rintro (hnone | hsome)
        · cases hnone
        · exact hempty (Option.some.inj hsome)
      rw [partyBytes, if_neg hempty]
      refine .skip hpresent fun e => ?_
      rw [firstFault_singleton, decodePart, mapError_eq_error_iff]
      constructor
      · rintro ⟨cause, hdecode, he⟩
        exact ⟨text, cause, rfl, hdecode, he⟩
      · rintro ⟨_, cause, hsome, hdecode, he⟩
        cases hsome
        exact ⟨cause, hdecode, he⟩

private theorem NamesParty.ne_nil {encoded : Option String} {party : Bytes}
    (hparty : NamesParty encoded party) :
    party ≠ [] := by
  obtain ⟨text, -, hne, hdecode⟩ := hparty
  rintro rfl
  rw [Base64.decode_refused_eq_ok_iff] at hdecode
  exact hne (String.toList_eq_nil_iff.1 (hdecode.trans (Base64.encode_eq_nil_iff.2 rfl)))

/-- With two parties of a length that can be counted, nothing can be wrong with the derivation but that there is
no secret: its length and its algorithm are always good. -/
theorem failsBy_derive_keyRequest {e : Envelope} (secret : Bytes) {partyU partyV : Bytes}
    (henc : e.header.enc = contentEncryption) (hpartyU : partyU ≠ [] ∧ partyU.length < 0x100000000)
    (hpartyV : partyV ≠ [] ∧ partyV.length < 0x100000000) :
    FailsBy (e.keyRequest secret partyU partyV).derive [faultIf (secret = []) (.missing .sharedSecret)] := by
  have halgorithm : Utf8.bytesOf contentEncryption = [65, 50, 53, 54, 71, 67, 77] := by decide
  have hfitsU : ¬ 0x100000000 ≤ partyU.length := Nat.not_le.2 hpartyU.2
  have hfitsV : ¬ 0x100000000 ≤ partyV.length := Nat.not_le.2 hpartyV.2
  refine (KeyRequest.failsBy_derive _).congr fun err => ?_
  simp [KeyRequest.faults, keyRequest, FirstFault, faultIf, contentKeySize, KeyRequest.digestSize, henc, halgorithm,
    hpartyU.1, hpartyV.1, hfitsU, hfitsV]

private theorem NamesParty.unique {encoded : Option String} {party other : Bytes}
    (hparty : NamesParty encoded party)
    (hother : NamesParty encoded other) : party = other := by
  obtain ⟨text, rfl, -, hdecode⟩ := hparty
  obtain ⟨_, htext, -, hdecode'⟩ := hother
  cases htext
  exact Except.ok.inj (hdecode.symm.trans hdecode')

private theorem ContentKey.unique {header : EnvelopeHeader} {secret key other : Bytes}
    (hkey : ContentKey header secret key)
    (hother : ContentKey header secret other) : key = other := by
  obtain ⟨partyU, partyV, hpartyU, hpartyV, hderive⟩ := hkey
  obtain ⟨partyU', partyV', hpartyU', hpartyV', hderive'⟩ := hother
  rw [hpartyU.unique hpartyU', hpartyV.unique hpartyV'] at hderive
  exact Except.ok.inj (hderive.symm.trans hderive')

/-- The tag of an envelope is right for the rest of it, under the key that its header asks for. -/
def TagVerifies (e : Envelope) (secret : Bytes) : Prop :=
  ∃ key, ContentKey e.header secret key ∧
    (⟨⟨key⟩⟩ : KeyedCipher).Verifies ⟨e.ciphertext, e.tag⟩ e.iv (Utf8.encode e.protectedText)

/-- What can be wrong with an envelope before its tag is verified, in the order in which it is looked for. -/
def faultsBeforeTag (e : Envelope) (secret : Bytes) : List (EnvelopeError → Prop) :=
  [faultIf (e.header.alg ≠ "ECDH-ES") (.unsupportedAlgorithm e.header.alg),
   faultIf (e.header.enc ≠ "A256GCM") (.unsupportedEncryption e.header.enc),
   faultIf (e.encryptedKey ≠ []) .encryptedKeyPresent,
   faultIf (Missing e.header.apu) (.missingParty .apu),
   undecodable .apu e.header.apu,
   faultIf (Missing e.header.apv) (.missingParty .apv),
   undecodable .apv e.header.apv,
   faultIf (secret = []) (.derivation (.missing .sharedSecret)),
   faultIf (e.iv.length ≠ 12) (.cipher (.nonceSize e.iv.length)),
   faultIf (e.tag.length ≠ 16) (.cipher (.tagSize e.tag.length))]

/-- What is left to do with a key that has been derived. -/
theorem failsBy_decrypt_content {e : Envelope} {secret key : Bytes} (hkey : ContentKey e.header secret key)
    (hsize : key.length = 32) :
    FailsBy (((⟨⟨key⟩⟩ : KeyedCipher).decrypt ⟨e.ciphertext, e.tag⟩ e.iv
        (Utf8.encode e.protectedText)).mapError EnvelopeError.cipher)
      [faultIf (e.iv.length ≠ 12) (.cipher (.nonceSize e.iv.length)),
       faultIf (e.tag.length ≠ 16) (.cipher (.tagSize e.tag.length)),
       faultIf (¬ e.TagVerifies secret) (.cipher .authentication)] := by
  have hverifies : e.TagVerifies secret ↔
      (⟨⟨key⟩⟩ : KeyedCipher).Verifies ⟨e.ciphertext, e.tag⟩ e.iv (Utf8.encode e.protectedText) := by
    constructor
    · rintro ⟨other, hother, hverifies⟩
      rw [hkey.unique hother]
      exact hverifies
    · exact fun hverifies => ⟨key, hkey, hverifies⟩
  have hcipher := (KeyedCipher.failsBy_decrypt (c := ⟨⟨key⟩⟩) (.inr hsize) ⟨e.ciphertext, e.tag⟩ e.iv
    (Utf8.encode e.protectedText)).mapError EnvelopeError.cipher
  simp only [List.map_cons, List.map_nil, renamed_faultIf] at hcipher
  rw [hverifies]
  exact hcipher

private theorem failsBy_decrypt {e : Envelope} (hparties : ∀ party,
      NamesParty e.header.apu party ∨ NamesParty e.header.apv party → party.length < 0x100000000)
    (secret : Bytes) :
    FailsBy (e.decrypt secret)
      (e.faultsBeforeTag secret ++ [faultIf (¬ e.TagVerifies secret) (.cipher .authentication)]) := by
  unfold decrypt
  refine ((failsBy_checkSupported e).bind fun _ hsupported => (failsBy_partyBytes .apu e.header.apu).bind
    fun partyU hpartyU => (failsBy_partyBytes .apv e.header.apv).bind fun partyV hpartyV => ?_ :)
  rw [partyBytes_eq_ok_iff] at hpartyU hpartyV
  have henc := (checkSupported_eq_ok_iff.1 hsupported).2.1
  have hderive := (failsBy_derive_keyRequest secret henc ⟨hpartyU.ne_nil, hparties _ (.inl hpartyU)⟩
    ⟨hpartyV.ne_nil, hparties _ (.inr hpartyV)⟩).mapError EnvelopeError.derivation
  rw [List.map_singleton, renamed_faultIf] at hderive
  refine hderive.guard fun key hkey => ?_
  rw [mapError_eq_ok_iff] at hkey
  exact failsBy_decrypt_content ⟨partyU, partyV, hpartyU, hpartyV, hkey⟩ (KeyRequest.length_of_derive hkey)

/-- Decryption is refused with the first thing that is wrong with an envelope, as long as the bytes that name its
parties can be counted in 32 bits. The derivation of the key can only lack a secret, the key always has a size
that the cipher supports, and the ciphertext counts for no more than whether the tag is right. -/
theorem decrypt_refuses_first_fault {e : Envelope} (hparties : ∀ party,
      NamesParty e.header.apu party ∨ NamesParty e.header.apv party → party.length < 0x100000000)
    (secret : Bytes) :
    (∀ err, e.decrypt secret = .error err ↔ FirstFault
      (e.faultsBeforeTag secret ++ [faultIf (¬ e.TagVerifies secret) (.cipher .authentication)]) err) ∧
    (∀ err, e.decrypt secret = .error err →
      (∀ cause, err = .derivation cause → cause = .missing .sharedSecret) ∧
      (∀ size, err ≠ .cipher (.keySize size)) ∧ err ≠ .cipher .messageTooLong) ∧
    (∀ ciphertext : Bytes,
      let other : Envelope := { e with ciphertext }
      (∀ err, err ≠ .cipher .authentication →
        (e.decrypt secret = .error err ↔ other.decrypt secret = .error err)) ∧
      ((e.TagVerifies secret ↔ other.TagVerifies secret) →
        ∀ err, e.decrypt secret = .error err ↔ other.decrypt secret = .error err)) := by
  have hfails := failsBy_decrypt hparties secret
  refine ⟨hfails, fun err herror => ?_, fun ciphertext => ?_⟩
  · obtain ⟨row, hrow, happlies⟩ := exists_row_of_firstFault ((hfails err).1 herror)
    simp only [faultsBeforeTag, List.cons_append, List.nil_append, List.mem_cons, List.not_mem_nil, or_false] at hrow
    rcases hrow with rfl | rfl | rfl | rfl | rfl | rfl | rfl | rfl | rfl | rfl | rfl
    case inr.inr.inr.inr.inl | inr.inr.inr.inr.inr.inr.inl =>
      obtain ⟨text, cause, -, -, rfl⟩ := happlies
      simp
    all_goals
      obtain ⟨-, rfl⟩ := happlies
      simp
  · intro other
    have hother : FailsBy (other.decrypt secret)
        (e.faultsBeforeTag secret ++ [faultIf (¬ other.TagVerifies secret) (.cipher .authentication)]) :=
      failsBy_decrypt (e := other) hparties secret
    refine ⟨fun err hne => ?_, fun hverifies err => ?_⟩
    · rw [hfails err, hother err, firstFault_concat_of_ne hne, firstFault_concat_of_ne hne]
    · rw [hfails err, hother err, hverifies]

/-- Of an undecodable party, a missing secret, a short iv and a missing tag the party is reported, whatever the
ciphertext is. -/
theorem decrypt_refuses_first_fault_of_four :
    let e : Envelope := ⟨⟨"ECDH-ES", "A256GCM", some "QQ", some "Q"⟩, [], [], [1], [2, 3], []⟩
    let reported : EnvelopeError := .encoding .apv (.invalidLength 1)
    (∀ party, NamesParty e.header.apu party ∨ NamesParty e.header.apv party → party.length < 0x100000000) ∧
      e.decrypt [] = .error reported ∧
      ∀ ciphertext : Bytes, ({ e with ciphertext } : Envelope).decrypt [] = .error reported := by
  intro e reported
  have hdecodeU : Base64.decode .urlSafe .refused ['Q', 'Q'] = .ok [65] := by decide +kernel
  have hdecodeV : Base64.decode .urlSafe .refused ['Q'] = .error (.invalidLength 1) := by decide +kernel
  have hparties : ∀ party, NamesParty e.header.apu party ∨ NamesParty e.header.apv party →
      party.length < 0x100000000 := by
    rintro party (⟨text, htext, -, hdecode⟩ | ⟨text, htext, -, hdecode⟩)
    · cases htext
      have hparty : [65] = party := by simpa [hdecodeU] using hdecode
      simp [← hparty]
    · cases htext
      simp [hdecodeV] at hdecode
  obtain ⟨hfirst, -, hciphertext⟩ := decrypt_refuses_first_fault hparties []
  have hdecrypt : e.decrypt [] = .error reported := by
    rw [hfirst]
    simp [faultsBeforeTag, FirstFault, faultIf, undecodable, Missing, e, reported, hdecodeU, hdecodeV]
  exact ⟨hparties, hdecrypt, fun ciphertext => ((hciphertext ciphertext).1 reported (by simp [reported])).1 hdecrypt⟩

end Envelope

end SignIn
