import Mathlib.Control.Monad.Basic
import SignIn.Envelope
import SignIn.Proofs.Base64

namespace SignIn.Envelope

private theorem decodePart_eq_ok_iff {part : EnvelopePart} {text : List Char} {bytes : Bytes} :
    decodePart part text = .ok bytes ↔ text = encodePart bytes := by
  rw [decodePart, mapError_eq_ok_iff, Base64.decode_refused_eq_ok_iff, encodePart]

/-- A header is read from the spelling of a document that is decoded to it. -/
theorem readHeader_eq_ok_iff {segment : List Char} {header : EnvelopeHeader} :
    readHeader segment = .ok header ↔
      ∃ document, segment = encodePart document ∧
        Json.decodeBytes EnvelopeHeader.record.decoder document = .ok header := by
  simp only [readHeader, bind_eq_ok_iff, decodePart_eq_ok_iff, mapError_eq_ok_iff]

/-- An envelope is read from five segments. All but the header are kept as the bytes that they spell, and
the header is kept as text beside its meaning. -/
theorem parse_eq_ok_iff_splitOn {compact : String} {e : Envelope} :
    parse compact = .ok e ↔
      Text.splitOn '.' (Text.trim compact.toList) =
          [e.protectedText, encodePart e.encryptedKey, encodePart e.iv, encodePart e.ciphertext,
            encodePart e.tag] ∧
        readHeader e.protectedText = .ok e.header := by
  unfold parse
  split
  · next protectedText encryptedKey iv ciphertext tag hsegments =>
    simp only [bind_eq_ok_iff, decodePart_eq_ok_iff]
    constructor
    · rintro ⟨header, hheader, _, rfl, _, rfl, _, rfl, _, rfl, heq⟩
      cases heq
      exact ⟨hsegments, hheader⟩
    · rintro ⟨hparts, hheader⟩
      rw [hsegments] at hparts
      simp only [List.cons.injEq, and_true] at hparts
      obtain ⟨rfl, rfl, rfl, rfl, rfl⟩ := hparts
      exact ⟨e.header, hheader, _, rfl, _, rfl, _, rfl, _, rfl, rfl⟩
  · next hsegments =>
    refine iff_of_false (fun h => by cases h) ?_
    rintro ⟨hparts, _⟩
    exact hsegments _ _ _ _ _ hparts

/-- The compact form of five byte strings. -/
def compactForm (document encryptedKey iv ciphertext tag : Bytes) : List Char :=
  Text.joinWith '.' [encodePart document, encodePart encryptedKey, encodePart iv, encodePart ciphertext,
    encodePart tag]

/-- The pieces of a compact form with something around it. What stands before it goes to the header, and
what stands after it goes to the tag. -/
theorem splitOn_surrounded {before after : List Char} (document encryptedKey iv ciphertext tag : Bytes)
    (hbefore : '.' ∉ before) (hafter : '.' ∉ after) :
    Text.splitOn '.' (before ++ compactForm document encryptedKey iv ciphertext tag ++ after) =
      [before ++ encodePart document, encodePart encryptedKey, encodePart iv, encodePart ciphertext,
        encodePart tag ++ after] := by
  have hdotless (bytes : Bytes) : '.' ∉ encodePart bytes := fun hdot => (Base64.mem_encode hdot).1 rfl
  have hjoin : before ++ compactForm document encryptedKey iv ciphertext tag ++ after =
      Text.joinWith '.' [before ++ encodePart document, encodePart encryptedKey, encodePart iv,
        encodePart ciphertext, encodePart tag ++ after] := by
    simp [compactForm, Text.joinWith]
  rw [hjoin]
  refine Text.splitOn_joinWith (by simp) fun piece hpiece => ?_
  simp only [List.mem_cons, List.not_mem_nil, or_false] at hpiece
  rcases hpiece with rfl | rfl | rfl | rfl | rfl
  · simp [hbefore, hdotless]
  · exact hdotless _
  · exact hdotless _
  · exact hdotless _
  · simp [hafter, hdotless]

private theorem splitOn_compactForm (document encryptedKey iv ciphertext tag : Bytes) :
    Text.splitOn '.' (compactForm document encryptedKey iv ciphertext tag) =
      [encodePart document, encodePart encryptedKey, encodePart iv, encodePart ciphertext,
        encodePart tag] := by
  simpa using splitOn_surrounded document encryptedKey iv ciphertext tag
    (List.not_mem_nil (a := '.')) (List.not_mem_nil (a := '.'))

private theorem trim_compactForm {before after : List Char} (document encryptedKey iv ciphertext tag : Bytes)
    (hbefore : ∀ c ∈ before, Text.isBlank c = true) (hafter : ∀ c ∈ after, Text.isBlank c = true) :
    Text.trim (before ++ compactForm document encryptedKey iv ciphertext tag ++ after) =
      compactForm document encryptedKey iv ciphertext tag := by
  refine Text.trimBy_surrounded hbefore (fun c hc => ?_) hafter
  rcases Text.eq_sep_or_mem_of_mem_joinWith hc with rfl | ⟨piece, hpiece, hc⟩
  · decide
  · simp only [List.mem_cons, List.not_mem_nil, or_false] at hpiece
    rcases hpiece with rfl | rfl | rfl | rfl | rfl <;> exact (Base64.mem_encode hc).2

/-- What the compact form of a readable header and four byte strings is read as. -/
theorem parse_compactForm {document : Bytes} {header : EnvelopeHeader} {before after : List Char}
    (hheader : Json.decodeBytes EnvelopeHeader.record.decoder document = .ok header)
    (encryptedKey iv ciphertext tag : Bytes) (hbefore : ∀ c ∈ before, Text.isBlank c = true)
    (hafter : ∀ c ∈ after, Text.isBlank c = true) :
    parse (String.ofList (before ++ compactForm document encryptedKey iv ciphertext tag ++ after)) =
      .ok ⟨header, encodePart document, encryptedKey, iv, ciphertext, tag⟩ := by
  rw [parse_eq_ok_iff_splitOn, String.toList_ofList,
    trim_compactForm document encryptedKey iv ciphertext tag hbefore hafter, splitOn_compactForm]
  exact ⟨rfl, readHeader_eq_ok_iff.2 ⟨document, rfl, hheader⟩⟩

/-- An envelope is written as the text that it was read from, without the white space around it. -/
theorem render_eq_trim {compact : String} {e : Envelope} (hparse : parse compact = .ok e) :
    e.render = Text.trim compact.toList := by
  obtain ⟨hsegments, -⟩ := parse_eq_ok_iff_splitOn.1 hparse
  rw [render, ← hsegments, Text.joinWith_splitOn]

/-- The segments of a text that is read can only be those that were kept of it. -/
theorem segments_unique {compact : String} {e : Envelope} (hparse : parse compact = .ok e)
    {headerText ivText ciphertextText tagText : List Char} {iv ciphertext tag : Bytes}
    (hsegments : Text.splitOn '.' (Text.trim compact.toList) =
      [headerText, [], ivText, ciphertextText, tagText])
    (hiv : Base64.decode .urlSafe .refused ivText = .ok iv)
    (hciphertext : Base64.decode .urlSafe .refused ciphertextText = .ok ciphertext)
    (htag : Base64.decode .urlSafe .refused tagText = .ok tag) :
    e.protectedText = headerText ∧ e.encryptedKey = [] ∧ e.iv = iv ∧ e.ciphertext = ciphertext ∧
      e.tag = tag := by
  rw [Base64.decode_refused_eq_ok_iff] at hiv hciphertext htag
  rw [(parse_eq_ok_iff_splitOn.1 hparse).1, hiv, hciphertext, htag] at hsegments
  simp only [List.cons.injEq, and_true, encodePart, Base64.encode_inj, Base64.encode_eq_nil_iff]
    at hsegments
  exact hsegments

/-- Reading and writing invert each other. A readable header and four byte strings in compact form, whatever
white space stands around them, are read as they were written; a text that is read has five segments, and
writing what was read of it gives the text without the white space around it. So no two texts that differ
by more than that are read as the same envelope. -/
theorem parse_inverts_render :
    (∀ (document : Bytes) (header : EnvelopeHeader),
      Json.decodeBytes EnvelopeHeader.record.decoder document = .ok header →
      ∀ (encryptedKey iv ciphertext tag : Bytes) (before after : List Char),
        (∀ c ∈ before, Text.isBlank c = true) → (∀ c ∈ after, Text.isBlank c = true) →
        parse (String.ofList (before ++ Text.joinWith '.'
          [Base64.encode .urlSafe document, Base64.encode .urlSafe encryptedKey,
            Base64.encode .urlSafe iv, Base64.encode .urlSafe ciphertext,
            Base64.encode .urlSafe tag] ++ after)) =
          .ok ⟨header, Base64.encode .urlSafe document, encryptedKey, iv, ciphertext, tag⟩) ∧
    (∀ (compact : String) (e : Envelope), parse compact = .ok e →
      (Text.splitOn '.' (Text.trim compact.toList)).length = 5 ∧
        Text.joinWith '.' [e.protectedText, Base64.encode .urlSafe e.encryptedKey,
          Base64.encode .urlSafe e.iv, Base64.encode .urlSafe e.ciphertext,
          Base64.encode .urlSafe e.tag] = Text.trim compact.toList) ∧
    (∀ (compact compact' : String) (e : Envelope), parse compact = .ok e → parse compact' = .ok e →
      Text.trim compact.toList = Text.trim compact'.toList) := by
  refine ⟨fun document header hheader encryptedKey iv ciphertext tag before after hbefore hafter => ?_,
    fun compact e hparse => ⟨?_, ?_⟩, fun compact compact' e hparse hparse' => ?_⟩
  · exact parse_compactForm hheader encryptedKey iv ciphertext tag hbefore hafter
  · rw [(parse_eq_ok_iff_splitOn.1 hparse).1]
    rfl
  · exact render_eq_trim hparse
  · rw [← render_eq_trim hparse, ← render_eq_trim hparse']

/-- A header with both parties, an empty key and three more parts, between a space and a line end. -/
theorem parse_inverts_render_two_parties :
    let document := Utf8.bytesOf "\x7b\"alg\":\"ECDH-ES\",\"enc\":\"A256GCM\",\"apu\":\"QQ\",\"apv\":\"Qg\"\x7d"
    ∃ compact, parse compact =
        .ok ⟨⟨"ECDH-ES", "A256GCM", some "QQ", some "Qg"⟩, Base64.encode .urlSafe document, [], [1],
          [2, 3], [4, 5, 6]⟩ ∧
      (Text.splitOn '.' (Text.trim compact.toList)).length = 5 ∧
      ∀ compact', parse compact' = parse compact →
        Text.trim compact.toList = Text.trim compact'.toList := by
  have hheader : Json.decodeBytes EnvelopeHeader.record.decoder
      (Utf8.bytesOf "\x7b\"alg\":\"ECDH-ES\",\"enc\":\"A256GCM\",\"apu\":\"QQ\",\"apv\":\"Qg\"\x7d") =
        .ok ⟨"ECDH-ES", "A256GCM", some "QQ", some "Qg"⟩ := by decide +kernel
  obtain ⟨hreads, hwrites, hunique⟩ := parse_inverts_render
  have hparse := hreads _ _ hheader [] [1] [2, 3] [4, 5, 6] [' '] ['\n']
    (List.forall_mem_singleton.2 rfl) (List.forall_mem_singleton.2 rfl)
  refine ⟨_, hparse, (hwrites _ _ hparse).1, fun compact' hsame => ?_⟩
  exact hunique _ compact' _ hparse (hsame.trans hparse)

end SignIn.Envelope
