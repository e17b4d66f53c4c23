import SignIn.Proofs.Text
import SignIn.Proofs.Utf8
import SignIn.Url.Form

namespace SignIn

/-- What holds of the numbers below 256 holds of every byte. -/
theorem forall_byte {p : UInt8 → Prop} (hnumbers : ∀ n < 256, p (UInt8.ofNat n)) (b : UInt8) : p b := by
  rw [← UInt8.ofNat_toNat (x := b)]
  exact hnumbers b.toNat b.toNat_lt

namespace Percent

private theorem hexValue?_hexDigit : ∀ n < 16, hexValue? (hexDigit n) = some n := by
  decide

/-- An encoded byte is decoded to itself, whatever follows it. -/
theorem decode_encodeByte (b : UInt8) (rest : List Char) : decode (encodeByte b ++ rest) = b :: decode rest := by
  have hb : b.toNat < 256 := b.toNat_lt
  have hvalue : 16 * (b.toNat / 16) + b.toNat % 16 = b.toNat := Nat.div_add_mod _ _
  simp only [encodeByte, List.cons_append, List.nil_append, decode,
    hexValue?_hexDigit (b.toNat / 16) (by omega), hexValue?_hexDigit (b.toNat % 16) (by omega), hvalue,
    UInt8.ofNat_toNat]

/-- Any character but the percent sign stands for its UTF-8. -/
theorem decode_cons_of_ne {c : Char} (hc : c ≠ '%') (rest : List Char) :
    decode (c :: rest) = String.utf8EncodeChar c ++ decode rest := by
  rw [decode]
  intro a b more hpercent
  exact absurd hpercent hc

/-- Where nothing is percent-encoded a text is read as it stands. -/
theorem decode_eq_encode {text : List Char} (hpercent : '%' ∉ text) : decode text = Utf8.encode text := by
  induction text with
  | nil => rfl
  | cons c rest ih =>
    have hc : c ≠ '%' := fun h => hpercent (h ▸ List.mem_cons_self)
    rw [decode_cons_of_ne hc, ih fun h => hpercent (List.mem_cons_of_mem c h)]
    rfl

end Percent

namespace Form

/-- A plus stands for a space. -/
def plainSpace (c : Char) : Char :=
  if c = '+' then ' ' else c

/-- A part of a form is decoded in three steps. -/
theorem decodeText_eq (text : List Char) :
    decodeText text = String.ofList (Utf8.decodeLossy (Percent.decode (text.map plainSpace))) :=
  rfl

private theorem plain_byte : ∀ b : UInt8, isPlain b = true →
    plainSpace (Char.ofNat b.toNat) = Char.ofNat b.toNat ∧ Char.ofNat b.toNat ≠ '%' ∧
      String.utf8EncodeChar (Char.ofNat b.toNat) = [b] :=
  forall_byte (by decide +kernel)

/-- An encoded byte holds no `+`. -/
theorem map_plainSpace_encodeByte : ∀ b : UInt8,
    (Percent.encodeByte b).map plainSpace = Percent.encodeByte b :=
  forall_byte (by decide +kernel)

private theorem decode_encodeByte (b : UInt8) (rest : List Char) :
    Percent.decode ((encodeByte b).map plainSpace ++ rest) = b :: Percent.decode rest := by
  rw [encodeByte]
  split_ifs with hplain hspace
  · obtain ⟨hsame, hpercent, hbyte⟩ := plain_byte b hplain
    rw [List.map_singleton, hsame, List.singleton_append, Percent.decode_cons_of_ne hpercent, hbyte]
    rfl
  · rw [hspace]
    exact Percent.decode_cons_of_ne (by decide) rest
  · rw [map_plainSpace_encodeByte, Percent.decode_encodeByte]

/-- A part of a form is read back as it was written. -/
theorem decodeText_encodeText (text : String) : decodeText (encodeText text) = text := by
  have hdecode (bytes : Bytes) : Percent.decode ((bytes.flatMap encodeByte).map plainSpace) = bytes := by
    induction bytes with
    | nil => rfl
    | cons b bytes ih => rw [List.flatMap_cons, List.map_append, decode_encodeByte, ih]
  rw [decodeText_eq, encodeText, hdecode, Utf8.bytesOf, Utf8.decodeLossy_encode, String.ofList_toList]

/-- Characters of a form that neither part it nor are encoded again. -/
def isEncoded (c : Char) : Bool :=
  c ≠ '&' && c ≠ '=' && !Percent.inQuery c

private theorem all_isEncoded_encodeByte : ∀ b : UInt8, (encodeByte b).all isEncoded = true :=
  forall_byte (by decide +kernel)

private theorem mem_encodeText {text : String} {c : Char} (hc : c ∈ encodeText text) :
    c ≠ '&' ∧ c ≠ '=' ∧ Percent.inQuery c = false := by
  obtain ⟨b, -, hmem⟩ := List.mem_flatMap.1 hc
  have hencoded : isEncoded c = true := List.all_eq_true.1 (all_isEncoded_encodeByte b) c hmem
  simpa [isEncoded, and_assoc] using hencoded

/-- A pair as it is written. -/
def encodePair (pair : String × String) : List Char :=
  encodeText pair.1 ++ '=' :: encodeText pair.2

/-- A form as it is written. -/
def ofPairs (pairs : List (String × String)) : List Char :=
  Text.joinWith '&' (pairs.map encodePair)

/-- A pair is read back as it was written. -/
theorem decodePair_encodePair (pair : String × String) : decodePair (encodePair pair) = pair := by
  have hname : '=' ∉ encodeText pair.1 := fun hmem => (mem_encodeText hmem).2.1 rfl
  rw [decodePair, encodePair, Text.splitFirst_append_sep hname]
  simp [decodeText_encodeText]

/-- A written pair holds neither a `&` nor anything that a URL would encode. -/
theorem mem_encodePair {pair : String × String} {c : Char} (hc : c ∈ encodePair pair) :
    c ≠ '&' ∧ Percent.inQuery c = false := by
  rcases List.mem_append.1 hc with hname | hvalue
  · exact ⟨(mem_encodeText hname).1, (mem_encodeText hname).2.2⟩
  · rcases List.mem_cons.1 hvalue with rfl | hvalue
    · decide
    · exact ⟨(mem_encodeText hvalue).1, (mem_encodeText hvalue).2.2⟩

/-- A form is read back as it was written. -/
theorem pairs_ofPairs (form : List (String × String)) : pairs (ofPairs form) = form := by
  rcases form.eq_nil_or_concat with rfl | ⟨front, last, hform⟩
  · rfl
  · have hne : form.map encodePair ≠ [] := by simp [hform]
    have hsep : ∀ piece ∈ form.map encodePair, '&' ∉ piece := by
      rintro piece hpiece hmem
      obtain ⟨pair, -, rfl⟩ := List.mem_map.1 hpiece
      exact (mem_encodePair hmem).1 rfl
    have hfull : ∀ piece ∈ form.map encodePair, decide (piece ≠ []) = true := by
      intro piece hpiece
      obtain ⟨pair, -, rfl⟩ := List.mem_map.1 hpiece
      simp [encodePair]
    rw [pairs, ofPairs, Text.splitOn_joinWith hne hsep, List.filter_eq_self.2 hfull, List.map_map]
    exact (List.map_congr_left fun pair _ => decodePair_encodePair pair).trans (List.map_id form)

/-- A URL keeps a form in its query as it was written. -/
theorem inQuery_of_mem_ofPairs {form : List (String × String)} {c : Char} (hc : c ∈ ofPairs form) :
    Percent.inQuery c = false := by
  rcases Text.eq_sep_or_mem_of_mem_joinWith hc with rfl | ⟨piece, hpiece, hmem⟩
  · decide
  · obtain ⟨pair, -, rfl⟩ := List.mem_map.1 hpiece
    exact (mem_encodePair hmem).2

end Form

end SignIn
