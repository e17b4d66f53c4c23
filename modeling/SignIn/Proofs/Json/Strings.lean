import SignIn.Json.Strings
import SignIn.Proofs.Utf8

namespace SignIn

namespace Utf8

private theorem allSome_map_some (text : List Char) : allSome (text.map some) = some text := by
  induction text with
  | nil => rfl
  | cons c text ih => simp [allSome, ih]

private theorem decode?_encode (text : List Char) : decode? (encode text) = some text := by
  rw [decode?, scan_encode, allSome_map_some]

/-- The UTF-8 of a text begins with that of its first character. -/
theorem encode_cons (c : Char) (text : List Char) : encode (c :: text) = String.utf8EncodeChar c ++ encode text :=
  rfl

/-- A character is its own byte, or made of bytes beyond ASCII. -/
theorem toNat_of_mem_utf8EncodeChar (c : Char) :
    ∀ b ∈ String.utf8EncodeChar c, b.toNat = c.toNat ∨ 128 ≤ b.toNat := by
  rw [String.utf8EncodeChar.eq_1]
  change ∀ b : UInt8, b ∈ _ → b.toNat = c.val.toNat ∨ 128 ≤ b.toNat
  generalize c.val.toNat = v
  split_ifs with hone htwo hthree
  all_goals
    simp only [List.forall_mem_cons, List.not_mem_nil, false_imp_iff, implies_true, and_true, UInt8.toNat_ofNat']
    omega

end Utf8

namespace Json

variable {α β : Type} {s t rest : Bytes}

/-- A reader takes a value off the front of a byte string and leaves the rest. -/
def Takes (read : Reader α) (s : Bytes) (value : α) (rest : Bytes) : Prop :=
  ∃ h, read s = .ok ⟨value, rest, h⟩

/-- What a reader takes behind a front that has been looked at is taken, changed by `f`, together with the front. -/
theorem Takes.within {read : Reader α} {read' : Reader β} {a : α} {f : α → β} (hread : Takes read s a rest)
    (hfront : s.length ≤ t.length) (hgoesOn : read' t = read s >>= fun r => .ok ((r.map f).within hfront)) :
    Takes read' t (f a) rest := by
  obtain ⟨h, hread⟩ := hread
  refine ⟨Nat.lt_of_lt_of_le h hfront, ?_⟩
  rw [hgoesOn, hread]
  rfl

private theorem takes_readContent_end (rest : Bytes) : Takes readContent (0x22 :: rest) [] rest := by
  refine ⟨Nat.lt_succ_self _, ?_⟩
  rw [readContent]
  rfl

private theorem takes_readContent_plain {b : UInt8} {content : Bytes} (hquote : b ≠ 0x22) (hescape : b ≠ 0x5c)
    (hcontrol : ¬ b < 0x20) (hread : Takes readContent s content rest) :
    Takes readContent (b :: s) (b :: content) rest := by
  refine hread.within (Nat.le_succ _) ?_
  rw [readContent, if_neg hquote, if_neg hescape, if_neg hcontrol]
  rfl

private theorem takes_readContent_escape {content : Bytes} {c : Char} (hescape : Takes readEscape t c s)
    (hread : Takes readContent s content rest) :
    Takes readContent (0x5c :: t) (String.utf8EncodeChar c ++ content) rest := by
  obtain ⟨h, hescape⟩ := hescape
  refine hread.within (Nat.le_succ_of_le (Nat.le_of_lt h)) ?_
  rw [readContent, if_neg (by decide), if_pos rfl, hescape]
  rfl

private theorem takes_readEscape_simple {b : UInt8} {c : Char} (hsimple : simpleEscape? b = some c)
    (rest : Bytes) :
    Takes readEscape (b :: rest) c rest := by
  have hb : b ≠ 0x75 := by
    rintro rfl
    cases hsimple
  refine ⟨Nat.lt_succ_self _, ?_⟩
  simp only [readEscape, if_neg hb, hsimple]
  rfl

private theorem takes_readHex4 {a b c d : UInt8} {w x y z : Nat} (ha : hexValue? a = some w)
    (hb : hexValue? b = some x)
    (hc : hexValue? c = some y) (hd : hexValue? d = some z) (rest : Bytes) :
    Takes readHex4 (a :: b :: c :: d :: rest) (((w * 16 + x) * 16 + y) * 16 + z) rest := by
  refine ⟨?_, ?_⟩
  · simp only [List.length_cons]
    omega
  · simp only [readHex4, ha, hb, hc, hd]

private theorem takes_readCodePoint {n : Nat} (hread : Takes readHex4 s n rest)
    (hleading : isLeading n = false)
    (htrailing : isTrailing n = false) : Takes readCodePoint s (Char.ofNat n) rest := by
  obtain ⟨h, hread⟩ := hread
  refine ⟨h, ?_⟩
  rw [readCodePoint, hread]
  change (if isTrailing n = true then _ else if isLeading n = true then _ else _) = _
  rw [if_neg (by simp [htrailing]), if_neg (by simp [hleading])]
  rfl

/-- The byte of a hexadecimal digit. -/
def hexByte (n : Nat) : UInt8 :=
  UInt8.ofNat (hexDigit n).toNat

private theorem hexValue?_hexByte : ∀ n < 16, hexValue? (hexByte n) = some n := by
  decide

private theorem utf8EncodeChar_hexDigit : ∀ n < 16, String.utf8EncodeChar (hexDigit n) = [hexByte n] := by
  decide

private theorem takes_readEscape_unicode {c : Char} (hcontrol : c.toNat < 0x20) (rest : Bytes) :
    Takes readEscape (0x75 :: 0x30 :: 0x30 :: hexByte (c.toNat / 16) :: hexByte (c.toNat % 16) :: rest) c rest := by
  have hzero : hexValue? 0x30 = some 0 := rfl
  have hhex := takes_readHex4 hzero hzero (hexValue?_hexByte (c.toNat / 16) (by omega))
    (hexValue?_hexByte (c.toNat % 16) (by omega)) rest
  have hnumber : ((0 * 16 + 0) * 16 + c.toNat / 16) * 16 + c.toNat % 16 = c.toNat := by omega
  rw [hnumber] at hhex
  have hleading : isLeading c.toNat = false := by simp [isLeading]; omega
  have htrailing : isTrailing c.toNat = false := by simp [isTrailing]; omega
  have hread := takes_readCodePoint hhex hleading htrailing
  rw [Char.ofNat_toNat] at hread
  exact hread.within (f := id) (Nat.le_succ _) rfl

private theorem takes_readContent_append {plain content : Bytes}
    (hplain : ∀ b ∈ plain, b ≠ 0x22 ∧ b ≠ 0x5c ∧ ¬ b < 0x20) (hread : Takes readContent s content rest) :
    Takes readContent (plain ++ s) (plain ++ content) rest := by
  induction plain with
  | nil => exact hread
  | cons b plain ih =>
    obtain ⟨hquote, hescape, hcontrol⟩ := hplain b List.mem_cons_self
    exact takes_readContent_plain hquote hescape hcontrol (ih fun d hd => hplain d (List.mem_cons_of_mem b hd))

/-- A character that needs no escape has no byte that would need one. -/
theorem plain_of_mem_utf8EncodeChar {c : Char} (hquote : c ≠ '"') (hescape : c ≠ '\\') (hcontrol : ¬ c.toNat < 0x20) :
    ∀ b ∈ String.utf8EncodeChar c, b ≠ 0x22 ∧ b ≠ 0x5c ∧ ¬ b < 0x20 := by
  intro b hb
  have hnumber := Utf8.toNat_of_mem_utf8EncodeChar c b hb
  have hne {d : Char} (hd : c ≠ d) : c.toNat ≠ d.toNat := fun h => hd (Char.toNat_inj.1 h)
  have hquote' : c.toNat ≠ 34 := hne hquote
  have hescape' : c.toNat ≠ 92 := hne hescape
  rw [UInt8.lt_iff_toNat_lt, ne_eq, ne_eq, ← UInt8.toNat_inj, ← UInt8.toNat_inj]
  change ¬ b.toNat = 34 ∧ ¬ b.toNat = 92 ∧ ¬ b.toNat < 32
  omega

/-- What is written for a character is read as its bytes. -/
theorem takes_readContent_writeChar (c : Char) {content : Bytes} (hread : Takes readContent s content rest) :
    Takes readContent (Utf8.encode (writeChar c) ++ s) (String.utf8EncodeChar c ++ content) rest := by
  have hsimple {b : UInt8} (hb : simpleEscape? b = some c) :
      Takes readContent (0x5c :: b :: s) (String.utf8EncodeChar c ++ content) rest :=
    takes_readContent_escape (takes_readEscape_simple hb s) hread
  unfold writeChar
  split_ifs with hquote hescape hback hfeed hline hreturn htab hcontrol
  · exact hsimple (b := 0x22) (by rw [hquote]; rfl)
  · exact hsimple (b := 0x5c) (by rw [hescape]; rfl)
  · exact hsimple (b := 0x62) (by rw [hback]; rfl)
  · exact hsimple (b := 0x66) (by rw [hfeed]; rfl)
  · exact hsimple (b := 0x6e) (by rw [hline]; rfl)
  · exact hsimple (b := 0x72) (by rw [hreturn]; rfl)
  · exact hsimple (b := 0x74) (by rw [htab]; rfl)
  · have hdigits : Utf8.encode ['\\', 'u', '0', '0', hexDigit (c.toNat / 16), hexDigit (c.toNat % 16)] =
        [0x5c, 0x75, 0x30, 0x30, hexByte (c.toNat / 16), hexByte (c.toNat % 16)] := by
      simp only [Utf8.encode_cons, Utf8.encode_nil, utf8EncodeChar_hexDigit (c.toNat / 16) (by omega),
        utf8EncodeChar_hexDigit (c.toNat % 16) (by omega)]
      rfl
    rw [hdigits]
    exact takes_readContent_escape (takes_readEscape_unicode hcontrol s) hread
  · rw [Utf8.encode_cons, Utf8.encode_nil, List.append_nil]
    exact takes_readContent_append (plain_of_mem_utf8EncodeChar hquote hescape hcontrol) hread

private theorem takes_readContent_flatMap (text : List Char) (rest : Bytes) :
    Takes readContent (Utf8.encode (text.flatMap writeChar) ++ 0x22 :: rest) (Utf8.encode text) rest := by
  induction text with
  | nil => exact takes_readContent_end rest
  | cons c text ih =>
    rw [List.flatMap_cons, Utf8.encode_append, List.append_assoc, Utf8.encode_cons]
    exact takes_readContent_writeChar c ih

/-- Behind its opening quote, a text is read back as it was written. -/
theorem takes_readStringTail (text : String) (rest : Bytes) :
    Takes readStringTail (Utf8.encode (text.toList.flatMap writeChar) ++ 0x22 :: rest) text rest := by
  obtain ⟨h, hread⟩ := takes_readContent_flatMap text.toList rest
  refine ⟨h, ?_⟩
  simp only [readStringTail, hread, bind, Except.bind, Utf8.decode?_encode, String.ofList_toList]
  rfl

/-- A string is written between quotation marks. -/
theorem encode_writeString (text : String) (rest : Bytes) :
    Utf8.encode (writeString text) ++ rest =
      0x22 :: (Utf8.encode (text.toList.flatMap writeChar) ++ 0x22 :: rest) := by
  have hquote : String.utf8EncodeChar '"' = [0x22] := by decide
  rw [writeString, List.cons_append, Utf8.encode_cons, Utf8.encode_append, Utf8.encode_cons, hquote]
  simp

end Json

end SignIn
