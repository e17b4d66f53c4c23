import Mathlib.Algebra.BigOperators.Ring.Finset
import Mathlib.Data.Nat.Digits.Lemmas
import SignIn.Callback.Modes
import SignIn.Proofs.Base64

namespace SignIn

namespace Bytes

private theorem littleEndian_eq_ofDigits (bytes : Bytes) :
    littleEndian bytes = Nat.ofDigits 256 (bytes.map UInt8.toNat) := by
  induction bytes with
  | nil => rfl
  | cons b rest ih =>
    rw [littleEndian, ih, List.map_cons, Nat.ofDigits_cons]

private theorem littleEndian_append (front rest : Bytes) :
    littleEndian (front ++ rest) = littleEndian front + 256 ^ front.length * littleEndian rest := by
  simp only [littleEndian_eq_ofDigits, List.map_append, Nat.ofDigits_append, List.length_map]

private theorem littleEndian_lt (bytes : Bytes) : littleEndian bytes < 256 ^ bytes.length := by
  have hbyte : ∀ digit ∈ bytes.map UInt8.toNat, digit < 256 := by
    intro digit hdigit
    obtain ⟨b, -, rfl⟩ := List.mem_map.1 hdigit
    exact b.toNat_lt
  have hlt := Nat.ofDigits_lt_base_pow_length (by decide) hbyte
  rwa [List.length_map, ← littleEndian_eq_ofDigits] at hlt

private theorem littleEndian_eq_sum (bytes : Bytes) :
    littleEndian bytes = ∑ i ∈ Finset.range bytes.length, (bytes.getD i 0).toNat * 256 ^ i := by
  induction bytes with
  | nil => rfl
  | cons b rest ih =>
    rw [littleEndian, ih, List.length_cons, Finset.sum_range_succ', Finset.mul_sum, Nat.add_comm]
    simp only [List.getD_cons_succ, List.getD_cons_zero, pow_zero, mul_one, pow_succ', Nat.mul_left_comm]

private theorem littleEndian_take_eq_sum (n : Nat) (bytes : Bytes) :
    littleEndian (bytes.take n) = ∑ i ∈ Finset.range (min n bytes.length), (bytes.getD i 0).toNat * 256 ^ i := by
  rw [littleEndian_eq_sum, List.length_take]
  refine Finset.sum_congr rfl fun i hi => ?_
  have hplace : i < n := lt_of_lt_of_le (Finset.mem_range.1 hi) (Nat.min_le_left n bytes.length)
  rw [List.getD_eq_getElem?_getD, List.getElem?_take_of_lt hplace, List.getD_eq_getElem?_getD]

/-- Zeros stand for zero. -/
theorem littleEndian_replicate_zero (n : Nat) : littleEndian (List.replicate n 0) = 0 := by
  induction n with
  | zero => rfl
  | succ n ih =>
    rw [List.replicate_succ, littleEndian, ih]
    rfl

/-- Every byte can be read off the number it is part of. -/
theorem littleEndian_div_mod (bytes : Bytes) (i : Nat) :
    littleEndian bytes / 256 ^ i % 256 = (bytes.getD i 0).toNat := by
  induction bytes generalizing i with
  | nil => simp [littleEndian]
  | cons b rest ih =>
    have hb := b.toNat_lt
    rw [littleEndian]
    cases i with
    | zero =>
      rw [pow_zero, Nat.div_one, List.getD_cons_zero]
      omega
    | succ i =>
      have hdiv : (b.toNat + 256 * littleEndian rest) / 256 = littleEndian rest := by omega
      rw [pow_succ', ← Nat.div_div_eq_div_mul, hdiv, ih, List.getD_cons_succ]

/-- The first `width` bytes of a number, the one that counts least at the front. -/
def leastFirst : (width : Nat) → Nat → Bytes
  | 0, _ => []
  | width + 1, n => UInt8.ofNat n :: leastFirst width (n / 256)

private theorem length_leastFirst (width n : Nat) : (leastFirst width n).length = width := by
  induction width generalizing n with
  | zero => rfl
  | succ width ih => rw [leastFirst, List.length_cons, ih]

private theorem littleEndian_leastFirst {width n : Nat} (hfits : n < 256 ^ width) :
    littleEndian (leastFirst width n) = n := by
  induction width generalizing n with
  | zero =>
    rw [pow_zero] at hfits
    rw [leastFirst, littleEndian]
    omega
  | succ width ih =>
    have hrest : n / 256 < 256 ^ width := by
      rw [pow_succ] at hfits
      exact (Nat.div_lt_iff_lt_mul (by decide)).2 hfits
    rw [leastFirst, littleEndian, ih hrest, UInt8.toNat_ofNat']
    omega

end Bytes

namespace SessionModes

/-- The bits of a mask are the number of its first eight bytes. -/
theorem toNat_bits_ofBytes (bytes : Bytes) : (ofBytes bytes).bits.toNat = Bytes.littleEndian (bytes.take 8) := by
  have hlt := Bytes.littleEndian_lt (bytes.take 8)
  have hle : 256 ^ (bytes.take 8).length ≤ 256 ^ 8 := Nat.pow_le_pow_right (by decide) (List.length_take_le 8 bytes)
  exact UInt64.toNat_ofNat_of_lt (lt_of_lt_of_le hlt hle)

/-- Masks are the same if their first eight bytes stand for the same number. -/
theorem ofBytes_eq_iff {bytes other : Bytes} :
    ofBytes bytes = ofBytes other ↔
      Bytes.littleEndian (bytes.take 8) = Bytes.littleEndian (other.take 8) := by
  rw [← toNat_bits_ofBytes, ← toNat_bits_ofBytes, UInt64.toNat_inj, mk.injEq]

private theorem ofBytes_append_zeros (bytes : Bytes) (n : Nat) :
    ofBytes (bytes ++ List.replicate n 0) = ofBytes bytes := by
  rw [ofBytes_eq_iff, List.take_append, List.take_replicate, Bytes.littleEndian_append,
    Bytes.littleEndian_replicate_zero, Nat.mul_zero, Nat.add_zero]

/-- Bytes past the eighth do not count. -/
theorem ofBytes_append_of_eight_le {bytes : Bytes} (hlength : 8 ≤ bytes.length) (more : Bytes) :
    ofBytes (bytes ++ more) = ofBytes bytes := by
  rw [ofBytes_eq_iff, List.take_append_of_le_length hlength]

private theorem ofBytes_leastFirst (mask : UInt64) : ofBytes (Bytes.leastFirst 8 mask.toNat) = ⟨mask⟩ := by
  rw [mk.injEq, ← UInt64.toNat_inj, toNat_bits_ofBytes, List.take_of_length_le (Bytes.length_leastFirst 8 _).le]
  exact Bytes.littleEndian_leastFirst mask.toNat_lt

private theorem isPrivate_ofBytes_iff {bytes : Bytes} :
    (ofBytes bytes).isPrivate = true ↔ ∃ b rest, bytes = b :: rest ∧ b.toNat % 2 = 1 := by
  rw [isPrivate_eq_testBit, toNat_bits_ofBytes, Nat.testBit_zero, decide_eq_true_iff]
  cases bytes with
  | nil => simp [Bytes.littleEndian]
  | cons b rest =>
    rw [List.take_succ_cons, Bytes.littleEndian]
    constructor
    · intro hodd
      exact ⟨b, rest, rfl, by omega⟩
    · rintro ⟨_, _, hbytes, hodd⟩
      cases hbytes
      omega

/-- What is read of a text as base64: the text without the white space around it, with a `+` for every space that
is left. -/
def symbols (text : String) : List Char :=
  (Text.trim text.toList).map fun c => if c = ' ' then '+' else c

/-- A text spells some bytes: it is their base64 with at most the padding that fits it, between white space. -/
def Spells (text : String) (bytes : Bytes) : Prop :=
  ∃ n, n ≤ (3 - bytes.length % 3) % 3 ∧
    symbols text = Base64.encode .standard bytes ++ List.replicate n '='

private theorem decode_symbols_eq_ok_iff {text : String} {bytes : Bytes} :
    Base64.decode .standard .optional (symbols text) = .ok bytes ↔ Spells text bytes :=
  Base64.decode_eq_ok_iff

/-- A text spells one byte string at most. -/
theorem Spells.unique {text : String} {bytes other : Bytes} (hbytes : Spells text bytes) (hother : Spells text other) :
    bytes = other :=
  Except.ok.inj ((decode_symbols_eq_ok_iff.2 hbytes).symm.trans (decode_symbols_eq_ok_iff.2 hother))

/-- A text stands for the mask of the bytes that it spells. -/
theorem ofText_eq_ofBytes {text : String} {bytes : Bytes} (hspells : Spells text bytes) :
    ofText text = ofBytes bytes := by
  have hdecode := decode_symbols_eq_ok_iff.2 hspells
  rw [symbols] at hdecode
  simp only [ofText, hdecode]

/-- A text that spells no bytes wishes for nothing. -/
theorem ofText_eq_none {text : String} (hnone : ∀ bytes, ¬ Spells text bytes) : ofText text = none := by
  cases hdecode : Base64.decode .standard .optional (symbols text) with
  | ok bytes => exact absurd (decode_symbols_eq_ok_iff.1 hdecode) (hnone bytes)
  | error cause =>
    rw [symbols] at hdecode
    simp only [ofText, hdecode]

private theorem symbols_surrounded {before after value : List Char}
    (hbefore : ∀ c ∈ before, Text.isBlank c = true)
    (hvalue : ∀ c ∈ value, Text.isBlank c = false) (hafter : ∀ c ∈ after, Text.isBlank c = true) :
    symbols (String.ofList (before ++ value ++ after)) = value := by
  have hplain : ∀ c ∈ value, (if c = ' ' then '+' else c) = c := by
    intro c hc
    refine if_neg fun hspace => ?_
    have hblank := hvalue c hc
    rw [hspace] at hblank
    cases hblank
  rw [symbols, String.toList_ofList, Text.trim, Text.trimBy_surrounded hbefore hvalue hafter]
  exact (List.map_congr_left hplain).trans (List.map_id' value)

/-- The base64 of some bytes, with some padding behind it. -/
def paddedText (bytes : Bytes) (n : Nat) : List Char :=
  Base64.encode .standard bytes ++ List.replicate n '='

/-- A spelling holds no white space. -/
theorem isBlank_of_mem_paddedText {bytes : Bytes} {n : Nat} {c : Char} (hc : c ∈ paddedText bytes n) :
    Text.isBlank c = false := by
  rcases List.mem_append.1 hc with hc | hc
  · exact (Base64.mem_encode hc).2
  · rw [List.eq_of_mem_replicate hc]
    rfl

private theorem spells_surrounded {bytes : Bytes} {n : Nat} {before after : List Char}
    (hn : n ≤ (3 - bytes.length % 3) % 3)
    (hbefore : ∀ c ∈ before, Text.isBlank c = true) (hafter : ∀ c ∈ after, Text.isBlank c = true) :
    Spells (String.ofList (before ++ paddedText bytes n ++ after)) bytes :=
  ⟨n, hn, symbols_surrounded hbefore (fun _ hc => isBlank_of_mem_paddedText hc) hafter⟩

/-- Bytes are spelled with as much padding as there is room for, or less. -/
theorem spells_paddedText {bytes : Bytes} {n : Nat} (hn : n ≤ (3 - bytes.length % 3) % 3) :
    Spells (String.ofList (paddedText bytes n)) bytes := by
  have hspells : Spells (String.ofList ([] ++ paddedText bytes n ++ [])) bytes :=
    spells_surrounded hn (by simp) (by simp)
  rwa [List.nil_append, List.append_nil] at hspells

/-- A text that spells some bytes, whether padded or not and whatever white space stands around it, stands for the
mask of their first eight, the first one counting least, and the lowest bit of the first byte tells whether a
private session is wished for. So eight bytes can spell every mask, and neither zeros behind the bytes nor any
bytes past the eighth make a difference. A text that spells nothing wishes for nothing. -/
theorem ofText_reads_least_first :
    (∀ (bytes : Bytes) (n : Nat) (before after : List Char), n ≤ (3 - bytes.length % 3) % 3 →
      (∀ c ∈ before, Text.isBlank c = true) → (∀ c ∈ after, Text.isBlank c = true) →
      Spells (String.ofList (before ++ (Base64.encode .standard bytes ++ List.replicate n '=') ++ after)) bytes) ∧
    (∀ text bytes, Spells text bytes →
      (ofText text).bits.toNat = ∑ i ∈ Finset.range (min 8 bytes.length), (bytes.getD i 0).toNat * 256 ^ i ∧
      ((ofText text).isPrivate = true ↔ ∃ b rest, bytes = b :: rest ∧ b.toNat % 2 = 1)) ∧
    (∀ text (mask : UInt64), Spells text (Bytes.leastFirst 8 mask.toNat) → ofText text = ⟨mask⟩) ∧
    (∀ text longer bytes n, Spells text bytes → Spells longer (bytes ++ List.replicate n 0) →
      ofText longer = ofText text) ∧
    (∀ text longer bytes more, Spells text bytes → Spells longer (bytes ++ more) → 8 ≤ bytes.length →
      ofText longer = ofText text) ∧
    (∀ text, (∀ bytes, ¬ Spells text bytes) → ofText text = none) := by
  refine ⟨fun bytes n before after hn hbefore hafter => spells_surrounded hn hbefore hafter,
    fun text bytes hspells => ?_, fun text mask hspells => ?_, fun text longer bytes n hspells hlonger => ?_,
    fun text longer bytes more hspells hlonger hlength => ?_, fun text hnone => ofText_eq_none hnone⟩
  · rw [ofText_eq_ofBytes hspells]
    refine ⟨?_, isPrivate_ofBytes_iff⟩
    rw [toNat_bits_ofBytes, Bytes.littleEndian_take_eq_sum]
  · rw [ofText_eq_ofBytes hspells, ofBytes_leastFirst]
  · rw [ofText_eq_ofBytes hspells, ofText_eq_ofBytes hlonger, ofBytes_append_zeros]
  · rw [ofText_eq_ofBytes hspells, ofText_eq_ofBytes hlonger, ofBytes_append_of_eight_le hlength]

/-- Two bytes between white space, the same with two zeros behind them, eight and nine bytes, and five texts that
spell nothing: a symbol alone, a bit too many, too much padding, padding between symbols, and a foreign symbol. -/
theorem ofText_reads_least_first_of_nine :
    let malformed := ["A", "AB", "AQ===", "A=Q=", "A!=="]
    Spells "\tAwE=\n" [3, 1] ∧ (ofText "\tAwE=\n").bits.toNat = 259 ∧ (ofText "\tAwE=\n").isPrivate = true ∧
      ofText "AwEAAA==" = ofText "\tAwE=\n" ∧
      ofText "AQAAAAAAAIA=" = ⟨0x8000000000000001⟩ ∧ ofText "AQAAAAAAAICA" = ofText "AQAAAAAAAIA=" ∧
      ∀ text ∈ malformed, (∀ bytes, ¬ Spells text bytes) ∧ ofText text = none := by
  intro malformed
  obtain ⟨hsurrounded, hbits, hmask, hzeros, hmore, hnone⟩ := ofText_reads_least_first
  have hblank {c : Char} (hc : Text.isBlank c = true) : ∀ d ∈ [c], Text.isBlank d = true :=
    List.forall_mem_singleton.2 hc
  have htwo : Spells "\tAwE=\n" [3, 1] :=
    hsurrounded [3, 1] 1 ['\t'] ['\n'] (by decide) (hblank rfl) (hblank rfl)
  have hfour : Spells "AwEAAA==" ([3, 1] ++ List.replicate 2 0) := ⟨2, by decide, by decide +kernel⟩
  have height : Spells "AQAAAAAAAIA=" (Bytes.leastFirst 8 0x8000000000000001) := ⟨1, by decide, by decide +kernel⟩
  have hnine : Spells "AQAAAAAAAICA" (Bytes.leastFirst 8 0x8000000000000001 ++ [128]) :=
    ⟨0, by decide, by decide +kernel⟩
  have hmalformed : ∀ text ∈ malformed, (Base64.decode .standard .optional (symbols text)).isOk = false := by
    decide +kernel
  obtain ⟨hsum, hprivate⟩ := hbits _ _ htwo
  refine ⟨htwo, hsum, hprivate.2 ⟨3, [1], rfl, rfl⟩, hzeros _ _ _ _ htwo hfour, hmask _ 0x8000000000000001 height,
    hmore _ _ _ _ height hnine (by decide), fun text htext => ?_⟩
  have hunspelled : ∀ bytes, ¬ Spells text bytes := by
    intro bytes hspells
    have hfails := hmalformed text htext
    rw [decode_symbols_eq_ok_iff.2 hspells] at hfails
    cases hfails
  exact ⟨hunspelled, hnone text hunspelled⟩

end SessionModes

end SignIn
