import Mathlib.Tactic.Common
import SignIn.Text.Utf8

namespace SignIn.Utf8

private theorem begin_one : ∀ n < 128, begin (UInt8.ofNat n) = ([some (Char.ofNat n)], none) := by
  decide

private theorem begin_two : ∀ n < 32, 2 ≤ n →
    begin (UInt8.ofNat (n + 192)) = ([], some ⟨n, 1, 0x80, 0xbf⟩) := by
  decide

private theorem begin_three : ∀ n < 16, begin (UInt8.ofNat (n + 224)) =
    ([], some ⟨n, 2, if n = 0 then 0xa0 else 0x80, if n = 13 then 0x9f else 0xbf⟩) := by
  decide

private theorem begin_four : ∀ n < 5, begin (UInt8.ofNat (n + 240)) =
    ([], some ⟨n, 3, if n = 0 then 0x90 else 0x80, if n = 4 then 0x8f else 0xbf⟩) := by
  decide

private theorem tail_bounds (n : Nat) :
    (0x80 : UInt8).toNat ≤ n % 64 + 128 ∧ n % 64 + 128 ≤ (0xbf : UInt8).toNat := by
  change 128 ≤ n % 64 + 128 ∧ n % 64 + 128 ≤ 191
  omega

/-- The bounds on the second byte leave no character of three bytes out: none has a shorter spelling, and none is
a surrogate. -/
theorem exists_begin_three {v : Nat} (hlong : 0x7ff < v) (hshort : v ≤ 0xffff)
    (hvalid : v < 0xd800 ∨ 0xdfff < v) :
    ∃ low high, begin (UInt8.ofNat (v / 4096 % 16 + 224)) = ([], some ⟨v / 4096, 2, low, high⟩) ∧
      low.toNat ≤ v / 64 % 64 + 128 ∧ v / 64 % 64 + 128 ≤ high.toNat := by
  have hlead : v / 4096 % 16 = v / 4096 := by omega
  rw [hlead]
  refine ⟨_, _, begin_three (v / 4096) (by omega), ?_, ?_⟩
  · split_ifs
    · change 160 ≤ v / 64 % 64 + 128
      omega
    · exact (tail_bounds (v / 64)).1
  · split_ifs
    · change v / 64 % 64 + 128 ≤ 159
      omega
    · exact (tail_bounds (v / 64)).2

/-- Neither do they leave out one of four bytes: none has a shorter spelling, and none lies past the last
point. -/
theorem exists_begin_four {v : Nat} (hlong : 0xffff < v) (hlast : v < 0x110000) :
    ∃ low high, begin (UInt8.ofNat (v / 262144 % 8 + 240)) = ([], some ⟨v / 262144, 3, low, high⟩) ∧
      low.toNat ≤ v / 4096 % 64 + 128 ∧ v / 4096 % 64 + 128 ≤ high.toNat := by
  have hlead : v / 262144 % 8 = v / 262144 := by omega
  rw [hlead]
  refine ⟨_, _, begin_four (v / 262144) (by omega), ?_, ?_⟩
  · split_ifs
    · change 144 ≤ v / 4096 % 64 + 128
      omega
    · exact (tail_bounds (v / 4096)).1
  · split_ifs
    · change v / 4096 % 64 + 128 ≤ 143
      omega
    · exact (tail_bounds (v / 4096)).2

private theorem resume_tail {p : Pending} {n : Nat}
    (hbounds : p.low.toNat ≤ n % 64 + 128 ∧ n % 64 + 128 ≤ p.high.toNat) :
    resume p (UInt8.ofNat (n % 64 + 128)) =
      if p.missing = 1 then ([some (Char.ofNat (64 * p.value + n % 64))], none)
      else ([], some ⟨64 * p.value + n % 64, p.missing - 1, 0x80, 0xbf⟩) := by
  have htoNat : (UInt8.ofNat (n % 64 + 128)).toNat = n % 64 + 128 := by
    rw [UInt8.toNat_ofNat']
    omega
  have hbits : (n % 64 + 128) % 64 = n % 64 := by omega
  rw [resume, if_pos, htoNat, hbits]
  rw [UInt8.le_iff_toNat_le, UInt8.le_iff_toNat_le, htoNat]
  exact hbounds

private theorem scan_tail {value missing n : Nat} {low high : UInt8}
    (hbounds : low.toNat ≤ n % 64 + 128 ∧ n % 64 + 128 ≤ high.toNat) (rest : Bytes) :
    scan (some ⟨value, missing + 2, low, high⟩) (UInt8.ofNat (n % 64 + 128) :: rest) =
      scan (some ⟨64 * value + n % 64, missing + 1, 0x80, 0xbf⟩) rest := by
  rw [scan, resume_tail hbounds, if_neg (Nat.succ_succ_ne_one missing)]
  rfl

private theorem scan_last_tail {value n : Nat} {low high : UInt8}
    (hbounds : low.toNat ≤ n % 64 + 128 ∧ n % 64 + 128 ≤ high.toNat) (rest : Bytes) :
    scan (some ⟨value, 1, low, high⟩) (UInt8.ofNat (n % 64 + 128) :: rest) =
      some (Char.ofNat (64 * value + n % 64)) :: scan none rest := by
  rw [scan, resume_tail hbounds, if_pos rfl]
  rfl

private theorem scan_utf8EncodeChar (c : Char) (rest : Bytes) :
    scan none (String.utf8EncodeChar c ++ rest) = some c :: scan none rest := by
  have hvalid : c.val.toNat < 0xd800 ∨ 0xdfff < c.val.toNat ∧ c.val.toNat < 0x110000 := c.valid
  have hchar : Char.ofNat c.val.toNat = c := Char.ofNat_toNat c
  rw [String.utf8EncodeChar.eq_1]
  generalize c.val.toNat = v at hvalid hchar
  split_ifs with hone htwo hthree
  · rw [List.singleton_append, scan, begin_one v (by omega), hchar]
    rfl
  · have hlead : v / 64 % 32 = v / 64 := by omega
    have hvalue : 64 * (v / 64) + v % 64 = v := by omega
    rw [hlead, List.cons_append, List.singleton_append, scan, begin_two _ (by omega) (by omega),
      List.nil_append, scan_last_tail (tail_bounds v), hvalue, hchar]
  · obtain ⟨low, high, hbegin, hsecond⟩ := exists_begin_three (v := v) (by omega) hthree (by omega)
    have hvalue : 64 * (64 * (v / 4096) + v / 64 % 64) + v % 64 = v := by omega
    rw [List.cons_append, List.cons_append, List.singleton_append, scan, hbegin, List.nil_append,
      scan_tail hsecond, scan_last_tail (tail_bounds v), hvalue, hchar]
  · obtain ⟨low, high, hbegin, hsecond⟩ := exists_begin_four (v := v) (by omega) (by omega)
    have hvalue : 64 * (64 * (64 * (v / 262144) + v / 4096 % 64) + v / 64 % 64) + v % 64 = v := by omega
    rw [List.cons_append, List.cons_append, List.cons_append, List.singleton_append, scan, hbegin,
      List.nil_append, scan_tail hsecond, scan_tail (tail_bounds (v / 64)), scan_last_tail (tail_bounds v),
      hvalue, hchar]

/-- No byte of a text's UTF-8 is taken for a part of something ill-formed. -/
theorem scan_encode (text : List Char) : scan none (encode text) = text.map some := by
  induction text with
  | nil => rfl
  | cons c text ih =>
    rw [encode, List.flatMap_cons, scan_utf8EncodeChar, ← encode, ih, List.map_cons]

/-- Every text is read back from its UTF-8. -/
theorem decodeLossy_encode (text : List Char) : decodeLossy (encode text) = text := by
  rw [decodeLossy, scan_encode, List.map_map]
  exact List.map_id text

end SignIn.Utf8
