import Mathlib.Data.Nat.Digits.Defs
import Mathlib.Tactic.Ring
import SignIn.Proofs.Base64

namespace SignIn.Base64

/-- A text is the number of some bytes, written with the symbols of the digits `values` and with `spare` zeros behind
its last bit. -/
structure Denotes (a : Alphabet) (text : List Char) (bytes : Bytes) (values : List Nat) (spare : Nat) : Prop where
  /-- Nothing but symbols of the alphabet, and so no padding. -/
  text_eq : text = values.map a.symbol
  digits : ∀ v ∈ values, v < 64
  /-- The last symbol is needed. -/
  spare_lt : spare < 6
  length_eq : 6 * values.length = 8 * bytes.length + spare
  /-- The bits of the last symbol that no byte uses are zero. -/
  number_eq : Nat.ofDigits 64 values.reverse = 2 ^ spare * Nat.ofDigits 256 (bytes.map UInt8.toNat).reverse

/-- Three bytes more are four symbols more, and 24 bits in front of the number. -/
theorem ofDigits_sextets (bytes : Bytes) :
    ∃ spare < 6, 6 * (sextets bytes).length = 8 * bytes.length + spare ∧
      Nat.ofDigits 64 (sextets bytes).reverse = 2 ^ spare * Nat.ofDigits 256 (bytes.map UInt8.toNat).reverse := by
  fun_induction sextets bytes with
  | case1 a b c rest ih =>
    obtain ⟨spare, hspare, hlength, hnumber⟩ := ih
    refine ⟨spare, hspare, by simp only [List.length_cons]; omega, ?_⟩
    have hplace : 64 ^ (sextets rest).length = 2 ^ spare * 256 ^ rest.length := by
      rw [show (64 : Nat) = 2 ^ 6 from rfl, show (256 : Nat) = 2 ^ 8 from rfl, ← pow_mul, ← pow_mul, ← pow_add,
        hlength, Nat.add_comm]
    have hgroup : c.toNat % 64 + 64 * (b.toNat % 16 * 4 + c.toNat / 64) +
        4096 * (a.toNat % 4 * 16 + b.toNat / 16) + 262144 * (a.toNat / 4) =
        c.toNat + 256 * b.toNat + 65536 * a.toNat := by omega
    simp only [List.map_cons, Nat.ofDigits_reverse_cons, List.length_cons, List.length_map, hnumber]
    calc
      _ = 2 ^ spare * Nat.ofDigits 256 (rest.map UInt8.toNat).reverse + 64 ^ (sextets rest).length *
          (c.toNat % 64 + 64 * (b.toNat % 16 * 4 + c.toNat / 64) +
            4096 * (a.toNat % 4 * 16 + b.toNat / 16) + 262144 * (a.toNat / 4)) := by ring
      _ = 2 ^ spare * Nat.ofDigits 256 (rest.map UInt8.toNat).reverse + 2 ^ spare * 256 ^ rest.length *
          (c.toNat + 256 * b.toNat + 65536 * a.toNat) := by rw [hgroup, hplace]
      _ = _ := by ring
  | case2 a b =>
    refine ⟨2, by decide, rfl, ?_⟩
    simp only [List.map_cons, List.map_nil, Nat.ofDigits_reverse_cons, List.reverse_nil, Nat.ofDigits_nil,
      List.length_cons, List.length_nil]
    omega
  | case3 a =>
    refine ⟨4, by decide, rfl, ?_⟩
    simp only [List.map_cons, List.map_nil, Nat.ofDigits_reverse_cons, List.reverse_nil, Nat.ofDigits_nil,
      List.length_cons, List.length_nil]
    omega
  | case4 => exact ⟨0, by decide, rfl, rfl⟩

/-- Strict reading accepts exactly what a number of bytes is written as. -/
theorem decode_refused_eq_ok_iff_denotes {a : Alphabet} {text : List Char} {bytes : Bytes} :
    decode a .refused text = .ok bytes ↔ ∃ values spare, Denotes a text bytes values spare := by
  rw [decode_refused_eq_ok_iff]
  obtain ⟨spare, hspare, hlength, hnumber⟩ := ofDigits_sextets bytes
  constructor
  · rintro rfl
    exact ⟨sextets bytes, spare, rfl, sextets_lt, hspare, hlength, hnumber⟩
  · rintro ⟨values, spare', htext, hdigits, hspare', hlength', hnumber'⟩
    -- The number of bytes leaves one choice for the number of symbols, and with it for the spare bits.
    obtain rfl : spare' = spare := by omega
    have hreverse : values.reverse = (sextets bytes).reverse := by
      refine Nat.ofDigits_inj_of_len_eq (by decide) ?_ (by simpa using hdigits) (by simpa using sextets_lt)
        (hnumber'.trans hnumber.symm)
      rw [List.length_reverse, List.length_reverse]
      omega
    rw [htext, List.reverse_inj.1 hreverse, encode]

end SignIn.Base64
