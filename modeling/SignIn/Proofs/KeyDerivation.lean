import SignIn.KeyDerivation
import SignIn.Proofs.Except

namespace SignIn.KeyRequest

private theorem requirePresent_eq_ok_iff {parameter : KeyParameter} {input : Bytes} {passed : Unit} :
    requirePresent parameter input = .ok passed ↔ input ≠ [] := by
  unfold requirePresent
  by_cases hempty : input = []
  · rw [if_pos hempty]
    exact iff_of_false (by intro h; cases h) (not_not_intro hempty)
  · rw [if_neg hempty]
    exact iff_of_true rfl hempty

private theorem requireCountable_eq_ok_iff {input : Bytes} {passed : Unit} :
    requireCountable input = .ok passed ↔ input.length < 0x100000000 := by
  unfold requireCountable
  by_cases hfits : input.length < 0x100000000
  · rw [if_pos hfits]
    exact iff_of_true rfl hfits
  · rw [if_neg hfits]
    exact iff_of_false (by intro h; cases h) hfits

/-- Requests that can be answered: a whole number of digests whose bits fit 32 bits, from inputs that are all
    there and, but for the secret, can be counted in 32 bits. -/
structure Derivable (r : KeyRequest) : Prop where
  positive : r.length ≠ 0
  whole : r.length % digestSize = 0
  fits : 8 * r.length < 0x100000000
  sharedSecret : r.sharedSecret ≠ []
  algorithmId : r.algorithmId ≠ [] ∧ r.algorithmId.length < 0x100000000
  partyUInfo : r.partyUInfo ≠ [] ∧ r.partyUInfo.length < 0x100000000
  partyVInfo : r.partyVInfo ≠ [] ∧ r.partyVInfo.length < 0x100000000

private theorem check_eq_ok_iff {r : KeyRequest} : r.check = .ok () ↔ r.Derivable := by
  simp only [check, ite_throw_eq_ok_iff, bind_eq_ok_iff, requirePresent_eq_ok_iff,
    requireCountable_eq_ok_iff, exists_const]
  constructor
  · rintro ⟨hpositive, hsecret, halgorithm, hpartyU, hpartyV, hwhole, hfits, halgorithmFits, hpartyUFits,
      hpartyVFits⟩
    exact ⟨hpositive, by omega, by omega, hsecret, ⟨halgorithm, halgorithmFits⟩, ⟨hpartyU, hpartyUFits⟩,
      ⟨hpartyV, hpartyVFits⟩⟩
  · intro h
    exact ⟨h.positive, h.sharedSecret, h.algorithmId.1, h.partyUInfo.1, h.partyVInfo.1,
      not_not_intro h.whole, Nat.not_le.2 h.fits, h.algorithmId.2, h.partyUInfo.2, h.partyVInfo.2⟩

/-- A derivation comes to the bytes of the blocks, for the requests that can be answered. -/
theorem derive_eq_ok_iff {r : KeyRequest} {key : Bytes} :
    r.derive = .ok key ↔ r.Derivable ∧ key = r.keyBytes := by
  rw [derive, bind_eq_ok_iff]
  constructor
  · rintro ⟨_, hcheck, hkey⟩
    cases hkey
    exact ⟨check_eq_ok_iff.1 hcheck, rfl⟩
  · rintro ⟨hderivable, rfl⟩
    exact ⟨(), check_eq_ok_iff.2 hderivable, rfl⟩

/-- Every request that can be answered is answered. -/
theorem derive_success {r : KeyRequest} (hderivable : r.Derivable) : ∃ key, r.derive = .ok key :=
  ⟨r.keyBytes, derive_eq_ok_iff.2 ⟨hderivable, rfl⟩⟩

private theorem length_keyBytes {r : KeyRequest} (hwhole : r.length % digestSize = 0) :
    r.keyBytes.length = r.length := by
  have hblocks : r.keyBytes.length = r.length / digestSize * digestSize := by
    simp [keyBytes, List.length_flatMap, List.map_const']
  rw [hblocks, Nat.div_mul_cancel (Nat.dvd_of_mod_eq_zero hwhole)]

/-- A derived key is as long as was asked for. -/
theorem length_of_derive {r : KeyRequest} {key : Bytes} (hderive : r.derive = .ok key) :
    key.length = r.length := by
  obtain ⟨hderivable, rfl⟩ := derive_eq_ok_iff.1 hderive
  exact length_keyBytes hderivable.whole

end SignIn.KeyRequest
