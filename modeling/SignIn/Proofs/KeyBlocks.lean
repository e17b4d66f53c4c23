import Mathlib.Tactic.Common
import SignIn.Proofs.FaultOrder
import SignIn.Proofs.KeySeparation
import SignIn.Text.Utf8

namespace SignIn.KeyRequest

private theorem failsBy_requirePresent (parameter : KeyParameter) (input : Bytes) :
    FailsBy (requirePresent parameter input) [faultIf (input = []) (.missing parameter)] :=
  .ite fun _ => .ok ()

private theorem failsBy_requireCountable (input : Bytes) :
    FailsBy (requireCountable input) [faultIf (0x100000000 ≤ input.length) .inputTooLong] := by
  have hswap : requireCountable input =
      if 0x100000000 ≤ input.length then .error .inputTooLong else .ok () := by
    unfold requireCountable
    by_cases hfits : input.length < 0x100000000
    · rw [if_pos hfits, if_neg (Nat.not_le.2 hfits)]
    · rw [if_neg hfits, if_pos (Nat.not_lt.1 hfits)]
  rw [hswap]
  exact .ite fun _ => .ok ()

/-- What can be wrong with a request, in the order in which it is looked for. -/
def faults (r : KeyRequest) : List (DerivationError → Prop) :=
  [faultIf (r.length = 0) .emptyOutput,
   faultIf (r.sharedSecret = []) (.missing .sharedSecret),
   faultIf (r.algorithmId = []) (.missing .algorithmId),
   faultIf (r.partyUInfo = []) (.missing .partyUInfo),
   faultIf (r.partyVInfo = []) (.missing .partyVInfo),
   faultIf (r.length % digestSize ≠ 0 ∨ 0x100000000 ≤ 8 * r.length) .unsupportedSize,
   faultIf (0x100000000 ≤ r.algorithmId.length ∨ 0x100000000 ≤ r.partyUInfo.length ∨ 0x100000000 ≤ r.partyVInfo.length)
     .inputTooLong]

private theorem failsBy_check (r : KeyRequest) : FailsBy r.check r.faults := by
  unfold check
  refine .throwing fun _ => ?_
  refine (failsBy_requirePresent .sharedSecret r.sharedSecret).guard fun _ _ => ?_
  refine (failsBy_requirePresent .algorithmId r.algorithmId).guard fun _ _ => ?_
  refine (failsBy_requirePresent .partyUInfo r.partyUInfo).guard fun _ _ => ?_
  refine (failsBy_requirePresent .partyVInfo r.partyVInfo).guard fun _ _ => ?_
  -- The two checks of the length have one error in common, and so do the three of the inputs.
  refine .merge (.throwing fun _ => .throwing fun _ => ?_)
  refine .merge ((failsBy_requireCountable r.algorithmId).guard fun _ _ => ?_)
  exact .merge ((failsBy_requireCountable r.partyUInfo).guard fun _ _ => failsBy_requireCountable r.partyVInfo)

/-- A request is refused by the table of its faults. -/
theorem failsBy_derive (r : KeyRequest) : FailsBy r.derive r.faults := by
  have hfails := (failsBy_check r).bind fun _ _ => FailsBy.ok r.keyBytes
  rw [List.append_nil] at hfails
  exact hfails

/-- A number in four bytes. It has to fit them. -/
def be32? (n : Nat) : Except DerivationError Bytes :=
  if n < 0x100000000 then .ok (Bytes.be32 n) else .error .inputTooLong

private theorem be32?_eq_ok {n : Nat} (hfits : n < 0x100000000) : be32? n = .ok (Bytes.be32 n) :=
  if_pos hfits

/-- What is hashed in every block behind the number of the block. -/
def context? (r : KeyRequest) : Except DerivationError Bytes := do
  let algorithmLength ← be32? r.algorithmId.length
  let partyULength ← be32? r.partyUInfo.length
  let partyVLength ← be32? r.partyVInfo.length
  let bits ← be32? (8 * r.length)
  return r.sharedSecret ++ algorithmLength ++ r.algorithmId ++ partyULength ++ r.partyUInfo ++ partyVLength ++
    r.partyVInfo ++ bits

/-- Puts `count` blocks behind a key that has begun, the first of them with the number `k`. -/
def appendBlocks (context : Bytes) : (count k : Nat) → (key : Bytes) → Except DerivationError Bytes
  | 0, _, key => .ok key
  | count + 1, k, key => do
    let number ← be32? k
    appendBlocks context count (k + 1) (key ++ (Sha256.digest (number ++ context)).toList)

/-- Puts a key together block by block, with every length and every number of a block checked where it is
written. -/
def assemble (r : KeyRequest) : Except DerivationError Bytes := do
  let context ← r.context?
  appendBlocks context (r.length / digestSize) 1 []

private theorem context?_eq_ok {r : KeyRequest} (hderivable : r.Derivable) :
    ∃ context, r.context? = .ok context ∧ ∀ k, Bytes.be32 k ++ context = r.blockMessage k := by
  rw [context?, be32?_eq_ok hderivable.algorithmId.2, be32?_eq_ok hderivable.partyUInfo.2,
    be32?_eq_ok hderivable.partyVInfo.2, be32?_eq_ok hderivable.fits]
  refine ⟨_, rfl, fun k => ?_⟩
  simp only [blockMessage, counted, List.append_assoc]

/-- As long as the numbers of the blocks fit 32 bits, every step appends its block and the next begins. -/
theorem appendBlocks_eq_ok {context : Bytes} {count k : Nat} (hnumbers : k + count ≤ 0x100000000) (key : Bytes) :
    appendBlocks context count k key =
      .ok (key ++ (List.range count).flatMap fun i =>
        (Sha256.digest (Bytes.be32 (k + i) ++ context)).toList) := by
  induction count generalizing k key with
  | zero => simp [appendBlocks]
  | succ count ih =>
    rw [appendBlocks, be32?_eq_ok (by omega)]
    change appendBlocks context count (k + 1) _ = _
    rw [ih (by omega), List.range_succ_eq_map, List.flatMap_cons, List.flatMap_map, List.append_assoc]
    simp only [Nat.add_zero, Nat.succ_eq_add_one, Nat.add_assoc, Nat.add_comm 1]

/-- No number of a block that is asked for is too big, so putting a key together cannot fail on the way. -/
theorem assemble_eq_ok {r : KeyRequest} (hderivable : r.Derivable) : r.assemble = .ok r.keyBytes := by
  obtain ⟨context, hcontext, hmessage⟩ := context?_eq_ok hderivable
  have hnumbers : 1 + r.length / digestSize ≤ 0x100000000 := by
    have hfits := hderivable.fits
    rw [digestSize]
    omega
  rw [assemble, hcontext]
  change appendBlocks context (r.length / digestSize) 1 [] = _
  rw [appendBlocks_eq_ok hnumbers, List.nil_append, keyBytes]
  simp only [hmessage, block, Nat.add_comm 1]

/-- A request is answered exactly if its length is a positive whole number of digests whose bits fit 32 bits, no
input is empty, and every input but the secret can be counted in 32 bits. Then the key is as long as was asked
for, its block `k` is the digest of `k`, the secret, the three counted inputs and the bits of the key, and
putting it together step by step meets no length and no number of a block that does not fit. Every other
request is refused with the first thing that is wrong with it. -/
theorem derive_concatenates_blocks (r : KeyRequest) :
    ((∃ key, r.derive = .ok key) ↔
      (0 < r.length ∧ 32 ∣ r.length ∧ 8 * r.length < 0x100000000) ∧ r.sharedSecret ≠ [] ∧
        (r.algorithmId ≠ [] ∧ r.algorithmId.length < 0x100000000) ∧
        (r.partyUInfo ≠ [] ∧ r.partyUInfo.length < 0x100000000) ∧
        (r.partyVInfo ≠ [] ∧ r.partyVInfo.length < 0x100000000)) ∧
    (∀ key, r.derive = .ok key →
      key.length = r.length ∧
      (∀ k, 1 ≤ k → k ≤ r.length / 32 →
        (key.drop ((k - 1) * 32)).take 32 =
          (Sha256.digest (Bytes.be32 k ++ r.sharedSecret ++
            Bytes.be32 r.algorithmId.length ++ r.algorithmId ++
            Bytes.be32 r.partyUInfo.length ++ r.partyUInfo ++
            Bytes.be32 r.partyVInfo.length ++ r.partyVInfo ++ Bytes.be32 (8 * r.length))).toList) ∧
      r.assemble = .ok key) ∧
    (∀ e, r.derive = .error e ↔ FirstFault
      [faultIf (r.length = 0) .emptyOutput,
       faultIf (r.sharedSecret = []) (.missing .sharedSecret),
       faultIf (r.algorithmId = []) (.missing .algorithmId),
       faultIf (r.partyUInfo = []) (.missing .partyUInfo),
       faultIf (r.partyVInfo = []) (.missing .partyVInfo),
       faultIf (¬ 32 ∣ r.length ∨ 0x100000000 ≤ 8 * r.length) .unsupportedSize,
       faultIf (0x100000000 ≤ r.algorithmId.length ∨ 0x100000000 ≤ r.partyUInfo.length ∨
         0x100000000 ≤ r.partyVInfo.length) .inputTooLong] e) := by
  have hwhole : 32 ∣ r.length ↔ r.length % digestSize = 0 := Nat.dvd_iff_mod_eq_zero
  refine ⟨⟨?_, ?_⟩, fun key hderive => ?_, ?_⟩
  · rintro ⟨key, hderive⟩
    have h := (derive_eq_ok_iff.1 hderive).1
    exact ⟨⟨Nat.pos_of_ne_zero h.positive, hwhole.2 h.whole, h.fits⟩, h.sharedSecret, h.algorithmId,
      h.partyUInfo, h.partyVInfo⟩
  · rintro ⟨⟨hpositive, hdigests, hfits⟩, hsecret, halgorithm, hpartyU, hpartyV⟩
    exact derive_success ⟨Nat.ne_of_gt hpositive, hwhole.1 hdigests, hfits, hsecret, halgorithm, hpartyU, hpartyV⟩
  · have hlength := length_of_derive hderive
    obtain ⟨hderivable, rfl⟩ := derive_eq_ok_iff.1 hderive
    refine ⟨hlength, fun k hfirst hlast => ?_, assemble_eq_ok hderivable⟩
    have hblock : blockOf r.keyBytes k = r.block k := blockOf_keyBytes hfirst hlast
    rw [block, blockMessage] at hblock
    simp only [counted, ← List.append_assoc] at hblock
    exact hblock
  · simp only [hwhole]
    exact failsBy_derive r

/-- The second of two blocks, with all that is hashed for it written out, and a request with three faults, of
which the empty party is found first. -/
theorem derive_concatenates_blocks_second_of_two :
    let r : KeyRequest := ⟨[7], 64, [65, 66], [67], [68]⟩
    let faulty : KeyRequest := ⟨[7], 33, [65], [], []⟩
    (∃ key, r.derive = .ok key ∧ key.length = 64 ∧ r.assemble = .ok key ∧
      (key.drop 32).take 32 = (Sha256.digest [0, 0, 0, 2, 7, 0, 0, 0, 2, 65, 66, 0, 0, 0, 1, 67, 0, 0, 0, 1, 68,
        0, 0, 2, 0]).toList) ∧
      faulty.derive = .error (.missing .partyUInfo) := by
  intro r faulty
  obtain ⟨hanswered, hkey, -⟩ := derive_concatenates_blocks r
  obtain ⟨-, -, hrefused⟩ := derive_concatenates_blocks faulty
  obtain ⟨key, hderive⟩ := hanswered.2 (by decide)
  obtain ⟨hlength, hblocks, hassemble⟩ := hkey key hderive
  have hmessage : Bytes.be32 2 ++ r.sharedSecret ++ Bytes.be32 r.algorithmId.length ++ r.algorithmId ++
      Bytes.be32 r.partyUInfo.length ++ r.partyUInfo ++ Bytes.be32 r.partyVInfo.length ++ r.partyVInfo ++
      Bytes.be32 (8 * r.length) =
        [0, 0, 0, 2, 7, 0, 0, 0, 2, 65, 66, 0, 0, 0, 1, 67, 0, 0, 0, 1, 68, 0, 0, 2, 0] := by decide
  have hsecond := hblocks 2 (by decide) (by decide)
  rw [hmessage] at hsecond
  refine ⟨⟨key, hderive, hlength, hassemble, hsecond⟩, (hrefused _).2 ?_⟩
  simp [FirstFault, faultIf, faulty]

/-- Known answers for a key of one block and for a key of two. -/
example :
    let request (length : Nat) : KeyRequest :=
      ⟨[0x4a, 0x5d, 0x9d, 0x5b, 0xa4, 0xce, 0x2d, 0xe1, 0x72, 0x8e, 0x3b, 0xf4, 0x80, 0x35, 0x0f, 0x25,
        0xe0, 0x7e, 0x21, 0xc9, 0x47, 0xd1, 0x9e, 0x33, 0x76, 0xf0, 0x9b, 0x3c, 0x1e, 0x16, 0x17, 0x42],
        length, Utf8.bytesOf "A256GCM", Utf8.bytesOf "Alice", Utf8.bytesOf "Bob"⟩
    (request 32).derive =
        .ok [0x2f, 0x36, 0x36, 0x91, 0x8d, 0xdb, 0x57, 0xfe, 0x0b, 0x35, 0x69, 0x11, 0x3f, 0x19, 0xc4, 0xb6,
          0xc5, 0x18, 0xc2, 0x84, 0x3f, 0x89, 0x30, 0xf0, 0x5d, 0xb2, 0x5c, 0xd5, 0x5d, 0xee, 0x53, 0xc1] ∧
      (request 64).derive =
        .ok [0xb7, 0x9f, 0x88, 0xd9, 0x70, 0x33, 0x0c, 0xa2, 0x64, 0xec, 0x74, 0x1c, 0x1a, 0x43, 0xbb, 0x7a,
          0x4c, 0x7a, 0x44, 0xbd, 0x36, 0xb1, 0xbf, 0x27, 0xfa, 0xd3, 0x37, 0xc6, 0x16, 0x18, 0xd5, 0x26,
          0x4c, 0xdb, 0x06, 0x4e, 0xc2, 0xf0, 0x54, 0x8e, 0x2a, 0x0e, 0x5d, 0xc8, 0xe0, 0x24, 0xb6, 0xf6,
          0xcc, 0x54, 0x50, 0x8e, 0xd0, 0xe6, 0x99, 0x96, 0x8d, 0x42, 0x41, 0x19, 0xe9, 0x39, 0x7d, 0x7b] := by
  intro request
  exact ⟨by decide +kernel, by decide +kernel⟩

end SignIn.KeyRequest
