import SignIn.Proofs.KeyDerivation
import SignIn.Proofs.List

namespace SignIn

private theorem Bytes.be32_inj {m n : Nat} (hm : m < 0x100000000) (hn : n < 0x100000000) :
    be32 m = be32 n ↔ m = n := by
  constructor
  · intro hbytes
    have htoNat := congrArg (List.map UInt8.toNat) hbytes
    simp only [be32, List.map_cons, List.map_nil, UInt8.toNat_ofNat', Nat.shiftRight_eq_div_pow,
      List.cons.injEq, and_true] at htoNat
    omega
  · exact congrArg _

/-- Two messages that are told apart by everything but their digests. -/
def Sha256.Collide (message other : Bytes) : Prop :=
  message ≠ other ∧ digest message = digest other

namespace KeyRequest

/-- Block `k` of a key, counted from 1. -/
def blockOf (key : Bytes) (k : Nat) : Bytes :=
  (key.drop ((k - 1) * digestSize)).take digestSize

/-- The blocks of a key are cut out of it where they were put. -/
theorem blockOf_keyBytes {r : KeyRequest} {k : Nat} (hfirst : 1 ≤ k) (hlast : k ≤ r.length / digestSize) :
    blockOf r.keyBytes k = r.block k := by
  obtain ⟨i, rfl⟩ : ∃ i, k = i + 1 := ⟨k - 1, by omega⟩
  rw [blockOf, keyBytes, List.flatMap_def]
  refine take_drop_flatten (fun piece hpiece => ?_) ?_
  · obtain ⟨n, -, rfl⟩ := List.mem_map.1 hpiece
    exact r.length_block (n + 1)
  · simp [List.getElem?_range (show i < r.length / digestSize by omega)]

/-- A counted input tells where it ends, whatever follows it. -/
theorem counted_append_inj {input input' rest rest' : Bytes} (hfits : input.length < 0x100000000)
    (hfits' : input'.length < 0x100000000) (hsame : counted input ++ rest = counted input' ++ rest') :
    input = input' ∧ rest = rest' := by
  simp only [counted, List.append_assoc] at hsame
  obtain ⟨hcount, hsame⟩ := List.append_inj hsame rfl
  exact List.append_inj hsame ((Bytes.be32_inj hfits hfits').1 hcount)

/-- The secret is the one input that is not counted, so only secrets of one length can be compared. -/
theorem blockMessage_inj {x y : KeyRequest} {i j : Nat} (hx : x.Derivable) (hy : y.Derivable)
    (hsecret : x.sharedSecret.length = y.sharedSecret.length) (hi : i < 0x100000000)
    (hj : j < 0x100000000) (hsame : x.blockMessage i = y.blockMessage j) : i = j ∧ x = y := by
  simp only [blockMessage, List.append_assoc] at hsame
  obtain ⟨hnumber, hsame⟩ := List.append_inj hsame rfl
  obtain ⟨hsecrets, hsame⟩ := List.append_inj hsame hsecret
  obtain ⟨halgorithm, hsame⟩ := counted_append_inj hx.algorithmId.2 hy.algorithmId.2 hsame
  obtain ⟨hpartyU, hsame⟩ := counted_append_inj hx.partyUInfo.2 hy.partyUInfo.2 hsame
  obtain ⟨hpartyV, hbits⟩ := counted_append_inj hx.partyVInfo.2 hy.partyVInfo.2 hsame
  have hlength : 8 * x.length = 8 * y.length := (Bytes.be32_inj hx.fits hy.fits).1 hbits
  refine ⟨(Bytes.be32_inj hi hj).1 hnumber, ?_⟩
  cases x
  cases y
  simp only at hsecrets halgorithm hpartyU hpartyV hlength
  simp only [mk.injEq]
  exact ⟨hsecrets, by omega, halgorithm, hpartyU, hpartyV⟩

/-- Blocks that are alike were hashed from one message or from two that collide. -/
theorem blockMessage_eq_or_collide {x y : KeyRequest} {i j : Nat} (hsame : x.block i = y.block j) :
    x.blockMessage i = y.blockMessage j ∨ Sha256.Collide (x.blockMessage i) (y.blockMessage j) := by
  have hdigest : Sha256.digest (x.blockMessage i) = Sha256.digest (y.blockMessage j) :=
    Vector.toList_inj.1 hsame
  by_cases hmessage : x.blockMessage i = y.blockMessage j
  · exact .inl hmessage
  · exact .inr ⟨hmessage, hdigest⟩

/-- The number of a block of a derived key fits the 32 bits in which it is hashed. -/
theorem lt_of_mul_digestSize_le {r : KeyRequest} {k : Nat} (hderivable : r.Derivable)
    (hlast : k * digestSize ≤ r.length) : k < 0x100000000 := by
  have hfits := hderivable.fits
  rw [digestSize] at hlast
  omega

/-- Block `i` of one key and block `j` of another are digests of messages that are the same only if the numbers
and the requests are. So the blocks themselves are alike only if the numbers and the requests are, or else
the two messages collide. -/
theorem eq_or_collide_of_blockOf_eq {x y : KeyRequest} {keyX keyY : Bytes} {i j : Nat}
    (hsecret : x.sharedSecret.length = y.sharedSecret.length) (hx : x.derive = .ok keyX)
    (hy : y.derive = .ok keyY) (hi : 1 ≤ i ∧ i * digestSize ≤ keyX.length)
    (hj : 1 ≤ j ∧ j * digestSize ≤ keyY.length) :
    blockOf keyX i = (Sha256.digest (x.blockMessage i)).toList ∧
      blockOf keyY j = (Sha256.digest (y.blockMessage j)).toList ∧
      (x.blockMessage i = y.blockMessage j ↔ i = j ∧ x = y) ∧
      (blockOf keyX i = blockOf keyY j →
        (i = j ∧ x = y) ∨ Sha256.Collide (x.blockMessage i) (y.blockMessage j)) := by
  rw [length_of_derive hx] at hi
  rw [length_of_derive hy] at hj
  obtain ⟨hderivableX, rfl⟩ := derive_eq_ok_iff.1 hx
  obtain ⟨hderivableY, rfl⟩ := derive_eq_ok_iff.1 hy
  have hblockX : blockOf x.keyBytes i = x.block i :=
    blockOf_keyBytes hi.1 ((Nat.le_div_iff_mul_le (by decide)).2 hi.2)
  have hblockY : blockOf y.keyBytes j = y.block j :=
    blockOf_keyBytes hj.1 ((Nat.le_div_iff_mul_le (by decide)).2 hj.2)
  have hinjective : x.blockMessage i = y.blockMessage j → i = j ∧ x = y :=
    blockMessage_inj hderivableX hderivableY hsecret (lt_of_mul_digestSize_le hderivableX hi.2)
      (lt_of_mul_digestSize_le hderivableY hj.2)
  refine ⟨hblockX, hblockY, ⟨hinjective, ?_⟩, fun hsame => ?_⟩
  · rintro ⟨rfl, rfl⟩
    rfl
  · rw [hblockX, hblockY] at hsame
    exact (blockMessage_eq_or_collide hsame).imp_left hinjective

/-- A byte that moves from the algorithm to the party beside it changes what is hashed. A request that names
the same parts has the same blocks. -/
theorem eq_or_collide_of_blockOf_eq_moved_byte :
    let x : KeyRequest := ⟨[7], 64, [65, 66], [67], [68]⟩
    let moved : KeyRequest := ⟨[7], 64, [65], [66, 67], [68]⟩
    let joined : KeyRequest := ⟨[7], 64, [65] ++ [66], [67], [68]⟩
    x.derive = .ok x.keyBytes ∧ moved.derive = .ok moved.keyBytes ∧
      x.blockMessage 2 ≠ moved.blockMessage 1 ∧
      (blockOf x.keyBytes 2 = blockOf moved.keyBytes 1 →
        Sha256.Collide (x.blockMessage 2) (moved.blockMessage 1)) ∧
      blockOf x.keyBytes 2 = blockOf joined.keyBytes 2 ∧
      (x = joined ∨ Sha256.Collide (x.blockMessage 2) (joined.blockMessage 2)) := by
  intro x moved joined
  have hjoined : x = joined := by decide
  have hne : x ≠ moved := by decide
  have hx : x.Derivable :=
    ⟨by decide, by decide, by decide, by decide, by decide, by decide, by decide⟩
  have hmoved : moved.Derivable :=
    ⟨by decide, by decide, by decide, by decide, by decide, by decide, by decide⟩
  have hderive {r : KeyRequest} (h : r.Derivable) : r.derive = .ok r.keyBytes := derive_eq_ok_iff.2 ⟨h, rfl⟩
  have hblock {r : KeyRequest} {k : Nat} (h : r.Derivable) (hk : 1 ≤ k ∧ k * digestSize ≤ r.length) :
      1 ≤ k ∧ k * digestSize ≤ r.keyBytes.length := by
    rw [length_of_derive (hderive h)]
    exact hk
  obtain ⟨-, -, hmessage, hblocks⟩ := eq_or_collide_of_blockOf_eq (x := x) (y := moved) rfl (hderive hx)
    (hderive hmoved) (hblock hx (k := 2) (by decide)) (hblock hmoved (k := 1) (by decide))
  obtain ⟨-, -, -, hself⟩ := eq_or_collide_of_blockOf_eq (congrArg (·.sharedSecret.length) hjoined)
    (hderive hx) (hderive (hjoined ▸ hx)) (hblock hx (k := 2) (by decide))
    (hblock (hjoined ▸ hx) (k := 2) (by decide))
  have hsame : blockOf x.keyBytes 2 = blockOf joined.keyBytes 2 :=
    congrArg (fun r : KeyRequest => blockOf r.keyBytes 2) hjoined
  exact ⟨hderive hx, hderive hmoved, fun h => hne (hmessage.1 h).2,
    fun h => (hblocks h).resolve_left fun hagree => hne hagree.2, hsame, (hself hsame).imp_left And.right⟩

end KeyRequest

end SignIn
