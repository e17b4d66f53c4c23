import SignIn.Base64
import SignIn.Text.Blank
import SignIn.Text.Quoted

namespace SignIn

/-- A mask of wishes for a browser session. It is sent as base64 of its bytes, the first byte counting least.
-/
structure SessionModes where
  bits : UInt64
  deriving DecidableEq, Repr

namespace SessionModes

/-- No wishes. -/
def none : SessionModes :=
  ⟨0⟩

/-- The wish for a private session. -/
def privateFlag : UInt64 := 1

/-- The mask that bytes stand for. Bytes past the eighth do not count. -/
def ofBytes (bytes : Bytes) : SessionModes :=
  ⟨UInt64.ofNat (Bytes.littleEndian (bytes.take 8))⟩

/-- The mask that a text stands for. A space stands for a `+` that was not escaped, and a text that cannot
be read wishes for nothing. -/
def ofText (text : String) : SessionModes :=
  let symbols := (Text.trim text.toList).map fun c => if c = ' ' then '+' else c
  match Base64.decode .standard .optional symbols with
  | .ok bytes => ofBytes bytes
  | .error _ => none

/-- Whether a mask holds all wishes of `flag`. -/
def contains (m : SessionModes) (flag : UInt64) : Bool :=
  m.bits &&& flag == flag

/-- Whether a private session is wished for. -/
def isPrivate (m : SessionModes) : Bool :=
  m.contains privateFlag

/-- The wish for a private session is the lowest bit. -/
theorem isPrivate_eq_testBit (m : SessionModes) : m.isPrivate = m.bits.toNat.testBit 0 := by
  have hmask : (m.bits &&& privateFlag).toNat = m.bits.toNat % 2 := by
    rw [UInt64.toNat_and]
    exact Nat.and_one_is_mod _
  rw [isPrivate, contains, Nat.testBit_zero, Bool.eq_iff_iff, beq_iff_eq, decide_eq_true_iff,
    ← UInt64.toNat_inj, hmask]
  rfl

/-- A mask as it is shown to a developer. -/
def debugText (m : SessionModes) : String :=
  Text.showWrapped "BrowserModes" (toString m.bits.toNat)

end SessionModes

end SignIn
