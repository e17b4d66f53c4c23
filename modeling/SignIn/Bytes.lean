namespace SignIn

/-- A byte string. -/
abbrev Bytes := List UInt8

namespace Bytes

/-- The low 32 bits of a number, most significant byte first. -/
def be32 (n : Nat) : Bytes :=
  [UInt8.ofNat (n >>> 24), UInt8.ofNat (n >>> 16), UInt8.ofNat (n >>> 8), UInt8.ofNat n]

/-- The low 64 bits of a number, most significant byte first. -/
def be64 (n : Nat) : Bytes :=
  be32 (n >>> 32) ++ be32 n

/-- The number a byte string stands for when its first byte counts least. -/
def littleEndian : Bytes → Nat
  | [] => 0
  | b :: rest => b.toNat + 256 * littleEndian rest

end Bytes

end SignIn
