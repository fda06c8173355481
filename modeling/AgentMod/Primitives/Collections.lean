import AgentMod.Library.Result
import Mathlib.Data.List.Sort

/-! Ordered collections keyed by strings, and content hashes. -/

namespace AgentMod

/-- `BTreeSet<String>`: iteration follows the order of the strings. -/
abbrev StringSet := Std.ExtTreeSet String

/-- `BTreeMap<String, α>`: iteration follows the order of the keys. -/
abbrev StringMap (α : Type) := Std.ExtTreeMap String α

/-- The 32 bytes of a content hash. -/
structure ContentHash where
  bytes : Vector UInt8 32
  deriving DecidableEq

/-- The hash function that content hashes are computed with. -/
class Hashing where
  /-- `ContentHash::digest`. -/
  digest : List UInt8 → ContentHash

/-- `ContentHash::to_hex`: the lowercase hexadecimal digits of the bytes. -/
def ContentHash.toHex (hash : ContentHash) : String :=
  .ofList <| hash.bytes.toList.flatMap fun byte =>
    [Nat.digitChar (byte.toNat / 16), Nat.digitChar (byte.toNat % 16)]

/-- The eight bytes of `u64::to_be_bytes`. -/
def toBeBytes (value : Nat) : List UInt8 :=
  [56, 48, 40, 32, 24, 16, 8, 0].map fun shift => (value >>> shift).toUInt8

end AgentMod
