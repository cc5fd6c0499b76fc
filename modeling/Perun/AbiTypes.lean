import Perun.AbiDecode

/-! The types of `abiencode/types.rs` with their encodings, and `to_hash`. -/
namespace Perun.AbiTypes
open BigEndian Ser AbiEncode

structure Address where
  bytes : Vector UInt8 20
  deriving DecidableEq

structure Hash where
  bytes : Vector UInt8 32
  deriving DecidableEq

structure Bytes32 where
  bytes : Vector UInt8 32
  deriving DecidableEq

structure Signature where
  bytes : Vector UInt8 65
  deriving DecidableEq

abbrev U256 := BitVec 256

/-- `Address::default()`. -/
def Address.zero : Address := ⟨Vector.replicate 20 0⟩

def Signature.zero : Signature := ⟨Vector.replicate 65 0⟩

def U256.toBigEndian (v : U256) : List UInt8 := bigEndian 32 v.toNat

def Hash.abi (v : Hash) : Abi := .fixedBytes ⟨v.bytes.toList, by simp, by simp [slotSize]⟩

/-- Addresses are right aligned. -/
def Address.abi (v : Address) : Abi :=
  .fixedBytes ⟨List.replicate 12 0 ++ v.bytes.toList, by simp, by simp [slotSize]⟩

def U256.abi (v : U256) : Abi :=
  .fixedBytes ⟨v.toBigEndian, by simp [toBigEndian], by simp [toBigEndian, slotSize]⟩

theorem vector_ext {α : Type} {n : Nat} {v w : Vector α n} (same : v.toList = w.toList) : v = w :=
  Vector.toList_inj.mp same

theorem fixed_bytes_data {v w : FixedBytes} (same : Abi.fixedBytes v = .fixedBytes w) :
    v.data = w.data := by
  cases same
  rfl

theorem Hash.abi_inj {v w : Hash} (same : v.abi = w.abi) : v = w := by
  have bytes := vector_ext (fixed_bytes_data same)
  cases v
  cases w
  cases bytes
  rfl

theorem Address.abi_inj {v w : Address} (same : v.abi = w.abi) : v = w := by
  have bytes := vector_ext (List.append_cancel_left (fixed_bytes_data same))
  cases v
  cases w
  cases bytes
  rfl

theorem U256.toNat_bound (v : U256) : v.toNat < 256 ^ 32 :=
  Nat.lt_of_lt_of_eq v.isLt (by norm_num)

theorem U256.toBigEndian_inj {v w : U256} (same : v.toBigEndian = w.toBigEndian) : v = w := by
  unfold U256.toBigEndian at same
  exact BitVec.eq_of_toNat_eq (bigEndian_inj (U256.toNat_bound v) (U256.toNat_bound w) same)

theorem U256.abi_inj {v w : U256} (same : U256.abi v = U256.abi w) : v = w := by
  have data := fixed_bytes_data same
  exact U256.toBigEndian_inj data

/-- `to_hash`: the running hash of everything `to_writer` writes. -/
def toHash (build : Build) (keccak256 : List UInt8 → Hash) (value : Value) :
    Outcome Ser.Error Hash :=
  match value.toWriter build with
  | (.ok _, writer) => .ok (keccak256 writer.stream)
  | (.err error, _) => .err error
  | (.panic, _) => .panic

end Perun.AbiTypes
