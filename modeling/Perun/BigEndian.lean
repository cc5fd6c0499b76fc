import Mathlib

/-! Big-endian byte strings of a fixed width and the naturals they denote. -/
namespace Perun.BigEndian

/-- The low `width` bytes of a natural, most significant first. -/
def bigEndian : Nat → Nat → List UInt8
  | 0, _ => []
  | width + 1, n => bigEndian width (n / 256) ++ [UInt8.ofNat n]

def ofBigEndian (bytes : List UInt8) : Nat :=
  bytes.foldl (fun acc byte => acc * 256 + byte.toNat) 0

@[simp] theorem bigEndian_length (width n : Nat) : (bigEndian width n).length = width := by
  induction width generalizing n with
  | zero => rfl
  | succ width ih => simp [bigEndian, ih]

@[simp] theorem ofBigEndian_nil : ofBigEndian [] = 0 := rfl

theorem ofBigEndian_snoc (bytes : List UInt8) (byte : UInt8) :
    ofBigEndian (bytes ++ [byte]) = ofBigEndian bytes * 256 + byte.toNat := by
  simp [ofBigEndian]

theorem ofBigEndian_bigEndian (width n : Nat) :
    ofBigEndian (bigEndian width n) = n % 256 ^ width := by
  induction width generalizing n with
  | zero => simp [bigEndian, Nat.mod_one]
  | succ width ih =>
      have digits : n % 256 ^ (width + 1) = n % 256 + 256 * (n / 256 % 256 ^ width) := by
        rw [Nat.pow_succ', Nat.mod_mul]
      rw [bigEndian, ofBigEndian_snoc, ih, UInt8.toNat_ofNat', digits]
      omega

theorem bigEndian_ofBigEndian (bytes : List UInt8) :
    bigEndian bytes.length (ofBigEndian bytes) = bytes := by
  induction bytes using List.reverseRecOn with
  | nil => rfl
  | append_singleton bytes byte ih =>
      have bound := byte.toNat_lt
      have high : (ofBigEndian bytes * 256 + byte.toNat) / 256 = ofBigEndian bytes := by omega
      have low : UInt8.ofNat (ofBigEndian bytes * 256 + byte.toNat) = byte := by
        apply UInt8.toNat_inj.mp
        rw [UInt8.toNat_ofNat']
        omega
      rw [List.length_append, List.length_singleton, bigEndian, ofBigEndian_snoc, high, low, ih]

theorem bigEndian_inj {width n m : Nat} (n_lt : n < 256 ^ width) (m_lt : m < 256 ^ width)
    (same : bigEndian width n = bigEndian width m) : n = m := by
  have values := congrArg ofBigEndian same
  rwa [ofBigEndian_bigEndian, ofBigEndian_bigEndian, Nat.mod_eq_of_lt n_lt,
    Nat.mod_eq_of_lt m_lt] at values

theorem bigEndian_mod (width n : Nat) : bigEndian width (n % 256 ^ width) = bigEndian width n := by
  have same := bigEndian_ofBigEndian (bigEndian width n)
  rwa [bigEndian_length, ofBigEndian_bigEndian] at same

-- A wide representation is the high digits followed by the low ones.
theorem bigEndian_add (high low n : Nat) :
    bigEndian (high + low) n = bigEndian high (n / 256 ^ low) ++ bigEndian low n := by
  induction low generalizing n with
  | zero => simp [bigEndian]
  | succ low ih =>
      rw [← Nat.add_assoc, bigEndian, ih, bigEndian, Nat.div_div_eq_div_mul, ← Nat.pow_succ',
        List.append_assoc]

theorem bigEndian_zero (width : Nat) : bigEndian width 0 = List.replicate width 0 := by
  induction width with
  | zero => rfl
  | succ width ih => rw [bigEndian, Nat.zero_div, ih, List.replicate_succ']; rfl

theorem bigEndian_ones (width : Nat) :
    bigEndian width (256 ^ width - 1) = List.replicate width 255 := by
  induction width with
  | zero => rfl
  | succ width ih =>
      have positive : 0 < 256 ^ width := by positivity
      have digits : 256 ^ (width + 1) - 1 = (256 ^ width - 1) * 256 + 255 := by
        rw [Nat.pow_succ]
        omega
      have high : (256 ^ (width + 1) - 1) / 256 = 256 ^ width - 1 := by omega
      have low : UInt8.ofNat (256 ^ (width + 1) - 1) = 255 := by
        apply UInt8.toNat_inj.mp
        rw [UInt8.toNat_ofNat', digits]
        change ((256 ^ width - 1) * 256 + 255) % 256 = 255
        omega
      rw [bigEndian, high, low, ih, List.replicate_succ']

/-- Zero extension: a value that fits the low bytes has a zero high part. -/
theorem bigEndian_zero_extend (high low n : Nat) (fits : n < 256 ^ low) :
    bigEndian (high + low) n = List.replicate high 0 ++ bigEndian low n := by
  rw [bigEndian_add, Nat.div_eq_of_lt fits, bigEndian_zero]

/-- Sign extension: the value below the top of the wide range has all-ones high bytes. -/
theorem bigEndian_ones_extend (high low n : Nat) (fits : n < 256 ^ low) :
    bigEndian (high + low) ((256 ^ high - 1) * 256 ^ low + n) =
      List.replicate high 255 ++ bigEndian low n := by
  have positive : 0 < 256 ^ low := by positivity
  have quotient : ((256 ^ high - 1) * 256 ^ low + n) / 256 ^ low = 256 ^ high - 1 := by
    rw [Nat.add_comm, Nat.add_mul_div_right _ _ positive, Nat.div_eq_of_lt fits, Nat.zero_add]
  have remainder : ((256 ^ high - 1) * 256 ^ low + n) % 256 ^ low = n := by
    rw [Nat.add_comm, Nat.add_mul_mod_self_right, Nat.mod_eq_of_lt fits]
  rw [bigEndian_add, quotient, bigEndian_ones, ← bigEndian_mod low, remainder]

end Perun.BigEndian
