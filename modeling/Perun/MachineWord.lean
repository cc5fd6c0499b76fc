import Perun.Outcome
import Perun.BigEndian

/-! Unsigned machine arithmetic. A build fixes the pointer width and whether an
overflow aborts or wraps. `Fits` is the side condition under which both kinds of
build compute the same residue: it only asks something of a build that aborts. -/
namespace Perun
open BigEndian

inductive PointerWidth where
  | bits32
  | bits64
  deriving DecidableEq

structure Build where
  pointer : PointerWidth
  overflowChecks : Bool
  deriving DecidableEq

namespace Build
variable {ε : Type}

def usizeBytes (build : Build) : Nat :=
  match build.pointer with
  | .bits32 => 4
  | .bits64 => 8

/-- The number of `usize` values. -/
def usizeRange (build : Build) : Nat := 256 ^ build.usizeBytes

def usizeMax (build : Build) : Nat := build.usizeRange - 1

/-- `usize::to_be_bytes`. -/
def usizeToBeBytes (build : Build) (n : Nat) : List UInt8 := bigEndian build.usizeBytes n

def overflow (build : Build) (wrapped : Nat) : Outcome ε Nat :=
  if build.overflowChecks then .panic else .ok wrapped

def add (build : Build) (a b : Nat) : Outcome ε Nat :=
  if a + b < build.usizeRange then .ok (a + b)
  else build.overflow ((a + b) % build.usizeRange)

def sub (build : Build) (a b : Nat) : Outcome ε Nat :=
  if b ≤ a then .ok (a - b) else build.overflow ((a + build.usizeRange - b) % build.usizeRange)

/-- `u64` addition. -/
def addU64 (build : Build) (a b : BitVec 64) : Outcome ε (BitVec 64) :=
  if build.overflowChecks ∧ 2 ^ 64 ≤ a.toNat + b.toNat then .panic else .ok (a + b)

/-- The same source compiled without overflow checks. -/
def wrapping (build : Build) : Build := { build with overflowChecks := false }

def Fits (build : Build) (n : Nat) : Prop := build.overflowChecks = true → n < build.usizeRange

/-- Builds for one machine only differ in the overflow checks. -/
theorem wrapping_congr {first second : Build} (same : first.pointer = second.pointer) :
    first.wrapping = second.wrapping := by
  rcases first with ⟨pointer, checks⟩
  rcases second with ⟨pointer', checks'⟩
  cases same
  rfl

theorem usize_range_cases (build : Build) :
    build.usizeRange = 2 ^ 32 ∨ build.usizeRange = 2 ^ 64 := by
  rcases build with ⟨pointer, _⟩
  cases pointer
  · exact Or.inl rfl
  · exact Or.inr rfl

theorem usize_range_ge (build : Build) : 2 ^ 32 ≤ build.usizeRange := by
  rcases build.usize_range_cases with small | large
  · omega
  · omega

theorem usize_range_le (build : Build) : build.usizeRange ≤ 2 ^ 64 := by
  rcases build.usize_range_cases with small | large
  · omega
  · omega

theorem usize_bytes_le (build : Build) : build.usizeBytes ≤ 8 := by
  rcases build with ⟨pointer, _⟩
  cases pointer <;> simp [usizeBytes]

@[simp] theorem usize_to_be_bytes_length (build : Build) (n : Nat) :
    (build.usizeToBeBytes n).length = build.usizeBytes := bigEndian_length _ n

theorem fits_of_le {build : Build} {n m : Nat} (fits : build.Fits m) (le : n ≤ m) :
    build.Fits n := fun checks => Nat.lt_of_le_of_lt le (fits checks)

theorem fits_of_lt {build : Build} {n : Nat} (lt : n < build.usizeRange) : build.Fits n :=
  fun _ => lt

theorem add_eq {build : Build} {a b : Nat} (fits : build.Fits (a + b)) :
    (build.add a b : Outcome ε Nat) = .ok ((a + b) % build.usizeRange) := by
  unfold add
  by_cases small : a + b < build.usizeRange
  · rw [if_pos small, Nat.mod_eq_of_lt small]
  · rw [if_neg small, overflow]
    by_cases checks : build.overflowChecks = true
    · exact absurd (fits checks) small
    · rw [if_neg checks]

-- Residues add up, and an aborting build never gets past its range.
theorem add_residue {build : Build} {a b : Nat} (fits : build.Fits (a + b)) :
    (build.add (a % build.usizeRange) b : Outcome ε Nat) = .ok ((a + b) % build.usizeRange) := by
  have reduced := Nat.mod_le a build.usizeRange
  rw [add_eq (fits_of_le fits (by omega)), Nat.mod_add_mod]

theorem add_residues {build : Build} {a b : Nat} (fits : build.Fits (a + b)) :
    (build.add (a % build.usizeRange) (b % build.usizeRange) : Outcome ε Nat) =
      .ok ((a + b) % build.usizeRange) := by
  have reduced := Nat.mod_le b build.usizeRange
  rw [add_residue (fits_of_le fits (by omega)), Nat.add_mod_mod]

theorem sub_residues {build : Build} {a b : Nat} (fits : build.Fits a) (le : b ≤ a)
    (small : b < build.usizeRange) :
    (build.sub (a % build.usizeRange) b : Outcome ε Nat) = .ok ((a - b) % build.usizeRange) := by
  have decomposed := Nat.div_add_mod a build.usizeRange
  have remainder_lt := Nat.mod_lt a (Nat.lt_of_le_of_lt (Nat.zero_le b) small)
  unfold sub
  by_cases enough : b ≤ a % build.usizeRange
  · have split : a - b = a % build.usizeRange - b + build.usizeRange * (a / build.usizeRange) := by
      omega
    rw [if_pos enough, split, Nat.add_mul_mod_self_left,
      Nat.mod_eq_of_lt (by omega : a % build.usizeRange - b < build.usizeRange)]
  · rw [if_neg enough, overflow]
    by_cases checks : build.overflowChecks = true
    · have whole : a % build.usizeRange = a := Nat.mod_eq_of_lt (fits checks)
      omega
    · rw [if_neg checks]
      -- borrowing one range from the quotient, which is positive because `b ≤ a`
      obtain ⟨quotient, positive⟩ : ∃ quotient, a / build.usizeRange = quotient + 1 := by
        refine Nat.exists_eq_succ_of_ne_zero fun none => ?_
        rw [none, Nat.mul_zero, Nat.zero_add] at decomposed
        omega
      have split : a - b =
          (a % build.usizeRange + build.usizeRange - b) + build.usizeRange * quotient := by
        rw [positive, Nat.mul_add, Nat.mul_one] at decomposed
        omega
      rw [split, Nat.add_mul_mod_self_left]

theorem add_refines (build : Build) (a b : Nat) :
    Outcome.Refines (build.add a b : Outcome ε Nat) (build.wrapping.add a b) := by
  unfold add overflow
  change Outcome.Refines _ (if a + b < build.usizeRange then _ else
    (if false = true then _ else Outcome.ok ((a + b) % build.usizeRange)))
  by_cases small : a + b < build.usizeRange
  · exact Or.inr (by rw [if_pos small, if_pos small])
  · rw [if_neg small, if_neg small]
    by_cases checks : build.overflowChecks = true
    · exact Or.inl (by rw [if_pos checks])
    · exact Or.inr (by rw [if_neg checks]; rfl)

theorem sub_refines (build : Build) (a b : Nat) :
    Outcome.Refines (build.sub a b : Outcome ε Nat) (build.wrapping.sub a b) := by
  unfold sub overflow
  change Outcome.Refines _ (if b ≤ a then _ else
    (if false = true then _ else Outcome.ok ((a + build.usizeRange - b) % build.usizeRange)))
  by_cases enough : b ≤ a
  · exact Or.inr (by rw [if_pos enough, if_pos enough])
  · rw [if_neg enough, if_neg enough]
    by_cases checks : build.overflowChecks = true
    · exact Or.inl (by rw [if_pos checks])
    · exact Or.inr (by rw [if_neg checks]; rfl)

/-- What a `u64` addition returns does not depend on the caller's error type. -/
theorem add_u64_iff {build : Build} {a b sum : BitVec 64} :
    (build.addU64 a b : Outcome ε (BitVec 64)) = .ok sum ↔
      sum = a + b ∧ (build.overflowChecks = true → a.toNat + b.toNat < 2 ^ 64) := by
  unfold addU64
  by_cases overflows : build.overflowChecks = true ∧ 2 ^ 64 ≤ a.toNat + b.toNat
  · rw [if_pos overflows]
    simp only [reduceCtorEq, false_iff, not_and]
    intro _ small
    have bound := small overflows.1
    omega
  · rw [if_neg overflows, Outcome.ok.injEq, eq_comm]
    simp only [iff_self_and]
    intro _ checks
    by_contra large
    exact overflows ⟨checks, by omega⟩

end Build
end Perun
