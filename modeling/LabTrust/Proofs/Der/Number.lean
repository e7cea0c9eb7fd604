/-
Written numbers are read back.

The content of a positive integer is as short as can be: it has no zero in front, but for the one
that keeps the first octet from being read as a sign. Readers ask for this form.
* `Bytes.ofNatShort_ne_zero_cons`: the shortest bytes of a number have no zero in front.
* `Der.natOf?_natContent`: a number is read back from its content.
-/
import LabTrust.Der.Element
import Mathlib.Algebra.Group.Nat.Defs
import Mathlib.Data.List.Induction
import Mathlib.Tactic.Common

namespace LabTrust

namespace Bytes

/-- What the first byte counts for. -/
lemma toNat_cons (b : UInt8) (bs : Bytes) :
    toNat (b :: bs) = b.toNat * 256 ^ bs.length + toNat bs := by
  induction bs using List.reverseRecOn with
  | nil => simp [toNat]
  | append_singleton bs c ih =>
      rw [← List.cons_append, toNat_append_singleton, toNat_append_singleton, ih,
        List.length_append, List.length_singleton, Nat.pow_succ, Nat.mul_add,
        Nat.mul_left_comm 256, Nat.mul_comm 256 (256 ^ _), Nat.add_assoc]

lemma toNat_lt (bs : Bytes) : toNat bs < 256 ^ bs.length := by
  induction bs with
  | nil => exact Nat.one_pos
  | cons b bs ih =>
      have hb : b.toNat + 1 ≤ 256 := b.toNat_lt
      calc toNat (b :: bs) < b.toNat * 256 ^ bs.length + 256 ^ bs.length := by
            rw [toNat_cons]
            exact Nat.add_lt_add_left ih _
        _ = (b.toNat + 1) * 256 ^ bs.length := (Nat.succ_mul _ _).symm
        _ ≤ 256 * 256 ^ bs.length := Nat.mul_le_mul_right _ hb
        _ = 256 ^ (b :: bs).length := Nat.pow_succ'.symm

/-- With a zero in front, a number would fit into one byte less than it needs. -/
lemma ofNatShort_ne_zero_cons (n : ℕ) (bs : Bytes) : ofNatShort n ≠ 0 :: bs := by
  intro h
  have hlength : widthOf n = bs.length + 1 := by
    rw [← length_ofNat (widthOf n) n, ← List.length_cons (a := (0 : UInt8)), ← h]
    rfl
  have hsmall : n < 256 ^ bs.length := by
    have hvalue := toNat_ofNatShort n
    rw [h, toNat_cons, show (0 : UInt8).toNat = 0 from rfl, Nat.zero_mul, Nat.zero_add] at hvalue
    exact hvalue ▸ toNat_lt bs
  have hn : n ≠ 0 := by
    rintro rfl
    exact absurd hlength (by simp [widthOf])
  have hlog : 8 * bs.length ≤ n.log2 := by
    simp only [widthOf, hn, if_false] at hlength
    omega
  have hlarge : 256 ^ bs.length ≤ n := by
    calc 256 ^ bs.length = 2 ^ (8 * bs.length) := by rw [Nat.pow_mul]
      _ ≤ 2 ^ n.log2 := Nat.pow_le_pow_right (by decide) hlog
      _ ≤ n := Nat.log2_self_le hn
  exact absurd hsmall (Nat.not_lt.mpr hlarge)

end Bytes

/-- A number is read back from its content. -/
lemma Der.natOf?_natContent (n : ℕ) : natOf? (natContent n) = some n := by
  have hvalue := Bytes.toNat_ofNatShort n
  have hzero := Bytes.ofNatShort_ne_zero_cons n
  rw [natContent]
  cases hbytes : Bytes.ofNatShort n with
  | nil =>
      rw [hbytes] at hvalue
      exact congrArg some hvalue
  | cons b rest =>
      rw [hbytes] at hvalue
      simp only
      by_cases hb : b < 128
      · rw [if_pos hb]
        cases rest with
        | nil =>
            rw [natOf?, if_pos hb]
            exact congrArg some ((Nat.zero_add _).symm.trans hvalue)
        | cons c rest =>
            rw [natOf?, if_pos hb, hvalue]
            · simp
            · rintro _ _ rfl -
              exact hzero _ hbytes
      · rw [if_neg hb, natOf?, if_neg hb, hvalue]

end LabTrust
