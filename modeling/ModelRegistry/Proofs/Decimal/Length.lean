import Mathlib.Algebra.Ring.Nat
import ModelRegistry.Decimal.Shortest

/-!
# The text of a double is short

Every double that reading makes has a significand of at most 54 binary digits and an exponent of at
most 971 (`Binary64.InRange`): all of them come from `ofFraction?`, which sees to both.  The
shortest decimal of such a double is laid out in at most 700 characters, most of them zeros.  The
bound is far from tight, but it does not depend on the number that was written, which can be as long
as a document.
-/

namespace ModelRegistry
namespace Binary64

/-- Significand and exponent are bounded as those of a double are. -/
structure InRange (x : Binary64) : Prop where
  significand : x.significand ≤ 0x40000000000000
  exponent : x.exponent ≤ greatestExponent

theorem inRange_zero : InRange zero := ⟨by decide, by decide⟩

/-! ## Rounding -/

theorem roundDiv_le (num den : Nat) : roundDiv num den ≤ num / den + 1 := by
  unfold roundDiv
  simp only
  split
  · omega
  · split
    · omega
    · split <;> omega

/-- The exponent is chosen such that at most 54 binary digits remain. -/
theorem scaledQuotient_le {num den : Nat} {e : Int}
    (he : (num.log2 : Int) - den.log2 - 53 ≤ e) :
    scaledQuotient num den e ≤ 0x40000000000000 := by
  refine Nat.le_trans (roundDiv_le _ _) ?_
  rcases Nat.eq_zero_or_pos den with rfl | hden
  · rw [Nat.zero_mul, Nat.div_zero]
    decide
  · have hexponents : num.log2 + 1 + (-e).toNat ≤ den.log2 + e.toNat + 54 := by omega
    have hnum : num * 2 ^ (-e).toNat < 2 ^ (num.log2 + 1 + (-e).toNat) := by
      rw [Nat.pow_add]
      exact Nat.mul_lt_mul_of_pos_right Nat.lt_log2_self (Nat.two_pow_pos _)
    have hden : 2 ^ (den.log2 + e.toNat + 54) ≤ den * 2 ^ e.toNat * 2 ^ 54 := by
      rw [Nat.pow_add, Nat.pow_add]
      have hlog := Nat.log2_self_le (Nat.ne_of_gt hden)
      exact Nat.mul_le_mul_right _ (Nat.mul_le_mul_right _ hlog)
    exact Nat.div_lt_of_lt_mul (Nat.lt_of_lt_of_le hnum
      (Nat.le_trans (Nat.pow_le_pow_right (by decide) hexponents) hden))

theorem inRange_ofFraction? {num den : Nat} {x : Binary64} (h : ofFraction? num den = some x) :
    x.InRange := by
  have hexponent : (num.log2 : Int) - den.log2 - 53 ≤ exponentOf num den := by
    unfold exponentOf
    simp only
    split <;> omega
  have hquotient := scaledQuotient_le hexponent
  unfold ofFraction? at h
  split at h
  · cases h
    exact inRange_zero
  · simp only at h
    generalize scaledQuotient num den (exponentOf num den) = q at h hquotient
    generalize exponentOf num den = e at h
    generalize hy : (if q = 2 * leastSignificand then (⟨leastSignificand, e + 1⟩ : Binary64)
      else ⟨q, e⟩) = y at h
    have hsignificand : y.significand ≤ 0x40000000000000 := by
      rw [← hy]
      split
      · show leastSignificand ≤ _
        decide
      · exact hquotient
    split at h
    · cases h
    · next hgreatest =>
      split at h
      · cases h
        exact inRange_zero
      · cases h
        exact ⟨hsignificand, Int.not_lt.1 hgreatest⟩

theorem inRange_getD {o : Option Binary64} (h : ∀ x, o = some x → x.InRange) :
    (o.getD zero).InRange := by
  cases o with
  | none => exact inRange_zero
  | some x => exact h x rfl

theorem inRange_shrink (x : Binary64) (k : Nat) : (shrink x k).InRange := by
  induction k using Nat.strongRecOn generalizing x with
  | ind k ih =>
    rw [shrink]
    split
    · exact inRange_getD fun x h => inRange_ofFraction? h
    · next hk =>
      split
      · exact inRange_zero
      · have htable : 0 < tableEnd := by decide
        exact ih _ (by omega) _

/-- What is read is in range. -/
theorem inRange_ofDecimal {n : Nat} {e : Int} {x : Binary64} (h : ofDecimal n e = some x) :
    x.InRange := by
  unfold ofDecimal at h
  split at h
  · cases h
  · split at h
    · cases h
      exact inRange_shrink _ _
    · split at h
      · exact inRange_ofFraction? h
      · split at h
        · cases h
          exact inRange_zero
        · cases h

/-! ## Digits -/

theorem length_digits_le {n k : Nat} (hk : 0 < k) (hn : n < 10 ^ k) : (digits n).length ≤ k :=
  (Nat.length_toDigits_le_iff (by decide) hk).2 hn

/-- Laying digits out takes a few more characters than the digits themselves. -/
theorem length_layout_le {c n : Nat} {k : Int} (hn : (digits c).length ≤ n) (hlow : 16 ≤ n)
    (hhigh : n ≤ 1000) (hk : -1000 ≤ k ∧ k ≤ 1000) : (layout c k).length ≤ n + 8 := by
  unfold layout
  simp only
  split
  · next h =>
    simp only [List.length_append, List.length_replicate, List.length_cons, List.length_nil]
    omega
  · split
    · simp only [List.length_append, List.length_cons, List.length_take, List.length_drop]
      omega
    · split
      · simp only [List.length_append, List.length_replicate, List.length_cons, List.length_nil]
        omega
      · have hexponent : (digits ((digits c).length + k - 1).natAbs).length ≤ 4 :=
          length_digits_le (by decide) (by omega)
        have hmantissa : (if (digits c).length = 1 then digits c
            else (digits c).take 1 ++ '.' :: (digits c).drop 1).length ≤ n + 1 := by
          split
          · omega
          · simp only [List.length_append, List.length_cons, List.length_take, List.length_drop]
            omega
        simp only [List.length_append, List.length_cons]
        omega

theorem magnitude_mem (i : Interval) (fuel : Nat) (k : Int) :
    k ≤ i.magnitude fuel k ∧ i.magnitude fuel k ≤ k + fuel := by
  induction fuel generalizing k with
  | zero => simp [Interval.magnitude]
  | succ fuel ih =>
    rw [Interval.magnitude]
    split
    · omega
    · have := ih (k + 1)
      omega

/-- A point of the grid is at most the number in units of the last place, rounded up. -/
theorem onGrid_le {i : Interval} {place : Int} {n c : Nat} {k : Int}
    (h : i.onGrid place n = some (c, k)) :
    k = place - n ∧ c ≤ i.value * 10 ^ (-k).toNat + 1 := by
  have hunits : (i.inUnits (place - n)).1 ≤ i.value * 10 ^ (-(place - n)).toNat :=
    Nat.div_le_self _ _
  unfold Interval.onGrid at h
  simp only at h
  generalize i.inUnits (place - n) = units at h hunits
  obtain ⟨low, up⟩ := units
  simp only at h hunits
  generalize hnear : (if up then low + 1 else low) = near at h
  generalize hfar : (if up then low else low + 1) = far at h
  have hle : near ≤ low + 1 ∧ far ≤ low + 1 := by
    rw [← hnear, ← hfar]
    split <;> omega
  split at h
  · cases h
    exact ⟨rfl, by omega⟩
  · split at h
    · cases h
      exact ⟨rfl, by omega⟩
    · cases h

theorem trimZeros_le (fuel c : Nat) (k : Int) :
    (trimZeros fuel c k).1 ≤ c ∧ k ≤ (trimZeros fuel c k).2 ∧
      (trimZeros fuel c k).2 ≤ k + fuel := by
  induction fuel generalizing c k with
  | zero => simp [trimZeros]
  | succ fuel ih =>
    rw [trimZeros]
    split
    · have hdiv := Nat.div_le_self c 10
      have := ih (c / 10) (k + 1)
      omega
    · refine ⟨Nat.le_refl c, Int.le_refl k, by omega⟩

theorem two_pow_le_ten_pow {m n : Nat} (h : m ≤ 3 * n) : 2 ^ m ≤ 10 ^ n := by
  refine Nat.le_trans (Nat.pow_le_pow_right (by decide) h) ?_
  rw [Nat.pow_mul]
  exact Nat.pow_le_pow_left (by decide) n

/-- A number that is at most a product of two short numbers, rounded up, is short. -/
theorem length_digits_product_le {a b n value c : Nat} (hvalue : value ≤ 10 ^ a)
    (hc : c ≤ value * 10 ^ b + 1) (h : a + b < n) : (digits c).length ≤ n := by
  have hproduct : value * 10 ^ b ≤ 10 ^ (a + b) := by
    rw [Nat.pow_add]
    exact Nat.mul_le_mul_right _ hvalue
  have hpos : 0 < 10 ^ (a + b) := Nat.pow_pos (by decide)
  have hnext : 10 ^ (a + b + 1) ≤ 10 ^ n := Nat.pow_le_pow_right (by decide) h
  rw [Nat.pow_succ] at hnext
  exact length_digits_le (by omega) (by omega)

theorem InRange.value_le {x : Binary64} (hx : x.InRange) : x.interval.value ≤ 10 ^ 343 := by
  have hexponent : x.exponent.toNat ≤ 971 := by
    have := hx.exponent
    have hgreatest : greatestExponent = 971 := rfl
    omega
  have hsignificand : 4 * x.significand ≤ 2 ^ 56 := by
    have := hx.significand
    omega
  calc x.interval.value
      = 4 * x.significand * 2 ^ x.exponent.toNat := rfl
    _ ≤ 2 ^ 56 * 2 ^ x.exponent.toNat := Nat.mul_le_mul_right _ hsignificand
    _ = 2 ^ (56 + x.exponent.toNat) := (Nat.pow_add ..).symm
    _ ≤ 10 ^ 343 := two_pow_le_ten_pow (by omega)

/-- The shortest decimal has at most 685 digits and a small exponent. -/
theorem InRange.shortest_le {x : Binary64} (hx : x.InRange) :
    (digits x.shortest.1).length ≤ 685 ∧ -1000 ≤ x.shortest.2 ∧ x.shortest.2 ≤ 1000 := by
  have hplace := magnitude_mem x.interval 640 (-324)
  unfold shortest
  simp only
  generalize x.interval.magnitude 640 (-324) = place at hplace
  split
  · next c k hfound =>
    obtain ⟨n, hn, hgrid⟩ := List.exists_of_findSome?_eq_some hfound
    have hn := List.mem_range.1 hn
    obtain ⟨hk, hc⟩ := onGrid_le hgrid
    obtain ⟨htrim, hexponent⟩ := trimZeros_le 20 c k
    have hdigits : 343 + (-k).toNat < 685 := by omega
    have hlength := length_digits_product_le hx.value_le (Nat.le_trans htrim hc) hdigits
    exact ⟨hlength, by omega, by omega⟩
  · refine ⟨?_, ?_, ?_⟩
    · have hsmall : x.significand < 10 ^ 17 := Nat.lt_of_le_of_lt hx.significand (by decide)
      exact Nat.le_trans (length_digits_le (by decide) hsmall) (by decide)
    · show (-1000 : Int) ≤ 0
      decide
    · show (0 : Int) ≤ 1000
      decide

/-- The text of a double has at most 694 characters. -/
theorem InRange.length_text_le {x : Binary64} (hx : x.InRange) (negative : Bool) :
    (x.text negative).length ≤ 694 := by
  obtain ⟨hc, hk⟩ := hx.shortest_le
  have hlayout := length_layout_le hc (by decide) (by decide) hk
  have hbody : (if x.significand = 0 then ['0', '.', '0']
      else layout x.shortest.1 x.shortest.2).length ≤ 693 := by
    split
    · decide
    · exact hlayout
  unfold text
  simp only
  rw [String.length_ofList]
  split
  · rw [List.length_cons]
    exact Nat.succ_le_succ hbody
  · exact Nat.le_succ_of_le hbody

end Binary64
end ModelRegistry
