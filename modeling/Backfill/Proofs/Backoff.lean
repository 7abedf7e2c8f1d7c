import Mathlib.Tactic.Ring
import Backfill.Retry

/-!
# Pauses without bounds

A pause is computed in words, and there are three places where a number may not fit: the shift, the
power of two that takes its place and the product. None of them shows. A pause is what doubling
gives in numbers of any size, cut at the cap.
-/

namespace Backfill.RetryPolicy

/-! ### Words that do not fit -/

lemma toNat_le_maxWord (a : UInt64) : a.toNat ≤ maxWord.toNat :=
  Nat.le_of_lt_succ a.toNat_lt

lemma toNat_doublings {n : UInt32} (h : n.toNat < 64) : (doublings n).toNat = 2 ^ n.toNat := by
  have hfits : 2 ^ n.toNat < 2 ^ 64 := Nat.pow_lt_pow_right (by decide) h
  rw [doublings, if_pos (UInt32.lt_iff_toNat_lt.mpr h), UInt64.toNat_shiftLeft,
    UInt32.toNat_toUInt64, Nat.mod_eq_of_lt h, UInt64.toNat_one, Nat.one_shiftLeft,
    Nat.mod_eq_of_lt hfits]

lemma doublings_of_le {n : UInt32} (h : 64 ≤ n.toNat) : doublings n = maxWord :=
  if_neg fun hlt => Nat.not_lt.mpr h (UInt32.lt_iff_toNat_lt.mp hlt)

lemma toNat_mulSaturating (a b : UInt64) :
    (mulSaturating a b).toNat = min (a.toNat * b.toNat) maxWord.toNat := by
  unfold mulSaturating
  split_ifs with h
  · have hfits : a.toNat * b.toNat < 2 ^ 64 := Nat.lt_succ_of_le h
    rw [Nat.min_eq_left h, UInt64.toNat_mul, Nat.mod_eq_of_lt hfits]
  · rw [Nat.min_eq_right (Nat.le_of_not_le h)]

/-- The largest word in place of a power of two makes no difference: where the power does not fit,
neither does its product with anything but 0. -/
lemma toNat_mulSaturating_doublings (a : UInt64) (n : UInt32) :
    (mulSaturating a (doublings n)).toNat = min (a.toNat * 2 ^ n.toNat) maxWord.toNat := by
  rw [toNat_mulSaturating]
  rcases Nat.lt_or_ge n.toNat 64 with h | h
  · rw [toNat_doublings h]
  · rw [doublings_of_le h]
    rcases Nat.eq_zero_or_pos a.toNat with hzero | hpos
    · rw [hzero, Nat.zero_mul, Nat.zero_mul]
    · have hpower : maxWord.toNat ≤ 2 ^ n.toNat :=
        Nat.le_of_lt (Nat.lt_of_lt_of_le maxWord.toNat_lt (Nat.pow_le_pow_right (by decide) h))
      rw [Nat.min_eq_right (Nat.le_mul_of_pos_left _ hpos),
        Nat.min_eq_right (hpower.trans (Nat.le_mul_of_pos_left _ hpos))]

/-! ### Pauses -/

lemma backoff_le_maxBackoff (p : RetryPolicy) (retry : UInt32) :
    p.backoff retry ≤ p.maxBackoff :=
  Std.min_le_right

/-- The retries before the given one, of which there are none before number 0. -/
lemma toNat_earlier (retry : UInt32) :
    (if retry = 0 then 0 else retry - 1 : UInt32).toNat = retry.toNat - 1 := by
  split_ifs with h
  · rw [h]
    rfl
  · have hone : (1 : UInt32) ≤ retry := by
      rw [UInt32.le_iff_toNat_le]
      exact Nat.one_le_iff_ne_zero.mpr fun hzero => h (UInt32.toNat_inj.mp hzero)
    rw [UInt32.toNat_sub_of_le _ _ hone]
    rfl

/-- The cap is a word itself, so that it hides where the product is cut. -/
lemma toNat_backoff (p : RetryPolicy) (retry : UInt32) :
    (p.backoff retry).toNat =
      min (p.initialBackoff.toNat * 2 ^ (retry.toNat - 1)) p.maxBackoff.toNat := by
  simp only [backoff, UInt64.toNat_min, toNat_mulSaturating_doublings, toNat_earlier]
  rw [Nat.min_assoc, Nat.min_eq_right (toNat_le_maxWord p.maxBackoff)]

lemma backoff_mono (p : RetryPolicy) {retry later : UInt32} (h : retry ≤ later) :
    p.backoff retry ≤ p.backoff later := by
  rw [UInt64.le_iff_toNat_le, toNat_backoff, toNat_backoff]
  have hexponent : retry.toNat - 1 ≤ later.toNat - 1 :=
    Nat.sub_le_sub_right (UInt32.le_iff_toNat_le.mp h) 1
  have hpower : 2 ^ (retry.toNat - 1) ≤ 2 ^ (later.toNat - 1) :=
    Nat.pow_le_pow_right (by decide) hexponent
  exact min_le_min_right _ (Nat.mul_le_mul_left _ hpower)

/-- The pause before a retry is the first pause doubled for each retry before it, or the cap if that
is less, with no regard to the size of the numbers. Number 0 is taken as number 1. So the pauses
never get shorter, none is longer than the cap, and once one is as long as the cap all later ones
are. -/
theorem backoff_doubles_up_to_cap (p : RetryPolicy) :
    (∀ retry : UInt32, 1 ≤ retry →
        (p.backoff retry).toNat =
          min (p.initialBackoff.toNat * 2 ^ (retry.toNat - 1)) p.maxBackoff.toNat) ∧
      p.backoff 0 = p.backoff 1 ∧
      (∀ retry later : UInt32, retry ≤ later → p.backoff retry ≤ p.backoff later) ∧
      (∀ retry : UInt32, p.backoff retry ≤ p.maxBackoff) ∧
      ∀ retry later : UInt32, retry ≤ later → p.backoff retry = p.maxBackoff →
        p.backoff later = p.maxBackoff := by
  refine ⟨fun retry _ => p.toNat_backoff retry, rfl, fun _ _ => p.backoff_mono,
    p.backoff_le_maxBackoff, ?_⟩
  intro retry later hle hcap
  have hmono := p.backoff_mono hle
  rw [hcap] at hmono
  exact UInt64.le_antisymm (p.backoff_le_maxBackoff later) hmono

/-- Under the highest cap, 3 can be doubled 62 times. The pause before retry 64 would not fit, and
that before retry 65 is computed without a power of two. -/
theorem backoff_doubles_up_to_highest_cap :
    let p : RetryPolicy := ⟨100, 3, maxWord⟩
    (1 : UInt32) ≤ 63 ∧ (p.backoff 63).toNat = 3 * 2 ^ 62 ∧
      (1 : UInt32) ≤ 64 ∧ p.backoff 64 = p.maxBackoff ∧
      (64 : UInt32) ≤ 65 ∧ p.backoff 64 ≤ p.backoff 65 ∧ p.backoff 65 = p.maxBackoff := by
  intro p
  obtain ⟨hvalue, -, hmono, -, hstays⟩ := backoff_doubles_up_to_cap p
  have hlast := hvalue 63 (by decide)
  have hcap : p.backoff 64 = p.maxBackoff :=
    UInt64.toNat_inj.mp ((hvalue 64 (by decide)).trans (by decide))
  exact ⟨by decide, hlast.trans (by decide), by decide, hcap, by decide, hmono 64 65 (by decide),
    hstays 64 65 (by decide) hcap⟩

end Backfill.RetryPolicy
