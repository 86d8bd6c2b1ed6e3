import DeskServer.Server.GeoLookup

/-!
# `Server.RetryDelay` — the back-off of a failed lookup

**The delay doubles with every failure until it reaches the maximum.** The loop compares with half of the
maximum, rounded down, before it doubles, so that no value it computes is over the maximum; and the last
step goes to the maximum itself, odd or not. A base delay over the configured maximum is the maximum.

**Shape.** The values of the loop are listed (`delayValues`), so that the bound, the doubling and the number
of turns are facts about a list. Delays are numbers, not `long long`; that they stay below a day is
`Geo.Retries`.
-/

namespace DeskServer

/-! ## One iteration -/

/-- The body of the loop. -/
def nextDelay (maxDelayMs delayMs : Nat) : Nat :=
  if delayMs > maxDelayMs / 2 then maxDelayMs else delayMs * 2

/-- Half of the maximum is rounded down, and nothing is lost by it. -/
theorem nextDelay_eq (maxDelayMs delayMs : Nat) : nextDelay maxDelayMs delayMs = min (delayMs * 2) maxDelayMs := by
  unfold nextDelay
  split
  · exact (Nat.min_eq_right (by omega)).symm
  · exact (Nat.min_eq_left (by omega)).symm

theorem doubleDelay_succ (maxDelayMs n delayMs : Nat) : doubleDelay maxDelayMs (n + 1) delayMs =
    if delayMs < maxDelayMs then doubleDelay maxDelayMs n (nextDelay maxDelayMs delayMs) else delayMs := rfl

/-! ## The loop -/

/-- **The loop from a delay within the maximum**, by induction on the doublings left. -/
theorem doubleDelay_eq {maxDelayMs delayMs : Nat} (h : delayMs ≤ maxDelayMs) (n : Nat) :
    doubleDelay maxDelayMs n delayMs = min (delayMs * 2 ^ n) maxDelayMs := by
  induction n generalizing delayMs with
  | zero => rw [doubleDelay, pow_zero, Nat.mul_one, Nat.min_eq_left h]
  | succ n ih =>
      rw [doubleDelay_succ, pow_succ', ← Nat.mul_assoc]
      have hpow : 0 < 2 ^ n := Nat.two_pow_pos n
      split
      · rw [nextDelay_eq, ih (Nat.min_le_right _ _)]
        rcases Nat.le_total (delayMs * 2) maxDelayMs with hle | hge
        · rw [Nat.min_eq_left hle]
        · -- the maximum is reached, and doubling on changes nothing
          rw [Nat.min_eq_right hge, Nat.min_eq_right (Nat.le_mul_of_pos_right _ hpow),
            Nat.min_eq_right (hge.trans (Nat.le_mul_of_pos_right _ hpow))]
      · rename_i hfull
        obtain rfl : delayMs = maxDelayMs := by omega
        have hgrow : delayMs ≤ delayMs * 2 * 2 ^ n :=
          (Nat.le_mul_of_pos_right delayMs two_pos).trans (Nat.le_mul_of_pos_right _ hpow)
        exact (Nat.min_eq_right hgrow).symm

/-- What the iterations assign to `delay_ms`, one value for each. -/
def delayValues (maxDelayMs : Nat) : Nat → Nat → List Nat
  | 0, _ => []
  | n + 1, delayMs =>
    if delayMs < maxDelayMs then
      nextDelay maxDelayMs delayMs :: delayValues maxDelayMs n (nextDelay maxDelayMs delayMs)
    else []

/-- The last value is the result. -/
theorem doubleDelay_eq_getLastD (maxDelayMs n delayMs : Nat) :
    doubleDelay maxDelayMs n delayMs = (delayValues maxDelayMs n delayMs).getLastD delayMs := by
  induction n generalizing delayMs with
  | zero => rfl
  | succ n ih =>
      rw [doubleDelay_succ, delayValues]
      split
      · rw [ih, List.getLastD_cons]
      · rfl

theorem delayValues_le {maxDelayMs n delayMs d : Nat} (h : d ∈ delayValues maxDelayMs n delayMs) :
    d ≤ maxDelayMs := by
  induction n generalizing delayMs with
  | zero => exact absurd h List.not_mem_nil
  | succ n ih =>
      rw [delayValues] at h
      split at h
      · rcases List.mem_cons.mp h with rfl | hlater
        · rw [nextDelay_eq]
          exact Nat.min_le_right _ _
        · exact ih hlater
      · exact absurd h List.not_mem_nil

/-- **The loop stops at the maximum**, after `k` iterations when `k` doublings reach it, by induction on
    the doublings left. -/
theorem length_delayValues_le {maxDelayMs delayMs k : Nat} (h : maxDelayMs ≤ delayMs * 2 ^ k) (n : Nat) :
    (delayValues maxDelayMs n delayMs).length ≤ k := by
  induction n generalizing delayMs k with
  | zero => exact Nat.zero_le k
  | succ n ih =>
      rw [delayValues]
      split
      · rename_i hbelow
        cases k with
        | zero => omega
        | succ k =>
            have hpow : 0 < 2 ^ k := Nat.two_pow_pos k
            have hnext : maxDelayMs ≤ nextDelay maxDelayMs delayMs * 2 ^ k := by
              rw [nextDelay_eq]
              rcases Nat.le_total (delayMs * 2) maxDelayMs with hle | hge
              · rw [Nat.min_eq_left hle, Nat.mul_assoc, ← pow_succ']
                exact h
              · rw [Nat.min_eq_right hge]
                exact Nat.le_mul_of_pos_right _ hpow
            exact Nat.succ_le_succ (ih hnext)
      · exact Nat.zero_le k

/-! ## The delay -/

/-- `max_delay_ms`. -/
def GeoIpConfig.maxDelayMs (config : GeoIpConfig) : Nat := max config.failureTtlMs config.failureMaxTtlMs

/-- What the loop of `GeoIpFailureRetryDelay` computes; nothing when the delay is off. -/
def retryDelayValues (config : GeoIpConfig) (failureCount : Nat) : List Nat :=
  if config.failureTtlMs = 0 then []
  else delayValues config.maxDelayMs (failureCount - 1) config.failureTtlMs

theorem geoIpFailureRetryDelay_eq (config : GeoIpConfig) (failureCount : Nat) :
    geoIpFailureRetryDelay config failureCount =
      if config.failureTtlMs = 0 then 0
      else min (config.failureTtlMs * 2 ^ (failureCount - 1)) config.maxDelayMs := by
  unfold geoIpFailureRetryDelay
  split
  · rfl
  · exact doubleDelay_eq (Nat.le_max_left _ _) _

/-- **What the back-off is to be.** -/
structure BackOff (config : GeoIpConfig) : Prop where
  /-- The closed form, from the first failure on. -/
  closed : ∀ n, 1 ≤ n → geoIpFailureRetryDelay config n =
    if config.failureTtlMs = 0 then 0
    else min (config.failureTtlMs * 2 ^ (n - 1)) (max config.failureTtlMs config.failureMaxTtlMs)
  /-- The loop ends with the value that is returned. -/
  computed : ∀ n, geoIpFailureRetryDelay config n = (retryDelayValues config n).getLastD config.failureTtlMs
  /-- No value on the way is over the maximum. -/
  within : ∀ n, ∀ d ∈ retryDelayValues config n, d ≤ max config.failureTtlMs config.failureMaxTtlMs
  monotone : Monotone (geoIpFailureRetryDelay config)
  /-- There are no more iterations than doublings that reach the maximum, however many failures. -/
  ends : ∀ n k, max config.failureTtlMs config.failureMaxTtlMs ≤ config.failureTtlMs * 2 ^ k →
    (retryDelayValues config n).length ≤ k
  /-- Within the ranges of the configuration that is 27. -/
  few : config.failureTtlMs ≤ 3600000 → config.failureMaxTtlMs ≤ 86400000 →
    ∀ n, (retryDelayValues config n).length ≤ 27

/-- **The back-off has its closed form**, for every configuration. -/
theorem geoIpFailureRetryDelay_backOff (config : GeoIpConfig) : BackOff config := by
  have hends : ∀ n k, max config.failureTtlMs config.failureMaxTtlMs ≤ config.failureTtlMs * 2 ^ k →
      (retryDelayValues config n).length ≤ k := by
    intro n k hk
    unfold retryDelayValues
    split
    · exact Nat.zero_le k
    · exact length_delayValues_le hk (n - 1)
  refine ⟨fun n _ => geoIpFailureRetryDelay_eq config n, fun n => ?_, fun n d hd => ?_, fun n n' hle => ?_,
    hends, fun hbase hmax n => ?_⟩
  · unfold geoIpFailureRetryDelay retryDelayValues
    split
    · rename_i hoff
      exact hoff.symm
    · exact doubleDelay_eq_getLastD _ _ _
  · unfold retryDelayValues at hd
    split at hd
    · exact absurd hd List.not_mem_nil
    · exact delayValues_le hd
  · rw [geoIpFailureRetryDelay_eq, geoIpFailureRetryDelay_eq]
    split
    · exact le_refl 0
    · have hpow : 2 ^ (n - 1) ≤ 2 ^ (n' - 1) := Nat.pow_le_pow_right two_pos (by omega)
      exact min_le_min_right _ (Nat.mul_le_mul_left _ hpow)
  · by_cases hoff : config.failureTtlMs = 0
    · unfold retryDelayValues
      rw [if_pos hoff]
      exact Nat.zero_le 27
    · exact hends n 27 (by omega)

end DeskServer
