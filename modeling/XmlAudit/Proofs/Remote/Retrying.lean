import Mathlib
import XmlAudit.Remote.Download

/-!
# How often a download is tried, and after how long

* `DownloadPolicy.delay_eq`: a delay in exact arithmetic; `delay_le`, `monotone_delay`: delays stay
  below their bound and never get shorter.
* `Settles`: the outcomes of an attempt that end a download.
* `attemptsFrom_eq`: what is tried from some attempt on.
* `download_tries`: how often a download is tried, what comes of it, and the delays on the way.
-/

namespace XmlAudit.Remote

/-! ## Delays -/

namespace DownloadPolicy

/-- Numbers held below the end of 64 bits are as good as the numbers themselves below a bound of 64
bits. -/
theorem min_saturate (n : Nat) {bound : Nat} (h : bound < UInt64.size) :
    min (saturate n) bound = min n bound := by
  unfold saturate
  omega

/-- Held below the end of 64 bits, a product with a power of two that is held there is the product
itself. -/
theorem saturate_mul_powerOfTwo (n k : Nat) :
    saturate (n * powerOfTwo k) = saturate (n * 2 ^ k) := by
  unfold powerOfTwo
  split
  · rfl
  · next hlarge =>
    -- the power is too large, so the product is, unless it is zero
    rcases Nat.eq_zero_or_pos n with rfl | hpos
    · simp
    · have hpower : 2 ^ 64 ≤ 2 ^ k := Nat.pow_le_pow_right two_pos (by omega)
      have hsize : UInt64.size = 2 ^ 64 := rfl
      have hheld : UInt64.size - 1 ≤ n * (UInt64.size - 1) := Nat.le_mul_of_pos_left _ hpos
      have hexact : 2 ^ k ≤ n * 2 ^ k := Nat.le_mul_of_pos_left _ hpos
      unfold saturate
      omega

/-- **A delay is what exact arithmetic gives**: the first delay doubled each time, up to the bound. -/
theorem delay_eq (p : DownloadPolicy) (k : Nat) :
    p.delay k = min (p.retryDelayMs.toNat * 2 ^ k) p.maxRetryDelayMs.toNat := by
  rw [delay, saturate_mul_powerOfTwo, min_saturate _ (UInt64.toNat_lt_size _)]

theorem delay_le (p : DownloadPolicy) (k : Nat) : p.delay k ≤ p.maxRetryDelayMs.toNat :=
  min_le_right _ _

theorem monotone_delay (p : DownloadPolicy) : Monotone p.delay := by
  intro k l hkl
  have hpower : 2 ^ k ≤ 2 ^ l := Nat.pow_le_pow_right two_pos hkl
  rw [delay_eq, delay_eq]
  exact min_le_min_right _ (Nat.mul_le_mul_left _ hpower)

end DownloadPolicy

/-! ## Attempts -/

variable {α : Type} {p : DownloadPolicy} {attempt : Nat → Except AttemptFault (Response α)}

/-- **The outcomes of an attempt that end a download**, however many attempts are left: a response, and
a fault that is not transient. -/
def Settles (outcome : Except AttemptFault (Response α)) : Prop :=
  ∀ f, outcome = .error f → f.isTransient = false

theorem attemptsFrom_of_settles {k : Nat} (h : Settles (attempt k)) (left : Nat) :
    attemptsFrom p attempt left k = ⟨outcomeOf (attempt k), 1, []⟩ := by
  cases left with
  | zero => rfl
  | succ left =>
    unfold attemptsFrom
    cases hk : attempt k with
    | ok response => rfl
    | error f =>
      have hf : f.isTransient = false := h f hk
      simp [hf]

theorem attemptsFrom_succ {k : Nat} (h : ¬Settles (attempt k)) (left : Nat) :
    attemptsFrom p attempt (left + 1) k =
      let later := attemptsFrom p attempt left (k + 1)
      ⟨later.outcome, later.attempts + 1, p.delay k :: later.delays⟩ := by
  obtain ⟨f, hk, hf⟩ : ∃ f, attempt k = .error f ∧ f.isTransient = true := by
    simpa [Settles] using h
  rw [attemptsFrom]
  simp [hk, hf]

/-- **What is tried from attempt `k` on**: if `i` attempts do not settle and the next one does, or is
the last that is left, then there are `i + 1`, with a delay behind each but the last. -/
theorem attemptsFrom_eq {left i k : Nat} (hleft : i ≤ left)
    (hbefore : ∀ j < i, ¬Settles (attempt (k + j)))
    (hlast : Settles (attempt (k + i)) ∨ i = left) :
    attemptsFrom p attempt left k =
      ⟨outcomeOf (attempt (k + i)), i + 1, (List.range i).map fun j => p.delay (k + j)⟩ := by
  induction i generalizing left k with
  | zero =>
    rcases hlast with hsettles | rfl
    · exact attemptsFrom_of_settles hsettles left
    · rfl
  | succ i ih =>
    obtain ⟨left, rfl⟩ : ∃ left', left = left' + 1 := ⟨left - 1, by omega⟩
    have hshift : ∀ j, k + 1 + j = k + (j + 1) := by omega
    have hlater : attemptsFrom p attempt left (k + 1) =
        ⟨outcomeOf (attempt (k + (i + 1))), i + 1, (List.range i).map fun j => p.delay (k + (j + 1))⟩ := by
      have hfrom := @ih left (k + 1) (by omega)
        (fun j hj => hshift j ▸ hbefore (j + 1) (by omega)) (by rw [hshift]; simpa using hlast)
      simpa only [hshift] using hfrom
    have hfirst : ¬Settles (attempt k) := hbefore 0 (by omega)
    rw [attemptsFrom_succ hfirst, hlater, List.range_succ_eq_map, List.map_cons, List.map_map]
    rfl

/-- A download ends with the first attempt that settles, or with the last one that the policy allows. -/
theorem download_eq {i : Nat} (hleft : i ≤ p.retryAttempts.toNat)
    (hbefore : ∀ j < i, ¬Settles (attempt j))
    (hlast : Settles (attempt i) ∨ i = p.retryAttempts.toNat) :
    download p attempt = ⟨outcomeOf (attempt i), i + 1, (List.range i).map p.delay⟩ := by
  unfold download
  rw [attemptsFrom_eq hleft (by simpa using hbefore) (by simpa using hlast)]
  simp only [Nat.zero_add]

/-- The attempt that is the last one: the first that settles, if the policy allows that many. -/
theorem exists_last (p : DownloadPolicy) (attempt : Nat → Except AttemptFault (Response α)) :
    ∃ i ≤ p.retryAttempts.toNat, (∀ j < i, ¬Settles (attempt j)) ∧
      (Settles (attempt i) ∨ i = p.retryAttempts.toNat) := by
  classical
  by_cases hsettles : ∃ i, i ≤ p.retryAttempts.toNat ∧ Settles (attempt i)
  · obtain ⟨hle, hfirst⟩ := Nat.find_spec hsettles
    refine ⟨Nat.find hsettles, hle, fun j hj hj' => ?_, .inl hfirst⟩
    exact Nat.find_min hsettles hj ⟨by omega, hj'⟩
  · push Not at hsettles
    exact ⟨_, le_rfl, fun j hj => hsettles j hj.le, .inr rfl⟩

/-- **How often a download is tried**, under every policy and whatever comes of its attempts.

* It ends with the first attempt that settles, or when no attempt is left.
* What comes of its last attempt is its outcome.
* Between an attempt and the next it waits for the first delay, doubled each time, up to the bound; and
  that in exact arithmetic, so a delay never exceeds the bound and is never shorter than one before. -/
theorem download_tries (p : DownloadPolicy) (attempt : Nat → Except AttemptFault (Response α)) :
    let d := download p attempt
    let retries := p.retryAttempts.toNat
    (∀ i, IsLeast {i | Settles (attempt i)} i → d.attempts = min (i + 1) (retries + 1)) ∧
    ((∀ i, ¬Settles (attempt i)) → d.attempts = retries + 1) ∧
    d.outcome = outcomeOf (attempt (d.attempts - 1)) ∧
    d.delays = (List.range (d.attempts - 1)).map p.delay ∧
    (∀ k, p.delay k = min (p.retryDelayMs.toNat * 2 ^ k) p.maxRetryDelayMs.toNat) ∧
    (∀ k, p.delay k ≤ p.maxRetryDelayMs.toNat) ∧ Monotone p.delay := by
  intro d retries
  obtain ⟨last, hleft, hbefore, hlast⟩ := exists_last p attempt
  have hd : d = ⟨outcomeOf (attempt last), last + 1, (List.range last).map p.delay⟩ :=
    download_eq hleft hbefore hlast
  have hattempts : d.attempts = last + 1 := by rw [hd]
  refine ⟨fun i hi => ?_, fun hnone => ?_, ?_, ?_, p.delay_eq, p.delay_le, p.monotone_delay⟩
  · obtain ⟨hsettles, hleast⟩ := hi
    -- no attempt before the last one settles it, so the first that does is not earlier
    have hle : last ≤ i := by
      by_contra hlt
      exact hbefore i (by omega) hsettles
    rcases hlast with hfirst | hend
    · have hge : i ≤ last := hleast hfirst
      omega
    · omega
  · have hend : last = retries := hlast.resolve_left (hnone last)
    rw [hattempts, hend]
  · rw [hd]
    rfl
  · rw [hd]
    rfl

/-- A server that is overloaded, then silent, and then answers is asked three times, and the second
delay is cut at the bound; one that stays overloaded is asked four times. -/
theorem download_tries_overloaded :
    let p : DownloadPolicy := ⟨30, 3, 1000, 1500, "client"⟩
    let overloaded : Except AttemptFault (Response String) :=
      .error (.httpStatus "http://h/a" 503 "Service Unavailable")
    let recovering : Nat → Except AttemptFault (Response String) := fun k =>
      if k = 0 then overloaded
      else if k = 1 then .error (.timeout "http://h/a" 30) else .ok (.ok "<a/>")
    IsLeast {i | Settles (recovering i)} 2 ∧ ¬Settles overloaded ∧
    (download p recovering).attempts = 3 ∧ (download p recovering).outcome = .ok "<a/>" ∧
    (download p recovering).delays = [1000, 1500] ∧ (download p fun _ => overloaded).attempts = 4 := by
  intro p overloaded recovering
  have hoverloaded : ¬Settles overloaded := fun h => nomatch h _ rfl
  have hsilent : ¬Settles (recovering 1) := fun h => nomatch h _ rfl
  have hleast : IsLeast {i | Settles (recovering i)} 2 := by
    refine ⟨fun f hf => (nomatch hf), fun i hi => ?_⟩
    by_contra hlt
    obtain rfl | rfl : i = 0 ∨ i = 1 := by omega
    · exact hoverloaded hi
    · exact hsilent hi
  obtain ⟨hattempts, -, houtcome, hdelays, -⟩ := download_tries p recovering
  have hthree : (download p recovering).attempts = 3 := hattempts 2 hleast
  rw [hthree] at houtcome hdelays
  have hcut : (List.range (3 - 1)).map p.delay = [1000, 1500] := by decide +kernel
  exact ⟨hleast, hoverloaded, hthree, houtcome, hdelays.trans hcut,
    (download_tries p fun _ => overloaded).2.1 fun _ => hoverloaded⟩

end XmlAudit.Remote
