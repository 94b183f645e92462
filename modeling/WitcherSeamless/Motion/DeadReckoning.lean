import WitcherSeamless.Motion.Bracketing

/-!
# Dead reckoning

`get_extrapolated_position()` reads the most recent valid snapshot twice, through
`get_most_recent_snapshot` and through `get_latest_snapshot_ptr`; the two are the same loop and
pick the same slot. The snapshot's age in whole milliseconds decides the rest: up to
`EXTRAPOLATION_THRESHOLD_MS = 100` it comes back as it is, and after that its position's `x`, `y`
and `z` move along its velocity for `(age - INTERPOLATION_DELAY_MS) / 1000` seconds, both
constants being 100; nothing else changes. The two cases are one formula, the snapshot moved along
its velocity for `max (age - 100) 0` milliseconds (`deadReckon`), continuous at the threshold
(`getExtrapolatedPosition_eq`).

Dead reckoning is therefore straight-line motion in the call time: a later reading is the earlier
one moved further along the same velocity, by a non-negative time
(`extrapolation_advances_along_velocity`). In particular every coordinate whose velocity is
non-negative grows with the call time, for every interpolator and every two call times.

## Main definitions

* `advance`, `deadReckon`.

## Main results

* `msCount_mono`: whole milliseconds are monotone in the duration.
* `latestSnapshot_spec`: the most-recent scan returns a valid slot that no valid slot postdates.
* `getExtrapolatedPosition_eq`: the closed form of `get_extrapolated_position`.
* `extrapolation_advances_along_velocity`.

Source: `src/common/network/interpolator.hpp`, `get_extrapolated_position`,
`get_latest_snapshot_ptr`, `get_most_recent_snapshot`.
-/

namespace WitcherSeamless

/-! ### Whole milliseconds -/

/-- `duration_cast` truncates toward zero: the floor of a non-negative duration, minus the floor
of the negated one otherwise. -/
theorem msCount_eq (d : ℤ) : msCount d = if 0 ≤ d then d / 1000000 else -((-d) / 1000000) := by
  unfold msCount
  split_ifs with h
  · exact Int.tdiv_eq_ediv h (by norm_num)
  · rw [← Int.tdiv_eq_ediv (by omega) (by norm_num), Int.neg_tdiv, neg_neg]

theorem msCount_mono {a b : ℤ} (h : a ≤ b) : msCount a ≤ msCount b := by
  rw [msCount_eq, msCount_eq]
  split_ifs <;> omega

/-- Less than 100 ms, counted in nanoseconds, is less than 100 whole milliseconds. -/
theorem msCount_lt_of_lt {d : ℤ} (h : d < 100000000) : msCount d < 100 := by
  rw [msCount_eq]
  split_ifs <;> omega

/-! ### Straight-line motion -/

/-- The packet moved along its velocity for `dt` seconds: the position's `x`, `y` and `z`. -/
def advance (p : PlayerStatePacket) (dt : ℚ) : PlayerStatePacket :=
  { p with
    position := { p.position with
      x := p.position.x + p.velocity.x * dt
      y := p.position.y + p.velocity.y * dt
      z := p.position.z + p.velocity.z * dt } }

/-- Dead reckoning of a snapshot `ageMs` whole milliseconds old: moved along its velocity for the
milliseconds past the threshold, in seconds. -/
def deadReckon (p : PlayerStatePacket) (ageMs : ℤ) : PlayerStatePacket :=
  advance p ((max (ageMs - PlayerInterpolator.extrapolationThresholdMs) 0 : ℤ) / 1000)

@[simp] theorem velocity_advance (p : PlayerStatePacket) (dt : ℚ) :
    (advance p dt).velocity = p.velocity := rfl

@[simp] theorem advance_zero (p : PlayerStatePacket) : advance p 0 = p := by
  simp [advance]

theorem advance_advance (p : PlayerStatePacket) (a b : ℚ) :
    advance (advance p a) b = advance p (a + b) := by
  simp only [advance, velocity_advance]
  congr 2 <;> ring

/-- A snapshot no older than the threshold is returned as it is. -/
theorem deadReckon_of_le (p : PlayerStatePacket) {ageMs : ℤ}
    (h : ageMs ≤ PlayerInterpolator.extrapolationThresholdMs) : deadReckon p ageMs = p := by
  rw [deadReckon, max_eq_right (by omega)]
  simp

/-- An older age is the younger one moved further along the same velocity. -/
theorem deadReckon_mono (p : PlayerStatePacket) {a b : ℤ} (h : a ≤ b) :
    ∃ δ : ℚ, 0 ≤ δ ∧ deadReckon p b = advance (deadReckon p a) δ := by
  refine ⟨((max (b - PlayerInterpolator.extrapolationThresholdMs) 0 -
    max (a - PlayerInterpolator.extrapolationThresholdMs) 0 : ℤ) : ℚ)
    / 1000, div_nonneg (by exact_mod_cast (by omega)) (by norm_num), ?_⟩
  rw [deadReckon, deadReckon, advance_advance]
  congr 1
  push_cast
  ring

/-! ### The most recent snapshot -/

namespace PlayerInterpolator

/-- The most-recent scan returns a valid slot, and no valid slot has a later stamp. -/
theorem latestSnapshot_spec {s : PlayerInterpolator} {l : Snapshot}
    (h : s.latestSnapshot = some l) :
    (∃ i, s.snapshots i = l) ∧ l.valid = true ∧
      ∀ i, (s.snapshots i).valid = true → (s.snapshots i).timestamp ≤ l.timestamp := by
  rw [latestSnapshot, latestStep_eq] at h
  obtain ⟨h₁ | ⟨hmem, hk⟩, h₂, -⟩ := foldl_scanBest_spec (by simp)
    (fun x y z hxy hyz => by simp only [decide_eq_true_eq] at *; omega) _ _ h
  · cases h₁
  obtain ⟨i, -, rfl⟩ := List.mem_map.1 hmem
  exact ⟨⟨i, rfl⟩, hk, fun j hj => by
    simpa using h₂ _ (List.mem_map_of_mem _ (mem_slotIndices j)) hj⟩

/-- `get_extrapolated_position()` in closed form: the most recent snapshot dead-reckoned by its
age in whole milliseconds. -/
theorem getExtrapolatedPosition_eq (s : PlayerInterpolator) (now : ℤ) :
    s.getExtrapolatedPosition now =
      s.latestSnapshot.map fun l => deadReckon l.state (msCount (now - l.timestamp)) := by
  unfold getExtrapolatedPosition getMostRecentSnapshot
  cases s.latestSnapshot with
  | none => rfl
  | some l =>
    simp only [Option.map_some', deadReckon]
    split_ifs with h
    · rw [max_eq_right (by omega)]
      simp
    · rw [max_eq_left (by unfold extrapolationThresholdMs at h ⊢; omega)]
      rfl

end PlayerInterpolator

/-- Dead reckoning is straight-line motion, for every interpolator and every two call times
`now ≤ now'`: the extrapolated reading is the most recent snapshot moved along its velocity for
the whole milliseconds of its age past 100, and the later reading is the earlier one moved
further along the same velocity, by a non-negative time. Orientation, velocity, speed, move type
and the position's `w` stay as they are. -/
theorem extrapolation_advances_along_velocity (s : PlayerInterpolator) {now now' : ℤ}
    (h : now ≤ now') :
    s.getExtrapolatedPosition now =
      s.latestSnapshot.map (fun l => deadReckon l.state (msCount (now - l.timestamp))) ∧
    ∀ p ∈ s.getExtrapolatedPosition now, ∀ p' ∈ s.getExtrapolatedPosition now',
      ∃ δ : ℚ, 0 ≤ δ ∧ p' = advance p δ := by
  refine ⟨s.getExtrapolatedPosition_eq now, fun p hp p' hp' => ?_⟩
  rw [s.getExtrapolatedPosition_eq] at hp hp'
  cases hl : s.latestSnapshot with
  | none => simp [hl] at hp
  | some l =>
    simp only [hl, Option.map_some', Option.mem_def, Option.some.injEq] at hp hp'
    subst hp hp'
    exact deadReckon_mono _ (msCount_mono (by omega))

/-- A snapshot moving at one unit per second along `x`, added at time `0`. -/
def movingOnX : PlayerStatePacket := ⟨0, ⟨0, 0, 0, 0⟩, ⟨0, 0, 0⟩, ⟨1, 0, 0, 0⟩, 0, 1⟩

/-- Readings 150 ms and 250 ms after the only snapshot: 50 ms and 150 ms of dead reckoning. -/
theorem extrapolation_advances_from_one_snapshot :
    (150000000 : ℤ) ≤ 250000000 ∧
    ((PlayerInterpolator.init.addSnapshot movingOnX 0).getExtrapolatedPosition 150000000 =
      (PlayerInterpolator.init.addSnapshot movingOnX 0).latestSnapshot.map
        (fun l => deadReckon l.state (msCount (150000000 - l.timestamp))) ∧
    ∀ p ∈ (PlayerInterpolator.init.addSnapshot movingOnX 0).getExtrapolatedPosition 150000000,
      ∀ p' ∈ (PlayerInterpolator.init.addSnapshot movingOnX 0).getExtrapolatedPosition 250000000,
        ∃ δ : ℚ, 0 ≤ δ ∧ p' = advance p δ) :=
  ⟨by decide, extrapolation_advances_along_velocity _ (by decide)⟩

end WitcherSeamless
