import WitcherSeamless.Motion.Bracketing
import WitcherSeamless.Motion.AngleWrap

/-!
# The recovery modes of the interpolator

Besides its ring buffer, `player_interpolator` carries a small state machine: `in_extrapolation_`,
`blend_active_`, the `extrapolation_anchor_` and the blend's start. `handle_extrapolation` enters
extrapolation mode with the extrapolated value as anchor and ends any blend;
`apply_blend_if_needed` leaves extrapolation mode by starting a blend from the anchor, and ends the
blend, dropping the anchor, once 500 ms have passed. `add_snapshot` and `reset` leave these fields
alone.

On every run from construction the modes are exclusive and carry their data
(`recovery_mode_invariant`): in extrapolation mode no blend is active and there is an anchor, and an
active blend starts from the anchor. So a blend in progress is never restarted by
`apply_blend_if_needed`, and it ends at the first two-snapshot reading made 500 ms or more after it
began (`recovery_blend_ends`): that reading returns the fresh target's position, velocity and speed
exactly and its angles up to whole turns, since `lerp_angle` at `t = 1` lands on an angle congruent
to the target, and it leaves the interpolator idle with no anchor.

## Main definitions

* `PlayerInterpolator.ModeInv`.

## Main results

* `ModeInv.step`: every call keeps the invariant.
* `recovery_mode_invariant`: the invariant on every run from construction.
* `recovery_blend_ends`: the blend's last reading and the idle state after it.

Source: `src/common/network/interpolator.hpp`, `handle_extrapolation`, `apply_blend_if_needed`,
`begin_blend`, `get_interpolated_state`.
-/

namespace WitcherSeamless

/-! ### Blending at `t = 1` -/

@[simp] theorem lerp_one {α : Type*} [LinearOrderedField α] (a b : α) : lerp a b 1 = b := by
  simp [lerp]

/-- At `t = 1`, `lerp_angle` lands a whole number of turns from its target. -/
theorem lerpAngle_one {α : Type*} [LinearOrderedField α] [FloorRing α] (a b : α) :
    ∃ k : ℤ, lerpAngle a b 1 = b + 360 * k := by
  obtain ⟨k, hk⟩ := wrappedDiff_congr a b
  exact ⟨k, by rw [lerpAngle_eq, hk]; ring⟩

theorem clamp01_of_one_le {t : ℚ} (h : 1 ≤ t) : clamp01 t = 1 := by
  unfold clamp01
  split_ifs <;> linarith

/-- Blending all the way gives the target's position, velocity and speed, and its angles up to
whole turns. -/
theorem blendPackets_one (p q : PlayerStatePacket) :
    (∀ f ∈ linearComponents, f (blendPackets p q 1) = f q) ∧
    ∃ kx ky kz : ℤ, (blendPackets p q 1).angles =
      ⟨q.angles.x + 360 * kx, q.angles.y + 360 * ky, q.angles.z + 360 * kz⟩ := by
  obtain ⟨kx, hkx⟩ := lerpAngle_one p.angles.x q.angles.x
  obtain ⟨ky, hky⟩ := lerpAngle_one p.angles.y q.angles.y
  obtain ⟨kz, hkz⟩ := lerpAngle_one p.angles.z q.angles.z
  refine ⟨fun f hf => by rw [blendPackets_linear _ _ _ f hf, lerp_one], kx, ky, kz, ?_⟩
  simp only [blendPackets, Vec3.lerpAngle, hkx, hky, hkz]

namespace PlayerInterpolator

/-- The recovery sub-state of a reachable interpolator: extrapolation mode has an anchor and no
active blend; an active blend starts from the anchor. -/
structure ModeInv (s : PlayerInterpolator) : Prop where
  extrapolating : s.inExtrapolation = true → s.blendActive = false ∧ s.extrapolationAnchor.isSome
  blending : s.blendActive = true → s.extrapolationAnchor = some s.blendStartState

namespace ModeInv

variable {s : PlayerInterpolator}

theorem init : ModeInv .init := ⟨nofun, nofun⟩

/-- A blend in progress is not in extrapolation mode. -/
theorem not_extrapolating (h : ModeInv s) (hb : s.blendActive = true) : s.inExtrapolation = false :=
  Bool.eq_false_iff.2 fun hx => by simp [(h.extrapolating hx).1] at hb

theorem handleExtrapolation (h : ModeInv s) (now : ℤ) :
    ModeInv (s.handleExtrapolation now).1 := by
  unfold PlayerInterpolator.handleExtrapolation
  split
  · exact ⟨fun _ => ⟨rfl, rfl⟩, nofun⟩
  · exact h

theorem leaveExtrapolation (h : ModeInv s) (target : PlayerStatePacket) (now : ℤ) :
    ModeInv (s.leaveExtrapolation target now) := by
  unfold PlayerInterpolator.leaveExtrapolation
  split
  · rename_i a _ ha
    exact ⟨nofun, fun _ => ha⟩
  · exact h

theorem applyBlendIfNeeded (h : ModeInv s) (target : PlayerStatePacket) (now : ℤ) :
    ModeInv (s.applyBlendIfNeeded target now).1 := by
  have h₁ := h.leaveExtrapolation target now
  unfold PlayerInterpolator.applyBlendIfNeeded
  dsimp only
  split_ifs with hb hdone
  · exact h₁
  · -- the blend ends: it was not in extrapolation mode
    exact ⟨fun hx => absurd hx (by simpa using h₁.not_extrapolating (by simpa using hb)),
      nofun⟩
  · exact ⟨h₁.extrapolating, h₁.blending⟩

theorem getInterpolatedState (h : ModeInv s) (now : ℤ) :
    ModeInv (s.getInterpolatedState now).1 := by
  unfold PlayerInterpolator.getInterpolatedState
  split_ifs
  · exact h.handleExtrapolation now
  · dsimp only
    split
    · split_ifs
      · exact h
      · exact
          ⟨(h.applyBlendIfNeeded _ now).extrapolating, (h.applyBlendIfNeeded _ now).blending⟩
    · exact h.handleExtrapolation now

/-- Every call keeps the invariant; `add_snapshot` and `reset` do not touch the modes. -/
theorem step (h : ModeInv s) (c : InterpolatorCall) : ModeInv (s.step c).1 := by
  cases c with
  | addSnapshot p now => exact ⟨h.extrapolating, h.blending⟩
  | getInterpolatedState now => exact h.getInterpolatedState now
  | getExtrapolatedPosition now => exact h
  | getMostRecentSnapshot => exact h
  | reset => exact ⟨h.extrapolating, h.blending⟩

theorem run (h : ModeInv s) (calls : List InterpolatorCall) : ModeInv (s.run calls).1 := by
  induction calls generalizing s with
  | nil => exact h
  | cons c cs ih => exact ih (h.step c)

end ModeInv

end PlayerInterpolator

/-- The recovery modes on every run from construction: in extrapolation mode no blend is active
and there is an anchor, and an active blend starts from the anchor. -/
theorem recovery_mode_invariant (calls : List InterpolatorCall) :
    let s : PlayerInterpolator := (PlayerInterpolator.init.run calls).1
    (s.inExtrapolation = true → s.blendActive = false ∧ s.extrapolationAnchor.isSome) ∧
    (s.blendActive = true → s.extrapolationAnchor = some s.blendStartState) :=
  let h := PlayerInterpolator.ModeInv.init.run calls
  ⟨h.extrapolating, h.blending⟩

namespace PlayerInterpolator

variable {s : PlayerInterpolator} {now : ℤ}

/-- The two-snapshot branch, state and result: the blended target through
`apply_blend_if_needed`, remembered as the last returned state. -/
theorem getInterpolatedState_eq_of_bracket {o n : Snapshot} (hc : ¬ s.snapshotCount < 2)
    (hb : s.findBracket (now - interpolationDelayNs) = (some o, some n))
    (hd : msCount (n.timestamp - o.timestamp) ≠ 0) :
    s.getInterpolatedState now =
      let r := s.applyBlendIfNeeded
        (blendPackets o.state n.state (clamp01 (bracketFraction o n (now - interpolationDelayNs))))
        now
      ({ r.1 with lastReturnedState := some r.2 }, some r.2) := by
  simp [getInterpolatedState, hc, hb, hd]

/-- A blend at least 500 ms old, outside extrapolation mode, ends: it returns the blend at
`t = 1` and drops the blend and the anchor. -/
theorem applyBlendIfNeeded_of_elapsed (hx : s.inExtrapolation = false) (hb : s.blendActive = true)
    (he : recoveryBlendDurationMs ≤ msCount (now - s.blendStartTime)) (target : PlayerStatePacket) :
    s.applyBlendIfNeeded target now =
      ({ s with blendTargetState := target, blendActive := false, extrapolationAnchor := none },
        blendPackets s.blendStartState target 1) := by
  have ht :
      clamp01 ((msCount (now - s.blendStartTime) : ℚ) / (recoveryBlendDurationMs : ℚ)) = 1 :=
    clamp01_of_one_le ((one_le_div (by norm_num [recoveryBlendDurationMs])).2
      (by exact_mod_cast he))
  simp [applyBlendIfNeeded, leaveExtrapolation, hx, hb, he, ht]

/-- The blend's last reading from any state that keeps the invariant. -/
theorem ModeInv.getInterpolatedState_of_elapsed (h : ModeInv s) {o n : Snapshot}
    (hb : s.blendActive = true) (hc : 2 ≤ s.snapshotCount)
    (hbr : s.findBracket (now - interpolationDelayNs) = (some o, some n))
    (hd : msCount (n.timestamp - o.timestamp) ≠ 0)
    (he : recoveryBlendDurationMs ≤ msCount (now - s.blendStartTime)) :
    let target := blendPackets o.state n.state
      (clamp01 (bracketFraction o n (now - interpolationDelayNs)))
    (s.getInterpolatedState now).1.inExtrapolation = false ∧
    (s.getInterpolatedState now).1.blendActive = false ∧
    (s.getInterpolatedState now).1.extrapolationAnchor = none ∧
    (s.getInterpolatedState now).2 = some (blendPackets s.blendStartState target 1) := by
  have hx := h.not_extrapolating hb
  simp [getInterpolatedState_eq_of_bracket (by omega) hbr hd,
    applyBlendIfNeeded_of_elapsed hx hb he, hx]

end PlayerInterpolator

/-- The recovery blend ends, on every run from construction: a two-snapshot reading, its
bracketing arrivals at least a millisecond apart, made while a blend is active and 500 ms or more
after it began, returns the fresh target's position, velocity and speed exactly and its angles up
to whole turns, and leaves the interpolator idle, outside extrapolation mode with no active blend
and no anchor. -/
theorem recovery_blend_ends (calls : List InterpolatorCall) (now : ℤ) {o n : Snapshot}
    (hb : (PlayerInterpolator.init.run calls).1.blendActive = true)
    (hc : 2 ≤ (PlayerInterpolator.init.run calls).1.snapshotCount)
    (hbr : (PlayerInterpolator.init.run calls).1.findBracket (now - interpolationDelayNs) =
      (some o, some n))
    (hd : msCount (n.timestamp - o.timestamp) ≠ 0)
    (he : recoveryBlendDurationMs ≤
      msCount (now - (PlayerInterpolator.init.run calls).1.blendStartTime)) :
    let target : PlayerStatePacket := blendPackets o.state n.state
      (clamp01 (PlayerInterpolator.bracketFraction o n (now - interpolationDelayNs)))
    let r : PlayerInterpolator × Option PlayerStatePacket :=
      (PlayerInterpolator.init.run calls).1.getInterpolatedState now
    r.1.inExtrapolation = false ∧ r.1.blendActive = false ∧ r.1.extrapolationAnchor = none ∧
    ∃ p, r.2 = some p ∧ (∀ f ∈ linearComponents, f p = f target) ∧
      ∃ kx ky kz : ℤ, p.angles =
        ⟨target.angles.x + 360 * kx, target.angles.y + 360 * ky, target.angles.z + 360 * kz⟩ := by
  intro target r
  obtain ⟨h₁, h₂, h₃, h₄⟩ :=
    (PlayerInterpolator.ModeInv.init.run calls).getInterpolatedState_of_elapsed hb hc hbr hd he
  exact ⟨h₁, h₂, h₃, _, h₄,
    blendPackets_one (PlayerInterpolator.init.run calls).1.blendStartState target⟩

/-- A snapshot read 50 ms after it arrived (extrapolation), two more arriving 50 ms apart, a reading
between them that starts the blend at 1125 ms, and a fourth snapshot at 1650 ms. -/
def blendingRun : List InterpolatorCall :=
  [.addSnapshot (restingAt 0) 0, .getInterpolatedState 50000000,
    .addSnapshot (restingAt 1) 1000000000, .addSnapshot (restingAt 2) 1050000000,
    .getInterpolatedState 1125000000, .addSnapshot (restingAt 3) 1650000000]

/-- The blend of `blendingRun`, read 575 ms after it began, between the snapshots at 1050 ms and
1650 ms. -/
theorem recovery_blend_ends_after_575_ms :
    (PlayerInterpolator.init.run blendingRun).1.blendActive = true ∧
    2 ≤ (PlayerInterpolator.init.run blendingRun).1.snapshotCount ∧
    (PlayerInterpolator.init.run blendingRun).1.findBracket (1700000000 - interpolationDelayNs) =
      (some ⟨restingAt 2, 1050000000, true⟩, some ⟨restingAt 3, 1650000000, true⟩) ∧
    msCount (1650000000 - 1050000000) ≠ 0 ∧
    recoveryBlendDurationMs ≤
      msCount (1700000000 - (PlayerInterpolator.init.run blendingRun).1.blendStartTime) ∧
    let target : PlayerStatePacket := blendPackets (restingAt 2) (restingAt 3)
      (clamp01 (PlayerInterpolator.bracketFraction ⟨restingAt 2, 1050000000, true⟩
        ⟨restingAt 3, 1650000000, true⟩ (1700000000 - interpolationDelayNs)))
    let r : PlayerInterpolator × Option PlayerStatePacket :=
      (PlayerInterpolator.init.run blendingRun).1.getInterpolatedState 1700000000
    r.1.inExtrapolation = false ∧ r.1.blendActive = false ∧ r.1.extrapolationAnchor = none ∧
    ∃ p, r.2 = some p ∧ (∀ f ∈ linearComponents, f p = f target) ∧
      ∃ kx ky kz : ℤ, p.angles =
        ⟨target.angles.x + 360 * kx, target.angles.y + 360 * ky, target.angles.z + 360 * kz⟩ :=
  ⟨by decide, by decide, by decide, by decide, by decide,
    recovery_blend_ends blendingRun 1700000000 (o := ⟨restingAt 2, 1050000000, true⟩)
      (n := ⟨restingAt 3, 1650000000, true⟩) (by decide) (by decide) (by decide) (by decide)
      (by decide)⟩

end WitcherSeamless
