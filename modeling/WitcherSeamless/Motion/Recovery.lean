import WitcherSeamless.Motion.RingBuffer

/-!
# Recovery blending and reset

When a reading brackets the render time with two snapshots after the interpolator extrapolated,
`apply_blend_if_needed` starts a 500 ms blend from the extrapolation anchor, and while the blend
is active each reading returns `blend_packets(anchor, target, clamp(elapsed / 500, 0, 1))`
(`getInterpolatedState_recovery`). Two things escape it:

* the branch for bracketing arrivals less than a millisecond apart returns the older snapshot
  before the blend is applied (`recovery_blend_bypassed_below_one_ms`);
* `reset` clears the slots, the index and the count but not the extrapolation flag, the anchor
  or the blend, so a reading after a reset can blend from a position recorded before it
  (`reset_keeps_extrapolation_anchor`). When no recovery is pending, a reset interpolator behaves
  as a new one on every later sequence of calls (`run_reset_of_idle`).

## Main results

* `getInterpolatedState_recovery`: the blend on the two-snapshot branch.
* `recovery_blend_bypassed_below_one_ms`, `reset_keeps_extrapolation_anchor`: two runs.
* `ObsEq.run`: interpolators that agree on what the calls read return the same results on every
  sequence of calls.
* `run_reset_of_idle`: reset is observationally a fresh interpolator when nothing is pending.
-/

namespace WitcherSeamless

/-! ### Blending helpers -/

theorem subtractTurnsAbove_zero : subtractTurnsAbove (0 : ℚ) = 0 := by
  rw [subtractTurnsAbove]; norm_num

theorem addTurnsBelow_zero : addTurnsBelow (0 : ℚ) = 0 := by
  rw [addTurnsBelow]; norm_num

/-- Blending a packet with itself gives it back, at every fraction. -/
@[simp] theorem blendPackets_self (p : PlayerStatePacket) (t : ℚ) : blendPackets p p t = p := by
  simp [blendPackets, Vec4.lerp, Vec3.lerpAngle, lerp, lerpAngle, subtractTurnsAbove_zero,
    addTurnsBelow_zero]

@[simp] theorem msCount_zero : msCount 0 = 0 := rfl

namespace PlayerInterpolator

variable {s : PlayerInterpolator} {now : ℤ}

/-- The two-snapshot branch: with two bracketing snapshots at least a millisecond apart, the
reading is the blended target passed through `apply_blend_if_needed`. -/
theorem getInterpolatedState_of_bracket {o n : Snapshot} (hc : ¬ s.snapshotCount < 2)
    (hb : s.findBracket (now - interpolationDelayNs) = (some o, some n))
    (hd : msCount (n.timestamp - o.timestamp) ≠ 0) :
    (s.getInterpolatedState now).2 = some (s.applyBlendIfNeeded
      (blendPackets o.state n.state (clamp01 (bracketFraction o n (now - interpolationDelayNs))))
      now).2 := by
  simp [getInterpolatedState, hc, hb, hd]

/-- Coming out of extrapolation, the first blended reading is the anchor itself. -/
theorem applyBlendIfNeeded_of_inExtrapolation {a : PlayerStatePacket} (h : s.inExtrapolation = true)
    (ha : s.extrapolationAnchor = some a) (target : PlayerStatePacket) :
    (s.applyBlendIfNeeded target now).2 = a := by
  simp [applyBlendIfNeeded, leaveExtrapolation, h, ha, beginBlend]
  split_ifs <;> simp

/-- During a blend, the reading is the blend from its start state at the elapsed fraction. -/
theorem applyBlendIfNeeded_of_blendActive (h : s.inExtrapolation = false)
    (hb : s.blendActive = true) (target : PlayerStatePacket) :
    (s.applyBlendIfNeeded target now).2 = blendPackets s.blendStartState target
      (clamp01 ((msCount (now - s.blendStartTime) : ℚ) / (recoveryBlendDurationMs : ℚ))) := by
  simp [applyBlendIfNeeded, leaveExtrapolation, h, hb]
  split_ifs <;> rfl

/-- With no recovery pending, the target comes back unchanged. -/
theorem applyBlendIfNeeded_of_idle (h : s.inExtrapolation = false) (hb : s.blendActive = false)
    (target : PlayerStatePacket) : s.applyBlendIfNeeded target now = (s, target) := by
  simp [applyBlendIfNeeded, leaveExtrapolation, h, hb]

/-- The recovery blend on the two-snapshot branch: in extrapolation mode, or during a blend that
started from the anchor, a reading whose bracketing snapshots are at least a millisecond apart
returns `blend_packets(anchor, target, clamp(elapsed / 500, 0, 1))`, the elapsed time counted from
this reading in extrapolation mode and from the blend's start otherwise. -/
theorem getInterpolatedState_recovery {o n : Snapshot} {a : PlayerStatePacket}
    (hc : ¬ s.snapshotCount < 2)
    (hb : s.findBracket (now - interpolationDelayNs) = (some o, some n))
    (hd : msCount (n.timestamp - o.timestamp) ≠ 0) (ha : s.extrapolationAnchor = some a)
    (hmode : s.inExtrapolation = true ∨ (s.blendActive = true ∧ s.blendStartState = a)) :
    let target := blendPackets o.state n.state
      (clamp01 (bracketFraction o n (now - interpolationDelayNs)))
    let start := if s.inExtrapolation then now else s.blendStartTime
    (s.getInterpolatedState now).2 =
      some (blendPackets a target
        (clamp01 ((msCount (now - start) : ℚ) / (recoveryBlendDurationMs : ℚ)))) := by
  intro target start
  rw [getInterpolatedState_of_bracket hc hb hd]
  cases hx : s.inExtrapolation
  · obtain ⟨hba, hsa⟩ := hmode.resolve_left (by simp [hx])
    simp [start, hx, applyBlendIfNeeded_of_blendActive hx hba, hsa, target]
  · simp [start, hx, applyBlendIfNeeded_of_inExtrapolation hx ha]

end PlayerInterpolator

/-! ### A reset with nothing pending -/

/-- Two slots that no scan can tell apart: both invalid, or equal. -/
def Snapshot.Agree (x y : Snapshot) : Prop := x.valid = y.valid ∧ (x.valid = true → x = y)

/-- Two interpolators that give the same results on every later sequence of calls: the same
valid slots, index and count, the same modes, the same anchor in extrapolation mode and the same
blend start during a blend. The target and last-returned states are written and never read. -/
structure ObsEq (s t : PlayerInterpolator) : Prop where
  slots : ∀ i, (s.snapshots i).Agree (t.snapshots i)
  writeIndex : s.writeIndex = t.writeIndex
  snapshotCount : s.snapshotCount = t.snapshotCount
  inExtrapolation : s.inExtrapolation = t.inExtrapolation
  blendActive : s.blendActive = t.blendActive
  anchor : s.inExtrapolation = true → s.extrapolationAnchor = t.extrapolationAnchor
  blendStart : s.blendActive = true →
    s.blendStartTime = t.blendStartTime ∧ s.blendStartState = t.blendStartState

namespace ObsEq

variable {s t : PlayerInterpolator} (h : ObsEq s t)
include h

/-- A scan over slots whose step cannot tell agreeing slots apart gives the same result on both. -/
theorem foldl_map {β : Type} {f : β → Snapshot → β}
    (hf : ∀ b x y, x.Agree y → f b x = f b y) (l : List (Fin 3)) (b : β) :
    (l.map s.snapshots).foldl f b = (l.map t.snapshots).foldl f b := by
  induction l generalizing b with
  | nil => rfl
  | cons i l ih => simp only [List.map_cons, List.foldl_cons, hf b _ _ (h.slots i), ih]

omit h in
theorem latestStep_congr (b : Option Snapshot) {x y : Snapshot} (hxy : x.Agree y) :
    PlayerInterpolator.latestStep b x = PlayerInterpolator.latestStep b y := by
  cases hx : x.valid
  · simp [PlayerInterpolator.latestStep, hx, ← hxy.1]
  · rw [hxy.2 hx]

omit h in
theorem bracketStep_congr (r : ℤ) (b : Option Snapshot × Option Snapshot) {x y : Snapshot}
    (hxy : x.Agree y) :
    PlayerInterpolator.bracketStep r b x = PlayerInterpolator.bracketStep r b y := by
  cases hx : x.valid
  · simp [PlayerInterpolator.bracketStep, hx, ← hxy.1]
  · rw [hxy.2 hx]

theorem latestSnapshot : s.latestSnapshot = t.latestSnapshot :=
  h.foldl_map latestStep_congr _ _

theorem findBracket (r : ℤ) : s.findBracket r = t.findBracket r := by
  rw [PlayerInterpolator.findBracket, h.snapshotCount]
  exact h.foldl_map (bracketStep_congr r) _ _

theorem getMostRecentSnapshot : s.getMostRecentSnapshot = t.getMostRecentSnapshot := by
  rw [PlayerInterpolator.getMostRecentSnapshot, h.latestSnapshot]; rfl

theorem getExtrapolatedPosition (now : ℤ) :
    s.getExtrapolatedPosition now = t.getExtrapolatedPosition now := by
  rw [PlayerInterpolator.getExtrapolatedPosition, h.getMostRecentSnapshot, h.latestSnapshot]; rfl

theorem handleExtrapolation (now : ℤ) :
    (s.handleExtrapolation now).2 = (t.handleExtrapolation now).2 ∧
      ObsEq (s.handleExtrapolation now).1 (t.handleExtrapolation now).1 := by
  unfold PlayerInterpolator.handleExtrapolation
  rw [h.getExtrapolatedPosition]
  cases t.getExtrapolatedPosition now with
  | none => exact ⟨rfl, h⟩
  | some p =>
    exact ⟨rfl, h.slots, h.writeIndex, h.snapshotCount, rfl, rfl, fun _ => rfl, nofun⟩

theorem leaveExtrapolation (target : PlayerStatePacket) (now : ℤ) :
    ObsEq (s.leaveExtrapolation target now) (t.leaveExtrapolation target now) := by
  cases hx : s.inExtrapolation with
  | false =>
    have ht : t.inExtrapolation = false := h.inExtrapolation ▸ hx
    simp only [PlayerInterpolator.leaveExtrapolation, hx, ht]
    exact h
  | true =>
    have ht : t.inExtrapolation = true := h.inExtrapolation ▸ hx
    simp only [PlayerInterpolator.leaveExtrapolation, hx, ht, h.anchor hx]
    cases t.extrapolationAnchor with
    | none => exact h
    | some a =>
      exact ⟨h.slots, h.writeIndex, h.snapshotCount, rfl, rfl, nofun, fun _ => ⟨rfl, rfl⟩⟩

theorem applyBlendIfNeeded (target : PlayerStatePacket) (now : ℤ) :
    (s.applyBlendIfNeeded target now).2 = (t.applyBlendIfNeeded target now).2 ∧
      ObsEq (s.applyBlendIfNeeded target now).1 (t.applyBlendIfNeeded target now).1 := by
  have h₁ := h.leaveExtrapolation target now
  cases hb : (s.leaveExtrapolation target now).blendActive with
  | false =>
    have hb' : (t.leaveExtrapolation target now).blendActive = false := h₁.blendActive ▸ hb
    simp only [PlayerInterpolator.applyBlendIfNeeded, hb, hb', Bool.not_false, if_true, true_and]
    exact h₁
  | true =>
    have hb' : (t.leaveExtrapolation target now).blendActive = true := h₁.blendActive ▸ hb
    obtain ⟨ht, hs⟩ := h₁.blendStart hb
    simp only [PlayerInterpolator.applyBlendIfNeeded, hb, hb', ht, hs, Bool.not_true,
      Bool.false_eq_true, if_false]
    split_ifs
    · exact ⟨rfl, h₁.slots, h₁.writeIndex, h₁.snapshotCount, h₁.inExtrapolation, rfl,
        fun _ => rfl, nofun⟩
    · exact ⟨rfl, h₁.slots, h₁.writeIndex, h₁.snapshotCount, h₁.inExtrapolation, rfl, h₁.anchor,
        fun _ => ⟨rfl, rfl⟩⟩

theorem getInterpolatedState (now : ℤ) :
    (s.getInterpolatedState now).2 = (t.getInterpolatedState now).2 ∧
      ObsEq (s.getInterpolatedState now).1 (t.getInterpolatedState now).1 := by
  unfold PlayerInterpolator.getInterpolatedState
  simp only [h.snapshotCount, h.findBracket]
  split_ifs
  · exact h.handleExtrapolation now
  · split
    · split_ifs
      · exact ⟨rfl, h⟩
      · obtain ⟨h₂, h₃⟩ := h.applyBlendIfNeeded _ now
        exact ⟨by rw [h₂], h₃.slots, h₃.writeIndex, h₃.snapshotCount, h₃.inExtrapolation,
          h₃.blendActive, h₃.anchor, h₃.blendStart⟩
    · exact h.handleExtrapolation now

theorem addSnapshot (p : PlayerStatePacket) (now : ℤ) :
    ObsEq (s.addSnapshot p now) (t.addSnapshot p now) := by
  refine ⟨fun i => ?_, by simp [PlayerInterpolator.addSnapshot, h.writeIndex],
    by simp [PlayerInterpolator.addSnapshot, h.snapshotCount], h.inExtrapolation, h.blendActive,
    h.anchor, h.blendStart⟩
  simp only [PlayerInterpolator.addSnapshot, h.writeIndex]
  by_cases hi : i = t.writeIndex
  · subst hi
    simp only [Function.update_same]
    exact ⟨rfl, fun _ => rfl⟩
  · simpa only [Function.update_noteq hi] using h.slots i

theorem reset : ObsEq s.reset t.reset :=
  ⟨fun _ => ⟨rfl, nofun⟩, rfl, rfl, h.inExtrapolation, h.blendActive, h.anchor,
    h.blendStart⟩

theorem step (c : InterpolatorCall) :
    (s.step c).2 = (t.step c).2 ∧ ObsEq (s.step c).1 (t.step c).1 := by
  cases c with
  | addSnapshot p now => exact ⟨rfl, h.addSnapshot p now⟩
  | getInterpolatedState now => exact h.getInterpolatedState now
  | getExtrapolatedPosition now => exact ⟨h.getExtrapolatedPosition now, h⟩
  | getMostRecentSnapshot => exact ⟨h.getMostRecentSnapshot, h⟩
  | reset => exact ⟨rfl, h.reset⟩

omit h in
/-- Observationally equal interpolators return the same results on every sequence of calls. -/
theorem run (calls : List InterpolatorCall) (h : ObsEq s t) : (s.run calls).2 = (t.run calls).2 := by
  induction calls generalizing s t with
  | nil => rfl
  | cons c cs ih =>
    obtain ⟨h₁, h₂⟩ := h.step c
    simp only [PlayerInterpolator.run, h₁, ih h₂]

end ObsEq

/-- With no recovery pending, a reset interpolator returns what a new one returns, on every later
sequence of calls. -/
theorem PlayerInterpolator.run_reset_of_idle (s : PlayerInterpolator)
    (hx : s.inExtrapolation = false) (hb : s.blendActive = false) (calls : List InterpolatorCall) :
    (s.reset.run calls).2 = (PlayerInterpolator.init.run calls).2 :=
  ObsEq.run calls ⟨fun _ => ⟨rfl, nofun⟩, rfl, rfl, hx, hb,
    fun hf => by simp [reset, hx] at hf, fun hf => by simp [reset, hb] at hf⟩

/-! ### Two runs -/

/-- A packet at `x` on the first axis, at rest. -/
def restingAt (x : ℚ) : PlayerStatePacket := ⟨0, ⟨x, 0, 0, 0⟩, ⟨0, 0, 0⟩, ⟨0, 0, 0, 0⟩, 0, 0⟩

/-- A snapshot at `0` is extrapolated (it is 50 ms old, so returned as it is), then snapshots at
`1` and `2` arrive 0.5 ms apart at about 1 s. The reading at 1100.2 ms brackets its render time
between them while the interpolator is in extrapolation mode, yet returns the raw snapshot at `1`
instead of the anchor at `0` that a starting recovery blend returns. -/
theorem recovery_blend_bypassed_below_one_ms :
    let s : PlayerInterpolator := (PlayerInterpolator.init.run [.addSnapshot (restingAt 0) 0,
      .getInterpolatedState 50000000, .addSnapshot (restingAt 1) 1000000000,
      .addSnapshot (restingAt 2) 1000500000]).1
    s.inExtrapolation = true ∧ s.extrapolationAnchor = some (restingAt 0) ∧
    s.findBracket (1100200000 - interpolationDelayNs) =
      (some ⟨restingAt 1, 1000000000, true⟩, some ⟨restingAt 2, 1000500000, true⟩) ∧
    (s.getInterpolatedState 1100200000).2 = some (restingAt 1) ∧ restingAt 1 ≠ restingAt 0 := by
  decide

/-- After an extrapolation from a snapshot at `0` and a `reset`, two snapshots at `1` arrive and a
reading brackets between them. The reset interpolator blends from the anchor recorded before the
reset and returns the position `0`; a new interpolator given the same calls returns `1`. -/
theorem reset_keeps_extrapolation_anchor :
    let calls : List InterpolatorCall := [.addSnapshot (restingAt 1) 1000000000,
      .addSnapshot (restingAt 1) 1050000000, .getInterpolatedState 1125000000]
    let stale := (PlayerInterpolator.init.run [.addSnapshot (restingAt 0) 0,
      .getInterpolatedState 50000000, .reset]).1
    (stale.run calls).2 = [none, none, some (restingAt 0)] ∧
    (PlayerInterpolator.init.run calls).2 = [none, none, some (restingAt 1)] := by
  intro calls stale
  let o : Snapshot := ⟨restingAt 1, 1000000000, true⟩
  let n : Snapshot := ⟨restingAt 1, 1050000000, true⟩
  let s₁ := ((stale.addSnapshot (restingAt 1) 1000000000).addSnapshot (restingAt 1) 1050000000)
  let s₂ := ((PlayerInterpolator.init.addSnapshot (restingAt 1) 1000000000).addSnapshot
    (restingAt 1) 1050000000)
  have hc₁ : ¬ s₁.snapshotCount < 2 := by decide
  have hc₂ : ¬ s₂.snapshotCount < 2 := by decide
  have hb₁ : s₁.findBracket (1125000000 - interpolationDelayNs) = (some o, some n) := by decide
  have hb₂ : s₂.findBracket (1125000000 - interpolationDelayNs) = (some o, some n) := by decide
  have hd : msCount (n.timestamp - o.timestamp) ≠ 0 := by decide
  have hx₁ : s₁.inExtrapolation = true := by decide
  have ha₁ : s₁.extrapolationAnchor = some (restingAt 0) := by decide
  have hx₂ : s₂.inExtrapolation = false := by decide
  have hbl₂ : s₂.blendActive = false := by decide
  constructor
  · show [none, none, (s₁.getInterpolatedState 1125000000).2] = _
    rw [PlayerInterpolator.getInterpolatedState_of_bracket hc₁ hb₁ hd,
      PlayerInterpolator.applyBlendIfNeeded_of_inExtrapolation hx₁ ha₁]
  · show [none, none, (s₂.getInterpolatedState 1125000000).2] = _
    rw [PlayerInterpolator.getInterpolatedState_of_bracket hc₂ hb₂ hd,
      PlayerInterpolator.applyBlendIfNeeded_of_idle hx₂ hbl₂, blendPackets_self]

end WitcherSeamless
