import WitcherSeamless.Motion.Snapshot

/-!
# The player interpolator

`network::interpolation::player_interpolator` holds the last three motion snapshots of one remote
player in a ring buffer: `add_snapshot` writes slot `write_index_`, stamps it with the arrival time
and marks it valid, advances the index modulo 3 and counts up to 3 valid slots. Reading,
`get_interpolated_state`:

* with fewer than two snapshots, falls back to dead reckoning (`handle_extrapolation`);
* otherwise looks among the first `snapshot_count_` slots for the latest snapshot at or before the
  render time `now - 100 ms` and the earliest one after it; without both it falls back to dead
  reckoning; when they arrived less than a millisecond apart it returns the older one as it is;
  otherwise it blends them at the clamped fraction of the render time between them;
* the blended state goes through `apply_blend_if_needed`: when the previous reading extrapolated,
  a 500 ms recovery blend starts from the extrapolation anchor, and while a blend is active the
  result is `blend_packets(anchor, target, elapsed / 500)`.

Dead reckoning (`get_extrapolated_position`) returns the most recent snapshot while it is at most
100 ms old, and moves its position along its velocity for the time past 100 ms after that.
`reset` clears the valid flags, the index and the count.

Each reading takes the `steady_clock` instant it reads as `now`. The calls that change the
interpolator are `add_snapshot`, `get_interpolated_state` and `reset`; `InterpolatorCall` lists
the public calls and `PlayerInterpolator.run` runs a sequence of them, collecting the results.

## Main definitions

* `Snapshot`, `PlayerInterpolator`, `PlayerInterpolator.init`.
* `addSnapshot`, `latestSnapshot`, `getMostRecentSnapshot`, `getExtrapolatedPosition`,
  `handleExtrapolation`, `beginBlend`, `applyBlendIfNeeded`, `findBracket`,
  `getInterpolatedState`, `reset`.
* `InterpolatorCall`, `PlayerInterpolator.step`, `PlayerInterpolator.run`.

Source: `src/common/network/interpolator.hpp`, the second `player_interpolator`.
-/

namespace WitcherSeamless

/-- `SNAPSHOT_BUFFER_SIZE`. -/
def snapshotBufferSize : Nat := 3

/-- `INTERPOLATION_DELAY_MS`, in nanoseconds as it is subtracted from `now`. -/
def interpolationDelayNs : ℤ := 100000000

/-- `RECOVERY_BLEND_DURATION_MS`. -/
def recoveryBlendDurationMs : ℤ := 500

/-- `network::interpolation::snapshot`. -/
structure Snapshot where
  state : PlayerStatePacket
  timestamp : ℤ
  valid : Bool
  deriving DecidableEq

/-- A value-initialised `snapshot{}`. -/
def Snapshot.empty : Snapshot := ⟨⟨0, ⟨0, 0, 0, 0⟩, ⟨0, 0, 0⟩, ⟨0, 0, 0, 0⟩, 0, 0⟩, 0, false⟩

/-- The fields of a `player_interpolator`. -/
structure PlayerInterpolator where
  snapshots : Fin 3 → Snapshot
  writeIndex : Fin 3
  snapshotCount : Nat
  inExtrapolation : Bool
  blendActive : Bool
  blendStartTime : ℤ
  blendStartState : PlayerStatePacket
  blendTargetState : PlayerStatePacket
  extrapolationAnchor : Option PlayerStatePacket
  lastReturnedState : Option PlayerStatePacket

namespace PlayerInterpolator

/-- A default-constructed interpolator. -/
def init : PlayerInterpolator :=
  ⟨fun _ => .empty, 0, 0, false, false, 0, Snapshot.empty.state, Snapshot.empty.state, none, none⟩

/-- The slot indices in array order. -/
def slotIndices : List (Fin 3) := [0, 1, 2]

/-- `add_snapshot(packet)`, arriving at `now`. -/
def addSnapshot (s : PlayerInterpolator) (packet : PlayerStatePacket) (now : ℤ) :
    PlayerInterpolator :=
  { s with
    snapshots := Function.update s.snapshots s.writeIndex ⟨packet, now, true⟩
    writeIndex := s.writeIndex + 1
    snapshotCount := if s.snapshotCount < snapshotBufferSize then s.snapshotCount + 1
      else s.snapshotCount }

/-- `reset()`: invalidate every slot and zero the index and the count. -/
def reset (s : PlayerInterpolator) : PlayerInterpolator :=
  { s with
    snapshots := fun i => { s.snapshots i with valid := false }
    writeIndex := 0
    snapshotCount := 0 }

/-! ### Scans over the ring buffer -/

/-- One iteration of the scan for the latest valid snapshot: a later stamp replaces the best so
far, an equal one does not. -/
def latestStep (best : Option Snapshot) (snap : Snapshot) : Option Snapshot :=
  if !snap.valid then best
  else match best with
    | none => some snap
    | some b => if b.timestamp < snap.timestamp then some snap else best

/-- `get_latest_snapshot_ptr()`: the valid slot with the latest stamp, the first in array order
among equal stamps. `get_most_recent_snapshot` runs the same loop. -/
def latestSnapshot (s : PlayerInterpolator) : Option Snapshot :=
  (slotIndices.map s.snapshots).foldl latestStep none

/-- `get_most_recent_snapshot()`. -/
def getMostRecentSnapshot (s : PlayerInterpolator) : Option PlayerStatePacket :=
  s.latestSnapshot.map (·.state)

/-- One iteration of the bracket search around `renderTime`: a valid snapshot at or before it
may become `older` (a later stamp wins), one after it may become `newer` (an earlier stamp wins). -/
def bracketStep (renderTime : ℤ) (acc : Option Snapshot × Option Snapshot) (snap : Snapshot) :
    Option Snapshot × Option Snapshot :=
  if !snap.valid then acc
  else if snap.timestamp ≤ renderTime then
    match acc.1 with
    | none => (some snap, acc.2)
    | some o => if o.timestamp < snap.timestamp then (some snap, acc.2) else acc
  else
    match acc.2 with
    | none => (acc.1, some snap)
    | some n => if snap.timestamp < n.timestamp then (acc.1, some snap) else acc

/-- The bracket search of `get_interpolated_state` over the first `snapshot_count_` slots. -/
def findBracket (s : PlayerInterpolator) (renderTime : ℤ) : Option Snapshot × Option Snapshot :=
  ((slotIndices.filter (·.val < s.snapshotCount)).map s.snapshots).foldl (bracketStep renderTime)
    (none, none)

/-! ### Dead reckoning and recovery blending -/

/-- `EXTRAPOLATION_THRESHOLD_MS`. -/
def extrapolationThresholdMs : ℤ := 100

/-- `get_extrapolated_position()` at `now`: the most recent snapshot, moved along its velocity
for the time it is older than 100 ms. -/
def getExtrapolatedPosition (s : PlayerInterpolator) (now : ℤ) : Option PlayerStatePacket :=
  match s.getMostRecentSnapshot with
  | none => none
  | some mostRecent =>
    match s.latestSnapshot with
    | none => some mostRecent
    | some latest =>
      let ageMs := msCount (now - latest.timestamp)
      if ageMs ≤ extrapolationThresholdMs then some mostRecent
      else
        let dt : ℚ := ((ageMs - 100 : ℤ) : ℚ) / 1000
        some { mostRecent with
          position := { mostRecent.position with
            x := mostRecent.position.x + mostRecent.velocity.x * dt
            y := mostRecent.position.y + mostRecent.velocity.y * dt
            z := mostRecent.position.z + mostRecent.velocity.z * dt } }

/-- `handle_extrapolation()`: extrapolate, and when there is a result enter extrapolation mode
with it as the anchor, ending any blend. -/
def handleExtrapolation (s : PlayerInterpolator) (now : ℤ) :
    PlayerInterpolator × Option PlayerStatePacket :=
  match s.getExtrapolatedPosition now with
  | some p =>
    ({ s with
        inExtrapolation := true
        blendActive := false
        extrapolationAnchor := some p
        lastReturnedState := some p }, some p)
  | none => (s, none)

/-- `begin_blend(from, to, now)`. -/
def beginBlend (s : PlayerInterpolator) (fromState toState : PlayerStatePacket) (now : ℤ) :
    PlayerInterpolator :=
  { s with
    blendActive := true
    blendStartTime := now
    blendStartState := fromState
    blendTargetState := toState }

/-- The start of `apply_blend_if_needed`: coming out of extrapolation with an anchor starts a
blend from the anchor. -/
def leaveExtrapolation (s : PlayerInterpolator) (target : PlayerStatePacket) (now : ℤ) :
    PlayerInterpolator :=
  match s.inExtrapolation, s.extrapolationAnchor with
  | true, some anchor => { s.beginBlend anchor target now with inExtrapolation := false }
  | _, _ => s

/-- `apply_blend_if_needed(target_state, now)`. -/
def applyBlendIfNeeded (s : PlayerInterpolator) (target : PlayerStatePacket) (now : ℤ) :
    PlayerInterpolator × PlayerStatePacket :=
  let s₁ := s.leaveExtrapolation target now
  if !s₁.blendActive then (s₁, target)
  else
    let elapsedMs := msCount (now - s₁.blendStartTime)
    let t := clamp01 ((elapsedMs : ℚ) / (recoveryBlendDurationMs : ℚ))
    let s₂ := { s₁ with blendTargetState := target }
    let blended := blendPackets s₂.blendStartState target t
    if recoveryBlendDurationMs ≤ elapsedMs then
      ({ s₂ with blendActive := false, extrapolationAnchor := none }, blended)
    else (s₂, blended)

/-- The fraction of the render time between the bracketing arrivals, before clamping. -/
def bracketFraction (older newer : Snapshot) (renderTime : ℤ) : ℚ :=
  ((msCount (renderTime - older.timestamp) : ℤ) : ℚ) /
    ((msCount (newer.timestamp - older.timestamp) : ℤ) : ℚ)

/-- `get_interpolated_state()` at `now`. -/
def getInterpolatedState (s : PlayerInterpolator) (now : ℤ) :
    PlayerInterpolator × Option PlayerStatePacket :=
  if s.snapshotCount < 2 then s.handleExtrapolation now
  else
    let renderTime := now - interpolationDelayNs
    match s.findBracket renderTime with
    | (some older, some newer) =>
      if msCount (newer.timestamp - older.timestamp) = 0 then (s, some older.state)
      else
        let target := blendPackets older.state newer.state
          (clamp01 (bracketFraction older newer renderTime))
        let r := s.applyBlendIfNeeded target now
        ({ r.1 with lastReturnedState := some r.2 }, some r.2)
    | _ => s.handleExtrapolation now

end PlayerInterpolator

/-- The public calls of a `player_interpolator`, each with the instant it reads. -/
inductive InterpolatorCall
  /-- `add_snapshot(packet)`, arriving at `now`. -/
  | addSnapshot (packet : PlayerStatePacket) (now : ℤ)
  /-- `get_interpolated_state()` at `now`. -/
  | getInterpolatedState (now : ℤ)
  /-- `get_extrapolated_position()` at `now`. -/
  | getExtrapolatedPosition (now : ℤ)
  /-- `get_most_recent_snapshot()`. -/
  | getMostRecentSnapshot
  /-- `reset()`. -/
  | reset

namespace PlayerInterpolator

/-- One call: the interpolator after it, and what it returns (`none` for `void` calls). -/
def step (s : PlayerInterpolator) : InterpolatorCall → PlayerInterpolator × Option PlayerStatePacket
  | .addSnapshot p now => (s.addSnapshot p now, none)
  | .getInterpolatedState now => s.getInterpolatedState now
  | .getExtrapolatedPosition now => (s, s.getExtrapolatedPosition now)
  | .getMostRecentSnapshot => (s, s.getMostRecentSnapshot)
  | .reset => (s.reset, none)

/-- A sequence of calls: the interpolator after them, and their results in order. -/
def run (s : PlayerInterpolator) : List InterpolatorCall → PlayerInterpolator × List (Option PlayerStatePacket)
  | [] => (s, [])
  | c :: cs =>
    let r := s.step c
    let rest := r.1.run cs
    (rest.1, r.2 :: rest.2)

end PlayerInterpolator

end WitcherSeamless
