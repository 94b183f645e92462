import Mathlib.Algebra.Order.Ring.Rat
import Mathlib.Tactic.NormNum

/-!
# Time smoothing

`W3mSmoothTimeReconciliation(hostGameTime)` compares the host's game clock with the local one. A
drift of 5 to 10 seconds opens a smoothing window, if none is open: it records the current time
multiplier, the engine time and the drift. While the window is younger than 3 seconds the
multiplier is raised by a third of the drift; a call in the band after that restores the recorded
multiplier, closes the window and sets the clock to the host time. A drift over 10 seconds snaps
the clock, and a smaller one is ignored.

The recorded multiplier is always the one in force when no window is open, so a call that closes
a window restores the multiplier the run started with (`run_smoothingInv`). But only a call with a
drift in the band closes the window: a later call whose drift is outside it leaves the window open
and the raised multiplier in force (`time_multiplier_leaks_after_drift_leaves_band`).

## Main definitions

* `w3mSmoothTimeReconciliation`, over `TimeWorld`.
* `ReconcileCall`, `TimeWorld.run`: calls with arbitrary host and local clocks and engine times.

## Main results

* `run_smoothingInv`: over every run, the multiplier outside a window is the original one.
* `time_multiplier_leaks_after_drift_leaves_band`: a run that leaves the multiplier raised.

Source: `src/data/scripts/local/w3mp_final.ws`, `W3mSmoothTimeReconciliation` and its callers
`W3mReconcileWorldState` and `W3mTestTimeSmoothing`.
-/

namespace WitcherSeamless

/-- The `CR4Player` fields of the time smoothing. -/
structure SmoothingFields where
  timeSmoothingActive : Bool
  originalTimeMultiplier : ℚ
  smoothingStartTime : ℚ
  targetTimeOffset : ℚ
  deriving DecidableEq

/-- What the reconciliation reads and writes: the player's fields, the game's time multiplier and
its clock in game seconds. -/
structure TimeWorld where
  player : SmoothingFields
  timeMultiplier : ℚ
  gameTime : ℤ
  deriving DecidableEq

/-- `smoothingDuration = 3.0`. -/
def smoothingDuration : ℚ := 3

/-- The drift band of the smoothing: `AbsF(timeDiff) >= 5.0 && AbsF(timeDiff) <= 10.0`. -/
def InSmoothingBand (timeDiff : ℚ) : Prop := 5 ≤ |timeDiff| ∧ |timeDiff| ≤ 10

instance (timeDiff : ℚ) : Decidable (InSmoothingBand timeDiff) :=
  inferInstanceAs (Decidable (_ ∧ _))

/-- `W3mSmoothTimeReconciliation(hostGameTime)`, with `theGame.GetEngineTime()` equal to
`engineTime` during the call. -/
def w3mSmoothTimeReconciliation (hostGameTime : ℤ) (engineTime : ℚ) (w : TimeWorld) : TimeWorld :=
  let timeDiff : ℚ := hostGameTime - w.gameTime
  if InSmoothingBand timeDiff then
    let p : SmoothingFields :=
      if !w.player.timeSmoothingActive then ⟨true, w.timeMultiplier, engineTime, timeDiff⟩
      else w.player
    let adjustmentRate := engineTime - p.smoothingStartTime
    if adjustmentRate < smoothingDuration then
      { w with player := p,
               timeMultiplier := p.originalTimeMultiplier + p.targetTimeOffset / smoothingDuration }
    else
      { player := { p with timeSmoothingActive := false },
        timeMultiplier := p.originalTimeMultiplier,
        gameTime := hostGameTime }
  else if 10 < |timeDiff| then { w with gameTime := hostGameTime }
  else w

/-- One reconciliation: the host's clock, the local clock and the engine time when it runs. -/
structure ReconcileCall where
  hostGameTime : ℤ
  localGameTime : ℤ
  engineTime : ℚ

namespace TimeWorld

/-- The game runs until the call, which then finds the local clock at `localGameTime`. -/
def step (w : TimeWorld) (c : ReconcileCall) : TimeWorld :=
  w3mSmoothTimeReconciliation c.hostGameTime c.engineTime { w with gameTime := c.localGameTime }

/-- Reconciliations one after the other. -/
def run (w : TimeWorld) (calls : List ReconcileCall) : TimeWorld := calls.foldl step w

/-! ### The recorded multiplier -/

/-- The multiplier in force outside a window, and the one recorded inside it, is `m`. -/
structure SmoothingInv (m : ℚ) (w : TimeWorld) : Prop where
  multiplier_of_idle : w.player.timeSmoothingActive = false → w.timeMultiplier = m
  original_of_active : w.player.timeSmoothingActive = true → w.player.originalTimeMultiplier = m

theorem SmoothingInv.w3mSmoothTimeReconciliation {m : ℚ} {w : TimeWorld} (h : SmoothingInv m w)
    (hostGameTime : ℤ) (engineTime : ℚ) :
    SmoothingInv m (WitcherSeamless.w3mSmoothTimeReconciliation hostGameTime engineTime w) := by
  cases ha : w.player.timeSmoothingActive
  · -- no window open: the call may open one, recording the multiplier in force
    have hm := h.multiplier_of_idle ha
    simp only [WitcherSeamless.w3mSmoothTimeReconciliation, ha, Bool.not_false, if_true]
    split_ifs <;> constructor <;> simp [hm, ha]
  · -- a window is open: its record is kept or restored
    have hm := h.original_of_active ha
    simp only [WitcherSeamless.w3mSmoothTimeReconciliation, ha, Bool.not_true, Bool.false_eq_true,
      if_false]
    split_ifs <;> constructor <;> simp [hm, ha]

theorem SmoothingInv.step {m : ℚ} {w : TimeWorld} (h : SmoothingInv m w) (c : ReconcileCall) :
    SmoothingInv m (w.step c) :=
  have h' : SmoothingInv m { w with gameTime := c.localGameTime } :=
    ⟨h.multiplier_of_idle, h.original_of_active⟩
  h'.w3mSmoothTimeReconciliation c.hostGameTime c.engineTime

theorem SmoothingInv.run {m : ℚ} {w : TimeWorld} (h : SmoothingInv m w) (calls : List ReconcileCall) :
    SmoothingInv m (w.run calls) := by
  induction calls generalizing w with
  | nil => exact h
  | cons c cs ih => exact ih (h.step c)

/-- Over every run from a state with no window open, the multiplier is the initial one whenever
no window is open, and it is the one each window records. -/
theorem run_smoothingInv (w : TimeWorld) (hw : w.player.timeSmoothingActive = false)
    (calls : List ReconcileCall) : SmoothingInv w.timeMultiplier (w.run calls) :=
  SmoothingInv.run ⟨fun _ => rfl, fun ht => by simp [hw] at ht⟩ calls

/-- The run of `time_multiplier_leaks_after_drift_leaves_band`, from multiplier `1`: its window
records `1`. -/
theorem smoothing_run_records_one :
    (⟨⟨false, 0, 0, 0⟩, 1, 0⟩ : TimeWorld).player.timeSmoothingActive = false ∧
      SmoothingInv (⟨⟨false, 0, 0, 0⟩, 1, 0⟩ : TimeWorld).timeMultiplier
        ((⟨⟨false, 0, 0, 0⟩, 1, 0⟩ : TimeWorld).run [⟨7, 0, 0⟩, ⟨7, 5, 1⟩]) :=
  ⟨rfl, run_smoothingInv _ rfl _⟩

end TimeWorld

/-- From multiplier `1` and no window open: a call with the host 7 s ahead opens a window and
raises the multiplier; the next call, a second later, finds the local clock 2 s behind the host,
outside the band. After it the window is still open and the multiplier is still raised, although
the window recorded `1`. -/
theorem time_multiplier_leaks_after_drift_leaves_band :
    let w : TimeWorld := TimeWorld.run ⟨⟨false, 0, 0, 0⟩, 1, 0⟩ [⟨7, 0, 0⟩, ⟨7, 5, 1⟩]
    ¬ InSmoothingBand (7 - 5) ∧ w.player.timeSmoothingActive = true ∧
      w.player.originalTimeMultiplier = 1 ∧ w.timeMultiplier = 10 / 3 := by
  norm_num [TimeWorld.run, TimeWorld.step, w3mSmoothTimeReconciliation, InSmoothingBand,
    smoothingDuration]

end WitcherSeamless
