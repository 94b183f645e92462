import WitcherSeamless.Motion.Interpolator

/-!
# The ring buffer of the interpolator

After any sequence of calls, let `k` be the number of `add_snapshot` calls since construction or
the last `reset`. Then `snapshot_count_ = min k 3` and `write_index_ = k mod 3`; the valid slots
are exactly `0 .. snapshot_count_ - 1`; and the `j`-th of those adds (from `0`) lies in slot
`j mod 3` with its own arrival time whenever it is one of the last three. In particular the bracket
search, which only looks below `snapshot_count_`, sees every valid slot, and the readings return
nothing exactly when nothing was added since the last reset.

`RingInv s adds` is the invariant, for `adds` the packets and arrival times added since the last
reset; `RingInv.step` shows that every call keeps it, and `ring_buffer_invariant` states it for
every run from construction.

## Main definitions

* `trackAdds`, `addsSinceReset`, `RingInv`.

## Main results

* `RingInv.step`: one call keeps the invariant.
* `isNone_latestSnapshot_iff`: the most-recent scan finds nothing exactly when no slot is valid.
* `ring_buffer_invariant`.
-/

namespace WitcherSeamless

namespace PlayerInterpolator

/-! ### Readings leave the ring buffer alone -/

theorem handleExtrapolation_ring (s : PlayerInterpolator) (now : ℤ) :
    let s' := (s.handleExtrapolation now).1
    s'.snapshots = s.snapshots ∧ s'.writeIndex = s.writeIndex ∧ s'.snapshotCount = s.snapshotCount := by
  unfold handleExtrapolation
  split <;> simp

theorem applyBlendIfNeeded_ring (s : PlayerInterpolator) (p : PlayerStatePacket) (now : ℤ) :
    let s' := (s.applyBlendIfNeeded p now).1
    s'.snapshots = s.snapshots ∧ s'.writeIndex = s.writeIndex ∧ s'.snapshotCount = s.snapshotCount := by
  have h : let s₁ := s.leaveExtrapolation p now
      s₁.snapshots = s.snapshots ∧ s₁.writeIndex = s.writeIndex ∧
        s₁.snapshotCount = s.snapshotCount := by
    unfold leaveExtrapolation
    split <;> simp [beginBlend]
  obtain ⟨h1, h2, h3⟩ := h
  unfold applyBlendIfNeeded
  dsimp only
  split_ifs <;> exact ⟨h1, h2, h3⟩

theorem getInterpolatedState_ring (s : PlayerInterpolator) (now : ℤ) :
    let s' := (s.getInterpolatedState now).1
    s'.snapshots = s.snapshots ∧ s'.writeIndex = s.writeIndex ∧ s'.snapshotCount = s.snapshotCount := by
  unfold getInterpolatedState
  split_ifs
  · exact handleExtrapolation_ring s now
  · dsimp only
    split
    · split_ifs
      · exact ⟨rfl, rfl, rfl⟩
      · exact applyBlendIfNeeded_ring s _ now
    · exact handleExtrapolation_ring s now

/-! ### What the scans return -/

theorem isNone_foldl_latestStep (l : List Snapshot) (b : Option Snapshot) :
    (l.foldl latestStep b).isNone ↔ b.isNone ∧ ∀ x ∈ l, x.valid = false := by
  induction l generalizing b with
  | nil => simp
  | cons x l ih =>
    rw [List.foldl_cons, ih]
    unfold latestStep
    cases hx : x.valid <;> cases b <;> simp [hx]
    split_ifs <;> simp

theorem mem_slotIndices : ∀ i : Fin 3, i ∈ slotIndices := by decide

/-- The most-recent scan finds nothing exactly when no slot is valid. -/
theorem isNone_latestSnapshot_iff (s : PlayerInterpolator) :
    s.latestSnapshot.isNone ↔ ∀ i, (s.snapshots i).valid = false := by
  rw [latestSnapshot, isNone_foldl_latestStep]
  simp only [Option.isNone_none, true_and, List.forall_mem_map]
  exact ⟨fun h i => h i (mem_slotIndices i), fun h i _ => h i⟩

theorem getMostRecentSnapshot_eq_none_iff (s : PlayerInterpolator) :
    s.getMostRecentSnapshot = none ↔ ∀ i, (s.snapshots i).valid = false := by
  rw [getMostRecentSnapshot, Option.map_eq_none', ← Option.isNone_iff_eq_none,
    isNone_latestSnapshot_iff]

theorem getExtrapolatedPosition_eq_none_iff (s : PlayerInterpolator) (now : ℤ) :
    s.getExtrapolatedPosition now = none ↔ s.getMostRecentSnapshot = none := by
  unfold getExtrapolatedPosition
  split
  · simp [*]
  · rename_i h
    simp only [h, reduceCtorEq, iff_false]
    split
    · simp
    · split_ifs <;> simp

theorem handleExtrapolation_snd (s : PlayerInterpolator) (now : ℤ) :
    (s.handleExtrapolation now).2 = s.getExtrapolatedPosition now := by
  unfold handleExtrapolation
  split <;> simp [*]

/-- A reading of `get_interpolated_state` returns nothing exactly when the most recent snapshot
is absent, provided every slot below the count is valid. -/
theorem getInterpolatedState_eq_none_iff (s : PlayerInterpolator) (now : ℤ)
    (hvalid : ∀ i : Fin 3, i.val < s.snapshotCount → (s.snapshots i).valid = true) :
    (s.getInterpolatedState now).2 = none ↔ s.getMostRecentSnapshot = none := by
  have hext := getExtrapolatedPosition_eq_none_iff s now
  unfold getInterpolatedState
  split_ifs with hc
  · rw [handleExtrapolation_snd, hext]
  · have hsome : s.getMostRecentSnapshot ≠ none := by
      have h0 := hvalid 0 (by simp; omega)
      rw [Ne, getMostRecentSnapshot_eq_none_iff]
      intro h
      simp [h 0] at h0
    dsimp only
    split
    · split_ifs <;> simp [hsome]
    · rw [handleExtrapolation_snd, hext]

end PlayerInterpolator

/-! ### The invariant -/

/-- The adds since the last reset, after one more call. -/
def trackAdds (adds : List (PlayerStatePacket × ℤ)) : InterpolatorCall → List (PlayerStatePacket × ℤ)
  | .addSnapshot p now => adds ++ [(p, now)]
  | .reset => []
  | _ => adds

/-- The packets and arrival times of the `add_snapshot` calls since the last `reset`. -/
def addsSinceReset (calls : List InterpolatorCall) : List (PlayerStatePacket × ℤ) :=
  calls.foldl trackAdds []

/-- The ring buffer holds the last adds since the last reset. -/
structure RingInv (s : PlayerInterpolator) (adds : List (PlayerStatePacket × ℤ)) : Prop where
  count_eq : s.snapshotCount = min adds.length 3
  index_eq : (s.writeIndex : ℕ) = adds.length % 3
  valid_iff : ∀ i : Fin 3, (s.snapshots i).valid = true ↔ i.val < min adds.length 3
  slot_eq : ∀ j (hj : j < adds.length), adds.length ≤ j + 3 →
    s.snapshots ⟨j % 3, Nat.mod_lt _ (by decide)⟩ = ⟨(adds.get ⟨j, hj⟩).1, (adds.get ⟨j, hj⟩).2, true⟩

namespace RingInv

variable {s : PlayerInterpolator} {adds : List (PlayerStatePacket × ℤ)}

theorem init : RingInv .init [] :=
  ⟨rfl, rfl, fun i => by simp [PlayerInterpolator.init, Snapshot.empty], fun j hj => absurd hj (by simp)⟩

theorem reset : RingInv s.reset [] :=
  ⟨rfl, rfl, fun i => by simp [PlayerInterpolator.reset], fun j hj => absurd hj (by simp)⟩

theorem addSnapshot (h : RingInv s adds) (p : PlayerStatePacket) (now : ℤ) :
    RingInv (s.addSnapshot p now) (adds ++ [(p, now)]) := by
  have hc := h.count_eq
  have hw := h.index_eq
  refine ⟨?_, ?_, ?_, ?_⟩
  · simp only [PlayerInterpolator.addSnapshot, snapshotBufferSize, List.length_append,
      List.length_singleton]
    split_ifs <;> omega
  · simp only [PlayerInterpolator.addSnapshot, Fin.val_add, List.length_append,
      List.length_singleton, hw]
    omega
  · intro i
    by_cases hi : i = s.writeIndex
    · subst hi
      simp only [PlayerInterpolator.addSnapshot, Function.update_same, List.length_append,
        List.length_singleton, true_iff]
      omega
    · have hi' : (i : ℕ) ≠ adds.length % 3 := fun e => hi (Fin.ext (e.trans hw.symm))
      simp only [PlayerInterpolator.addSnapshot, Function.update_noteq hi, h.valid_iff,
        List.length_append, List.length_singleton]
      omega
  · intro j hj hk
    simp only [List.length_append, List.length_singleton] at hj hk
    by_cases hjk : j = adds.length
    · subst hjk
      have : (⟨adds.length % 3, Nat.mod_lt _ (by decide)⟩ : Fin 3) = s.writeIndex := Fin.ext hw.symm
      simp [PlayerInterpolator.addSnapshot, this]
    · have hne : (⟨j % 3, Nat.mod_lt _ (by decide)⟩ : Fin 3) ≠ s.writeIndex := by
        intro e
        have := congrArg Fin.val e
        simp only [hw] at this
        omega
      have hj' : j < adds.length := by omega
      simp only [PlayerInterpolator.addSnapshot, Function.update_noteq hne,
        h.slot_eq j hj' (by omega), List.get_eq_getElem, List.getElem_append_left hj']

theorem getInterpolatedState (h : RingInv s adds) (now : ℤ) :
    RingInv (s.getInterpolatedState now).1 adds := by
  obtain ⟨h1, h2, h3⟩ := PlayerInterpolator.getInterpolatedState_ring s now
  exact ⟨h3.trans h.count_eq, h2 ▸ h.index_eq, fun i => h1 ▸ h.valid_iff i,
    fun j hj hk => h1 ▸ h.slot_eq j hj hk⟩

/-- A valid slot holds one of the last three adds, the one whose index it is modulo 3. -/
theorem slot_of_valid (h : RingInv s adds) {i : Fin 3} (hi : (s.snapshots i).valid = true) :
    ∃ j, ∃ hj : j < adds.length, adds.length ≤ j + 3 ∧ j % 3 = i.val ∧
      s.snapshots i = ⟨(adds.get ⟨j, hj⟩).1, (adds.get ⟨j, hj⟩).2, true⟩ := by
  have hi' := (h.valid_iff i).1 hi
  have hlt := i.isLt
  have hslot := h.slot_eq (i.val + 3 * ((adds.length - 1 - i.val) / 3)) (by omega) (by omega)
  have hidx : (⟨(i.val + 3 * ((adds.length - 1 - i.val) / 3)) % 3, Nat.mod_lt _ (by decide)⟩ :
      Fin 3) = i := Fin.ext (by simp only; omega)
  exact ⟨_, _, by omega, by omega, hidx ▸ hslot⟩

/-- The most-recent scan finds nothing exactly when nothing was added since the last reset. -/
theorem getMostRecentSnapshot_eq_none_iff (h : RingInv s adds) :
    s.getMostRecentSnapshot = none ↔ adds.length = 0 := by
  rw [PlayerInterpolator.getMostRecentSnapshot_eq_none_iff]
  refine ⟨fun hn => by_contra fun hk => ?_, fun hk i => by simpa [hk] using h.valid_iff i⟩
  have h0 := (h.valid_iff 0).2 (by simp only [Fin.val_zero]; omega)
  simp [hn 0] at h0

/-- Every call keeps the invariant, with the adds tracked. -/
theorem step (h : RingInv s adds) (c : InterpolatorCall) : RingInv (s.step c).1 (trackAdds adds c) := by
  cases c with
  | addSnapshot p now => exact h.addSnapshot p now
  | getInterpolatedState now => exact h.getInterpolatedState now
  | getExtrapolatedPosition now => exact h
  | getMostRecentSnapshot => exact h
  | reset => exact RingInv.reset

theorem foldl (h : RingInv s adds) (calls : List InterpolatorCall) :
    RingInv (calls.foldl (fun s c => (s.step c).1) s) (calls.foldl trackAdds adds) := by
  induction calls generalizing s adds with
  | nil => exact h
  | cons c cs ih => exact ih (h.step c)

end RingInv

theorem PlayerInterpolator.run_fst (s : PlayerInterpolator) (calls : List InterpolatorCall) :
    (s.run calls).1 = calls.foldl (fun s c => (s.step c).1) s := by
  induction calls generalizing s with
  | nil => rfl
  | cons c cs ih => exact ih _

/-- Every run from construction keeps the invariant, with the adds since the last reset. -/
theorem RingInv.run_init (calls : List InterpolatorCall) :
    RingInv (PlayerInterpolator.init.run calls).1 (addsSinceReset calls) := by
  simpa only [PlayerInterpolator.run_fst] using RingInv.init.foldl calls

/-- The representation invariant of the ring buffer, after every sequence of calls from
construction. With `k` the number of adds since construction or the last reset: the count is
`min k 3`, the write index `k mod 3`, the valid slots are exactly those below the count, the
`j`-th add since the reset (from `0`) sits in slot `j mod 3` with its arrival time while it is one
of the last three, and both `get_most_recent_snapshot` and `get_interpolated_state` return nothing
exactly when `k = 0`. -/
theorem ring_buffer_invariant (calls : List InterpolatorCall) :
    let s := (PlayerInterpolator.init.run calls).1
    let adds := addsSinceReset calls
    s.snapshotCount = min adds.length 3 ∧ (s.writeIndex : ℕ) = adds.length % 3 ∧
    (∀ i : Fin 3, (s.snapshots i).valid = true ↔ i.val < s.snapshotCount) ∧
    (∀ j (hj : j < adds.length), adds.length ≤ j + 3 →
      s.snapshots ⟨j % 3, Nat.mod_lt _ (by decide)⟩ =
        ⟨(adds.get ⟨j, hj⟩).1, (adds.get ⟨j, hj⟩).2, true⟩) ∧
    (s.getMostRecentSnapshot = none ↔ adds.length = 0) ∧
    (∀ now, (s.getInterpolatedState now).2 = none ↔ adds.length = 0) := by
  intro s adds
  have h : RingInv s adds := RingInv.run_init calls
  have hvalid : ∀ i : Fin 3, (s.snapshots i).valid = true ↔ i.val < s.snapshotCount := by
    simpa only [h.count_eq] using h.valid_iff
  refine ⟨h.count_eq, h.index_eq, hvalid, h.slot_eq, h.getMostRecentSnapshot_eq_none_iff,
    fun now => ?_⟩
  rw [PlayerInterpolator.getInterpolatedState_eq_none_iff s now (fun i hi => (hvalid i).2 hi),
    h.getMostRecentSnapshot_eq_none_iff]

end WitcherSeamless
