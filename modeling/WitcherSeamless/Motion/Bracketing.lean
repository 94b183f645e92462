import WitcherSeamless.Motion.Recovery

/-!
# Bracketing, interpolation bounds and the most recent snapshot

`get_interpolated_state` looks for the two buffered snapshots around the render time
`now - 100 ms`: `older`, valid, at or before it, with the latest arrival (a later stamp replaces
the best so far, an equal one does not), and `newer`, valid, after it, with the earliest arrival.
`get_most_recent_snapshot` scans all three slots in array order for the latest valid stamp, again
replacing only on a strictly later one. All three scans are instances of `scanBest`, a scan that
keeps the best element so far among those it accepts (`foldl_scanBest_spec`).

On every reachable interpolator with no recovery pending, a reading through the two-snapshot
branch brackets the render time exactly and returns `older + (newer - older) * t` on every
position, velocity and speed component, with `t = elapsed / time_diff` in `[0, 1]` even before the
clamp, so each component lies between those of the two snapshots; without both brackets the
reading is the dead-reckoned most recent snapshot (`interpolation_brackets_and_bounds`).

The most recent snapshot is the last one added only while arrival times strictly increase
(`getMostRecentSnapshot_of_increasing`): two adds in the same clock tick leave the earlier packet
in the lower slot, and the strict comparison keeps it (`tied_arrivals_return_earlier_packet`).

## Main definitions

* `PlayerInterpolator.scanBest`, `IsOlderBracket`, `IsNewerBracket`, `linearComponents`.
* `TwoSnapshotReading`, `InterpolationContract`.

## Main results

* `foldl_scanBest_spec`: what a best-so-far scan returns.
* `interpolation_brackets_and_bounds`: the interpolation contract on every reachable state.
* `getMostRecentSnapshot_of_increasing`, `tied_arrivals_return_earlier_packet`.

Source: `src/common/network/interpolator.hpp`, `get_interpolated_state`,
`get_most_recent_snapshot`, `get_latest_snapshot_ptr`, `lerp`.
-/

namespace WitcherSeamless

namespace PlayerInterpolator

/-! ### Best-so-far scans -/

/-- One step of a scan that keeps the best snapshot so far among those `keep` accepts; a later
one replaces it only when it is strictly `better`. -/
def scanBest (keep : Snapshot → Bool) (better : Snapshot → Snapshot → Bool)
    (b : Option Snapshot) (y : Snapshot) : Option Snapshot :=
  if !keep y then b
  else match b with
    | none => some y
    | some z => if better y z then some y else b

/-- One step keeps the best so far (and then an accepted `y` is not better than it), or replaces it
by an accepted `y` better than it. -/
theorem scanBest_cases (keep : Snapshot → Bool) (better : Snapshot → Snapshot → Bool)
    (b : Option Snapshot) (y : Snapshot) :
    (scanBest keep better b y = b ∧ (keep y = true → ∃ z, b = some z ∧ better y z = false)) ∨
      (keep y = true ∧ scanBest keep better b y = some y ∧ ∀ z, b = some z → better y z = true) := by
  unfold scanBest
  cases hk : keep y
  · simp
  · cases b with
    | none => simp
    | some z => cases h : better y z <;> simp [h]

section Scan

variable {keep : Snapshot → Bool} {better : Snapshot → Snapshot → Bool}
  (hirr : ∀ x, better x x = false)
  (htrans : ∀ x y z, better x y = true → better y z = true → better x z = true)
include hirr htrans

/-- An element that `x` equals or beats does not beat `x`. -/
theorem not_better_of_le {x w : Snapshot} (hxw : x = w ∨ better x w = true) :
    better w x = false := by
  rcases hxw with rfl | hxw
  · exact hirr x
  · cases hwx : better w x
    · rfl
    · simpa [hirr x] using htrans x w x hxw hwx

/-- What a best-so-far scan returns: the starting value or an accepted element of the list; no
accepted element is better; and it is the starting value or better than it. -/
theorem foldl_scanBest_spec (l : List Snapshot) (b : Option Snapshot) {x : Snapshot}
    (h : l.foldl (scanBest keep better) b = some x) :
    (b = some x ∨ (x ∈ l ∧ keep x = true)) ∧ (∀ y ∈ l, keep y = true → better y x = false) ∧
      ∀ z, b = some z → x = z ∨ better x z = true := by
  induction l generalizing b with
  | nil =>
    simp only [List.foldl_nil] at h
    exact ⟨.inl h, by simp, fun z hz => .inl (Option.some.inj (h.symm.trans hz))⟩
  | cons y l ih =>
    obtain ⟨h₁, h₂, h₃⟩ := ih _ h
    rcases scanBest_cases keep better b y with ⟨hb, hkept⟩ | ⟨hk, hb, hbeat⟩
    · -- the best so far stays: `y` is rejected, or loses to it
      rw [hb] at h₁ h₃
      refine ⟨h₁.imp_right fun h => ⟨List.mem_cons_of_mem _ h.1, h.2⟩, ?_, h₃⟩
      rintro w hw hkw
      rcases List.mem_cons.1 hw with rfl | hw
      · obtain ⟨z, rfl, hwz⟩ := hkept hkw
        cases hwx : better w x
        · rfl
        · rcases h₃ z rfl with rfl | hxz
          · exact absurd hwx (by rw [hwz]; decide)
          · exact absurd (htrans w x z hwx hxz) (by rw [hwz]; decide)
      · exact h₂ w hw hkw
    · -- `y` replaces the best so far
      rw [hb] at h₁ h₃
      have hxy := h₃ y rfl
      refine ⟨.inr ?_, ?_, fun z hz => ?_⟩
      · rcases h₁ with h | h
        · exact (Option.some.inj h) ▸ ⟨List.mem_cons_self _ _, hk⟩
        · exact ⟨List.mem_cons_of_mem _ h.1, h.2⟩
      · rintro w hw hkw
        rcases List.mem_cons.1 hw with rfl | hw
        · exact not_better_of_le hirr htrans hxy
        · exact h₂ w hw hkw
      · rcases hxy with rfl | hxy
        · exact .inr (hbeat z hz)
        · exact .inr (htrans _ _ _ hxy (hbeat z hz))

end Scan

/-- A scan that accepts some element of the list returns something. -/
theorem foldl_scanBest_isSome (keep : Snapshot → Bool) (better : Snapshot → Snapshot → Bool)
    (l : List Snapshot) (b : Option Snapshot) (h : b.isSome ∨ ∃ y ∈ l, keep y = true) :
    (l.foldl (scanBest keep better) b).isSome := by
  induction l generalizing b with
  | nil => simpa using h
  | cons y l ih =>
    apply ih
    by_cases hk : keep y = true
    · left
      cases b with
      | none => simp [scanBest, hk]
      | some z => simp only [scanBest, hk]; split_ifs <;> rfl
    · rcases h with h | ⟨w, hw, hkw⟩
      · left; simpa [scanBest, hk] using h
      · rcases List.mem_cons.1 hw with rfl | hw
        · exact absurd hkw hk
        · exact .inr ⟨w, hw, hkw⟩

/-- The most-recent scan keeps the latest valid stamp. -/
theorem latestStep_eq : latestStep = scanBest (·.valid) fun y z => decide (z.timestamp < y.timestamp) := by
  funext b y
  unfold latestStep scanBest
  cases b <;> simp

/-- One step of the bracket search is a step of each of two scans: the latest valid stamp at or
before the render time, and the earliest after it. -/
theorem bracketStep_eq (r : ℤ) (a b : Option Snapshot) (y : Snapshot) :
    bracketStep r (a, b) y =
      (scanBest (fun y => y.valid && decide (y.timestamp ≤ r))
          (fun y z => decide (z.timestamp < y.timestamp)) a y,
        scanBest (fun y => y.valid && decide (r < y.timestamp))
          (fun y z => decide (y.timestamp < z.timestamp)) b y) := by
  unfold bracketStep scanBest
  cases hv : y.valid
  · simp [hv]
  · by_cases hr : y.timestamp ≤ r
    · cases a with
      | none => simp [hv, hr, not_lt.2 hr]
      | some o => by_cases ho : o.timestamp < y.timestamp <;> simp [hv, hr, not_lt.2 hr, ho]
    · cases b with
      | none => simp [hv, hr, lt_of_not_le hr]
      | some n => by_cases hn : y.timestamp < n.timestamp <;> simp [hv, hr, lt_of_not_le hr, hn]

/-- The bracket search is the two scans side by side. -/
theorem foldl_bracketStep (r : ℤ) (l : List Snapshot) (a b : Option Snapshot) :
    l.foldl (bracketStep r) (a, b) =
      (l.foldl (scanBest (fun y => y.valid && decide (y.timestamp ≤ r))
          fun y z => decide (z.timestamp < y.timestamp)) a,
        l.foldl (scanBest (fun y => y.valid && decide (r < y.timestamp))
          fun y z => decide (y.timestamp < z.timestamp)) b) := by
  induction l generalizing a b with
  | nil => rfl
  | cons y l ih => rw [List.foldl_cons, bracketStep_eq, ih]; rfl

/-! ### The brackets -/

/-- `o` is a valid buffered snapshot with the greatest arrival time at or before `renderTime`. -/
def IsOlderBracket (s : PlayerInterpolator) (renderTime : ℤ) (o : Snapshot) : Prop :=
  (∃ i, s.snapshots i = o) ∧ o.valid = true ∧ o.timestamp ≤ renderTime ∧
    ∀ i, (s.snapshots i).valid = true → (s.snapshots i).timestamp ≤ renderTime →
      (s.snapshots i).timestamp ≤ o.timestamp

/-- `n` is a valid buffered snapshot with the least arrival time after `renderTime`. -/
def IsNewerBracket (s : PlayerInterpolator) (renderTime : ℤ) (n : Snapshot) : Prop :=
  (∃ i, s.snapshots i = n) ∧ n.valid = true ∧ renderTime < n.timestamp ∧
    ∀ i, (s.snapshots i).valid = true → renderTime < (s.snapshots i).timestamp →
      n.timestamp ≤ (s.snapshots i).timestamp

section Brackets

variable {s : PlayerInterpolator} {r : ℤ}
  (hvalid : ∀ i : Fin 3, (s.snapshots i).valid = true → i.val < s.snapshotCount)
include hvalid

/-- Every valid slot is one the bracket search reads. -/
theorem mem_bracketSlots (i : Fin 3) (hi : (s.snapshots i).valid = true) :
    s.snapshots i ∈ (slotIndices.filter (·.val < s.snapshotCount)).map s.snapshots :=
  List.mem_map.2 ⟨i, List.mem_filter.2 ⟨mem_slotIndices i, by simpa using hvalid i hi⟩, rfl⟩

/-- A bracket scan over the slots the search reads returns a buffered snapshot that it accepts,
and no valid slot it accepts beats it. -/
theorem scan_bracketSlots_spec {keep : Snapshot → Bool} {better : Snapshot → Snapshot → Bool}
    (hirr : ∀ x, better x x = false)
    (htrans : ∀ x y z, better x y = true → better y z = true → better x z = true) {x : Snapshot}
    (h : ((slotIndices.filter (·.val < s.snapshotCount)).map s.snapshots).foldl
      (scanBest keep better) none = some x) :
    (∃ i, s.snapshots i = x) ∧ keep x = true ∧ ∀ i, (s.snapshots i).valid = true →
      keep (s.snapshots i) = true → better (s.snapshots i) x = false := by
  obtain ⟨h₁ | ⟨hmem, hk⟩, h₂, -⟩ := foldl_scanBest_spec hirr htrans _ _ h
  · cases h₁
  obtain ⟨i, -, rfl⟩ := List.mem_map.1 hmem
  exact ⟨⟨i, rfl⟩, hk, fun j hj => h₂ _ (mem_bracketSlots hvalid j hj)⟩

theorem isOlderBracket_of_findBracket {o : Snapshot} (h : (s.findBracket r).1 = some o) :
    s.IsOlderBracket r o := by
  rw [findBracket, foldl_bracketStep] at h
  obtain ⟨hi, hk, hbest⟩ := scan_bracketSlots_spec hvalid (by simp)
    (fun x y z hxy hyz => by simp only [decide_eq_true_eq] at *; omega) h
  simp only [Bool.and_eq_true, decide_eq_true_eq] at hk
  exact ⟨hi, hk.1, hk.2, fun j hj hjr => by simpa using hbest j hj (by simp [hj, hjr])⟩

theorem isNewerBracket_of_findBracket {n : Snapshot} (h : (s.findBracket r).2 = some n) :
    s.IsNewerBracket r n := by
  rw [findBracket, foldl_bracketStep] at h
  obtain ⟨hi, hk, hbest⟩ := scan_bracketSlots_spec hvalid (by simp)
    (fun x y z hxy hyz => by simp only [decide_eq_true_eq] at *; omega) h
  simp only [Bool.and_eq_true, decide_eq_true_eq] at hk
  exact ⟨hi, hk.1, hk.2, fun j hj hjr => by simpa using hbest j hj (by simp [hj, hjr])⟩

end Brackets

/-! ### The reading -/

/-- With the render time between the brackets, `elapsed / time_diff` lies in `[0, 1]` before
the clamp: millisecond truncation cannot push `elapsed` past `time_diff`. -/
theorem bracketFraction_mem {o n : Snapshot} {r : ℤ} (ho : o.timestamp ≤ r) (hn : r < n.timestamp)
    (hd : msCount (n.timestamp - o.timestamp) ≠ 0) :
    0 ≤ bracketFraction o n r ∧ bracketFraction o n r ≤ 1 := by
  have he : 0 ≤ msCount (r - o.timestamp) := Int.tdiv_nonneg (by omega) (by norm_num)
  have hle : msCount (r - o.timestamp) ≤ msCount (n.timestamp - o.timestamp) := by
    unfold msCount
    rw [Int.tdiv_eq_ediv (by omega) (by norm_num), Int.tdiv_eq_ediv (by omega) (by norm_num)]
    omega
  have hpos : (0 : ℚ) < msCount (n.timestamp - o.timestamp) := by exact_mod_cast (by omega)
  unfold bracketFraction
  exact ⟨div_nonneg (by exact_mod_cast he) hpos.le, (div_le_one hpos).2 (by exact_mod_cast hle)⟩

/-- The branch for bracketing arrivals less than a millisecond apart returns the older one. -/
theorem getInterpolatedState_of_bracket_tie {s : PlayerInterpolator} {now : ℤ} {o n : Snapshot}
    (hc : ¬ s.snapshotCount < 2)
    (hb : s.findBracket (now - interpolationDelayNs) = (some o, some n))
    (hd : msCount (n.timestamp - o.timestamp) = 0) :
    (s.getInterpolatedState now).2 = some o.state := by
  simp [getInterpolatedState, hc, hb, hd]

/-- Without both brackets, the reading is the extrapolated most recent snapshot. -/
theorem getInterpolatedState_of_no_bracket (s : PlayerInterpolator) (now : ℤ)
    (h : s.snapshotCount < 2 ∨ (s.findBracket (now - interpolationDelayNs)).1 = none ∨
      (s.findBracket (now - interpolationDelayNs)).2 = none) :
    (s.getInterpolatedState now).2 = s.getExtrapolatedPosition now := by
  unfold getInterpolatedState
  split_ifs with hc
  · exact handleExtrapolation_snd s now
  · dsimp only
    split
    · rename_i o n hb
      simp only [hb, reduceCtorEq, or_false] at h
      exact absurd h hc
    · exact handleExtrapolation_snd s now

end PlayerInterpolator

/-- The position, velocity and speed components of a packet: those `lerp` blends. -/
def linearComponents : List (PlayerStatePacket → ℚ) :=
  [(·.position.x), (·.position.y), (·.position.z), (·.position.w),
    (·.velocity.x), (·.velocity.y), (·.velocity.z), (·.velocity.w), (·.speed)]

theorem blendPackets_linear (p q : PlayerStatePacket) (t : ℚ) :
    ∀ f ∈ linearComponents, f (blendPackets p q t) = lerp (f p) (f q) t := by
  simp [linearComponents, blendPackets, Vec4.lerp]

theorem clamp01_of_mem {t : ℚ} (h₀ : 0 ≤ t) (h₁ : t ≤ 1) : clamp01 t = t := by
  simp [clamp01, not_lt.2 h₀, not_lt.2 h₁]

/-- A blend at a fraction in `[0, 1]` lies between its ends. -/
theorem lerp_mem (a b : ℚ) {t : ℚ} (h₀ : 0 ≤ t) (h₁ : t ≤ 1) :
    min a b ≤ lerp a b t ∧ lerp a b t ≤ max a b := by
  unfold lerp
  rcases le_total a b with h | h
  · rw [min_eq_left h, max_eq_right h]; constructor <;> nlinarith
  · rw [min_eq_right h, max_eq_left h]; constructor <;> nlinarith

/-! ### The interpolation contract -/

/-- What a two-snapshot reading of `get_interpolated_state` at `now` returns: the brackets are
the latest valid snapshot at or before the render time and the earliest after it, and every
position, velocity and speed component of the reading is `older + (newer - older) * t` for a `t`
in `[0, 1]`, the fraction `elapsed / time_diff` when the arrivals are a millisecond or more apart,
so it lies between the two snapshots' components. -/
structure TwoSnapshotReading (s : PlayerInterpolator) (now : ℤ) (o n : Snapshot) : Prop where
  older : s.IsOlderBracket (now - interpolationDelayNs) o
  newer : s.IsNewerBracket (now - interpolationDelayNs) n
  reading : ∃ (t : ℚ) (p : PlayerStatePacket), 0 ≤ t ∧ t ≤ 1 ∧
    (msCount (n.timestamp - o.timestamp) ≠ 0 →
      t = PlayerInterpolator.bracketFraction o n (now - interpolationDelayNs)) ∧
    (s.getInterpolatedState now).2 = some p ∧
    ∀ f ∈ linearComponents, f p = f o.state + (f n.state - f o.state) * t ∧
      min (f o.state) (f n.state) ≤ f p ∧ f p ≤ max (f o.state) (f n.state)

/-- The interpolation contract of a reading at `now`: through the two-snapshot branch it is a
`TwoSnapshotReading`, and without both brackets it is the extrapolated most recent snapshot. -/
def InterpolationContract (s : PlayerInterpolator) (now : ℤ) : Prop :=
  (∀ o n, ¬ s.snapshotCount < 2 → s.findBracket (now - interpolationDelayNs) = (some o, some n) →
    TwoSnapshotReading s now o n) ∧
  (s.snapshotCount < 2 ∨ (s.findBracket (now - interpolationDelayNs)).1 = none ∨
      (s.findBracket (now - interpolationDelayNs)).2 = none →
    (s.getInterpolatedState now).2 = s.getExtrapolatedPosition now)

/-- Interpolation bracketing and bounds, in exact arithmetic: on every reachable interpolator
with no recovery blend pending, every reading satisfies the interpolation contract. -/
theorem interpolation_brackets_and_bounds (calls : List InterpolatorCall) (now : ℤ)
    (hx : (PlayerInterpolator.init.run calls).1.inExtrapolation = false)
    (hb : (PlayerInterpolator.init.run calls).1.blendActive = false) :
    InterpolationContract (PlayerInterpolator.init.run calls).1 now := by
  have h := RingInv.run_init calls
  generalize (PlayerInterpolator.init.run calls).1 = s at h hx hb ⊢
  have hvalid : ∀ i : Fin 3, (s.snapshots i).valid = true → i.val < s.snapshotCount :=
    fun i hi => h.count_eq ▸ (h.valid_iff i).1 hi
  refine ⟨fun o n hc hbr => ?_, PlayerInterpolator.getInterpolatedState_of_no_bracket s now⟩
  have ho := PlayerInterpolator.isOlderBracket_of_findBracket hvalid (by rw [hbr])
  have hn := PlayerInterpolator.isNewerBracket_of_findBracket hvalid (by rw [hbr])
  refine ⟨ho, hn, ?_⟩
  by_cases hd : msCount (n.timestamp - o.timestamp) = 0
  · -- arrivals less than a millisecond apart: the older snapshot, at `t = 0`
    exact ⟨0, o.state, le_rfl, zero_le_one, fun h => absurd hd h,
      PlayerInterpolator.getInterpolatedState_of_bracket_tie hc hbr hd,
      fun f _ => ⟨by ring, min_le_left _ _, le_max_left _ _⟩⟩
  · obtain ⟨h₀, h₁⟩ := PlayerInterpolator.bracketFraction_mem ho.2.2.1 hn.2.2.1 hd
    refine ⟨_, blendPackets o.state n.state
      (PlayerInterpolator.bracketFraction o n (now - interpolationDelayNs)), h₀, h₁, fun _ => rfl, ?_,
      fun f hf => ?_⟩
    · rw [PlayerInterpolator.getInterpolatedState_of_bracket hc hbr hd,
        PlayerInterpolator.applyBlendIfNeeded_of_idle hx hb, clamp01_of_mem h₀ h₁]
    · rw [blendPackets_linear _ _ _ f hf]
      exact ⟨rfl, lerp_mem _ _ h₀ h₁⟩

/-- Two snapshots 50 ms apart and no reading yet: no recovery is pending. -/
theorem interpolation_brackets_two_adds :
    (PlayerInterpolator.init.run [.addSnapshot (restingAt 0) 0,
        .addSnapshot (restingAt 1) 50000000]).1.inExtrapolation = false ∧
      (PlayerInterpolator.init.run [.addSnapshot (restingAt 0) 0,
        .addSnapshot (restingAt 1) 50000000]).1.blendActive = false ∧
      InterpolationContract (PlayerInterpolator.init.run [.addSnapshot (restingAt 0) 0,
        .addSnapshot (restingAt 1) 50000000]).1 125000000 :=
  ⟨rfl, rfl, interpolation_brackets_and_bounds _ _ rfl rfl⟩

/-! ### The most recent snapshot -/

/-- While the arrival times of the adds since the last reset strictly increase, the most recent
snapshot is the packet of the last of them. -/
theorem getMostRecentSnapshot_of_increasing (calls : List InterpolatorCall)
    (hinc : ((addsSinceReset calls).map Prod.snd).Pairwise (· < ·)) :
    (PlayerInterpolator.init.run calls).1.getMostRecentSnapshot =
      (addsSinceReset calls).getLast?.map Prod.fst := by
  have h := RingInv.run_init calls
  generalize (PlayerInterpolator.init.run calls).1 = s at h
  generalize addsSinceReset calls = adds at h hinc
  rcases Nat.eq_zero_or_pos adds.length with h0 | hpos
  · -- nothing was added since the reset: no slot is valid
    have hnone : s.latestSnapshot = none := by
      rw [← Option.isNone_iff_eq_none, PlayerInterpolator.isNone_latestSnapshot_iff]
      intro i
      simpa [h0] using h.valid_iff i
    simp [PlayerInterpolator.getMostRecentSnapshot, hnone, List.eq_nil_of_length_eq_zero h0]
  · have hlast := h.slot_eq (adds.length - 1) (by omega) (by omega)
    have hlast_valid : (s.snapshots ⟨(adds.length - 1) % 3, Nat.mod_lt _ (by decide)⟩).valid =
        true := by rw [hlast]
    have hscan := PlayerInterpolator.latestStep_eq ▸
      (show s.latestSnapshot = (PlayerInterpolator.slotIndices.map s.snapshots).foldl
        PlayerInterpolator.latestStep none from rfl)
    obtain ⟨x, hx⟩ := Option.isSome_iff_exists.1 (hscan ▸ PlayerInterpolator.foldl_scanBest_isSome
      _ _ _ none (.inr ⟨_, List.mem_map_of_mem _ (PlayerInterpolator.mem_slotIndices _),
        hlast_valid⟩))
    obtain ⟨h₁ | ⟨hmem, hkx⟩, h₂, -⟩ := PlayerInterpolator.foldl_scanBest_spec (by simp)
      (fun x y z hxy hyz => by simp only [decide_eq_true_eq] at *; omega) _ _ (hscan ▸ hx)
    · cases h₁
    obtain ⟨i, -, rfl⟩ := List.mem_map.1 hmem
    obtain ⟨j, hj, -, -, hslot⟩ := h.slot_of_valid hkx
    -- the slot holds the last add: an earlier one has an earlier stamp than the last slot's
    have hge := h₂ _ (List.mem_map_of_mem _ (PlayerInterpolator.mem_slotIndices _)) hlast_valid
    rw [hlast, hslot] at hge
    simp only [decide_eq_false_iff_not, not_lt] at hge
    have hjk : j = adds.length - 1 := by
      by_contra hne
      have := List.pairwise_iff_getElem.1 hinc j (adds.length - 1) (by simpa using hj)
        (by simp; omega) (by omega)
      simp only [List.getElem_map] at this
      simp only [List.get_eq_getElem] at hge
      exact absurd hge (not_le.2 this)
    subst hjk
    rw [PlayerInterpolator.getMostRecentSnapshot, hx, hslot, List.getLast?_eq_getElem?,
      List.getElem?_eq_getElem (by omega)]
    rfl

/-- Two packets arriving in the same clock tick: the most recent snapshot, and the base of dead
reckoning, is the first of them, not the last one added. -/
theorem tied_arrivals_return_earlier_packet :
    let s : PlayerInterpolator := (PlayerInterpolator.init.run
      [.addSnapshot (restingAt 0) 0, .addSnapshot (restingAt 1) 0]).1
    s.getMostRecentSnapshot = some (restingAt 0) ∧ s.getExtrapolatedPosition 0 = some (restingAt 0) ∧
      restingAt 0 ≠ restingAt 1 := by
  decide

end WitcherSeamless
