import WitcherSeamless.Motion.Snapshot

/-!
# Angle wrapping in exact arithmetic

`lerp_angle(a, b, t)` computes `diff = b - a`, runs `while (diff > 180) diff -= 360` and then
`while (diff < -180) diff += 360`, and returns `a + diff * t`. In exact arithmetic, over any ordered
field with a floor (the rationals of the packets, or the reals), both loops exit, and the final
`diff` is the representative of `b - a` modulo 360 in `[-180, 180]`. It is the shortest turn from
`a` to `b`: no other representative is smaller in absolute value. So `lerp_angle` follows the
shorter arc, starts at `a` and ends at an angle congruent to `b`. `blend_packets` and the
two-snapshot branch of `get_interpolated_state` apply it to each Euler angle.

`WhileLoop cond step d d'` is the big-step meaning of `while (cond(d)) d = step(d);`: run from `d`,
the loop exits with `d'`. It is also the meaning of the loops in binary32 arithmetic
(`WitcherSeamless.Motion.Binary32`), where they need not exit.

## Main definitions

* `WhileLoop`, `wrappedDiff`.

## Main results

* `whileLoop_subtractTurnsAbove`, `whileLoop_addTurnsBelow`: the two loops exit, with the values
  the model computes.
* `lerpAngle_shortest_arc`: the range, congruence and minimality of the wrapped difference, and
  the values of `lerp_angle` at `t = 0` and `t = 1`.

Source: `src/common/network/interpolator.hpp`, `lerp_angle`.
-/

namespace WitcherSeamless

/-- The big-step meaning of `while (cond(d)) d = step(d);`: run from `d`, the loop exits with
`d'`. -/
inductive WhileLoop {β : Type*} (cond : β → Prop) (step : β → β) : β → β → Prop
  /-- The condition fails: the loop exits with `d`. -/
  | exit {d : β} : ¬ cond d → WhileLoop cond step d d
  /-- The condition holds: one iteration, then the rest of the loop. -/
  | iter {d d' : β} : cond d → WhileLoop cond step (step d) d' → WhileLoop cond step d d'

namespace WhileLoop

variable {β : Type*} {cond : β → Prop} {step : β → β}

/-- A loop whose condition fails exits at once, with the value it started from. -/
theorem eq_of_not {d d' : β} (h : WhileLoop cond step d d') (hc : ¬ cond d) : d' = d := by
  cases h with
  | exit _ => rfl
  | iter hc' _ => exact absurd hc' hc

/-- A loop entered at a fixed point of its step, with the condition holding there, never
exits. -/
theorem not_of_fixed {d d' : β} (hc : cond d) (hfix : step d = d) : ¬ WhileLoop cond step d d' := by
  intro h
  induction h with
  | exit hn => exact hn hc
  | iter _ _ ih => exact ih (by rw [hfix]; exact hc) (by rw [hfix, hfix])

end WhileLoop

section Exact

variable {α : Type*} [LinearOrderedField α] [FloorRing α]

/-- The value of `diff` after both loops of `lerp_angle(a, b, t)`. -/
def wrappedDiff (a b : α) : α := addTurnsBelow (subtractTurnsAbove (b - a))

theorem lerpAngle_eq (a b t : α) : lerpAngle a b t = a + t * wrappedDiff a b := by
  rw [lerpAngle, wrappedDiff, mul_comm]

/-! ### The two loops -/

theorem whileLoop_subtractTurnsAbove (d : α) :
    WhileLoop (180 < ·) (· - 360) d (subtractTurnsAbove d) := by
  induction d using subtractTurnsAbove.induct with
  | case1 d h ih => rw [subtractTurnsAbove, dif_pos h]; exact .iter h ih
  | case2 d h => rw [subtractTurnsAbove, dif_neg h]; exact .exit h

theorem whileLoop_addTurnsBelow (d : α) :
    WhileLoop (· < -180) (· + 360) d (addTurnsBelow d) := by
  induction d using addTurnsBelow.induct with
  | case1 d h ih => rw [addTurnsBelow, dif_pos h]; exact .iter h ih
  | case2 d h => rw [addTurnsBelow, dif_neg h]; exact .exit h

/-- The first loop ends at or below 180, above -180 once it has run, a whole number of turns
below where it started. -/
theorem subtractTurnsAbove_spec (d : α) :
    subtractTurnsAbove d ≤ 180 ∧ (180 < d → -180 < subtractTurnsAbove d) ∧
      ∃ k : ℕ, subtractTurnsAbove d = d - 360 * k := by
  induction d using subtractTurnsAbove.induct with
  | case1 d h ih =>
    obtain ⟨hle, hlo, k, hk⟩ := ih
    rw [subtractTurnsAbove, dif_pos h]
    refine ⟨hle, fun _ => ?_, k + 1, by rw [hk]; push_cast; ring⟩
    by_cases h' : 180 < d - 360
    · exact hlo h'
    · rw [subtractTurnsAbove, dif_neg h']; linarith
  | case2 d h =>
    rw [subtractTurnsAbove, dif_neg h]
    exact ⟨not_lt.1 h, fun h' => absurd h' h, 0, by simp⟩

/-- The second loop ends at or above -180, below 180 once it has run, a whole number of turns
above where it started. -/
theorem addTurnsBelow_spec (d : α) :
    -180 ≤ addTurnsBelow d ∧ (d < -180 → addTurnsBelow d < 180) ∧
      ∃ k : ℕ, addTurnsBelow d = d + 360 * k := by
  induction d using addTurnsBelow.induct with
  | case1 d h ih =>
    obtain ⟨hge, hhi, k, hk⟩ := ih
    rw [addTurnsBelow, dif_pos h]
    refine ⟨hge, fun _ => ?_, k + 1, by rw [hk]; push_cast; ring⟩
    by_cases h' : d + 360 < -180
    · exact hhi h'
    · rw [addTurnsBelow, dif_neg h']; linarith
  | case2 d h =>
    rw [addTurnsBelow, dif_neg h]
    exact ⟨not_lt.1 h, fun h' => absurd h' h, 0, by simp⟩

theorem wrappedDiff_mem (a b : α) : -180 ≤ wrappedDiff a b ∧ wrappedDiff a b ≤ 180 := by
  obtain ⟨hle, -, -⟩ := subtractTurnsAbove_spec (b - a)
  obtain ⟨hge, hhi, -⟩ := addTurnsBelow_spec (subtractTurnsAbove (b - a))
  refine ⟨hge, ?_⟩
  by_cases h : subtractTurnsAbove (b - a) < -180
  · exact (hhi h).le
  · rw [wrappedDiff, addTurnsBelow, dif_neg h]; exact hle

theorem wrappedDiff_congr (a b : α) : ∃ k : ℤ, wrappedDiff a b = b - a + 360 * k := by
  obtain ⟨-, -, k₁, hk₁⟩ := subtractTurnsAbove_spec (b - a)
  obtain ⟨-, -, k₂, hk₂⟩ := addTurnsBelow_spec (subtractTurnsAbove (b - a))
  exact ⟨k₂ - k₁, by rw [wrappedDiff, hk₂, hk₁]; push_cast; ring⟩

omit [FloorRing α] in
/-- A value in `[-180, 180]` is the smallest of its representatives modulo 360. -/
theorem abs_le_abs_add_turns {w : α} (hw : -180 ≤ w ∧ w ≤ 180) (j : ℤ) :
    |w| ≤ |w + 360 * j| := by
  have hw' : |w| ≤ 180 := abs_le.2 hw
  rcases lt_trichotomy j 0 with hj | rfl | hj
  · have : (j : α) ≤ -1 := by exact_mod_cast Int.le_sub_one_of_lt hj
    calc |w| ≤ 180 := hw'
      _ ≤ -(w + 360 * j) := by linarith
      _ ≤ |w + 360 * j| := neg_le_abs _
  · simp
  · have : (1 : α) ≤ j := by exact_mod_cast hj
    calc |w| ≤ 180 := hw'
      _ ≤ w + 360 * j := by linarith
      _ ≤ |w + 360 * j| := le_abs_self _

/-- Shortest-arc interpolation, in exact arithmetic, for all angles `a` and `b`: both loops of
`lerp_angle` exit, the difference they leave lies in `[-180, 180]`, is congruent to `b - a`
modulo 360 and is the smallest such value in absolute value, and `lerp_angle(a, b, t)` is
`a + t * diff`, equal to `a` at `t = 0` and congruent to `b` at `t = 1`. -/
theorem lerpAngle_shortest_arc (a b : α) :
    WhileLoop (180 < ·) (· - 360) (b - a) (subtractTurnsAbove (b - a)) ∧
    WhileLoop (· < -180) (· + 360) (subtractTurnsAbove (b - a)) (wrappedDiff a b) ∧
    (-180 ≤ wrappedDiff a b ∧ wrappedDiff a b ≤ 180) ∧
    (∃ k : ℤ, wrappedDiff a b = b - a + 360 * k) ∧
    (∀ k : ℤ, |wrappedDiff a b| ≤ |b - a + 360 * k|) ∧
    (∀ t, lerpAngle a b t = a + t * wrappedDiff a b) ∧
    lerpAngle a b 0 = a ∧ ∃ k : ℤ, lerpAngle a b 1 = b + 360 * k := by
  obtain ⟨m, hm⟩ := wrappedDiff_congr a b
  refine ⟨whileLoop_subtractTurnsAbove _, whileLoop_addTurnsBelow _, wrappedDiff_mem a b,
    ⟨m, hm⟩, fun k => ?_, lerpAngle_eq a b, lerpAngle_zero a b, m, ?_⟩
  · have : b - a + 360 * k = wrappedDiff a b + 360 * ((k - m : ℤ) : α) := by
      rw [hm]; push_cast; ring
    rw [this]
    exact abs_le_abs_add_turns (wrappedDiff_mem a b) _
  · rw [lerpAngle_eq, hm]; ring

/-- The spec's case: from 359° to 1° at half way is 360°, a whole turn, not 180°. -/
example : lerpAngle (359 : ℚ) 1 (1 / 2) = 360 := by
  rw [lerpAngle, subtractTurnsAbove, dif_neg (by norm_num), addTurnsBelow, dif_pos (by norm_num),
    addTurnsBelow, dif_neg (by norm_num)]
  norm_num

end Exact

end WitcherSeamless
