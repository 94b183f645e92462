import Mathlib

/-!
# Motion records and their interpolation helpers

A remote player's motion arrives as a `player_state_packet`: a guid, a position and a velocity
(`game::vec4_t`), Euler angles (`game::vec3_t`), a move type and a speed. The interpolator
blends two packets field by field: `lerp(a, b, t) = a + (b - a) * t` for position, velocity and
speed, and `lerp_angle` for the angles, which first brings `b - a` into `[-180, 180]` by the two
loops `while (diff > 180) diff -= 360` and `while (diff < -180) diff += 360`. The guid and the move
type are those of the first packet.

The floating-point fields are modelled in exact arithmetic, as rationals; the scalar helpers are
stated over any ordered field with a floor, so that they also read over the reals, and their loops
are well-founded recursions, which terminate on every input. Arrival and call times are
`steady_clock` instants, integers of nanoseconds, and `duration_cast<milliseconds>` truncates
toward zero (`msCount`).

## Main definitions

* `Vec4`, `Vec3`, `PlayerStatePacket`.
* `lerp`, `subtractTurnsAbove`, `addTurnsBelow`, `lerpAngle`, `clamp01`, `blendPackets`.
* `msCount`.

Source: `src/common/network/interpolator.hpp` (`lerp`, `lerp_angle`, `blend_packets`) and
its `network::protocol` section (`player_state_packet`).
-/

namespace WitcherSeamless

/-- `game::vec4_t` (`Vector`), in exact arithmetic. -/
structure Vec4 where
  x : ℚ
  y : ℚ
  z : ℚ
  w : ℚ
  deriving DecidableEq

/-- `game::vec3_t` (`EulerAngles`), in exact arithmetic. -/
structure Vec3 where
  x : ℚ
  y : ℚ
  z : ℚ
  deriving DecidableEq

/-- `network::protocol::player_state_packet`. -/
structure PlayerStatePacket where
  playerGuid : UInt64
  position : Vec4
  angles : Vec3
  velocity : Vec4
  moveType : BitVec 32
  speed : ℚ
  deriving DecidableEq

/-- `duration_cast<milliseconds>(d).count()` for a duration of `d` nanoseconds. -/
def msCount (d : ℤ) : ℤ := d.tdiv 1000000

/-- `std::clamp(t, 0.0f, 1.0f)`. -/
def clamp01 (t : ℚ) : ℚ := if t < 0 then 0 else if 1 < t then 1 else t

section Scalar

/-! ### The scalar helpers, in any exact arithmetic -/

variable {α : Type*} [LinearOrderedField α]

/-- `lerp(a, b, t)`. -/
def lerp (a b t : α) : α := a + (b - a) * t

/-- The first loop of `lerp_angle`: `while (diff > 180.0f) diff -= 360.0f;`. -/
def subtractTurnsAbove [FloorRing α] (d : α) : α := if h : 180 < d then subtractTurnsAbove (d - 360) else d
termination_by ⌈d⌉.toNat
decreasing_by
  have : (180 : ℤ) < ⌈d⌉ := Int.lt_ceil.2 (by exact_mod_cast h)
  rw [Int.ceil_sub_ofNat]
  omega

/-- The second loop of `lerp_angle`: `while (diff < -180.0f) diff += 360.0f;`. -/
def addTurnsBelow [FloorRing α] (d : α) : α := if h : d < -180 then addTurnsBelow (d + 360) else d
termination_by ⌈-d⌉.toNat
decreasing_by
  have : (180 : ℤ) < ⌈-d⌉ := Int.lt_ceil.2 (by push_cast; linarith)
  rw [neg_add, ← sub_eq_add_neg, Int.ceil_sub_ofNat]
  omega

/-- `lerp_angle(a, b, t)`: interpolate along `b - a` brought into `[-180, 180]`. -/
def lerpAngle [FloorRing α] (a b t : α) : α := a + addTurnsBelow (subtractTurnsAbove (b - a)) * t

end Scalar

/-- `lerp` on every component of a `vec4_t`. -/
def Vec4.lerp (u v : Vec4) (t : ℚ) : Vec4 :=
  ⟨WitcherSeamless.lerp u.x v.x t, WitcherSeamless.lerp u.y v.y t,
    WitcherSeamless.lerp u.z v.z t, WitcherSeamless.lerp u.w v.w t⟩

/-- `lerp_angle` on every component of a `vec3_t`. -/
def Vec3.lerpAngle (u v : Vec3) (t : ℚ) : Vec3 :=
  ⟨WitcherSeamless.lerpAngle u.x v.x t, WitcherSeamless.lerpAngle u.y v.y t,
    WitcherSeamless.lerpAngle u.z v.z t⟩

/-- `blend_packets(from, to, t)`: a copy of `from` with position, angles, velocity and speed
blended toward `to`. The two-snapshot branch of `get_interpolated_state` computes the same copy
of the older snapshot, field by field. -/
def blendPackets (p q : PlayerStatePacket) (t : ℚ) : PlayerStatePacket :=
  { p with
    position := p.position.lerp q.position t
    angles := p.angles.lerpAngle q.angles t
    velocity := p.velocity.lerp q.velocity t
    speed := lerp p.speed q.speed t }

@[simp] theorem lerp_zero {α : Type*} [LinearOrderedField α] (a b : α) :
    lerp a b 0 = a := by simp [lerp]

@[simp] theorem lerpAngle_zero {α : Type*} [LinearOrderedField α] [FloorRing α] (a b : α) :
    lerpAngle a b 0 = a := by simp [lerpAngle]

@[simp] theorem Vec4.lerp_zero (u v : Vec4) : u.lerp v 0 = u := by simp [Vec4.lerp]

@[simp] theorem Vec3.lerpAngle_zero (u v : Vec3) : u.lerpAngle v 0 = u := by
  simp [Vec3.lerpAngle]

/-- Blending at `t = 0` gives the first packet back. -/
@[simp] theorem blendPackets_zero (p q : PlayerStatePacket) : blendPackets p q 0 = p := by
  simp [blendPackets]

@[simp] theorem clamp01_zero : clamp01 0 = 0 := by simp [clamp01]

end WitcherSeamless
