import WitcherSeamless.Motion.AngleWrap

/-!
# The angle loops of `lerp_angle` on `float`s

`lerp_angle` works on `float`s, IEEE 754 binary32 with round to nearest, ties to even, each
operation rounded once (no excess precision). The packets carry these values as they were sent,
with no range check, so an angle may be infinite or very large. On such values the loops
`while (diff > 180.0f) diff -= 360.0f` and `while (diff < -180.0f) diff += 360.0f` need not exit:
an infinity absorbs the 360, and from `2^33` on the spacing of `float`s is 1024, so `diff - 360`
rounds back to `diff` whenever the nearest `float` to it is `diff` itself. Below `2^27` every
`diff ∓ 360.0f` the loops compute is exact, and they run as the exact loops do.

A datum is the bit-level triple (sign, exponent field, fraction field), and `decode` gives its
value (IEEE 754 §3.4). Every finite datum is a whole multiple of the least subnormal `2^-149`;
`decode` gives its magnitude in that unit, so the exact sum of two finite data is an integer and
is rounded once by `roundTo`.

## Main definitions

* `Binary32`, `Binary32.decode`, `Binary32.add`, `Binary32.sub`, `Binary32.lt`.
* `Binary32.LerpAngleDiff a b d`: the loops of `lerp_angle(a, b, t)` exit with `diff = d`.

## Main results

* `Binary32.decode_add_exact`: a sum that fits the operands' common spacing is exact.
* `Binary32.lerpAngleDiff_of_denotes`: below `2^27` the loops exit with the exact wrapped value
  (`lerpAngle_shortest_arc`), so the `float` model refines the exact one there.
* `Binary32.sub_inf`, `Binary32.add_inf`: an infinity absorbs every finite operand.
* `Binary32.lerp_angle_loops_never_exit`: `lerp_angle` does not return when `b - a` is `+∞`
  (`a = +0`, `b = +∞`) or `-∞` (`a = +∞`, `b = +0`), nor for `a = +0` and `b = 2^33 + 1024`.

Source: `src/common/network/interpolator.hpp`, `lerp_angle` and `player_state_packet`.
-/

namespace WitcherSeamless

/-- An IEEE 754 binary32 datum (`float`): the sign bit, the 8-bit biased exponent field and the
23-bit fraction field. -/
structure Binary32 where
  sign : Bool
  exponent : Fin 256
  fraction : Fin (2 ^ 23)
  deriving DecidableEq

/-- What a `float` denotes: a signed magnitude in units of `2^-149`, an infinity, or NaN. -/
inductive Binary32Value
  | fin (s : Bool) (mag : Nat)
  | inf (s : Bool)
  | nan
  deriving DecidableEq

/-! ### Rounding -/

/-- The number of bits of `n`, at most `fuel`. -/
def bitLengthAux : Nat → Nat → Nat
  | 0, _ => 0
  | fuel + 1, n => if n = 0 then 0 else bitLengthAux fuel (n / 2) + 1

/-- The number of bits of `n`; it has fewer than `n + 1`. -/
def bitLength (n : Nat) : Nat := bitLengthAux n n

/-- `n / p` rounded to nearest, ties to even. -/
def rne (n p : Nat) : Nat :=
  if 2 * (n % p) < p then n / p
  else if p < 2 * (n % p) then n / p + 1
  else if n / p % 2 = 0 then n / p else n / p + 1

/-- A magnitude rounded to 24 significant bits, to nearest with ties to even; exact below `2^24`. -/
def roundMag (n : Nat) : Nat :=
  let q := bitLength n - 24
  rne n (2 ^ q) * 2 ^ q

/-- The largest finite magnitude, `(2 - 2^-23) * 2^127` in units of `2^-149`. -/
def maxMag : Nat := (2 ^ 24 - 1) * 2 ^ 253

/-- `bitLength n ≤ k` says exactly that `n < 2^k`. -/
theorem bitLengthAux_le_iff : ∀ {fuel n : Nat}, n ≤ fuel → ∀ k, bitLengthAux fuel n ≤ k ↔ n < 2 ^ k
  | 0, n, hn, k => by
    obtain rfl : n = 0 := Nat.le_zero.1 hn
    simp [bitLengthAux, Nat.two_pow_pos]
  | fuel + 1, n, hn, k => by
    rw [bitLengthAux]
    split_ifs with h0
    · simp [h0, Nat.two_pow_pos]
    · cases k with
      | zero => simp only [Nat.pow_zero]; omega
      | succ k =>
        rw [Nat.add_le_add_iff_right, bitLengthAux_le_iff (by omega) k,
          Nat.div_lt_iff_lt_mul (by decide), Nat.pow_succ]

theorem bitLength_le_iff (n k : Nat) : bitLength n ≤ k ↔ n < 2 ^ k :=
  bitLengthAux_le_iff le_rfl k

theorem lt_two_pow_bitLength (n : Nat) : n < 2 ^ bitLength n :=
  (bitLength_le_iff n _).1 le_rfl

theorem two_pow_le_of_lt_bitLength {n k : Nat} (h : k < bitLength n) : 2 ^ k ≤ n :=
  Nat.not_lt.1 fun h' => absurd ((bitLength_le_iff n k).2 h') (Nat.not_le.2 h)

theorem rne_of_dvd {n p : Nat} (hp : 0 < p) (h : p ∣ n) : rne n p = n / p := by
  simp [rne, Nat.mod_eq_zero_of_dvd h, hp]

/-- A multiple of `2^k` below `2^(k + 24)` has at most 24 significant bits: rounding keeps it. -/
theorem roundMag_of_dvd {n k : Nat} (hk : 2 ^ k ∣ n) (hn : n < 2 ^ (k + 24)) : roundMag n = n := by
  have hq : bitLength n - 24 ≤ k := by have := (bitLength_le_iff n (k + 24)).2 hn; omega
  have hdvd : 2 ^ (bitLength n - 24) ∣ n := (Nat.pow_dvd_pow 2 hq).trans hk
  show rne n (2 ^ (bitLength n - 24)) * 2 ^ (bitLength n - 24) = n
  rw [rne_of_dvd (Nat.two_pow_pos _) hdvd, Nat.div_mul_cancel hdvd]

theorem le_maxMag_of_dvd {n k : Nat} (hk : 2 ^ k ∣ n) (hn : n < 2 ^ (k + 24)) (hk253 : k ≤ 253) :
    n ≤ maxMag := by
  obtain ⟨c, rfl⟩ := hk
  have hc : c < 2 ^ 24 := by
    rw [Nat.pow_add] at hn
    exact Nat.lt_of_mul_lt_mul_left hn
  calc 2 ^ k * c ≤ 2 ^ 253 * (2 ^ 24 - 1) :=
        Nat.mul_le_mul (Nat.pow_le_pow_right (by decide) hk253) (by omega)
    _ = maxMag := Nat.mul_comm _ _

namespace Binary32

/-- What a datum denotes (IEEE 754 §3.4): exponent field 255 is an infinity or NaN, 0 a subnormal,
and otherwise the fraction has an implicit leading bit. -/
def decode (x : Binary32) : Binary32Value :=
  if x.exponent.val = 255 then (if x.fraction.val = 0 then .inf x.sign else .nan)
  else if x.exponent.val = 0 then .fin x.sign x.fraction.val
  else .fin x.sign ((2 ^ 23 + x.fraction.val) * 2 ^ (x.exponent.val - 1))

/-- The infinity of sign `s`. -/
def inf (s : Bool) : Binary32 := ⟨s, 255, 0⟩

/-- The default quiet NaN. -/
def nan : Binary32 := ⟨false, 255, ⟨2 ^ 22, by decide⟩⟩

/-- The zero of sign `s`. -/
def zero (s : Bool) : Binary32 := ⟨s, 0, 0⟩

/-- The datum of a magnitude `r` with at most 24 significant bits, no larger than `maxMag`: a
subnormal below `2^23`, and otherwise the exponent field one above the scale of the 24-bit
significand, whose leading bit is implicit. -/
def encode (s : Bool) (r : Nat) : Binary32 :=
  let q := bitLength r - 24
  ⟨s, if r < 2 ^ 23 then 0 else ⟨(q + 1) % 256, Nat.mod_lt _ (by decide)⟩,
    ⟨r / 2 ^ q % 2 ^ 23, Nat.mod_lt _ (by decide)⟩⟩

/-- A nonzero exact magnitude rounded into the format, infinity on overflow. -/
def roundTo (s : Bool) (n : Nat) : Binary32 :=
  if roundMag n ≤ maxMag then encode s (roundMag n) else inf s

/-- The signed value of a finite magnitude. -/
def signed (s : Bool) (n : Nat) : Int := if s then -(n : Int) else n

/-- `-x`: the sign bit flipped. -/
def neg (x : Binary32) : Binary32 := { x with sign := !x.sign }

/-- `x + y` (IEEE 754 §5.4.1, §6): a NaN operand gives NaN, `∞ + (-∞)` gives NaN, an infinity
absorbs every finite operand, and two finite operands give their exact sum rounded once, with
infinity on overflow and `-0` only for two negative operands when the sum is exactly zero. -/
def add (x y : Binary32) : Binary32 :=
  match x.decode, y.decode with
  | .nan, _ => nan
  | _, .nan => nan
  | .inf sx, .inf sy => if sx = sy then inf sx else nan
  | .inf sx, .fin _ _ => inf sx
  | .fin _ _, .inf sy => inf sy
  | .fin sx nx, .fin sy ny =>
    let S := signed sx nx + signed sy ny
    if S = 0 then zero (sx && sy) else roundTo (decide (S < 0)) S.natAbs

/-- `x - y`, which IEEE 754 defines as `x + (-y)`. -/
def sub (x y : Binary32) : Binary32 := x.add y.neg

/-- `x < y` (IEEE 754 §5.11): false when either is NaN, and `-0 = +0`. -/
def lt (x y : Binary32) : Bool :=
  match x.decode, y.decode with
  | .nan, _ => false
  | _, .nan => false
  | .inf sx, .inf sy => sx && !sy
  | .inf sx, .fin _ _ => sx
  | .fin _ _, .inf sy => !sy
  | .fin sx nx, .fin sy ny => decide (signed sx nx < signed sy ny)

/-- `180.0f`, `0x43340000`. -/
def c180 : Binary32 := ⟨false, 134, ⟨3407872, by decide⟩⟩

/-- `-180.0f`, `0xC3340000`. -/
def cNeg180 : Binary32 := ⟨true, 134, ⟨3407872, by decide⟩⟩

/-- `360.0f`, `0x43B40000`. -/
def c360 : Binary32 := ⟨false, 135, ⟨3407872, by decide⟩⟩

theorem decode_inf (s : Bool) : (inf s).decode = .inf s := rfl

theorem decode_neg_fin {x : Binary32} {s : Bool} {n : Nat} (h : x.decode = .fin s n) :
    x.neg.decode = .fin (!s) n := by
  unfold decode at h ⊢
  split_ifs at h ⊢ <;> simp_all [neg]

theorem decode_constants : c180.decode = .fin false (180 * 2 ^ 149) ∧
    cNeg180.decode = .fin true (180 * 2 ^ 149) ∧ c360.decode = .fin false (360 * 2 ^ 149) := by
  decide

/-! ### Infinities -/

section Infinity

variable {y : Binary32} {sy : Bool} {ny : Nat}

theorem add_inf (s : Bool) (hy : y.decode = .fin sy ny) : (inf s).add y = inf s := by
  simp only [add, decode_inf, hy]

/-- An infinity minus any finite value is that infinity. -/
theorem sub_inf (s : Bool) (hy : y.decode = .fin sy ny) : (inf s).sub y = inf s :=
  add_inf s (decode_neg_fin hy)

/-- A finite value minus an infinity is the opposite infinity. -/
theorem fin_sub_inf (s : Bool) (hy : y.decode = .fin sy ny) : y.sub (inf s) = inf (!s) := by
  simp only [sub, add, hy]
  rfl

/-- `+∞` is above every finite value, `-∞` below. -/
theorem lt_inf (hy : y.decode = .fin sy ny) : y.lt (inf false) = true ∧ (inf true).lt y = true := by
  simp only [lt, hy, decode_inf]
  decide

/-- No finite value is above `-∞`. -/
theorem not_lt_neg_inf (hy : y.decode = .fin sy ny) : y.lt (inf true) = false := by
  simp only [lt, hy, decode_inf]
  decide

end Infinity

/-! ### Exact sums -/

@[simp] theorem signed_true (n : Nat) : signed true n = -(n : Int) := rfl

@[simp] theorem signed_false (n : Nat) : signed false n = n := rfl

theorem signed_natAbs (S : Int) : signed (decide (S < 0)) S.natAbs = S := by
  unfold signed
  split_ifs with hs <;> simp only [decide_eq_true_eq] at hs <;> omega

theorem natAbs_signed (s : Bool) (n : Nat) : (signed s n).natAbs = n := by
  cases s <;> simp [signed]

theorem dvd_signed {m n : Nat} (h : m ∣ n) (s : Bool) : (m : Int) ∣ signed s n := by
  cases s <;> simp [signed, Int.natCast_dvd_natCast.2 h]

theorem decode_zero (s : Bool) : (zero s).decode = .fin s 0 := rfl

/-- A finite datum is a multiple of its spacing `2^k`, below `2^(k + 24)`; a normal one is at least
`2^(k + 23)`. -/
theorem exists_spacing_of_decode {x : Binary32} {s : Bool} {n : Nat} (h : x.decode = .fin s n) :
    ∃ k, 2 ^ k ∣ n ∧ n < 2 ^ (k + 24) ∧ k ≤ 253 ∧ (k = 0 ∨ 2 ^ (k + 23) ≤ n) := by
  have he := x.exponent.isLt
  have hf := x.fraction.isLt
  unfold decode at h
  split_ifs at h with h255 h0
  · cases h
    exact ⟨0, one_dvd _, by omega, by omega, Or.inl rfl⟩
  · cases h
    refine ⟨x.exponent.val - 1, Dvd.intro_left _ rfl, ?_, by omega, Or.inr ?_⟩
    · rw [Nat.pow_add, Nat.mul_comm (2 ^ _)]
      exact Nat.mul_lt_mul_of_pos_right (by omega) (Nat.two_pow_pos _)
    · rw [Nat.pow_add, Nat.mul_comm (2 ^ _)]
      exact Nat.mul_le_mul_right _ (by omega)

/-- Encoding a magnitude with at most 24 significant bits, within range, loses nothing. -/
theorem decode_encode (s : Bool) {r k : Nat} (hk : 2 ^ k ∣ r) (hr : r < 2 ^ (k + 24))
    (hk253 : k ≤ 253) : (encode s r).decode = .fin s r := by
  have hL : bitLength r ≤ k + 24 := (bitLength_le_iff r _).2 hr
  by_cases hsub : r < 2 ^ 23
  · have hq : bitLength r - 24 = 0 := by have := (bitLength_le_iff r 23).2 hsub; omega
    simp only [encode, if_pos hsub, hq, Nat.pow_zero, Nat.div_one, Nat.mod_eq_of_lt hsub]
    rfl
  · have h24 : 24 ≤ bitLength r := by
      by_contra h
      exact hsub ((bitLength_le_iff r 23).1 (by omega))
    have hdvd : 2 ^ (bitLength r - 24) ∣ r := (Nat.pow_dvd_pow 2 (by omega)).trans hk
    have hlo : 2 ^ 23 ≤ r / 2 ^ (bitLength r - 24) := by
      rw [Nat.le_div_iff_mul_le (Nat.two_pow_pos _), ← Nat.pow_add]
      exact two_pow_le_of_lt_bitLength (by omega)
    have hhi : r / 2 ^ (bitLength r - 24) < 2 ^ 24 := by
      rw [Nat.div_lt_iff_lt_mul (Nat.two_pow_pos _), ← Nat.pow_add]
      exact (lt_two_pow_bitLength r).trans_le (Nat.pow_le_pow_right (by decide) (by omega))
    have hfrac : r / 2 ^ (bitLength r - 24) % 2 ^ 23 = r / 2 ^ (bitLength r - 24) - 2 ^ 23 := by
      rw [Nat.mod_eq_sub_mod hlo, Nat.mod_eq_of_lt (by omega)]
    have hexp : (bitLength r - 24 + 1) % 256 = bitLength r - 24 + 1 := Nat.mod_eq_of_lt (by omega)
    simp only [encode, decode, if_neg hsub, hexp, hfrac]
    rw [if_neg (by omega), if_neg (by omega), Nat.add_sub_cancel' hlo, Nat.add_sub_cancel,
      Nat.div_mul_cancel hdvd]

/-- Two finite values that are multiples of `2^k`, whose sum is below `2^(k + 24)` in magnitude,
add exactly. -/
theorem decode_add_exact {x y : Binary32} {sx sy : Bool} {nx ny k : Nat}
    (hx : x.decode = .fin sx nx) (hy : y.decode = .fin sy ny) (hkx : 2 ^ k ∣ nx) (hky : 2 ^ k ∣ ny)
    (hk253 : k ≤ 253) (hS : (signed sx nx + signed sy ny).natAbs < 2 ^ (k + 24)) :
    ∃ s n, (x.add y).decode = .fin s n ∧ signed s n = signed sx nx + signed sy ny := by
  have hdvd : 2 ^ k ∣ (signed sx nx + signed sy ny).natAbs :=
    Int.ofNat_dvd_left.1 (Int.dvd_add (dvd_signed hkx sx) (dvd_signed hky sy))
  simp only [add, hx, hy]
  split_ifs with h0
  · exact ⟨sx && sy, 0, decode_zero _, by rw [h0]; cases sx && sy <;> rfl⟩
  · refine ⟨_, _, ?_, signed_natAbs _⟩
    rw [roundTo, roundMag_of_dvd hdvd hS, if_pos (le_maxMag_of_dvd hdvd hS hk253)]
    exact decode_encode _ hdvd hS hk253

/-! ### The loops of `lerp_angle` -/

/-- `while (diff > 180.0f) diff -= 360.0f;` runs from `d` and exits with `d'`. -/
def SubtractTurnsAbove (d d' : Binary32) : Prop :=
  WhileLoop (fun d => c180.lt d = true) (·.sub c360) d d'

/-- `while (diff < -180.0f) diff += 360.0f;` runs from `d` and exits with `d'`. -/
def AddTurnsBelow (d d' : Binary32) : Prop :=
  WhileLoop (fun d => d.lt cNeg180 = true) (·.add c360) d d'

/-- The loops of `lerp_angle(a, b, t)`, from `diff = b - a`, exit with `diff = d`; the function
then returns `a + d * t`, so it returns exactly when such a `d` exists. -/
def LerpAngleDiff (a b d : Binary32) : Prop :=
  ∃ d₁, SubtractTurnsAbove (b.sub a) d₁ ∧ AddTurnsBelow d₁ d

/-! ### Below `2^27` the loops are the exact ones -/

/-- `d` is finite and denotes the rational `x`. -/
def Denotes (d : Binary32) (x : ℚ) : Prop :=
  ∃ s n, d.decode = .fin s n ∧ (signed s n : ℚ) = x * 2 ^ 149

/-- Adding `±360.0f` to a finite value below `2^27` that it brings nearer to zero is exact. -/
theorem add_turn_exact {d y : Binary32} {s sy : Bool} {n : Nat} (hd : d.decode = .fin s n)
    (hy : y.decode = .fin sy (360 * 2 ^ 149)) (hn : n < 2 ^ 176)
    (hS : (signed s n + signed sy (360 * 2 ^ 149)).natAbs < n) :
    ∃ s' n', (d.add y).decode = .fin s' n' ∧
      signed s' n' = signed s n + signed sy (360 * 2 ^ 149) := by
  obtain ⟨k, hk, hnk, hk253, hnorm⟩ := exists_spacing_of_decode hd
  have hk152 : k ≤ 152 := by
    rcases hnorm with rfl | hnorm
    · omega
    · have := (Nat.pow_lt_pow_iff_right (by decide : 1 < 2)).1 (hnorm.trans_lt hn)
      omega
  have hturn : 2 ^ k ∣ 360 * 2 ^ 149 := (Nat.pow_dvd_pow 2 hk152).trans ⟨45, by norm_num⟩
  exact decode_add_exact hd hy hk hturn hk253 (hS.trans hnk)

section Denotes

variable {d : Binary32} {x : ℚ}

theorem lt_two_pow_of_denotes {s : Bool} {n : Nat} (h : (signed s n : ℚ) = x * 2 ^ 149)
    (hx : |x| < 2 ^ 27) : n < 2 ^ 176 := by
  have hn : (n : ℚ) = |x| * 2 ^ 149 := by
    rw [← natAbs_signed s n, Nat.cast_natAbs, Int.cast_abs, h, abs_mul,
      abs_of_pos (by positivity : (0 : ℚ) < 2 ^ 149)]
  have : (n : ℚ) < 2 ^ 176 :=
    calc (n : ℚ) = |x| * 2 ^ 149 := hn
      _ < 2 ^ 27 * 2 ^ 149 := by gcongr
      _ = 2 ^ 176 := by norm_num
  exact_mod_cast this

/-- On finite values, `float` comparison with a constant is the comparison of what they denote. -/
theorem lt_iff_of_denotes {c : Binary32} {sc : Bool} {nc : Nat} {y : ℚ} (hc : c.decode = .fin sc nc)
    (hcy : (signed sc nc : ℚ) = y * 2 ^ 149) (hd : d.Denotes x) :
    c.lt d = decide (y < x) ∧ d.lt c = decide (x < y) := by
  obtain ⟨s, n, hdec, hval⟩ := hd
  simp only [lt, hc, hdec, decide_eq_decide]
  rw [← @Int.cast_lt ℚ, ← @Int.cast_lt ℚ, hcy, hval]
  exact ⟨mul_lt_mul_right (by positivity), mul_lt_mul_right (by positivity)⟩

theorem c180_lt_of_denotes (hd : d.Denotes x) : c180.lt d = decide (180 < x) :=
  (lt_iff_of_denotes decode_constants.1 (by norm_num) hd).1

theorem lt_cNeg180_of_denotes (hd : d.Denotes x) : d.lt cNeg180 = decide (x < -180) :=
  (lt_iff_of_denotes decode_constants.2.1 (by norm_num) hd).2

/-- One pass of the first loop is exact below `2^27`. -/
theorem denotes_sub_c360 (hd : d.Denotes x) (hgt : 180 < x) (hx : |x| < 2 ^ 27) :
    (d.sub c360).Denotes (x - 360) := by
  obtain ⟨s, n, hdec, hval⟩ := hd
  have hV : (180 * 2 ^ 149 : ℚ) < signed s n := by rw [hval]; gcongr
  have hV' : (180 * 2 ^ 149 : ℤ) < signed s n := by exact_mod_cast hV
  have hn := natAbs_signed s n
  obtain ⟨s', n', hdec', hval'⟩ := add_turn_exact hdec (decode_neg_fin decode_constants.2.2)
    (lt_two_pow_of_denotes hval hx) (by simp only [Bool.not_false, signed_true]; push_cast; omega)
  refine ⟨s', n', hdec', ?_⟩
  rw [hval', Int.cast_add, hval, Bool.not_false, signed_true]
  push_cast
  ring

/-- One pass of the second loop is exact below `2^27`. -/
theorem denotes_add_c360 (hd : d.Denotes x) (hlt : x < -180) (hx : |x| < 2 ^ 27) :
    (d.add c360).Denotes (x + 360) := by
  obtain ⟨s, n, hdec, hval⟩ := hd
  have hV : (signed s n : ℚ) < -180 * 2 ^ 149 := by rw [hval]; gcongr
  have hV' : (signed s n : ℤ) < -180 * 2 ^ 149 := by exact_mod_cast hV
  have hn := natAbs_signed s n
  obtain ⟨s', n', hdec', hval'⟩ := add_turn_exact hdec decode_constants.2.2
    (lt_two_pow_of_denotes hval hx) (by rw [signed_false]; push_cast; omega)
  refine ⟨s', n', hdec', ?_⟩
  rw [hval', Int.cast_add, hval, signed_false]
  push_cast
  ring

end Denotes

/-- Below `2^27`, the first loop on `float`s runs as in exact arithmetic: it exits, with the
`float` that denotes `subtractTurnsAbove x`. -/
theorem subtractTurnsAbove_of_denotes (x : ℚ) : ∀ {d : Binary32}, d.Denotes x → |x| < 2 ^ 27 →
    ∃ d', SubtractTurnsAbove d d' ∧ d'.Denotes (subtractTurnsAbove x) ∧
      |subtractTurnsAbove x| < 2 ^ 27 := by
  induction x using subtractTurnsAbove.induct with
  | case1 x h ih =>
    intro d hd hx
    have hx' : |x - 360| < 2 ^ 27 := by rw [abs_lt] at hx ⊢; constructor <;> linarith
    obtain ⟨d', hloop, hd', hx''⟩ := ih (denotes_sub_c360 hd h hx) hx'
    rw [subtractTurnsAbove, dif_pos h]
    exact ⟨d', WhileLoop.iter (by rw [c180_lt_of_denotes hd]; exact decide_eq_true h) hloop, hd', hx''⟩
  | case2 x h =>
    intro d hd hx
    rw [subtractTurnsAbove, dif_neg h]
    exact ⟨d, WhileLoop.exit (by rw [c180_lt_of_denotes hd]; simpa using h), hd, hx⟩

/-- Below `2^27`, the second loop on `float`s runs as in exact arithmetic. -/
theorem addTurnsBelow_of_denotes (x : ℚ) : ∀ {d : Binary32}, d.Denotes x → |x| < 2 ^ 27 →
    ∃ d', AddTurnsBelow d d' ∧ d'.Denotes (addTurnsBelow x) ∧ |addTurnsBelow x| < 2 ^ 27 := by
  induction x using addTurnsBelow.induct with
  | case1 x h ih =>
    intro d hd hx
    have hx' : |x + 360| < 2 ^ 27 := by rw [abs_lt] at hx ⊢; constructor <;> linarith
    obtain ⟨d', hloop, hd', hx''⟩ := ih (denotes_add_c360 hd h hx) hx'
    rw [addTurnsBelow, dif_pos h]
    exact ⟨d', WhileLoop.iter (by rw [lt_cNeg180_of_denotes hd]; exact decide_eq_true h) hloop,
      hd', hx''⟩
  | case2 x h =>
    intro d hd hx
    rw [addTurnsBelow, dif_neg h]
    exact ⟨d, WhileLoop.exit (by rw [lt_cNeg180_of_denotes hd]; simpa using h), hd, hx⟩

/-- Below `2^27` the `float` loops of `lerp_angle` do what the exact ones do: when `b - a` rounds to
a finite `float` denoting `x` with `|x| < 2^27`, both loops exit, with the `float` denoting the
exact wrapped difference of `x`, which lies in `[-180, 180]` and differs from `x` by whole turns. -/
theorem lerpAngleDiff_of_denotes {a b : Binary32} {x : ℚ} (hx : (b.sub a).Denotes x)
    (hsmall : |x| < 2 ^ 27) :
    ∃ d, LerpAngleDiff a b d ∧ d.Denotes (addTurnsBelow (subtractTurnsAbove x)) ∧
      (-180 ≤ addTurnsBelow (subtractTurnsAbove x) ∧ addTurnsBelow (subtractTurnsAbove x) ≤ 180) ∧
      ∃ k : ℤ, addTurnsBelow (subtractTurnsAbove x) = x + 360 * k := by
  obtain ⟨d₁, h₁, hd₁, hs₁⟩ := subtractTurnsAbove_of_denotes x hx hsmall
  obtain ⟨d, h₂, hd, -⟩ := addTurnsBelow_of_denotes _ hd₁ hs₁
  have hmem := wrappedDiff_mem (0 : ℚ) x
  have hcongr := wrappedDiff_congr (0 : ℚ) x
  simp only [wrappedDiff, sub_zero] at hmem hcongr
  exact ⟨d, ⟨d₁, h₁, h₂⟩, hd, hmem, hcongr⟩

set_option maxRecDepth 4000 in
/-- From `0.0f` to `360.0f`, `diff` is a whole turn, and the loops take it to `0`. -/
example : ∃ d, LerpAngleDiff (zero false) c360 d ∧ d.Denotes 0 := by
  have hx : (c360.sub (zero false)).Denotes 360 := ⟨false, 360 * 2 ^ 149, by decide, by norm_num⟩
  obtain ⟨d, hd, hden, -⟩ := lerpAngleDiff_of_denotes hx (by norm_num)
  rw [subtractTurnsAbove, dif_pos (by norm_num), subtractTurnsAbove, dif_neg (by norm_num),
    addTurnsBelow, dif_neg (by norm_num), sub_self] at hden
  exact ⟨d, hd, hden⟩

/-- A `diff` above 180 that subtracting 360 leaves as it is keeps the first loop running. -/
theorem not_subtractTurnsAbove_of_fixed {d d' : Binary32} (hc : c180.lt d = true)
    (hfix : d.sub c360 = d) : ¬ SubtractTurnsAbove d d' :=
  WhileLoop.not_of_fixed hc hfix

/-- `+∞` stays above 180 through every subtraction of 360. -/
theorem not_subtractTurnsAbove_inf (d : Binary32) : ¬ SubtractTurnsAbove (inf false) d :=
  not_subtractTurnsAbove_of_fixed ((lt_inf decode_constants.1).1) (sub_inf false decode_constants.2.2)

/-- `-∞` stays below -180 through every addition of 360. -/
theorem not_addTurnsBelow_inf (d : Binary32) : ¬ AddTurnsBelow (inf true) d :=
  WhileLoop.not_of_fixed ((lt_inf decode_constants.2.1).2) (add_inf true decode_constants.2.2)

/-- `2^33 + 1024`, `0x50000001`: the `float`s next to it are `2^33` and `2^33 + 2048`, and
`2^33 + 664` is nearer to it than to `2^33`. -/
def absorbing : Binary32 := ⟨false, 160, ⟨1, by decide⟩⟩

set_option maxRecDepth 4000 in
theorem absorbing_spec : absorbing.decode = .fin false ((2 ^ 33 + 1024) * 2 ^ 149) ∧
    c180.lt absorbing = true ∧ absorbing.sub c360 = absorbing ∧
    absorbing.sub (zero false) = absorbing := by
  decide

/-- `lerp_angle(a, b, t)` never returns when `b - a` is infinite, or is `2^33 + 1024`: with
`a = +0`, for `b = +∞` the first loop subtracts 360 from `+∞` forever, for `a = +∞` and
`b = +0` the first loop exits with `-∞` and the second adds 360 to it forever, and for
`b = 2^33 + 1024` every `diff - 360.0f` rounds back to `diff`. -/
theorem lerp_angle_loops_never_exit :
    (¬ ∃ d, LerpAngleDiff (zero false) (inf false) d) ∧
    (¬ ∃ d, LerpAngleDiff (inf false) (zero false) d) ∧
    ¬ ∃ d, LerpAngleDiff (zero false) absorbing d := by
  have hzero : (zero false).decode = .fin false 0 := rfl
  refine ⟨?_, ?_, ?_⟩
  · rintro ⟨d, d₁, h₁, -⟩
    rw [sub_inf false hzero] at h₁
    exact not_subtractTurnsAbove_inf d₁ h₁
  · rintro ⟨d, d₁, h₁, h₂⟩
    rw [fin_sub_inf false hzero] at h₁
    have hd₁ := WhileLoop.eq_of_not h₁ (by simp [not_lt_neg_inf decode_constants.1])
    rw [hd₁] at h₂
    exact not_addTurnsBelow_inf d h₂
  · rintro ⟨d, d₁, h₁, -⟩
    obtain ⟨-, hlt, hfix, hsub⟩ := absorbing_spec
    rw [hsub] at h₁
    exact not_subtractTurnsAbove_of_fixed hlt hfix h₁

end Binary32

end WitcherSeamless
