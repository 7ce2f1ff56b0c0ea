import FalconGuide.Lib.Numerals
import Mathlib.Algebra.CharZero.Defs
import Mathlib.Algebra.Module.LinearMap.Defs
import Mathlib.Tactic.Abel
import Mathlib.Tactic.FieldSimp
import Mathlib.Tactic.Module
import Mathlib.Tactic.Ring

namespace FalconGuide.Lib

/-!
# Free fall

What a body that feels no gravity can tell of its motion: how far it gets from where it would have
fallen to.  That is the same in every frame that falls as well.

* `Motion`, `Motion.displacement`, `Motion.gain` — positions and velocities, and how far two of
  them are from free fall;
* `Motion.ext_of_fall` — the end of a step is told by its start and these two;
* `FallingFrame`, `FallingFrame.moved` — a change to a frame that is turned, shifted, moving, and
  falling where it is turned against gravity;
* `FallingFrame.displacement_moved`, `gain_moved` — no such change is noticed, but for the turn;
* `FallingFrame.exists_moved` — it can take any motion to any other.
-/

/-- A position and a velocity. -/
@[ext]
structure Motion (V : Type*) where
  position : V
  velocity : V

variable {K V : Type*} [Field K] [AddCommGroup V] [Module K V]

namespace Motion

/-- How far `y` is from where `x` falls to in the time `dt`. -/
def displacement (g : V) (dt : K) (x y : Motion V) : V :=
  y.position - x.position - dt • x.velocity - (dt * dt / 2) • g

/-- By how much the velocity of `y` is not that of `x` after the time `dt`. -/
def gain (g : V) (dt : K) (x y : Motion V) : V := y.velocity - x.velocity - dt • g

/-- **The end of a step**, from its start. -/
theorem ext_of_fall {g : V} {dt : K} {x y y' : Motion V}
    (hdisplacement : displacement g dt x y = displacement g dt x y')
    (hgain : gain g dt x y = gain g dt x y') : y = y' := by
  ext
  · exact sub_left_injective (sub_left_injective (sub_left_injective hdisplacement))
  · exact sub_left_injective (sub_left_injective hgain)

end Motion

/-- A turn, a shift and a speed. -/
structure FallingFrame (K V : Type*) [Field K] [AddCommGroup V] [Module K V] where
  turn : V →ₗ[K] V
  shift : V
  speed : V

namespace FallingFrame

/-- What the frame falls with, where gravity was turned. -/
def fall (f : FallingFrame K V) (g : V) : V := g - f.turn g

/-- The motion in the frame, at the time `t`. -/
def moved (f : FallingFrame K V) (g : V) (t : K) (x : Motion V) : Motion V where
  position := f.turn x.position + f.shift + t • f.speed + (t * t / 2) • f.fall g
  velocity := f.turn x.velocity + f.speed + t • f.fall g

/-- **Unnoticed**, but for the turn. -/
theorem displacement_moved [CharZero K] (f : FallingFrame K V) (g : V) (t dt : K)
    (x y : Motion V) :
    (f.moved g t x).displacement g dt (f.moved g (t + dt) y)
      = f.turn (x.displacement g dt y) := by
  simp only [Motion.displacement, moved, fall, map_sub, map_smul]
  match_scalars <;> field_simp <;> ring

theorem gain_moved (f : FallingFrame K V) (g : V) (t dt : K) (x y : Motion V) :
    (f.moved g t x).gain g dt (f.moved g (t + dt) y) = f.turn (x.gain g dt y) := by
  simp only [Motion.gain, moved, fall, map_sub, map_smul]
  module

/-- A frame for every turn takes any motion to any other. -/
theorem exists_moved (turn : V →ₗ[K] V) (g : V) (t : K) (x y : Motion V) :
    ∃ f : FallingFrame K V, f.turn = turn ∧ f.moved g t x = y := by
  let speed := y.velocity - turn x.velocity - t • (g - turn g)
  let shift := y.position - turn x.position - t • speed - (t * t / 2) • (g - turn g)
  refine ⟨⟨turn, shift, speed⟩, rfl, Motion.ext ?_ ?_⟩
  · simp only [moved, fall, shift]
    abel
  · simp only [moved, fall, speed]
    abel

end FallingFrame

end FalconGuide.Lib
