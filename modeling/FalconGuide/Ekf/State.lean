import FalconGuide.Core.Coordinates
import FalconGuide.Core.Time

namespace FalconGuide

/-!
# The state of the filter

* `StateLayout` — which segments the error state has, and where;
* `NominalState`, `Estimate`, `EkfState` — the reference trajectory, and the error state with its
  covariance, of the size of the layout;
* `EkfOptions`, `EkfOptions.buildLayout` — the options, and the layout they select.
-/

/-! ### Layout -/

/-- The named blocks of the error state. -/
inductive StateSegmentId
  | position
  | velocity
  | attitude
  | accelBias
  | gyroBias
  | gnssClock
  | baroBias
  deriving DecidableEq

/-- Offset and size of a block. -/
structure StateSegment where
  offset : ℕ := 0
  size : ℕ := 0
  deriving DecidableEq

/-- The registered blocks and the dimension they add up to. -/
structure StateLayout where
  segments : StateSegmentId → Option StateSegment := fun _ => none
  totalSize : ℕ := 0

namespace StateLayout

/-- `Register`. -/
def register (layout : StateLayout) (id : StateSegmentId) (size : ℕ) : StateLayout where
  segments := Function.update layout.segments id (some { offset := layout.totalSize, size })
  totalSize := layout.totalSize + size

/-- `Has`. -/
def has (layout : StateLayout) (id : StateSegmentId) : Bool := (layout.segments id).isSome

/-- `Get`, on a registered block. -/
def get (layout : StateLayout) (id : StateSegmentId) : StateSegment :=
  (layout.segments id).getD {}

end StateLayout

/-- `MakeStandardLayout`. -/
def makeStandardLayout : StateLayout :=
  ((((({} : StateLayout).register .position 3).register .velocity 3).register .attitude 3).register
    .accelBias 3).register .gyroBias 3

/-- `MakeTightlyCoupledLayout`. -/
def makeTightlyCoupledLayout : StateLayout := makeStandardLayout.register .gnssClock 2

/-! ### State -/

/-- `NominalState`. -/
structure NominalState where
  timestamp : Timestamp := {}
  positionEnuM : Vec3 := 0
  velocityEnuMps : Vec3 := 0
  orientationBodyToEnu : Quat := 1
  accelBiasMps2 : Vec3 := 0
  gyroBiasRadps : Vec3 := 0
  /-- Receiver clock bias (m) and drift (m/s). -/
  gnssClock : Option (Fin 2 → ℝ) := none

/-- The error state and its covariance, which the measurement models update in place. -/
structure Estimate (n : ℕ) where
  errorState : Fin n → ℝ := 0
  covariance : Matrix (Fin n) (Fin n) ℝ := 0

/-- `EkfState`; the layout never changes once it is built. -/
structure EkfState (layout : StateLayout) where
  nominal : NominalState := {}
  estimate : Estimate layout.totalSize := {}

/-- `UpdateContext`: the local tangent plane, once there is one. -/
structure UpdateContext where
  ltp : Option LocalTangentPlane := none

/-! ### Options -/

/-- `ImuNoiseModel`. -/
structure ImuNoiseModel where
  accelNoiseDensity : ℝ := 3.0e-3
  gyroNoiseDensity : ℝ := 1.5e-4
  accelRandomWalk : ℝ := 3.0e-5
  gyroRandomWalk : ℝ := 2.0e-6

/-- `EkfOptions`, as far as the filter reads them. -/
structure EkfOptions where
  imuNoise : ImuNoiseModel := {}
  minImuDtS : ℝ := 1e-6
  maxImuDtS : ℝ := 0.05
  deadReckoningThresholdS : ℝ := 5
  enableGnssClockState : Bool := false
  enableBaroBiasState : Bool := false

namespace EkfOptions

/-- `BuildLayout`. -/
def buildLayout (options : EkfOptions) : StateLayout :=
  let layout := makeStandardLayout
  let layout := if options.enableGnssClockState then layout.register .gnssClock 2 else layout
  if options.enableBaroBiasState then layout.register .baroBias 1 else layout

section Segments

variable (options : EkfOptions)

@[simp] theorem buildLayout_position : options.buildLayout.get .position = ⟨0, 3⟩ := by
  unfold buildLayout
  cases options.enableGnssClockState <;> cases options.enableBaroBiasState <;> rfl

@[simp] theorem buildLayout_velocity : options.buildLayout.get .velocity = ⟨3, 3⟩ := by
  unfold buildLayout
  cases options.enableGnssClockState <;> cases options.enableBaroBiasState <;> rfl

@[simp] theorem buildLayout_attitude : options.buildLayout.get .attitude = ⟨6, 3⟩ := by
  unfold buildLayout
  cases options.enableGnssClockState <;> cases options.enableBaroBiasState <;> rfl

@[simp] theorem buildLayout_accelBias : options.buildLayout.get .accelBias = ⟨9, 3⟩ := by
  unfold buildLayout
  cases options.enableGnssClockState <;> cases options.enableBaroBiasState <;> rfl

@[simp] theorem buildLayout_gyroBias : options.buildLayout.get .gyroBias = ⟨12, 3⟩ := by
  unfold buildLayout
  cases options.enableGnssClockState <;> cases options.enableBaroBiasState <;> rfl

@[simp] theorem buildLayout_has_gyroBias : options.buildLayout.has .gyroBias = true := by
  unfold buildLayout
  cases options.enableGnssClockState <;> cases options.enableBaroBiasState <;> rfl

@[simp] theorem buildLayout_has_gnssClock :
    options.buildLayout.has .gnssClock = options.enableGnssClockState := by
  unfold buildLayout
  cases options.enableGnssClockState <;> cases options.enableBaroBiasState <;> rfl

@[simp] theorem buildLayout_has_baroBias :
    options.buildLayout.has .baroBias = options.enableBaroBiasState := by
  unfold buildLayout
  cases options.enableGnssClockState <;> cases options.enableBaroBiasState <;> rfl

theorem buildLayout_totalSize :
    options.buildLayout.totalSize = 15 + (if options.enableGnssClockState then 2 else 0)
      + if options.enableBaroBiasState then 1 else 0 := by
  unfold buildLayout
  cases options.enableGnssClockState <;> cases options.enableBaroBiasState <;> rfl

/-- The bias of the barometer comes last, where there is one. -/
theorem buildLayout_baroBias (h : options.enableBaroBiasState = true) :
    options.buildLayout.get .baroBias
      = ⟨15 + if options.enableGnssClockState then 2 else 0, 1⟩ := by
  unfold buildLayout
  rw [h]
  cases options.enableGnssClockState <;> rfl

/-- The clock, where there is one. -/
theorem buildLayout_gnssClock (h : options.enableGnssClockState = true) :
    options.buildLayout.get .gnssClock = ⟨15, 2⟩ := by
  unfold buildLayout
  rw [h]
  cases options.enableBaroBiasState <;> rfl

end Segments

end EkfOptions

end FalconGuide
