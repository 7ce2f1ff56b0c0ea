import FalconGuide.Ceres.ImuPreintegrator
import FalconGuide.Core.Coordinates
import FalconGuide.Core.NavigationState
import FalconGuide.Estimation.EstimatorInterface
import FalconGuide.Lib.TransitionSystem

namespace FalconGuide

open Lib Matrix

/-!
# The sliding-window estimator

`CeresSlidingWindowEstimator` as its member functions compute.  What `FromTwoVectors` returns and
what `ceres::Solve` writes are parameters.

* `WindowKeyframe` — the parameter blocks of a keyframe and its time;
* `Problem` — the residual blocks that a solver gets, and `CeresLibrary`, what it makes of them;
* `initFromGnss`, `updateLatestGnss`, `createKeyframe` — what a GNSS fix does;
* `trimWindow` — the loop that takes the oldest keyframes and factors away;
* `CeresSlidingWindowEstimator.system` — the runs of an estimator.
-/

/-- `WindowKeyframe`. -/
structure WindowKeyframe extends KeyframeBlocks where
  timestamp : Timestamp := {}

/-- `Q()`. -/
noncomputable def WindowKeyframe.Q (kf : WindowKeyframe) : Quat := Quat.normalized kf.rotation

/-! ### Options -/

/-- `LossFunctionType`. -/
inductive LossFunctionType
  | none
  | huber
  | cauchy
  | tukey
  deriving DecidableEq

/-- `SolverStrategy`. -/
inductive SolverStrategy
  | fastOneIteration
  | iteratedFull
  | adaptiveBudget
  deriving DecidableEq

/-- `CeresOptions`, as far as they are read. -/
structure CeresOptions where
  /-- A `std::size_t` of 64 bits. -/
  maxKeyframes : UInt64 := 10
  keyframeMinDistanceM : ℝ := 0.5
  solverStrategy : SolverStrategy := .iteratedFull
  maxSolverIterations : ℤ := 10
  solverTimeBudgetS : ℝ := 0.05
  gnssLoss : LossFunctionType := .huber
  huberLossParameter : ℝ := 1.0

/-- `max_keyframes + 1`, which wraps around. -/
def CeresOptions.windowLimit (options : CeresOptions) : ℕ := (options.maxKeyframes + 1).toNat

/-- `kMaxImuBuffer`. -/
def maxImuBuffer : ℕ := 2000

/-! ### The problem -/

/-- A residual block; keyframes are given by their place in the window.  A Huber loss comes with
    its parameter. -/
inductive ResidualBlock
  | imuPreintegration (factor : ImuPreintegration) (i j : ℕ)
  | biasRandomWalk (accelSigma gyroSigma : ℝ) (i j : ℕ)
  | gnssPosition (measEnuM : Vec3) (covM2 : Mat3) (huberLoss : Option ℝ) (i : ℕ)
  | gnssVelocity (measEnuMps : Vec3) (covM2ps2 : Mat3) (huberLoss : Option ℝ) (i : ℕ)

/-- `ceres::Problem` and `ceres::Solver::Options`. -/
structure Problem where
  residualBlocks : List ResidualBlock
  maxNumIterations : ℤ
  maxSolverTimeS : Option ℝ := none

/-- What the estimator takes from its libraries. -/
structure CeresLibrary where
  /-- `Eigen::Quaterniond::FromTwoVectors`. -/
  fromTwoVectors : Vec3 → Vec3 → Quat
  /-- `ceres::Solve`: what the blocks of each keyframe hold afterwards. -/
  solve : Problem → List KeyframeBlocks → ℕ → KeyframeBlocks

/-! ### The window -/

/-- The loop of `CreateKeyframe` over both deques. -/
def trimWindow (limit : ℕ) :
    List WindowKeyframe → List ImuPreintegration → List WindowKeyframe × List ImuPreintegration
  | [], imuFactors => ([], imuFactors)
  | kf :: window, imuFactors =>
    if limit < (kf :: window).length then trimWindow limit window imuFactors.tail
    else (kf :: window, imuFactors)

/-- The loop takes as much from both deques. -/
theorem trimWindow_eq (limit : ℕ) (window : List WindowKeyframe)
    (imuFactors : List ImuPreintegration) :
    trimWindow limit window imuFactors
      = (window.drop (window.length - limit), imuFactors.drop (window.length - limit)) := by
  induction window generalizing imuFactors with
  | nil =>
    rw [List.length_nil, Nat.zero_sub]
    rfl
  | cons kf window ih =>
    unfold trimWindow
    split
    · rename_i hlimit
      have hsub : (kf :: window).length - limit = (window.length - limit) + 1 := by
        rw [List.length_cons] at hlimit ⊢
        omega
      rw [ih, hsub, List.drop_succ_cons, List.drop_tail]
    · rename_i hlimit
      rw [Nat.sub_eq_zero_of_le (Nat.le_of_not_lt hlimit)]
      rfl

/-- The keyframe `i` of `n` after the solver has written `blocks`.  The pose and the velocity of the
    oldest are constant, and its bias is in the problem only next to another keyframe. -/
def WindowKeyframe.solved (n i : ℕ) (kf : WindowKeyframe) (blocks : KeyframeBlocks) :
    WindowKeyframe :=
  if i = 0 then
    if 1 < n then { kf with accelBias := blocks.accelBias, gyroBias := blocks.gyroBias } else kf
  else { kf with toKeyframeBlocks := blocks }

@[simp]
theorem WindowKeyframe.solved_timestamp (n i : ℕ) (kf : WindowKeyframe) (blocks : KeyframeBlocks) :
    (kf.solved n i blocks).timestamp = kf.timestamp := by
  unfold solved
  split
  · split
    · rfl
    · rfl
  · rfl

/-! ### The estimator -/

/-- `CeresSlidingWindowEstimator`.  The diagnostic snapshot is left out. -/
structure CeresSlidingWindowEstimator (options : CeresOptions) where
  window : List WindowKeyframe := []
  /-- The factor between each keyframe and the next one. -/
  imuFactors : List ImuPreintegration := []
  preint : ImuPreintegrator := {}
  preintActive : Bool := false
  imuBuffer : List ImuMeasurement := []
  initialised : Bool := false
  ltp : Option LocalTangentPlane := none
  lastKfTime : Timestamp := {}
  latestState : NavigationState := {}

namespace CeresSlidingWindowEstimator

variable {options : CeresOptions}

/-- `*ltp_`, which is set once the estimator is initialised. -/
noncomputable def plane (e : CeresSlidingWindowEstimator options) : LocalTangentPlane :=
  e.ltp.getD (.make {})

/-- `window_.back()`, which is undefined on an empty window. -/
def newest (e : CeresSlidingWindowEstimator options) : WindowKeyframe := e.window.getLastD {}

/-- `BuildNavigationState`. -/
noncomputable def buildNavigationState (e : CeresSlidingWindowEstimator options)
    (kf : WindowKeyframe) : CeresSlidingWindowEstimator options :=
  { e with
    latestState :=
      { e.latestState with
        timestamp := kf.timestamp
        positionEnuM := kf.position
        velocityEnuMps := kf.velocity
        orientationBodyToEnu := kf.Q
        positionEcefM := e.plane.enuToEcef kf.position
        velocityEcefMps := e.plane.ecefToEnuRotationᵀ *ᵥ kf.velocity
        covariance := 0
        status := .nominal
        quality := { e.latestState.quality with initialized := true } } }

/-- What a GNSS fix that is used reports. -/
def acceptedReport : MeasurementUpdateReport :=
  { result := .accepted, modelName := "CeresSlidingWindow" }

/-- `AddImu`. -/
noncomputable def addImu (e : CeresSlidingWindowEstimator options) (imu : ImuMeasurement) :
    CeresSlidingWindowEstimator options × MeasurementUpdateReport :=
  -- a full buffer takes no more samples, but they are still integrated
  ({ e with
     imuBuffer := if e.imuBuffer.length < maxImuBuffer then e.imuBuffer ++ [imu] else e.imuBuffer
     preint := if e.preintActive then e.preint.integrate imu else e.preint },
    { result := .buffered })

/-! ### Initialisation -/

/-- The mean of the specific forces. -/
noncomputable def meanSpecificForce (imuBuffer : List ImuMeasurement) : Vec3 :=
  (imuBuffer.length : ℝ)⁻¹ • (imuBuffer.map ImuMeasurement.specificForceMps2).sum

/-- `gravity_body`. -/
noncomputable def gravityBody (imuBuffer : List ImuMeasurement) : Vec3 :=
  if imuBuffer = [] then gravityEnu else -meanSpecificForce imuBuffer

/-- `q_init`. -/
noncomputable def initialRotation (lib : CeresLibrary) (imuBuffer : List ImuMeasurement) : Quat :=
  lib.fromTwoVectors (-normalizedVec (gravityBody imuBuffer)) (normalizedVec gravityEnu)

/-- The samples of the buffer that are played again for a fix at time `t`. -/
def replayed (imuBuffer : List ImuMeasurement) (t : Timestamp) : List ImuMeasurement :=
  imuBuffer.filter fun imu => compareTimestamps imu.timestamp t ≠ .before

/-- `InitFromGnss`. -/
noncomputable def initFromGnss (lib : CeresLibrary) (e : CeresSlidingWindowEstimator options)
    (gnss : GnssSolution) : CeresSlidingWindowEstimator options × MeasurementUpdateReport :=
  -- its position stays zero, which is the origin of the local frame
  let kf : WindowKeyframe :=
    { rotation := initialRotation lib e.imuBuffer, timestamp := gnss.timestamp }
  let e : CeresSlidingWindowEstimator options :=
    { e with
      ltp := some (.make (ecefToLla gnss.positionEcefM))
      window := e.window ++ [kf]
      lastKfTime := gnss.timestamp
      initialised := true
      preint := (e.preint.reset 0 0 gnss.timestamp).integrateAll
        (replayed e.imuBuffer gnss.timestamp)
      preintActive := true }
  (e.buildNavigationState e.newest, acceptedReport)

/-! ### Fixes of an initialised estimator -/

/-- `GnssVelocityCost::Create` and `GnssPositionCost::Create` on the keyframe `i`. -/
noncomputable def gnssFactors (e : CeresSlidingWindowEstimator options) (gnss : GnssSolution)
    (posEnu : Vec3) (huberLoss : Option ℝ) (i : ℕ) : List ResidualBlock :=
  let R := e.plane.ecefToEnuRotation
  [.gnssPosition posEnu (R * gnss.positionCovarianceEcefM2 * Rᵀ) huberLoss i,
   .gnssVelocity (R *ᵥ gnss.velocityEcefMps) (R * gnss.velocityCovarianceEcefM2ps2 * Rᵀ)
     huberLoss i]

/-- `UpdateLatestGnss`.  The pose is constant, so that only the velocity is written. -/
noncomputable def updateLatestGnss (lib : CeresLibrary) (e : CeresSlidingWindowEstimator options)
    (gnss : GnssSolution) (posEnu : Vec3) :
    CeresSlidingWindowEstimator options × MeasurementUpdateReport :=
  let problem : Problem :=
    { residualBlocks := e.gnssFactors gnss posEnu none 0, maxNumIterations := 5 }
  let kf : WindowKeyframe :=
    { e.newest with velocity := (lib.solve problem [e.newest.toKeyframeBlocks] 0).velocity }
  let e := { e with window := e.window.set (e.window.length - 1) kf }
  (e.buildNavigationState kf, acceptedReport)

/-- The keyframe that `CreateKeyframe` predicts at time `t`. -/
noncomputable def predictedKeyframe (prev : WindowKeyframe) (preint : ImuPreintegration)
    (t : Timestamp) : WindowKeyframe :=
  let R := Quat.toRotationMatrix prev.Q
  let dt := preint.integrationTimeS
  { position := prev.position + dt • prev.velocity + (0.5 * dt * dt) • gravityEnu
      + R *ᵥ preint.deltaP
    velocity := prev.velocity + dt • gravityEnu + R *ᵥ preint.deltaV
    rotation := Quat.normalized (prev.Q * preint.deltaQ)
    accelBias := prev.accelBias
    gyroBias := prev.gyroBias
    timestamp := t }

/-- The problem of `Optimise`. -/
noncomputable def windowProblem (e : CeresSlidingWindowEstimator options) (gnss : GnssSolution)
    (posEnu : Vec3) : Problem :=
  let n := e.window.length
  let imu := ((List.range (n - 1)).zip e.imuFactors).map fun x =>
    ResidualBlock.imuPreintegration x.2 x.1 (x.1 + 1)
  let bias := (List.range (n - 1)).map fun i => ResidualBlock.biasRandomWalk 0.01 0.001 i (i + 1)
  let loss := if options.gnssLoss = .huber then some options.huberLossParameter else none
  { residualBlocks := imu ++ bias ++ e.gnssFactors gnss posEnu loss (n - 1)
    maxNumIterations :=
      if options.solverStrategy = .fastOneIteration then 1 else options.maxSolverIterations
    maxSolverTimeS := some options.solverTimeBudgetS }

/-- `Optimise`. -/
noncomputable def optimise (lib : CeresLibrary) (e : CeresSlidingWindowEstimator options)
    (gnss : GnssSolution) (posEnu : Vec3) : CeresSlidingWindowEstimator options :=
  let blocks := lib.solve (e.windowProblem gnss posEnu)
    (e.window.map WindowKeyframe.toKeyframeBlocks)
  { e with window := e.window.mapIdx fun i kf => kf.solved e.window.length i (blocks i) }

/-- `CreateKeyframe`. -/
noncomputable def createKeyframe (lib : CeresLibrary) (e : CeresSlidingWindowEstimator options)
    (gnss : GnssSolution) (posEnu : Vec3) :
    CeresSlidingWindowEstimator options × MeasurementUpdateReport :=
  -- the factor ends at the fix, wherever the last sample was
  let preint := e.preint.finalize gnss.timestamp
  let kf := predictedKeyframe e.newest preint gnss.timestamp
  let (window, imuFactors) :=
    trimWindow options.windowLimit (e.window ++ [kf]) (e.imuFactors ++ [preint])
  let e : CeresSlidingWindowEstimator options :=
    optimise lib { e with window, imuFactors } gnss posEnu
  let e : CeresSlidingWindowEstimator options :=
    { e with
      preint := e.preint.reset e.newest.accelBias e.newest.gyroBias gnss.timestamp
      lastKfTime := gnss.timestamp }
  (e.buildNavigationState e.newest, acceptedReport)

/-- The test of `AddGnss` for a new keyframe: far away from the newest one, or late. -/
def StartsKeyframe (e : CeresSlidingWindowEstimator options) (gnss : GnssSolution)
    (posEnu : Vec3) : Prop :=
  ¬ (euclideanNorm (posEnu - e.newest.position) < options.keyframeMinDistanceM ∧
    (((gnss.timestamp.steady.sub e.lastKfTime.steady).seconds : ℚ) : ℝ) < 0.2)

open Classical in
/-- `AddGnss`. -/
noncomputable def addGnss (lib : CeresLibrary) (e : CeresSlidingWindowEstimator options)
    (gnss : GnssSolution) : CeresSlidingWindowEstimator options × MeasurementUpdateReport :=
  if gnss.validity ≠ .valid then (e, { result := .rejected })
  else if !e.initialised then e.initFromGnss lib gnss
  else
    let posEnu := e.plane.ecefToEnu gnss.positionEcefM
    if e.StartsKeyframe gnss posEnu then e.createKeyframe lib gnss posEnu
    else e.updateLatestGnss lib gnss posEnu

/-! ### Public calls -/

/-- `AddMeasurement`. -/
noncomputable def addMeasurement (lib : CeresLibrary) (e : CeresSlidingWindowEstimator options) :
    SensorMeasurement → CeresSlidingWindowEstimator options × MeasurementUpdateReport
  | .imu imu => e.addImu imu
  | .gnssSolution gnss => e.addGnss lib gnss
  | _ => (e, { result := .rejected })

/-- `ProcessUntil`, which does not propagate. -/
def processUntil (e : CeresSlidingWindowEstimator options) (_ : Timestamp) :
    CeresSlidingWindowEstimator options × EstimatorUpdateResult :=
  (e, .accepted)

/-- `LatestState`. -/
def latestState? (e : CeresSlidingWindowEstimator options) : Option NavigationState :=
  if !e.initialised then none else some e.latestState

/-- The public calls that change the estimator. -/
inductive Call
  | addMeasurement (m : SensorMeasurement)
  | processUntil (timestamp : Timestamp)
  | reset

/-- The estimator after a call; the libraries may do something else every time. -/
inductive Step : CeresSlidingWindowEstimator options → Call →
    CeresSlidingWindowEstimator options → Prop
  | addMeasurement (e : CeresSlidingWindowEstimator options) (lib : CeresLibrary)
      (m : SensorMeasurement) : Step e (.addMeasurement m) (e.addMeasurement lib m).1
  | processUntil (e : CeresSlidingWindowEstimator options) (timestamp : Timestamp) :
      Step e (.processUntil timestamp) (e.processUntil timestamp).1
  | reset (e : CeresSlidingWindowEstimator options) : Step e .reset {}

/-- A constructed estimator and its calls. -/
def system (options : CeresOptions) : System (CeresSlidingWindowEstimator options) Call where
  init e := e = {}
  step := Step

end CeresSlidingWindowEstimator

end FalconGuide
