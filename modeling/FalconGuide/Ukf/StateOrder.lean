import FalconGuide.Ekf.Registration
import FalconGuide.Ukf.AffineUpdate

namespace FalconGuide

open Matrix StateLayout

/-!
# The order of the states

The unscented filter and the output know the five standard segments by their indices.

* `standardOrder` — the segments, in the order of the indices;
* `EkfOptions.StandardOrder` — every layout of `buildLayout` keeps it;
* `layouts_laidOut` — the layouts of all sequences of registrations, and those of the filter.
-/

/-! ### Parts of a vector -/

/-- A part of the front of a vector is a part of the vector. -/
theorem segment_segment {n : ℕ} (v : Fin n → ℝ) {o p q : ℕ} (h : o + p ≤ q) :
    segment (segment v 0 q) o p = segment v o p := by
  funext i
  have hi : o + i.val < q := by omega
  rw [segment, dif_pos hi]
  simp only [segment, zero_add]

/-- A block of the corner of a matrix is a block of the matrix. -/
theorem block_block {m n : ℕ} (A : Matrix (Fin m) (Fin n) ℝ) {row col p q r s : ℕ}
    (hrow : row + p ≤ r) (hcol : col + q ≤ s) :
    block (block A 0 0 r s) row col p q = block A row col p q := by
  ext i j
  have hi : row + i.val < r ∧ col + j.val < s := by omega
  rw [block, dif_pos hi]
  simp only [block, zero_add]

/-! ### The standard segments -/

/-- The segments of `MakeStandardLayout`. -/
def standardOrder : Fin 5 → StateSegmentId :=
  ![.position, .velocity, .attitude, .accelBias, .gyroBias]

namespace EkfOptions

variable (options : EkfOptions)

/-- The layout of the options is laid out by its calls. -/
theorem buildLayout_laidOut : LaidOut options.layoutCalls options.buildLayout :=
  registerAll_laidOut options.registerAll_layoutCalls

/-- The segments that every filter has come first, in the order of the unscented filter. -/
theorem buildLayout_standard (k : Fin 5) :
    options.buildLayout.segments (standardOrder k) = some { offset := 3 * k.val, size := 3 } := by
  have horder := options.buildLayout_laidOut.in_order
  fin_cases k
  · exact horder [] .position 3 _ rfl
  · exact horder [(.position, 3)] .velocity 3 _ rfl
  · exact horder [(.position, 3), (.velocity, 3)] .attitude 3 _ rfl
  · exact horder [(.position, 3), (.velocity, 3), (.attitude, 3)] .accelBias 3 _ rfl
  · exact horder [(.position, 3), (.velocity, 3), (.attitude, 3), (.accelBias, 3)] .gyroBias 3 _ rfl

/-- The other segments have no index below fifteen, because the standard ones take them all. -/
theorem buildLayout_optional {id : StateSegmentId} {s : StateSegment}
    (hid : ∀ k, standardOrder k ≠ id) (hs : options.buildLayout.segments id = some s) :
    15 ≤ s.offset := by
  by_contra hlow
  have htiled := options.buildLayout_laidOut.tiled
  have hsize := (htiled.within id s hs).1
  have hk : s.offset / 3 < 5 := by omega
  have hmeet := htiled.disjoint (standardOrder ⟨s.offset / 3, hk⟩) id _ s (hid _)
    (options.buildLayout_standard ⟨s.offset / 3, hk⟩) hs
  dsimp only at hmeet
  omega

/-- `get` of such a segment. -/
theorem buildLayout_get (k : Fin 5) :
    options.buildLayout.get (standardOrder k) = { offset := 3 * k.val, size := 3 } := by
  rw [StateLayout.get, buildLayout_standard, Option.getD_some]

end EkfOptions

/-! ### What relies on the order -/

/-- The output shows the upper left corner of the covariance. -/
theorem EkfEstimator.buildNavigationState_covariance {options : EkfOptions}
    (e : EkfEstimator options) :
    e.buildNavigationState.covariance = block e.state.estimate.covariance 0 0 15 15 := by
  have hsize : 15 ≤ options.buildLayout.totalSize := by
    rw [EkfOptions.buildLayout_totalSize]
    omega
  unfold buildNavigationState
  simp only [if_pos hsize]
  split
  · rfl
  · rfl

/-- The published blocks are those of the covariance. -/
theorem EkfEstimator.block_buildNavigationState_covariance {options : EkfOptions}
    (e : EkfEstimator options) (j k : Fin 5) :
    block e.buildNavigationState.covariance (3 * j.val) (3 * k.val) 3 3
      = block e.state.estimate.covariance (options.buildLayout.get (standardOrder j)).offset
          (options.buildLayout.get (standardOrder k)).offset 3 3 := by
  rw [e.buildNavigationState_covariance, options.buildLayout_get, options.buildLayout_get]
  exact block_block _ (by omega) (by omega)

/-- The unscented filter corrects its nominal state with the first fifteen errors as the error-state
    filter does with the standard segments. -/
theorem ofEkf_injectedNominal {n : ℕ} (options : EkfOptions) (nom : NominalState)
    (dx : Fin n → ℝ) :
    Ukf.NominalState.ofEkf (injectedNominal options.buildLayout nom dx)
      = Ukf.correctedNominal (.ofEkf nom) (segment dx 0 15) := by
  simp only [Ukf.NominalState.ofEkf, injectedNominal, Ukf.correctedNominal,
    EkfOptions.buildLayout_position, EkfOptions.buildLayout_velocity,
    EkfOptions.buildLayout_attitude, EkfOptions.buildLayout_accelBias,
    EkfOptions.buildLayout_gyroBias]
  rw [segment_segment dx (show 0 + 3 ≤ 15 by omega), segment_segment dx (show 3 + 3 ≤ 15 by omega),
    segment_segment dx (show 6 + 3 ≤ 15 by omega), segment_segment dx (show 9 + 3 ≤ 15 by omega),
    segment_segment dx (show 12 + 3 ≤ 15 by omega)]

/-- **The standard segments come first,** in the order that the output and the unscented filter
    know. -/
structure EkfOptions.StandardOrder (options : EkfOptions) : Prop where
  standard : ∀ k : Fin 5, options.buildLayout.segments (standardOrder k)
    = some { offset := 3 * k.val, size := 3 }
  optional : ∀ id s, (∀ k, standardOrder k ≠ id) → options.buildLayout.segments id = some s →
    15 ≤ s.offset
  output : ∀ (e : EkfEstimator options) (j k : Fin 5),
    block e.buildNavigationState.covariance (3 * j.val) (3 * k.val) 3 3
      = block e.state.estimate.covariance (options.buildLayout.get (standardOrder j)).offset
          (options.buildLayout.get (standardOrder k)).offset 3 3
  unscented : ∀ (nom : NominalState) (dx : Fin options.buildLayout.totalSize → ℝ),
    Ukf.NominalState.ofEkf (injectedNominal options.buildLayout nom dx)
      = Ukf.correctedNominal (.ofEkf nom) (segment dx 0 15)

/-- The order of the options is the standard one. -/
theorem EkfOptions.standardOrder (options : EkfOptions) : options.StandardOrder where
  standard := options.buildLayout_standard
  optional _ _ := options.buildLayout_optional
  output e := e.block_buildNavigationState_covariance
  unscented := ofEkf_injectedNominal options

/-- **Every layout** is laid out in the order of its registrations, which satisfy the assertions and
    add up to an `int`; so are those of the filter, with the standard segments first. -/
theorem layouts_laidOut :
    (∀ calls : List Registration, SatisfiesAsserts calls → (calls.map Prod.snd).sum ≤ intMax →
      ∃ layout, registerAll {} calls = .ok layout ∧ LaidOut calls layout) ∧
    ∀ options : EkfOptions, LaidOut options.layoutCalls options.buildLayout ∧
      options.StandardOrder := by
  refine ⟨fun calls hcalls hsum => ?_, fun options => ?_⟩
  · have hempty : (({} : StateLayout).totalSize : ℤ) ≤ intMax := by decide
    obtain ⟨layout, hlayout⟩ := (exists_registerAll_iff hempty).mpr
      ⟨fun _ _ => rfl, hcalls, (zero_add _).trans_le hsum⟩
    exact ⟨layout, hlayout, registerAll_laidOut hlayout⟩
  · exact ⟨options.buildLayout_laidOut, options.standardOrder⟩

/-- A position and the bias of a barometer. -/
theorem layouts_laidOut_two : ∃ layout,
    registerAll {} [(.position, 3), (.baroBias, 1)] = .ok layout ∧
      LaidOut [(.position, 3), (.baroBias, 1)] layout :=
  layouts_laidOut.1 _ ⟨by decide, by decide⟩ (by decide)

/-- Two segments that satisfy the assertions, with more states than an `int` counts. -/
theorem registerAll_overflow :
    SatisfiesAsserts [(.position, 2147483647), (.velocity, 1)] ∧
    registerAll {} [(.position, 2147483647), (.velocity, 1)] = .error .totalOverflow :=
  ⟨⟨by decide, by decide⟩, rfl⟩

end FalconGuide
