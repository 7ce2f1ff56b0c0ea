import FalconGuide.Ekf.State
import Mathlib.Algebra.BigOperators.Group.List.Basic
import Mathlib.Tactic.Linarith

namespace FalconGuide

/-!
# Registering the segments

`StateLayout::Register` with its assertions and with the range of its `int`.

* `StateLayout.registerChecked`, `StateLayout.registerAll` — one call, and some;
* `StateLayout.Tiled` — the segments cover the error state and do not overlap;
* `StateLayout.LaidOut` — the segments, in the order in which they were registered;
* `StateLayout.registerAll_laidOut` — what every sequence of calls leaves.
-/

/-- `std::numeric_limits<int>::max()`. -/
def intMax : ℤ := 2147483647

/-- Why a call of `Register` does not return: an assertion, or a dimension that no `int` holds. -/
inductive RegisterFault
  | alreadyRegistered
  | sizeNotPositive
  | totalOverflow
  deriving DecidableEq

/-- The arguments of a call. -/
abbrev Registration := StateSegmentId × ℤ

namespace StateLayout

/-- `Register`, with its assertions. -/
def registerChecked (layout : StateLayout) (id : StateSegmentId) (size : ℤ) :
    Except RegisterFault StateLayout :=
  if layout.has id then .error .alreadyRegistered
  else if size ≤ 0 then .error .sizeNotPositive
  else if intMax < layout.totalSize + size then .error .totalOverflow
  else .ok (layout.register id size.toNat)

/-- Some calls, one after the other. -/
def registerAll (layout : StateLayout) : List Registration → Except RegisterFault StateLayout
  | [] => .ok layout
  | (id, size) :: calls =>
    match layout.registerChecked id size with
    | .error fault => .error fault
    | .ok layout => layout.registerAll calls

variable {layout layout' : StateLayout} {id id' : StateSegmentId} {size : ℤ}
  {calls before after : List Registration}

/-! ### One call -/

theorem segments_register (id : StateSegmentId) (n : ℕ) (id' : StateSegmentId) :
    (layout.register id n).segments id'
      = if id' = id then some { offset := layout.totalSize, size := n }
        else layout.segments id' :=
  Function.update_apply _ _ _ _

theorem has_register (id : StateSegmentId) (n : ℕ) (id' : StateSegmentId) :
    (layout.register id n).has id' = true ↔ id' = id ∨ layout.has id' = true := by
  rw [has, segments_register]
  by_cases h : id' = id
  · simp [h]
  · simp [h, has]

theorem totalSize_register (hsize : 0 < size) :
    ((layout.register id size.toNat).totalSize : ℤ) = layout.totalSize + size := by
  show ((layout.totalSize + size.toNat : ℕ) : ℤ) = _
  omega

/-- **What a call does** that returns. -/
theorem registerChecked_eq_ok : layout.registerChecked id size = .ok layout'
    ↔ layout.has id = false ∧ 0 < size ∧ layout.totalSize + size ≤ intMax ∧
      layout' = layout.register id size.toNat := by
  unfold registerChecked
  split
  · next hhas => simp [hhas]
  · next hhas =>
    split
    · next hsize => simp [hsize.not_gt]
    · next hsize =>
      split
      · next hmax => simp [hmax.not_ge]
      · next hmax =>
        simp only [Except.ok.injEq]
        refine ⟨fun h => ⟨Bool.eq_false_iff.mpr hhas, not_le.mp hsize, not_lt.mp hmax, h.symm⟩, ?_⟩
        exact fun h => h.2.2.2.symm

/-! ### Segments and indices -/

/-- **The segments tile the error state:** they are not empty, lie within it, meet nowhere and leave
    out nothing. -/
structure Tiled (layout : StateLayout) : Prop where
  within : ∀ id s, layout.segments id = some s → 0 < s.size ∧ s.offset + s.size ≤ layout.totalSize
  disjoint : ∀ id id' s s', id ≠ id' → layout.segments id = some s →
    layout.segments id' = some s' → s.offset + s.size ≤ s'.offset ∨ s'.offset + s'.size ≤ s.offset
  covered : ∀ i < layout.totalSize, ∃ id s, layout.segments id = some s ∧
    s.offset ≤ i ∧ i < s.offset + s.size

theorem tiled_empty : Tiled {} where
  within _ _ h := by cases h
  disjoint _ _ _ _ _ h := by cases h
  covered i h := absurd h (Nat.not_lt_zero i)

/-- A new segment goes to the end. -/
theorem Tiled.register {n : ℕ} (h : Tiled layout) (hnew : layout.has id = false) (hn : 0 < n) :
    Tiled (layout.register id n) where
  within := by
    intro id' s hs
    show 0 < s.size ∧ s.offset + s.size ≤ layout.totalSize + n
    rw [segments_register] at hs
    split at hs
    · cases hs
      exact ⟨hn, le_rfl⟩
    · have hold := h.within id' s hs
      omega
  disjoint := by
    intro id₁ id₂ s₁ s₂ hne h₁ h₂
    rw [segments_register] at h₁ h₂
    split at h₁
    · next heq₁ =>
      rw [if_neg (fun heq₂ => hne (heq₁.trans heq₂.symm))] at h₂
      cases h₁
      exact .inr (h.within id₂ s₂ h₂).2
    · split at h₂
      · cases h₂
        exact .inl (h.within id₁ s₁ h₁).2
      · exact h.disjoint id₁ id₂ s₁ s₂ hne h₁ h₂
  covered := by
    intro i hi
    have hi : i < layout.totalSize + n := hi
    by_cases hold : i < layout.totalSize
    · obtain ⟨id', s, hs, hlow, hhigh⟩ := h.covered i hold
      refine ⟨id', s, ?_, hlow, hhigh⟩
      rw [segments_register, if_neg, hs]
      rintro rfl
      rw [has, hs] at hnew
      cases hnew
    · refine ⟨id, ⟨layout.totalSize, n⟩, ?_, ?_, hi⟩
      · rw [segments_register, if_pos rfl]
      · exact not_lt.mp hold

/-! ### Some calls -/

theorem registerAll_nil : layout.registerAll [] = .ok layout' ↔ layout = layout' := by
  rw [registerAll, Except.ok.injEq]

theorem registerAll_cons : layout.registerAll ((id, size) :: calls) = .ok layout'
    ↔ layout.has id = false ∧ 0 < size ∧ layout.totalSize + size ≤ intMax ∧
      (layout.register id size.toNat).registerAll calls = .ok layout' := by
  cases hcall : layout.registerChecked id size with
  | error fault =>
    simp only [registerAll, hcall, reduceCtorEq, false_iff]
    rintro ⟨hnew, hsize, hmax, -⟩
    rw [registerChecked_eq_ok.mpr ⟨hnew, hsize, hmax, rfl⟩] at hcall
    cases hcall
  | ok middle =>
    obtain ⟨hnew, hsize, hmax, rfl⟩ := registerChecked_eq_ok.mp hcall
    simp only [registerAll, hcall]
    exact ⟨fun h => ⟨hnew, hsize, hmax, h⟩, fun h => h.2.2.2⟩

theorem registerAll_append : layout.registerAll (before ++ after) = .ok layout'
    ↔ ∃ middle, layout.registerAll before = .ok middle ∧
      middle.registerAll after = .ok layout' := by
  induction before generalizing layout with
  | nil => simp [registerAll_nil]
  | cons c before ih =>
    obtain ⟨id, size⟩ := c
    simp only [List.cons_append, registerAll_cons, ih]
    tauto

/-- The segments still tile the error state. -/
theorem registerAll_tiled (h : layout.registerAll calls = .ok layout') (htiled : Tiled layout) :
    Tiled layout' := by
  induction calls generalizing layout with
  | nil =>
    obtain rfl := registerAll_nil.mp h
    exact htiled
  | cons c calls ih =>
    obtain ⟨hnew, hsize, -, hrest⟩ := registerAll_cons.mp h
    exact ih hrest (htiled.register hnew (by omega))

/-- **What is registered stays** where it is. -/
theorem registerAll_keeps {s : StateSegment} (h : layout.registerAll calls = .ok layout')
    (hs : layout.segments id = some s) : layout'.segments id = some s := by
  induction calls generalizing layout with
  | nil =>
    obtain rfl := registerAll_nil.mp h
    exact hs
  | cons c calls ih =>
    obtain ⟨hnew, -, -, hrest⟩ := registerAll_cons.mp h
    refine ih hrest ?_
    rw [segments_register, if_neg, hs]
    rintro rfl
    rw [has, hs] at hnew
    cases hnew

theorem registerAll_totalSize (h : layout.registerAll calls = .ok layout') :
    (layout'.totalSize : ℤ) = layout.totalSize + (calls.map Prod.snd).sum := by
  induction calls generalizing layout with
  | nil =>
    obtain rfl := registerAll_nil.mp h
    simp
  | cons c calls ih =>
    obtain ⟨-, hsize, -, hrest⟩ := registerAll_cons.mp h
    rw [ih hrest, totalSize_register hsize, List.map_cons, List.sum_cons, add_assoc]

theorem registerAll_has (h : layout.registerAll calls = .ok layout') :
    layout'.has id = true ↔ layout.has id = true ∨ ∃ size, (id, size) ∈ calls := by
  induction calls generalizing layout with
  | nil =>
    obtain rfl := registerAll_nil.mp h
    simp
  | cons c calls ih =>
    obtain ⟨-, -, -, hrest⟩ := registerAll_cons.mp h
    rw [ih hrest, has_register]
    constructor
    · rintro ((rfl | hhas) | ⟨size, hmem⟩)
      · exact .inr ⟨c.2, List.mem_cons_self⟩
      · exact .inl hhas
      · exact .inr ⟨size, List.mem_cons_of_mem _ hmem⟩
    · rintro (hhas | ⟨size, hmem⟩)
      · exact .inl (.inr hhas)
      · rcases List.mem_cons.mp hmem with rfl | hmem
        · exact .inl (.inl rfl)
        · exact .inr ⟨size, hmem⟩

/-- A segment begins where those before it end. -/
theorem registerAll_segment
    (h : layout.registerAll (before ++ (id, size) :: after) = .ok layout') :
    layout'.segments id = some
      { offset := (layout.totalSize + (before.map Prod.snd).sum).toNat, size := size.toNat } := by
  obtain ⟨middle, hbefore, hrest⟩ := registerAll_append.mp h
  obtain ⟨-, -, -, hafter⟩ := registerAll_cons.mp hrest
  rw [← registerAll_totalSize hbefore, Int.toNat_natCast]
  apply registerAll_keeps hafter
  rw [segments_register, if_pos rfl]

/-! ### The assertions -/

/-- The assertions hold in each of the calls. -/
def SatisfiesAsserts (calls : List Registration) : Prop :=
  (calls.map Prod.fst).Nodup ∧ ∀ c ∈ calls, 0 < c.2

theorem sum_sizes_nonneg (h : ∀ c ∈ calls, 0 < c.2) : 0 ≤ (calls.map Prod.snd).sum := by
  apply List.sum_nonneg
  intro size hsize
  obtain ⟨c, hc, rfl⟩ := List.mem_map.mp hsize
  exact (h c hc).le

/-- **The calls return** exactly when the assertions hold, of segments that are new, and an `int`
    holds the dimension. -/
theorem exists_registerAll_iff (hmax : layout.totalSize ≤ intMax) :
    (∃ layout', layout.registerAll calls = .ok layout')
      ↔ (∀ c ∈ calls, layout.has c.1 = false) ∧ SatisfiesAsserts calls ∧
        layout.totalSize + (calls.map Prod.snd).sum ≤ intMax := by
  induction calls generalizing layout with
  | nil => simpa [registerAll, SatisfiesAsserts] using hmax
  | cons c calls ih =>
    obtain ⟨id, size⟩ := c
    simp only [registerAll_cons, List.map_cons, List.sum_cons]
    constructor
    · rintro ⟨layout', hnew, hsize, hfits, hrest⟩
      have htotal : ((layout.register id size.toNat).totalSize : ℤ) = layout.totalSize + size :=
        totalSize_register hsize
      obtain ⟨hfresh, ⟨hnodup, hpos⟩, hsum⟩ := (ih (htotal ▸ hfits)).mp ⟨layout', hrest⟩
      have hold : ∀ c ∈ calls, c.1 ≠ id ∧ layout.has c.1 = false := by
        intro c hc
        have hc := hfresh c hc
        rw [← Bool.not_eq_true, has_register, not_or, Bool.not_eq_true] at hc
        exact hc
      refine ⟨?_, ⟨?_, ?_⟩, by omega⟩
      · exact List.forall_mem_cons.mpr ⟨hnew, fun c hc => (hold c hc).2⟩
      · refine List.nodup_cons.mpr ⟨?_, hnodup⟩
        rintro hmem
        obtain ⟨c, hc, heq⟩ := List.mem_map.mp hmem
        exact (hold c hc).1 heq
      · exact List.forall_mem_cons.mpr ⟨hsize, hpos⟩
    · rintro ⟨hfresh, ⟨hnodup, hpos⟩, hsum⟩
      obtain ⟨hnew, hfresh⟩ := List.forall_mem_cons.mp hfresh
      obtain ⟨hsize, hpos⟩ := List.forall_mem_cons.mp hpos
      obtain ⟨hother, hnodup⟩ := List.nodup_cons.mp hnodup
      have htotal : ((layout.register id size.toNat).totalSize : ℤ) = layout.totalSize + size :=
        totalSize_register hsize
      have hrest := sum_sizes_nonneg hpos
      have hfits : layout.totalSize + size ≤ intMax := by linarith
      have hfresh' : ∀ c ∈ calls, (layout.register id size.toNat).has c.1 = false := by
        intro c hc
        rw [← Bool.not_eq_true, has_register, not_or, Bool.not_eq_true]
        exact ⟨fun heq => hother (List.mem_map.mpr ⟨c, hc, heq⟩), hfresh c hc⟩
      have hsum' : (layout.register id size.toNat).totalSize + (calls.map Prod.snd).sum
          ≤ intMax := by
        rw [htotal]
        linarith
      obtain ⟨layout', hcalls⟩ := (ih (htotal ▸ hfits)).mpr ⟨hfresh', ⟨hnodup, hpos⟩, hsum'⟩
      exact ⟨layout', hnew, hsize, hfits, hcalls⟩

/-! ### From the start -/

/-- **The segments after some calls,** in the order of the calls. -/
structure LaidOut (calls : List Registration) (layout : StateLayout) : Prop where
  tiled : Tiled layout
  total : (layout.totalSize : ℤ) = (calls.map Prod.snd).sum
  has_iff : ∀ id, layout.has id = true ↔ ∃ size, (id, size) ∈ calls
  in_order : ∀ before id size after, calls = before ++ (id, size) :: after →
    layout.segments id
      = some { offset := ((before.map Prod.snd).sum).toNat, size := size.toNat }
  unchanged : ∀ before after, calls = before ++ after →
    ∃ earlier, registerAll {} before = .ok earlier ∧
      ∀ id s, earlier.segments id = some s → layout.segments id = some s

/-- **Every sequence of calls** that returns lays its segments out. -/
theorem registerAll_laidOut (h : registerAll {} calls = .ok layout) : LaidOut calls layout where
  tiled := registerAll_tiled h tiled_empty
  total := (registerAll_totalSize h).trans (zero_add _)
  has_iff _ := (registerAll_has h).trans (or_iff_right Bool.false_ne_true)
  in_order before id size after hcalls := by
    rw [hcalls] at h
    rw [registerAll_segment h]
    simp
  unchanged before after hcalls := by
    rw [hcalls] at h
    obtain ⟨earlier, hbefore, hafter⟩ := registerAll_append.mp h
    exact ⟨earlier, hbefore, fun _ _ => registerAll_keeps hafter⟩

end StateLayout

/-! ### The layouts of the filter -/

namespace EkfOptions

/-- The calls of `BuildLayout`. -/
def layoutCalls (options : EkfOptions) : List Registration :=
  [(.position, 3), (.velocity, 3), (.attitude, 3), (.accelBias, 3), (.gyroBias, 3)]
    ++ (if options.enableGnssClockState then [(.gnssClock, 2)] else [])
    ++ (if options.enableBaroBiasState then [(.baroBias, 1)] else [])

/-- No assertion stops `BuildLayout`. -/
theorem registerAll_layoutCalls (options : EkfOptions) :
    StateLayout.registerAll {} options.layoutCalls = .ok options.buildLayout := by
  unfold layoutCalls buildLayout
  cases options.enableGnssClockState <;> cases options.enableBaroBiasState <;> rfl

end EkfOptions

end FalconGuide
