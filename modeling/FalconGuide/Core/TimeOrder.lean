import FalconGuide.Core.TimeDifference
import FalconGuide.Core.TimeLines
import Mathlib.Data.List.Chain

namespace FalconGuide

/-!
# The order of arbitrary timestamps

`compareTimestamps` chooses the basis pair by pair, so three timestamps may be compared on two
clocks, which need not agree.

* `compareTimestamps_on_steady` / `compareTimestamps_on_gps` — the basis of a pair;
* `ClockStep` — a GPS time between two that the monotonic clock orders the other way;
* `transitiveAt_iff` — only there the comparison is not transitive;
* `FollowsIn` — the order of the timestamps of a chain, a preorder where no clock steps;
* `compareTimestamps_consistent_iff` — the comparison, and what it makes of buffers.
-/

/-! ### The basis of a comparison -/

/-- `t` has a time on this basis. -/
def Timestamp.Has (basis : TimeBasis) (t : Timestamp) : Prop :=
  match basis with
  | .steady => t.hasSteady = true
  | .gps => t.hasGps = true

/-- `t` has both. -/
def Timestamp.Dual (t : Timestamp) : Prop := t.Has .steady ∧ t.Has .gps

/-- A timestamp with both. -/
def Timestamp.ofBoth (nanoseconds week : ℤ) (secondsOfWeek : ℚ) : Timestamp :=
  { Timestamp.ofGps week secondsOfWeek with
    steady := { nanosecondsSinceEpoch := nanoseconds }, hasSteady := true }

variable {t u a b c d : Timestamp} {basis basis' : TimeBasis}

theorem Timestamp.On.has (h : t.On basis) : t.Has basis := by
  cases basis with
  | steady => exact h
  | gps => exact h.2

theorem Timestamp.On.unique (h : t.On basis) (h' : t.On basis') : basis = basis' := by
  cases basis with
  | steady =>
    cases basis' with
    | steady => rfl
    | gps => exact absurd (h.symm.trans h'.1) (by decide)
  | gps =>
    cases basis' with
    | steady => exact absurd (h'.symm.trans h.1) (by decide)
    | gps => rfl

/-- Without a monotonic time it is GPS time that counts. -/
theorem Timestamp.on_gps_of_not_has (h : ¬ t.Has .steady) (hgps : t.Has .gps) : t.On .gps :=
  ⟨Bool.eq_false_iff.mpr h, hgps⟩

theorem Timestamp.On.not_has_steady (h : t.On .gps) : ¬ t.Has .steady :=
  Bool.eq_false_iff.mp h.1

theorem compareTimestamps_on_steady (ht : t.Has .steady) (hu : u.Has .steady) :
    compareTimestamps t u = .ofKeys (t.key .steady) (u.key .steady) :=
  @compareTimestamps_eq .steady t u ht hu

theorem compareTimestamps_on_gps (h : ¬ (t.Has .steady ∧ u.Has .steady)) (ht : t.Has .gps)
    (hu : u.Has .gps) : compareTimestamps t u = .ofKeys (t.key .gps) (u.key .gps) := by
  rw [compareTimestamps_of_gps ⟨h, ht, hu⟩]
  exact compareGpsTime_eq t.gps u.gps

theorem compareTimestamps_on_neither (h : ¬ (t.Has .steady ∧ u.Has .steady))
    (hgps : ¬ (t.Has .gps ∧ u.Has .gps)) : compareTimestamps t u = .notComparable := by
  have hsteady : (t.hasSteady && u.hasSteady) = false := by
    rw [← Bool.not_eq_true, Bool.and_eq_true]
    exact h
  have hboth : (t.hasGps && u.hasGps) = false := by
    rw [← Bool.not_eq_true, Bool.and_eq_true]
    exact hgps
  rw [compareTimestamps, hsteady, hboth]
  rfl

/-- The two timestamps are compared on this basis. -/
def ComparedOn (basis : TimeBasis) (t u : Timestamp) : Prop :=
  t.Has basis ∧ u.Has basis ∧ (basis = .gps → ¬ (t.Has .steady ∧ u.Has .steady))

theorem ComparedOn.compare (h : ComparedOn basis t u) :
    compareTimestamps t u = .ofKeys (t.key basis) (u.key basis) := by
  cases basis with
  | steady => exact compareTimestamps_on_steady h.1 h.2.1
  | gps => exact compareTimestamps_on_gps (h.2.2 rfl) h.1 h.2.1

theorem comparedOn_or_notComparable (t u : Timestamp) :
    (∃ basis, ComparedOn basis t u) ∨ compareTimestamps t u = .notComparable := by
  by_cases hsteady : t.Has .steady ∧ u.Has .steady
  · exact .inl ⟨.steady, hsteady.1, hsteady.2, fun h => by cases h⟩
  · by_cases hgps : t.Has .gps ∧ u.Has .gps
    · exact .inl ⟨.gps, hgps.1, hgps.2, fun _ => hsteady⟩
    · exact .inr (compareTimestamps_on_neither hsteady hgps)

theorem atOrBefore_iff_comparedOn :
    t.AtOrBefore u ↔ ∃ basis, ComparedOn basis t u ∧ t.key basis ≤ u.key basis := by
  have hkeys : ∀ basis, ComparedOn basis t u → (t.AtOrBefore u ↔ t.key basis ≤ u.key basis) := by
    intro basis h
    rw [Timestamp.AtOrBefore, h.compare, TimestampOrdering.ofKeys_eq_before,
      TimestampOrdering.ofKeys_eq_equal, le_iff_lt_or_eq]
  constructor
  · intro h
    rcases comparedOn_or_notComparable t u with ⟨basis, hbasis⟩ | hnot
    · exact ⟨basis, hbasis, (hkeys basis hbasis).mp h⟩
    · rw [Timestamp.AtOrBefore, hnot] at h
      rcases h with h | h
      · cases h
      · cases h
  · rintro ⟨basis, hbasis, hle⟩
    exact (hkeys basis hbasis).mpr hle

theorem after_iff_comparedOn : compareTimestamps t u = .after
    ↔ ∃ basis, ComparedOn basis t u ∧ u.key basis < t.key basis := by
  have hkeys : ∀ basis, ComparedOn basis t u →
      (compareTimestamps t u = .after ↔ u.key basis < t.key basis) := by
    intro basis h
    rw [h.compare, TimestampOrdering.ofKeys_eq_after]
  constructor
  · intro h
    rcases comparedOn_or_notComparable t u with ⟨basis, hbasis⟩ | hnot
    · exact ⟨basis, hbasis, (hkeys basis hbasis).mp h⟩
    · rw [hnot] at h
      cases h
  · rintro ⟨basis, hbasis, hlt⟩
    exact (hkeys basis hbasis).mpr hlt

theorem ComparedOn.steady (h : ComparedOn .steady t u) : t.Has .steady ∧ u.Has .steady :=
  ⟨h.1, h.2.1⟩

theorem ComparedOn.gps (h : ComparedOn .gps t u) :
    t.Has .gps ∧ u.Has .gps ∧ ¬ (t.Has .steady ∧ u.Has .steady) :=
  ⟨h.1, h.2.1, h.2.2 rfl⟩

/-! ### Three timestamps -/

/-- `c` is not earlier than `a`, if both steps to it are forward and it can be compared. -/
def TransitiveAt (a b c : Timestamp) : Prop :=
  a.AtOrBefore b → b.AtOrBefore c → compareTimestamps a c ≠ .after

/-- **The clocks disagree:** one of the timestamps has GPS time alone, and on GPS time it lies
    between the others, which the monotonic clock orders the other way. -/
def ClockStep (a b c : Timestamp) : Prop :=
  (a.Dual ∧ b.On .gps ∧ c.Dual ∧ a.key .gps ≤ b.key .gps ∧ b.key .gps ≤ c.key .gps ∧
    c.key .steady < a.key .steady) ∨
  (a.On .gps ∧ b.Dual ∧ c.Dual ∧ c.key .gps < a.key .gps ∧ a.key .gps ≤ b.key .gps ∧
    b.key .steady ≤ c.key .steady) ∨
  (a.Dual ∧ b.Dual ∧ c.On .gps ∧ b.key .gps ≤ c.key .gps ∧ c.key .gps < a.key .gps ∧
    a.key .steady ≤ b.key .steady)

/-- The three comparisons there. -/
theorem ClockStep.compare (h : ClockStep a b c) :
    a.AtOrBefore b ∧ b.AtOrBefore c ∧ compareTimestamps a c = .after := by
  simp only [atOrBefore_iff_comparedOn, after_iff_comparedOn]
  rcases h with ⟨ha, hb, hc, hab, hbc, hac⟩ | ⟨ha, hb, hc, hac, hab, hbc⟩ |
    ⟨ha, hb, hc, hbc, hac, hab⟩
  · have hnot := hb.not_has_steady
    exact ⟨⟨.gps, ⟨ha.2, hb.has, fun _ h => hnot h.2⟩, hab⟩,
      ⟨.gps, ⟨hb.has, hc.2, fun _ h => hnot h.1⟩, hbc⟩,
      ⟨.steady, ⟨ha.1, hc.1, fun h => by cases h⟩, hac⟩⟩
  · have hnot := ha.not_has_steady
    exact ⟨⟨.gps, ⟨ha.has, hb.2, fun _ h => hnot h.1⟩, hab⟩,
      ⟨.steady, ⟨hb.1, hc.1, fun h => by cases h⟩, hbc⟩,
      ⟨.gps, ⟨ha.has, hc.2, fun _ h => hnot h.1⟩, hac⟩⟩
  · have hnot := hc.not_has_steady
    exact ⟨⟨.steady, ⟨ha.1, hb.1, fun h => by cases h⟩, hab⟩,
      ⟨.gps, ⟨hb.2, hc.has, fun _ h => hnot h.2⟩, hbc⟩,
      ⟨.gps, ⟨ha.2, hc.has, fun _ h => hnot h.2⟩, hac⟩⟩

/-! ### Chains of timestamps -/

/-- On the way from `a` to `c` some timestamp has the bases of both. -/
def FollowsIn (U : Set Timestamp) (a c : Timestamp) : Prop :=
  a ∈ U ∧ c ∈ U ∧ ∃ basis basis', a.On basis ∧ c.On basis' ∧
    ∃ d ∈ U, d.Has basis ∧ d.Has basis' ∧ a.key basis ≤ d.key basis ∧ d.key basis' ≤ c.key basis'

variable {U : Set Timestamp}

theorem FollowsIn.of_atOrBefore (ha : a ∈ U) (hc : c ∈ U) (h : a.AtOrBefore c) :
    FollowsIn U a c := by
  obtain ⟨basis, hbasis, hle⟩ := atOrBefore_iff_comparedOn.mp h
  refine ⟨ha, hc, ?_⟩
  cases basis with
  | steady => exact ⟨.steady, .steady, hbasis.1, hbasis.2.1, a, ha, hbasis.1, hbasis.1, le_rfl, hle⟩
  | gps =>
    obtain ⟨hagps, hcgps, hnot⟩ := hbasis.gps
    by_cases hsteady : a.Has .steady
    · have hcnot : ¬ c.Has .steady := fun h => hnot ⟨hsteady, h⟩
      exact ⟨.steady, .gps, hsteady, Timestamp.on_gps_of_not_has hcnot hcgps, a, ha, hsteady,
        hagps, le_rfl, hle⟩
    · by_cases hcsteady : c.Has .steady
      · exact ⟨.gps, .steady, Timestamp.on_gps_of_not_has hsteady hagps, hcsteady, c, hc, hcgps,
          hcsteady, hle, le_rfl⟩
      · exact ⟨.gps, .gps, Timestamp.on_gps_of_not_has hsteady hagps,
          Timestamp.on_gps_of_not_has hcsteady hcgps, a, ha, hagps, hagps, le_rfl, hle⟩

/-- **One after the other,** where no clock steps. -/
theorem FollowsIn.trans (hU : ∀ a ∈ U, ∀ b ∈ U, ∀ c ∈ U, ¬ ClockStep a b c) (hab : FollowsIn U a b)
    (hbc : FollowsIn U b c) : FollowsIn U a c := by
  obtain ⟨ha, hb, basis, middle, haon, hbon, d, hd, hdbasis, hdmiddle, had, hdb⟩ := hab
  obtain ⟨-, hc, middle', basis', hbon', hcon, e, he, hemiddle, hebasis, hbe, hec⟩ := hbc
  obtain rfl := hbon.unique hbon'
  refine ⟨ha, hc, basis, basis', haon, hcon, ?_⟩
  have hmiddle := hdb.trans hbe
  cases basis with
  | steady =>
    cases middle with
    | steady => exact ⟨e, he, hemiddle, hebasis, had.trans hmiddle, hec⟩
    | gps =>
      cases basis' with
      | gps => exact ⟨d, hd, hdbasis, hdmiddle, had, hmiddle.trans hec⟩
      | steady =>
        -- `b` lies between `d` and `e`
        have hde : d.key .steady ≤ e.key .steady := not_lt.mp fun hlt =>
          hU d hd b hb e he (.inl ⟨⟨hdbasis, hdmiddle⟩, hbon, ⟨hebasis, hemiddle⟩, hdb, hbe, hlt⟩)
        exact ⟨d, hd, hdbasis, hdbasis, had, hde.trans hec⟩
  | gps =>
    cases middle with
    | gps => exact ⟨e, he, hemiddle, hebasis, had.trans hmiddle, hec⟩
    | steady =>
      cases basis' with
      | steady => exact ⟨d, hd, hdbasis, hdmiddle, had, hmiddle.trans hec⟩
      | gps =>
        -- `a` is not between `e` and `d`
        have hae : a.key .gps ≤ e.key .gps := not_lt.mp fun hlt =>
          hU a ha d hd e he (.inr (.inl
            ⟨haon, ⟨hdmiddle, hdbasis⟩, ⟨hemiddle, hebasis⟩, hlt, had, hmiddle⟩))
        exact ⟨e, he, hebasis, hebasis, hae, hec⟩

/-- What follows in a chain is not earlier. -/
theorem FollowsIn.not_after (hU : ∀ a ∈ U, ∀ b ∈ U, ∀ c ∈ U, ¬ ClockStep a b c)
    (h : FollowsIn U a c) : compareTimestamps a c ≠ .after := by
  intro hafter
  obtain ⟨ha, hc, basis, basis', haon, hcon, d, hd, hdbasis, hdbasis', had, hdc⟩ := h
  obtain ⟨common, hcommon, hlt⟩ := after_iff_comparedOn.mp hafter
  cases common with
  | steady =>
    obtain rfl := haon.unique (show a.On .steady from hcommon.1)
    obtain rfl := hcon.unique (show c.On .steady from hcommon.2.1)
    exact (had.trans hdc).not_gt hlt
  | gps =>
    obtain ⟨hagps, hcgps, hnot⟩ := hcommon.gps
    cases basis with
    | steady =>
      cases basis' with
      | steady => exact hnot ⟨haon, hcon⟩
      | gps =>
        exact hU a ha d hd c hc (.inr (.inr
          ⟨⟨haon, hagps⟩, ⟨hdbasis, hdbasis'⟩, hcon, hdc, hlt, had⟩))
    | gps =>
      cases basis' with
      | gps => exact (had.trans hdc).not_gt hlt
      | steady =>
        exact hU a ha d hd c hc (.inr (.inl
          ⟨haon, ⟨hdbasis', hdbasis⟩, ⟨hcon, hcgps⟩, hlt, had, hdc⟩))

/-- **Transitivity** of three timestamps holds unless a clock steps between them. -/
theorem transitiveAt_iff (a b c : Timestamp) : TransitiveAt a b c ↔ ¬ ClockStep a b c := by
  constructor
  · intro h hstep
    obtain ⟨hab, hbc, hac⟩ := hstep.compare
    exact h hab hbc hac
  · intro h hab hbc hac
    obtain ⟨first, hfirst, hab⟩ := atOrBefore_iff_comparedOn.mp hab
    obtain ⟨second, hsecond, hbc⟩ := atOrBefore_iff_comparedOn.mp hbc
    obtain ⟨third, hthird, hac⟩ := after_iff_comparedOn.mp hac
    cases first with
    | steady =>
      have hasteady := hfirst.1
      have hbsteady := hfirst.2.1
      cases second with
      | steady =>
        cases third with
        | steady => exact (hab.trans hbc).not_gt hac
        | gps => exact hthird.gps.2.2 ⟨hasteady, hsecond.2.1⟩
      | gps =>
        obtain ⟨hbgps, hcgps, hnot⟩ := hsecond.gps
        have hcnot : ¬ c.Has .steady := fun h => hnot ⟨hbsteady, h⟩
        cases third with
        | steady => exact hcnot hthird.2.1
        | gps =>
          exact h (.inr (.inr ⟨⟨hasteady, hthird.1⟩, ⟨hbsteady, hbgps⟩,
            Timestamp.on_gps_of_not_has hcnot hcgps, hbc, hac, hab⟩))
    | gps =>
      obtain ⟨hagps, hbgps, hnot⟩ := hfirst.gps
      cases second with
      | steady =>
        have hbsteady := hsecond.1
        have hanot : ¬ a.Has .steady := fun h => hnot ⟨h, hbsteady⟩
        cases third with
        | steady => exact hanot hthird.1
        | gps =>
          exact h (.inr (.inl ⟨Timestamp.on_gps_of_not_has hanot hagps, ⟨hbsteady, hbgps⟩,
            ⟨hsecond.2.1, hthird.2.1⟩, hac, hab, hbc⟩))
      | gps =>
        have hcgps := hsecond.2.1
        cases third with
        | steady =>
          have hbnot : ¬ b.Has .steady := fun h => hnot ⟨hthird.1, h⟩
          exact h (.inl ⟨⟨hthird.1, hagps⟩, Timestamp.on_gps_of_not_has hbnot hbgps,
            ⟨hthird.2.1, hcgps⟩, hab, hbc, hac⟩)
        | gps => exact (hab.trans hbc).not_gt hac

/-! ### Buffers -/

namespace TimeOrderedBuffer

variable {M : Type} (time : M → Timestamp)

/-- No measurement is stored behind a later one. -/
def Sorted (b : TimeOrderedBuffer M) : Prop :=
  b.measurements.Pairwise fun x y => compareTimestamps (time x) (time y) ≠ .after

/-- The measurements are of `U`, each at or before the next one. -/
structure Linked (U : Set M) (b : TimeOrderedBuffer M) : Prop where
  mem : ∀ x ∈ b.measurements, x ∈ U
  chain : b.measurements.IsChain fun x y => (time x).AtOrBefore (time y)

variable {time} {U : Set M} {b : TimeOrderedBuffer M} {m : M} {xs ys : List M}

/-- A chain is sorted where no clock steps. -/
theorem Linked.sorted (hU : ∀ x ∈ U, ∀ y ∈ U, ∀ z ∈ U, ¬ ClockStep (time x) (time y) (time z))
    (hb : Linked time U b) : Sorted time b := by
  have hstep : ∀ t ∈ time '' U, ∀ u ∈ time '' U, ∀ v ∈ time '' U, ¬ ClockStep t u v := by
    rintro _ ⟨x, hx, rfl⟩ _ ⟨y, hy, rfl⟩ _ ⟨z, hz, rfl⟩
    exact hU x hx y hy z hz
  let follows : M → M → Prop := fun x y => FollowsIn (time '' U) (time x) (time y)
  have : Trans follows follows follows := ⟨FollowsIn.trans hstep⟩
  have hchain : b.measurements.IsChain follows :=
    hb.chain.imp_of_mem_imp fun x y hx hy hle => FollowsIn.of_atOrBefore
      (Set.mem_image_of_mem time (hb.mem x hx)) (Set.mem_image_of_mem time (hb.mem y hy)) hle
  exact (List.isChain_iff_pairwise.mp hchain).imp (FollowsIn.not_after hstep)

/-- The scan puts the measurement between two of the chain. -/
theorem scan_isChain (h : scan time m xs = some ys)
    (hxs : xs.IsChain fun x y => (time x).AtOrBefore (time y)) :
    ys.IsChain fun x y => (time x).AtOrBefore (time y) := by
  obtain ⟨before, after, rfl, rfl, hbefore, hafter⟩ := scan_cases h
  obtain ⟨hfront, hback, -⟩ := List.isChain_append.mp hxs
  refine hfront.append (List.isChain_cons.mpr ⟨hafter, hback⟩) ?_
  intro x hx y hy
  rw [List.head?_cons, Option.mem_some_iff] at hy
  rw [← hy]
  exact Timestamp.atOrBefore_of_after (hbefore x (List.mem_of_getLast? hx))

/-- Behind the newest of the chain. -/
theorem isChain_concat {latest : M} (hlast : b.measurements.getLast? = some latest)
    (hle : (time latest).AtOrBefore (time m))
    (hb : b.measurements.IsChain fun x y => (time x).AtOrBefore (time y)) :
    (b.measurements ++ [m]).IsChain fun x y => (time x).AtOrBefore (time y) := by
  refine hb.append (List.isChain_singleton m) ?_
  intro x hx y hy
  rw [hlast, Option.mem_some_iff] at hx
  rw [List.head?_cons, Option.mem_some_iff] at hy
  rwa [← hx, ← hy]

/-- **The place of a measurement** is one in the chain, whatever the timestamps are. -/
theorem place_isChain (h : b.place time m = .ok xs)
    (hb : b.measurements.IsChain fun x y => (time x).AtOrBefore (time y)) :
    xs.IsChain fun x y => (time x).AtOrBefore (time y) := by
  cases hlast : b.measurements.getLast? with
  | none =>
    simp only [place, hlast, Except.ok.injEq] at h
    rw [← h]
    exact List.isChain_singleton m
  | some latest =>
    cases hcmp : compareTimestamps (time latest) (time m) with
    | before =>
      simp only [place, hlast, hcmp, Except.ok.injEq] at h
      rw [← h]
      exact isChain_concat hlast (.inl hcmp) hb
    | equal =>
      simp only [place, hlast, hcmp, Except.ok.injEq] at h
      rw [← h]
      exact isChain_concat hlast (.inr hcmp) hb
    | notComparable => simp [place, hlast, hcmp] at h
    | after =>
      cases hallow : b.allowOutOfOrderInsert with
      | false => simp [place, hlast, hcmp, hallow] at h
      | true =>
        cases hscan : scan time m b.measurements with
        | none => simp [place, hlast, hcmp, hallow, hscan] at h
        | some zs =>
          simp only [place, hlast, hcmp, hallow, hscan, Bool.not_true, Bool.false_eq_true,
            if_false, Except.ok.injEq] at h
          rw [← h]
          exact scan_isChain hscan hb

/-- **One insert.** -/
theorem Linked.insert (hb : Linked time U b) (hm : m ∈ U) : Linked time U (b.insert time m).1 where
  mem := by
    intro x hx
    rcases mem_of_mem_insert hx with rfl | hx
    · exact hm
    · exact hb.mem x hx
  chain := by
    rcases @insert_cases M time b m with
      ⟨r, hinsert, -⟩ | ⟨xs, hplace, -, hinsert⟩ | ⟨xs, hplace, -, -, hinsert⟩
    · rw [hinsert]
      exact hb.chain
    · rw [hinsert]
      exact place_isChain hplace hb.chain
    · rw [hinsert]
      exact (place_isChain hplace hb.chain).tail

/-- What is left after the oldest are gone. -/
theorem Linked.suffix (hb : Linked time U b) (h : ys <:+ b.measurements) :
    Linked time U { b with measurements := ys } :=
  ⟨fun x hx => hb.mem x (h.subset hx), hb.chain.suffix h⟩

/-- At or before is enough for the end of an unbounded buffer. -/
theorem insert_concat (latest : M) (hsize : b.maxSize = 0)
    (hlast : b.measurements.getLast? = some latest) (hle : (time latest).AtOrBefore (time m)) :
    (b.insert time m).1 = { b with measurements := b.measurements ++ [m] } := by
  rcases hle with hcmp | hcmp
  · simp [insert, hlast, hcmp, enforceMaxSize, hsize]
  · simp [insert, hlast, hcmp, enforceMaxSize, hsize]

end TimeOrderedBuffer

namespace Ledger

variable {M : Type} {time : M → Timestamp} {U : Set M}

/-- **Every run** leaves a chain. -/
theorem linked_run {l : Ledger M} (hl : l.buffer.Linked time U) {calls : List (BufferCall M)}
    (hcalls : ∀ m, .insert m ∈ calls → m ∈ U) : (l.run time calls).buffer.Linked time U := by
  induction calls generalizing l with
  | nil => exact hl
  | cons c calls ih =>
    refine ih (l := l.call time c) ?_ fun m hm => hcalls m (List.mem_cons_of_mem c hm)
    cases c with
    | insert m =>
      rw [call_insert_buffer]
      exact hl.insert (hcalls m (by simp))
    | popUntil target includeEqual =>
      have hsplit := @TimeOrderedBuffer.popLoop_append M time target includeEqual
        l.buffer.measurements
      exact hl.suffix ⟨_, hsplit⟩
    | clear => exact hl.suffix List.nil_suffix

/-- Every buffer that is fed from `U` stays sorted. -/
def StaySorted (time : M → Timestamp) (U : Set M) : Prop :=
  ∀ (maxSize : ℕ) (allowOutOfOrderInsert : Bool) (calls : List (BufferCall M)),
    (∀ m, .insert m ∈ calls → m ∈ U) →
    ((Ledger.start M maxSize allowOutOfOrderInsert).run time calls).buffer.Sorted time

/-- Three inserts, one behind the other. -/
theorem run_three {x y z : M} (hxy : (time x).AtOrBefore (time y))
    (hyz : (time y).AtOrBefore (time z)) :
    ((Ledger.start M 0 true).run time [.insert x, .insert y, .insert z]).buffer.measurements
      = [x, y, z] := by
  show ((((Ledger.start M 0 true).call time (.insert x)).call time (.insert y)).call time
    (.insert z)).buffer.measurements = _
  rw [call_insert_buffer, call_insert_buffer, call_insert_buffer]
  rw [TimeOrderedBuffer.insert_concat x rfl rfl hxy]
  rw [TimeOrderedBuffer.insert_concat y rfl rfl hyz]
  rfl

/-- **The buffers stay sorted** exactly when no clock steps between three measurements. -/
theorem staySorted_iff (time : M → Timestamp) (U : Set M) : StaySorted time U
    ↔ ∀ x ∈ U, ∀ y ∈ U, ∀ z ∈ U, ¬ ClockStep (time x) (time y) (time z) := by
  constructor
  · intro h x hx y hy z hz hstep
    obtain ⟨hxy, hyz, hxz⟩ := hstep.compare
    have hsorted := h 0 true [.insert x, .insert y, .insert z] (by simp [hx, hy, hz])
    rw [TimeOrderedBuffer.Sorted, run_three hxy hyz] at hsorted
    exact (List.pairwise_cons.mp hsorted).1 z (by simp) hxz
  · intro h maxSize allowOutOfOrderInsert calls hcalls
    refine (linked_run ⟨fun x hx => ?_, List.isChain_nil⟩ hcalls).sorted h
    exact absurd hx List.not_mem_nil

end Ledger

/-- **The comparison of arbitrary timestamps** is the same from both sides; it is transitive, and
    the buffers it fills stay sorted, exactly where no clock steps. -/
theorem compareTimestamps_consistent_iff (a b c : Timestamp) {M : Type} (time : M → Timestamp)
    (U : Set M) :
    compareTimestamps b a = (compareTimestamps a b).swap ∧
    (TransitiveAt a b c ↔ ¬ ClockStep a b c) ∧
    (Ledger.StaySorted time U
      ↔ ∀ x ∈ U, ∀ y ∈ U, ∀ z ∈ U, ¬ ClockStep (time x) (time y) (time z)) :=
  ⟨compareTimestamps_swap a b, transitiveAt_iff a b c, Ledger.staySorted_iff time U⟩

/-- A GPS time between two that the monotonic clock, set back in the meantime, orders the other
    way. -/
theorem compareTimestamps_not_transitive :
    compareTimestamps (.ofBoth 2 1 0) (.ofGps 1 1) = .before ∧
    compareTimestamps (.ofGps 1 1) (.ofBoth 1 1 2) = .before ∧
    compareTimestamps (.ofBoth 2 1 0) (.ofBoth 1 1 2) = .after ∧
    ((Ledger.start Timestamp 0 true).run id [.insert (.ofBoth 2 1 0), .insert (.ofGps 1 1),
      .insert (.ofBoth 1 1 2)]).buffer.measurements
        = [.ofBoth 2 1 0, .ofGps 1 1, .ofBoth 1 1 2] := by
  refine ⟨by decide, by decide, by decide, by decide⟩

end FalconGuide
