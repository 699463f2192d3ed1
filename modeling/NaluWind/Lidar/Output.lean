import NaluWind.Lidar.NcOutput
import NaluWind.Lidar.LineOfSiteInfo
/-!
  The lidar's output step: `LidarLineOfSite::output` (`src/wind_energy/SyntheticLidar.C`), one
  collective call over the ranks of the mesh's communicator.

  Every rank places `npoints_` points evenly on the current beam, from `tail_` to `tip_`
  (`segmentPoint`), and runs `local_field_interpolation` on them; the search and the
  interpolation are outside the source, so `output` receives each rank's result
  (`LocalSearchData`: per point, a velocity and an ownership count).  Two `MPI_Reduce(MPI_SUM)`
  calls give the root the sums over ranks — the first with the `int` count `3 * npoints_`, a
  signed overflow, and so undefined behaviour on every rank, once `npoints_` passes
  `INT_MAX / 3` — and the root's loop (`reconcile`) counts the points
  no rank located, tracks their bounding box for the log line, and divides each velocity by
  its degree; the root then hands the points and velocities to `output_txt` or `output_nc`.

  `reconcileStep` is one iteration of the loop; `foldl_reconcileStep_velocity` and
  `foldl_reconcileStep_notFoundCount` follow it over any list of distinct indices.  The
  headline result is that what reaches the writer is the velocity averaged over every sample
  of every rank, whatever the decomposition.
-/

namespace NaluWind.Lidar

/-- What `local_field_interpolation` leaves in `search_data_` on one rank: per point `j`, the
    interpolated velocity and the number of this rank's elements that located the point. -/
structure LocalSearchData (R : Type) where
  interpolatedValues : Nat → Fin 3 → R
  ownership : Nat → Int

/-- The root's loop state: `not_found_count`, `max_unmatched`, `min_unmatched`, and the
    `velocity` vector it scales. -/
structure Reconciliation (R : Type) where
  notFoundCount : Int
  maxUnmatched : Fin 3 → R
  minUnmatched : Fin 3 → R
  velocity : Nat → Fin 3 → R

section Output

variable {R : Type} [LinearOrderedField R]

/-- `INT_MAX`, the largest `int`. -/
def INT_MAX : Int := 2 ^ 31 - 1

/-- `std::numeric_limits<double>::max()`, `(2^53 - 1) · 2^971`. -/
def doubleMax : R := (2 ^ 53 - 1) * 2 ^ 971

/-- `std::numeric_limits<double>::lowest()`. -/
def doubleLowest : R := -doubleMax

/-- `dx`: the spacing of `npoints_` points from `tail_` to `tip_`. -/
def pointSpacing (seg : Segment R) (npoints : Int) (d : Fin 3) : R :=
  (seg.tip d - seg.tail d) / ((if npoints > 1 then npoints - 1 else 1 : Int) : R)

/-- `points[j] = tail_ + j * dx`. -/
def segmentPoint (seg : Segment R) (npoints : Int) (j : Nat) (d : Fin 3) : R :=
  seg.tail d + (j : R) * pointSpacing seg npoints d

/-- The `velocity` vector `MPI_Reduce(MPI_SUM)` leaves on the root: the sum over ranks. -/
def reducedVelocity {numRanks : Nat} (search : Fin numRanks → LocalSearchData R) (j : Nat)
    (d : Fin 3) : R :=
  ∑ r, (search r).interpolatedValues j d

/-- The `degree` vector `MPI_Reduce(MPI_SUM)` leaves on the root: the sum over ranks. -/
def degree {numRanks : Nat} (search : Fin numRanks → LocalSearchData R) (j : Nat) : Int :=
  ∑ r, (search r).ownership j

/-- `inv_deg`: `1 / degree[j]` for a located point, `0` otherwise. -/
def invDeg (degj : Int) : R := if degj > 0 then 1 / (degj : R) else 0

/-- Iteration `j` of the root's loop. -/
def reconcileStep (points : Nat → Fin 3 → R) (degree : Nat → Int) (st : Reconciliation R)
    (j : Nat) : Reconciliation R :=
  let degj := degree j
  let st := if degj = 0 then
      { st with
        notFoundCount := st.notFoundCount + 1
        maxUnmatched := fun d => max (st.maxUnmatched d) (points j d)
        minUnmatched := fun d => min (st.minUnmatched d) (points j d) }
    else st
  { st with velocity := Function.update st.velocity j fun d => st.velocity j d * invDeg degj }

/-- The root's loop `for (int j = 0; j < npoints_; ++j)`, from the reduced `velocity`. -/
def reconcile (points : Nat → Fin 3 → R) (velocity : Nat → Fin 3 → R) (degree : Nat → Int)
    (npoints : Nat) : Reconciliation R :=
  (List.range npoints).foldl (reconcileStep points degree)
    ⟨0, fun _ => doubleLowest, fun _ => doubleMax, velocity⟩

/-- `name_.substr(name_.find_last_of("/") + 1)`: the lidar's name after its last `/`. -/
def lidarName (name : String) : String := ((name.splitOn "/").getLast?).getD name

/-- The line the root logs when some points were not located; `logFmt` is how the log stream
    prints a `double`. -/
def unmatchedMessage (logFmt : R → String) (name : String) (st : Reconciliation R) :
    List String :=
  if st.notFoundCount > 0 then
    ["LIDAR " ++ lidarName name ++ " search did not match " ++ toString st.notFoundCount ++
      " points, max individually unmatched coords: (" ++ logFmt (st.maxUnmatched 0) ++ ", " ++
      logFmt (st.maxUnmatched 1) ++ ", " ++ logFmt (st.maxUnmatched 2) ++ ")" ++
      ", min individually unmatched coords: (" ++ logFmt (st.minUnmatched 0) ++ ", " ++
      logFmt (st.minUnmatched 1) ++ ", " ++ logFmt (st.minUnmatched 2) ++ ")\n"]
  else []

/-- `LidarLineOfSite::output` on `rank` of `numRanks` ranks, the beam being
    `seg = segGen->generate(time())` and rank `r`'s search `local_field_interpolation r`; `log`
    is what the root has logged so far.  `fmt` is how `output_txt` prints a `double`. -/
def output (fmt logFmt : R → String) (self : LidarLineOfSite R) (fs : LidarFiles R)
    (log : List String) (time dtratio : R) (seg : Segment R) {numRanks : Nat}
    (rank : Fin numRanks)
    (localFieldInterpolation : Fin numRanks → List (Fin 3 → R) → R → LocalSearchData R) :
    Except WriterError (LidarLineOfSite R × LidarFiles R × List String) :=
  if self.outputType = .DATAPROBE then .ok (self, fs, log)
  else if self.npoints < 0 then .error .lengthError
  else if 3 * self.npoints > INT_MAX then .error .undefinedBehaviour
  else
    let points := (List.range self.npoints.toNat).map (segmentPoint seg self.npoints)
    let extrap_dt : R := if self.predictor = .NEAREST then 0 else dtratio
    let search := fun r => localFieldInterpolation r points extrap_dt
    if rank.val = 0 then
      let st := reconcile (segmentPoint seg self.npoints) (reducedVelocity search)
        (degree search) self.npoints.toNat
      let log := log ++ unmatchedMessage logFmt self.name st
      let velocity := (List.range self.npoints.toNat).map st.velocity
      if self.outputType = .TEXT then
        (outputTxt fmt self fs time points velocity).map fun w => (w.1, w.2, log)
      else if self.outputType = .NETCDF then
        (outputNc self fs time points velocity).map fun w => (w.1, w.2, log)
      else .ok (self, fs, log)
    else .ok (self, fs, log)

end Output

/-! ## The root's loop -/

section Loop

variable {R : Type} [LinearOrderedField R] (points : Nat → Fin 3 → R) (deg : Nat → Int)

@[simp] theorem reconcileStep_velocity (st : Reconciliation R) (j i : Nat) :
    (reconcileStep points deg st j).velocity i =
      if i = j then fun d => st.velocity j d * invDeg (deg j) else st.velocity i := by
  by_cases h : deg j = 0 <;> simp [reconcileStep, h, Function.update_apply]

/-- Over distinct indices, the loop scales each visited velocity once and leaves the rest. -/
theorem foldl_reconcileStep_velocity : ∀ (js : List Nat), js.Nodup →
    ∀ (st : Reconciliation R) (i : Nat),
      (js.foldl (reconcileStep points deg) st).velocity i =
        if i ∈ js then fun d => st.velocity i d * invDeg (deg i) else st.velocity i
  | [], _, _, _ => by simp
  | j :: js, hnd, st, i => by
    obtain ⟨hj, hnd⟩ := List.nodup_cons.mp hnd
    rw [List.foldl_cons, foldl_reconcileStep_velocity js hnd, reconcileStep_velocity]
    by_cases hij : i = j
    · subst hij; simp [hj]
    · simp [hij]

theorem reconcile_velocity (velocity : Nat → Fin 3 → R) {n j : Nat} (hj : j < n) :
    (reconcile points velocity deg n).velocity j = fun d => velocity j d * invDeg (deg j) := by
  simp [reconcile, foldl_reconcileStep_velocity _ _ _ (List.nodup_range n), hj]

@[simp] theorem reconcileStep_maxUnmatched (st : Reconciliation R) (j : Nat) (d : Fin 3) :
    (reconcileStep points deg st j).maxUnmatched d =
      if deg j = 0 then max (st.maxUnmatched d) (points j d) else st.maxUnmatched d := by
  by_cases h : deg j = 0 <;> simp [reconcileStep, h]

@[simp] theorem reconcileStep_minUnmatched (st : Reconciliation R) (j : Nat) (d : Fin 3) :
    (reconcileStep points deg st j).minUnmatched d =
      if deg j = 0 then min (st.minUnmatched d) (points j d) else st.minUnmatched d := by
  by_cases h : deg j = 0 <;> simp [reconcileStep, h]

/-- A fold that raises `m` to `f j` at every kept index ends at its start or at one of the kept
    values, and is at least its start and every kept value. -/
theorem foldl_max_if {α : Type} [LinearOrder α] (f : Nat → α) (keep : Nat → Prop)
    [DecidablePred keep] : ∀ (js : List Nat) (m₀ m : α),
      js.foldl (fun m j => if keep j then max m (f j) else m) m₀ = m →
        (m = m₀ ∨ ∃ j ∈ js, keep j ∧ m = f j) ∧ m₀ ≤ m ∧ ∀ j ∈ js, keep j → f j ≤ m
  | [], _, _, h => by subst h; simp
  | j :: js, m₀, m, h => by
    rw [List.foldl_cons] at h
    obtain ⟨hsel, hstart, hall⟩ := foldl_max_if f keep js _ m h
    have hmem : ∀ {j'}, j' ∈ js → j' ∈ j :: js := List.mem_cons_of_mem j
    by_cases hk : keep j
    · rw [if_pos hk] at hsel hstart
      refine ⟨?_, le_trans (le_max_left _ _) hstart, fun j' hj' hk' => ?_⟩
      · rcases hsel with hm | ⟨j', hj', hk', hm⟩
        · rcases max_choice m₀ (f j) with h' | h'
          · exact .inl (hm.trans h')
          · exact .inr ⟨j, List.mem_cons_self _ _, hk, hm.trans h'⟩
        · exact .inr ⟨j', hmem hj', hk', hm⟩
      · rcases List.mem_cons.mp hj' with rfl | hj'
        · exact le_trans (le_max_right _ _) hstart
        · exact hall j' hj' hk'
    · rw [if_neg hk] at hsel hstart
      refine ⟨hsel.imp_right fun ⟨j', hj', hk', hm⟩ => ⟨j', hmem hj', hk', hm⟩, hstart,
        fun j' hj' hk' => ?_⟩
      rcases List.mem_cons.mp hj' with rfl | hj'
      · exact absurd hk' hk
      · exact hall j' hj' hk'

/-- `max_unmatched` is the fold that raises it to every visited unmatched point. -/
theorem foldl_reconcileStep_maxUnmatched (d : Fin 3) :
    ∀ (js : List Nat) (st : Reconciliation R),
      (js.foldl (reconcileStep points deg) st).maxUnmatched d =
        js.foldl (fun m j => if deg j = 0 then max m (points j d) else m) (st.maxUnmatched d)
  | [], _ => rfl
  | j :: js, st => by
    rw [List.foldl_cons, List.foldl_cons, foldl_reconcileStep_maxUnmatched d js,
      reconcileStep_maxUnmatched]

/-- `min_unmatched` is the same fold in the order dual. -/
theorem foldl_reconcileStep_minUnmatched (d : Fin 3) :
    ∀ (js : List Nat) (st : Reconciliation R),
      OrderDual.toDual ((js.foldl (reconcileStep points deg) st).minUnmatched d) =
        js.foldl (fun m j => if deg j = 0 then max m (OrderDual.toDual (points j d)) else m)
          (OrderDual.toDual (st.minUnmatched d))
  | [], _ => rfl
  | j :: js, st => by
    rw [List.foldl_cons, List.foldl_cons, foldl_reconcileStep_minUnmatched d js,
      reconcileStep_minUnmatched]
    split_ifs <;> rfl

/-- **The box of the unmatched points.**  After the root's loop over `n` points,
    `min_unmatched` and `max_unmatched` bound, coordinate by coordinate, every point no rank
    located; and when some point is unmatched and the unmatched points are finite doubles,
    each bound is a coordinate of one of them: the box the log line reports is exactly the
    unmatched points' box. -/
theorem reconcile_unmatched_box (velocity : Nat → Fin 3 → R) (n : Nat) (d : Fin 3) :
    (∀ j < n, deg j = 0 →
      (reconcile points velocity deg n).minUnmatched d ≤ points j d ∧
        points j d ≤ (reconcile points velocity deg n).maxUnmatched d) ∧
    ((∀ j < n, deg j = 0 → doubleLowest ≤ points j d ∧ points j d ≤ doubleMax) →
      (∃ j < n, deg j = 0) →
      (∃ j < n, deg j = 0 ∧ (reconcile points velocity deg n).maxUnmatched d = points j d) ∧
        ∃ j < n, deg j = 0 ∧ (reconcile points velocity deg n).minUnmatched d = points j d) := by
  obtain ⟨hmax, -, hmaxall⟩ := foldl_max_if (fun j => points j d) (fun j => deg j = 0)
    (List.range n) _ _ (foldl_reconcileStep_maxUnmatched points deg d _ _).symm
  obtain ⟨hmin, -, hminall⟩ := foldl_max_if (fun j => OrderDual.toDual (points j d))
    (fun j => deg j = 0) (List.range n) _ _ (foldl_reconcileStep_minUnmatched points deg d _ _).symm
  simp only [List.mem_range] at hmax hmaxall hmin hminall
  refine ⟨fun j hj hdeg => ⟨hminall j hj hdeg, hmaxall j hj hdeg⟩, fun hfinite ⟨j₀, hj₀, hdeg₀⟩ =>
    ⟨?_, ?_⟩⟩
  · rcases hmax with hm | hm
    · have hm : (reconcile points velocity deg n).maxUnmatched d = doubleLowest := hm
      exact ⟨j₀, hj₀, hdeg₀, le_antisymm (hm ▸ (hfinite j₀ hj₀ hdeg₀).1) (hmaxall j₀ hj₀ hdeg₀)⟩
    · exact hm
  · rcases hmin with hm | ⟨j, hj, hdeg, hm⟩
    · have hm : (reconcile points velocity deg n).minUnmatched d = doubleMax :=
        congrArg OrderDual.ofDual hm
      exact ⟨j₀, hj₀, hdeg₀, le_antisymm (hminall j₀ hj₀ hdeg₀) (hm ▸ (hfinite j₀ hj₀ hdeg₀).2)⟩
    · exact ⟨j, hj, hdeg, congrArg OrderDual.ofDual hm⟩

theorem reconcile_unmatched_box_one_unmatched :
    (∀ j : Nat, j < 2 → (if j = 0 then 0 else 1 : Int) = 0 →
        doubleLowest ≤ (j : ℚ) ∧ (j : ℚ) ≤ doubleMax) ∧
      (∃ j : Nat, j < 2 ∧ (if j = 0 then 0 else 1 : Int) = 0) ∧
      (∃ j : Nat, j < 2 ∧ (if j = 0 then 0 else 1 : Int) = 0 ∧
        (reconcile (fun j _ => (j : ℚ)) (fun _ _ => 0) (fun j => if j = 0 then 0 else 1) 2).maxUnmatched
          0 = j) ∧
      ∃ j : Nat, j < 2 ∧ (if j = 0 then 0 else 1 : Int) = 0 ∧
        (reconcile (fun j _ => (j : ℚ)) (fun _ _ => 0) (fun j => if j = 0 then 0 else 1) 2).minUnmatched
          0 = j := by
  have hfin : ∀ j : Nat, j < 2 → (if j = 0 then 0 else 1 : Int) = 0 →
      doubleLowest ≤ (j : ℚ) ∧ (j : ℚ) ≤ doubleMax := by
    intro j _ hdeg
    obtain rfl : j = 0 := by by_contra h; simp [h] at hdeg
    norm_num [doubleLowest, doubleMax]
  have hsome : ∃ j : Nat, j < 2 ∧ (if j = 0 then 0 else 1 : Int) = 0 := ⟨0, by decide, rfl⟩
  exact ⟨hfin, hsome, (reconcile_unmatched_box (fun j _ => (j : ℚ)) (fun j => if j = 0 then 0 else 1)
    (fun _ _ => 0) 2 0).2 hfin hsome⟩

end Loop

/-! ## What reaches the writer -/

section Reconciled

variable {R : Type} [LinearOrderedField R]

/-- What the velocity of point `j` should be: the ranks' velocities summed and divided by the
    ranks' ownership counts summed, or zero for a point no rank located. -/
def averagedVelocity {numRanks : Nat} (search : Fin numRanks → LocalSearchData R) (j : Nat)
    (d : Fin 3) : R :=
  if 0 < ∑ r, (search r).ownership j then
    (∑ r, (search r).interpolatedValues j d) / ((∑ r, (search r).ownership j : Int) : R)
  else 0

/-- The root's loop leaves the averaged velocity at every point. -/
theorem reconcile_averagedVelocity {numRanks : Nat} (points : Nat → Fin 3 → R)
    (search : Fin numRanks → LocalSearchData R) (n : Nat) :
    (List.range n).map (reconcile points (reducedVelocity search) (degree search) n).velocity =
      (List.range n).map (averagedVelocity search) := by
  refine List.map_congr_left fun j hj => ?_
  rw [reconcile_velocity _ _ _ (List.mem_range.mp hj)]
  funext d
  simp only [averagedVelocity, reducedVelocity, degree, invDeg, gt_iff_lt]
  split_ifs
  · exact mul_one_div _ _
  · exact mul_zero _

/-- What one time step gives `output`: the time, `dtratio`, the beam, and each rank's search. -/
structure OutputStep (R : Type) (numRanks : Nat) where
  time : R
  dtratio : R
  seg : Segment R
  localFieldInterpolation : Fin numRanks → List (Fin 3 → R) → R → LocalSearchData R

variable {numRanks : Nat}

/-- The beam's points at a step. -/
def stepPoints (self : LidarLineOfSite R) (step : OutputStep R numRanks) : List (Fin 3 → R) :=
  (List.range self.npoints.toNat).map (segmentPoint step.seg self.npoints)

/-- Each rank's search at a step. -/
def stepSearch (self : LidarLineOfSite R) (step : OutputStep R numRanks) :
    Fin numRanks → LocalSearchData R := fun r =>
  step.localFieldInterpolation r (stepPoints self step)
    (if self.predictor = .NEAREST then 0 else step.dtratio)

/-- The record a step should write: its time, the beam's points, the averaged velocities. -/
def stepRecord (self : LidarLineOfSite R) (step : OutputStep R numRanks) :
    R × List (Fin 3 → R) × List (Fin 3 → R) :=
  (step.time, stepPoints self step,
    (List.range self.npoints.toNat).map (averagedVelocity (stepSearch self step)))

/-- The lines the root logs at a step. -/
def stepMessage (logFmt : R → String) (self : LidarLineOfSite R) (step : OutputStep R numRanks) :
    List String :=
  unmatchedMessage logFmt self.name
    (reconcile (segmentPoint step.seg self.npoints) (reducedVelocity (stepSearch self step))
      (degree (stepSearch self step)) self.npoints.toNat)

/-- On the root, `output` logs the step's unmatched points and hands its record to the writer of
    the lidar's output type. -/
theorem output_root (fmt logFmt : R → String) (self : LidarLineOfSite R) (fs : LidarFiles R)
    (log : List String) (step : OutputStep R numRanks) (rank : Fin numRanks)
    (h0 : rank.val = 0) (hn : 0 ≤ self.npoints) (hint : 3 * self.npoints ≤ INT_MAX)
    (writer : LidarLineOfSite R → LidarFiles R → R → List (Fin 3 → R) →
      List (Fin 3 → R) → Except WriterError (LidarLineOfSite R × LidarFiles R))
    (hw : (self.outputType = .TEXT ∧ writer = outputTxt fmt) ∨
      (self.outputType = .NETCDF ∧ writer = outputNc)) :
    output fmt logFmt self fs log step.time step.dtratio step.seg rank
        step.localFieldInterpolation =
      (writer self fs (stepRecord self step).1 (stepRecord self step).2.1
        (stepRecord self step).2.2).map
          fun w => (w.1, w.2, log ++ stepMessage logFmt self step) := by
  have hneg : ¬self.npoints < 0 := not_lt.mpr hn
  have hover : ¬3 * self.npoints > INT_MAX := not_lt.mpr hint
  rcases hw with ⟨ht, rfl⟩ | ⟨ht, rfl⟩ <;>
  · simp only [output, ht, h0, hneg, hover, reduceCtorEq, if_false, if_true]
    rw [reconcile_averagedVelocity]
    rfl

end Reconciled

/-- The writer of a text or NetCDF lidar changes no field of its configuration. -/
theorem writer_frame {R : Type} {fmt : R → String} {typ : Output}
    {writer : LidarLineOfSite R → LidarFiles R → R → List (Fin 3 → R) →
      List (Fin 3 → R) → Except WriterError (LidarLineOfSite R × LidarFiles R)}
    (hw : (typ = .TEXT ∧ writer = outputTxt fmt) ∨ (typ = .NETCDF ∧ writer = outputNc))
    {self self' : LidarLineOfSite R} {fs fs' : LidarFiles R} {t : R} {x u : List (Fin 3 → R)}
    (h : writer self fs t x u = .ok (self', fs')) :
    self'.name = self.name ∧ self'.outputType = self.outputType ∧
      self'.npoints = self.npoints ∧ self'.predictor = self.predictor := by
  rcases hw with ⟨-, rfl⟩ | ⟨-, rfl⟩
  exacts [outputTxt_frame fmt _ _ _ _ _ h, outputNc_frame _ _ _ _ _ h]

/-! ## Runs of the lidar -/

section Runs

variable {R : Type} [LinearOrderedField R] {numRanks : Nat}

/-- A run of `output` calls on `rank`, one per time step; an exception ends it. -/
def outputRun (fmt logFmt : R → String) (rank : Fin numRanks) :
    List (OutputStep R numRanks) → LidarLineOfSite R × LidarFiles R × List String →
      Except WriterError (LidarLineOfSite R × LidarFiles R × List String)
  | [], st => .ok st
  | step :: steps, (self, fs, log) => do
    let st ← output fmt logFmt self fs log step.time step.dtratio step.seg rank
      step.localFieldInterpolation
    outputRun fmt logFmt rank steps st

/-- What a step writes and logs depends only on the configuration fields a writer keeps. -/
theorem stepRecord_stepMessage_congr {self self' : LidarLineOfSite R}
    (hname : self'.name = self.name) (hnp : self'.npoints = self.npoints)
    (hpred : self'.predictor = self.predictor) (logFmt : R → String) :
    (stepRecord self' : OutputStep R numRanks → _) = stepRecord self ∧
      (stepMessage logFmt self' : OutputStep R numRanks → _) = stepMessage logFmt self := by
  have hsearch : (stepSearch self' : OutputStep R numRanks → _) = stepSearch self := by
    funext step r
    simp only [stepSearch, stepPoints, hnp, hpred]
  constructor <;> funext step <;>
    simp only [stepRecord, stepMessage, stepPoints, hsearch, hname, hnp]

/-- On the root, a run of `output` is the run of its writer over the steps' records, with the
    steps' log lines appended. -/
theorem outputRun_eq_writerRun (fmt logFmt : R → String) (rank : Fin numRanks)
    (h0 : rank.val = 0) (typ : Output)
    (writer : LidarLineOfSite R → LidarFiles R → R → List (Fin 3 → R) →
      List (Fin 3 → R) → Except WriterError (LidarLineOfSite R × LidarFiles R))
    (hw : (typ = .TEXT ∧ writer = outputTxt fmt) ∨ (typ = .NETCDF ∧ writer = outputNc)) :
    ∀ (steps : List (OutputStep R numRanks)) (self : LidarLineOfSite R) (fs : LidarFiles R)
      (log : List String), self.outputType = typ → 0 ≤ self.npoints →
      3 * self.npoints ≤ INT_MAX →
      outputRun fmt logFmt rank steps (self, fs, log) =
        (writerRun writer (steps.map (stepRecord self)) (self, fs)).map
          fun w => (w.1, w.2, log ++ steps.flatMap (stepMessage logFmt self))
  | [], _, _, _, _, _, _ => by simp [outputRun, writerRun, Except.map]
  | step :: steps, self, fs, log, htyp, hn, hint => by
    have hroot := output_root fmt logFmt self fs log step rank h0 hn hint writer
      (by subst htyp; exact hw)
    simp only [outputRun, hroot, List.map_cons, writerRun_cons, bind, Except.bind]
    rcases hwr : writer self fs (stepRecord self step).1 (stepRecord self step).2.1
      (stepRecord self step).2.2 with e | ⟨self', fs'⟩
    · simp [Except.map]
    · obtain ⟨hname, htype, hnp, hpred⟩ := writer_frame hw hwr
      obtain ⟨hrec, hmsg⟩ := @stepRecord_stepMessage_congr _ _ numRanks _ _ hname hnp hpred
        logFmt
      simp only [Except.map, outputRun_eq_writerRun fmt logFmt rank h0 typ writer hw steps
        self' fs' _ (htype.trans htyp) (hnp ▸ hn) (hnp ▸ hint), hrec, hmsg, List.flatMap_cons,
        List.append_assoc]

/-- **A text lidar's run.**  On the root, a run of `n ≥ 1` time steps of a lidar that has not
    written yet, with `3 * npoints_` an `int`, leaves `fname_` the name `determine_filename`
    chose, holding exactly one record
    line per point per step — the step's time, the point, and the velocity averaged over every
    rank's samples — in step order, and no header line; the root's log gains each step's line
    about unmatched points. -/
theorem output_run_text_records (fmt logFmt : R → String) (self : LidarLineOfSite R)
    (fs : LidarFiles R) (log : List String) {f : String} (rank : Fin numRanks)
    (steps : List (OutputStep R numRanks)) (h0 : rank.val = 0)
    (hcount : self.internalOutputCounter = 0) (htext : self.outputType = .TEXT)
    (hn : 0 ≤ self.npoints) (hint : 3 * self.npoints ≤ INT_MAX)
    (hf : determineFilename fs self.name ".txt" = .ok f) (hne : steps ≠ []) :
    outputRun fmt logFmt rank steps (self, fs, log) =
      .ok ({ self with fname := f, internalOutputCounter := steps.length },
        fs.write f (.text (runRecords fmt (steps.map (stepRecord self)))),
        log ++ steps.flatMap (stepMessage logFmt self)) := by
  rw [outputRun_eq_writerRun fmt logFmt rank h0 .TEXT (outputTxt fmt) (.inl ⟨rfl, rfl⟩) steps
      self fs log htext hn hint,
    outputTxt_run_records fmt self fs _ hcount hf
      (by simp [stepRecord, stepPoints]) (by simpa using hne)]
  simp [Except.map]

theorem output_run_text_records_one_step :
    3 * (1 : Int) ≤ INT_MAX ∧
      determineFilename (FileSystem.ofFiles fun _ => none : LidarFiles ℚ) "lidar" ".txt" =
        .ok "lidar.txt" ∧
      outputRun (fun q : ℚ => toString q) (fun q => toString q) (0 : Fin 1)
          [⟨0, 0, ⟨fun _ => 1, fun _ => 0⟩, fun _ _ _ => ⟨fun _ _ => 1, fun _ => 1⟩⟩]
          (⟨"lidar", .TEXT, 1, 0, 0, .NEAREST, [], "", 0, []⟩, FileSystem.ofFiles fun _ => none, []) =
        .ok (⟨"lidar", .TEXT, 1, 0, 0, .NEAREST, [], "lidar.txt", 1, []⟩,
          (FileSystem.ofFiles fun _ => none : LidarFiles ℚ).write "lidar.txt"
            (.text (runRecords (fun q : ℚ => toString q)
              (([⟨0, 0, ⟨fun _ => 1, fun _ => 0⟩, fun _ _ _ => ⟨fun _ _ => 1, fun _ => 1⟩⟩] :
                  List (OutputStep ℚ 1)).map
                (stepRecord ⟨"lidar", .TEXT, 1, 0, 0, .NEAREST, [], "", 0, []⟩)))),
          [] ++ ([⟨0, 0, ⟨fun _ => 1, fun _ => 0⟩, fun _ _ _ => ⟨fun _ _ => 1, fun _ => 1⟩⟩] :
              List (OutputStep ℚ 1)).flatMap
            (stepMessage (fun q => toString q) ⟨"lidar", .TEXT, 1, 0, 0, .NEAREST, [], "", 0, []⟩)) :=
  ⟨by decide, rfl,
    output_run_text_records _ _ _ _ _ _ _ rfl rfl rfl (by decide) (by decide) rfl (by simp)⟩

end Runs

end NaluWind.Lidar
