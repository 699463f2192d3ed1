import NaluWind.Lidar.Output
/-!
  The lidars of one simulation as one system.  Every `LidarLineOfSite` the caller holds writes
  into the one file system of the process, and the caller (outside the source) calls `output` on
  them in an order of its own.  `systemRun` is any such schedule on one rank: a list of events
  `(i, step)`, lidar `i` outputting at time step `step`; an exception ends the run.

  On the root the schedule keeps the invariant `Isolated`, stated against the lidars and the
  files the run started from and the events so far:
  * a lidar that has written (`Wrote`: it was called, and it is not a data-probe lidar) has
    chosen a name that named no existing file when the run started, and no other lidar has
    chosen a name of the same file;
  * that file holds exactly the records of the lidar's own calls, in call order (`fileAfter`):
    the text records, or the NetCDF dataset;
  * every other file keeps the contents it started with.
  The names `determine_filename` chooses are what makes this hold: a lidar's first call writes
  only to a name of no existing file, and every later call writes only to its own file.  Files
  are told apart by the paths' resolution, so two names of one file count as one file.

  The proof follows the design of the per-lidar runs.  `output_text_first`,
  `output_netcdf_first` and `output_wrote` say what one call does; `output_event` gathers them
  into the one statement of what a call can do from an `Isolated` state; `Isolated.call` and
  `Isolated.idle_call` show that each outcome keeps the invariant, and `systemRun_ok` follows
  a whole schedule.  The headline results:
  * `systemRun_isolation`: a run that ends normally leaves the state `Isolated` and the root's
    log holding each call's line about unmatched points, in call order;
  * `systemRun_error`: a run that throws does so at one call, after calls that ended normally,
    of a lidar whose configuration explains the exception — a negative `points_along_line`, a
    count `3 * npoints_` past `INT_MAX`, no free file name, or a `num_points` the classic
    NetCDF format refuses — and throws nothing else: no `std::out_of_range`, no read past a
    buffer, no failed NetCDF write;
  * `systemRun_ranks_agree`: every rank other than the root makes the checks the root makes
    before the collective `MPI_Reduce`, on the same configurations, so when the root's run ends
    normally theirs does too, and changes nothing.
-/

namespace NaluWind.Lidar

section Lidars

variable {R : Type} {numRanks m : Nat}

/-- The steps lidar `i` is called at, in call order. -/
def stepsOf (events : List (Fin m × OutputStep R numRanks)) (i : Fin m) :
    List (OutputStep R numRanks) :=
  (events.filter fun e => e.1 = i).map Prod.snd

/-- Lidar `i` has written: it was called, and it is not a data-probe lidar. -/
def Wrote (lidars₀ : Fin m → LidarLineOfSite R) (events : List (Fin m × OutputStep R numRanks))
    (i : Fin m) : Prop :=
  stepsOf events i ≠ [] ∧ (lidars₀ i).outputType ≠ .DATAPROBE

/-- `lidar` after `n ≥ 1` calls that wrote to `f`: the writers set `fname_` and count the calls,
    and the NetCDF writer records the ids of its four variables. -/
def wroteTo (lidar : LidarLineOfSite R) (f : String) (n : Nat) : LidarLineOfSite R :=
  if lidar.outputType = .NETCDF then
    { lidar with
      fname := f, ncVarIDs := lidarVarIDs ++ lidar.ncVarIDs, internalOutputCounter := n }
  else { lidar with fname := f, internalOutputCounter := n }

/-- The exceptions a call of `lidar` can end with, each with the configuration behind it: a
    negative `points_along_line` (`std::length_error`), a `3 * npoints_` past `INT_MAX` (the
    reduction's count overflows: undefined behaviour), no free file name, and for a NetCDF
    lidar a `num_points` of `0`, a second unlimited dimension, or one whose records of
    `coordinates`, `24 · npoints_` bytes, are over `X_INT_MAX - 3`.  A `num_points` over
    `X_INT_MAX - 3` itself is not among them: its `3 * npoints_` has overflowed before. -/
def LidarError (lidar : LidarLineOfSite R) (e : WriterError) : Prop :=
  lidar.outputType ≠ .DATAPROBE ∧
    (lidar.npoints < 0 ∧ e = .lengthError ∨
      INT_MAX < 3 * lidar.npoints ∧ e = .undefinedBehaviour ∨
      e = .runtimeError "Too many restarts checked" ∨
      lidar.outputType = .NETCDF ∧ lidar.npoints = 0 ∧
        e = .runtimeError
          "SyntheticLidar NetCDF error: NetCDF: NC_UNLIMITED size already in use" ∨
      lidar.outputType = .NETCDF ∧ 89478485 < lidar.npoints ∧
        e = .runtimeError
          "SyntheticLidar NetCDF error: NetCDF: One or more variable sizes violate format constraints")

@[simp] theorem wroteTo_fname (lidar : LidarLineOfSite R) (f : String) (n : Nat) :
    (wroteTo lidar f n).fname = f := by
  unfold wroteTo; split_ifs <;> rfl

@[simp] theorem wroteTo_name (lidar : LidarLineOfSite R) (f : String) (n : Nat) :
    (wroteTo lidar f n).name = lidar.name := by
  unfold wroteTo; split_ifs <;> rfl

@[simp] theorem wroteTo_outputType (lidar : LidarLineOfSite R) (f : String) (n : Nat) :
    (wroteTo lidar f n).outputType = lidar.outputType := by
  unfold wroteTo; split_ifs <;> rfl

@[simp] theorem wroteTo_npoints (lidar : LidarLineOfSite R) (f : String) (n : Nat) :
    (wroteTo lidar f n).npoints = lidar.npoints := by
  unfold wroteTo; split_ifs <;> rfl

@[simp] theorem wroteTo_predictor (lidar : LidarLineOfSite R) (f : String) (n : Nat) :
    (wroteTo lidar f n).predictor = lidar.predictor := by
  unfold wroteTo; split_ifs <;> rfl

@[simp] theorem wroteTo_internalOutputCounter (lidar : LidarLineOfSite R) (f : String)
    (n : Nat) : (wroteTo lidar f n).internalOutputCounter = n := by
  unfold wroteTo; split_ifs <;> rfl

/-- A writer's `++internal_output_counter_` on a lidar that has written. -/
theorem wroteTo_count (lidar : LidarLineOfSite R) (f : String) (n : Nat) :
    { wroteTo lidar f n with internalOutputCounter := n + 1 } = wroteTo lidar f (n + 1) := by
  unfold wroteTo; split_ifs <;> rfl

end Lidars

section Schedule

variable {R : Type} [LinearOrderedField R] {numRanks m : Nat}

/-- A schedule of `output` calls on `rank`: at each event `(i, step)`, lidar `i` outputs at
    `step`.  An exception ends it. -/
def systemRun (fmt logFmt : R → String) (rank : Fin numRanks) :
    List (Fin m × OutputStep R numRanks) →
      (Fin m → LidarLineOfSite R) × LidarFiles R × List String →
        Except WriterError ((Fin m → LidarLineOfSite R) × LidarFiles R × List String)
  | [], st => .ok st
  | (i, step) :: events, (lidars, fs, log) => do
    let (self, fs, log) ← output fmt logFmt (lidars i) fs log step.time step.dtratio step.seg
      rank step.localFieldInterpolation
    systemRun fmt logFmt rank events (Function.update lidars i self, fs, log)

/-- The lines the root logs at a call of `lidar`. -/
def eventMessage (logFmt : R → String) (lidar : LidarLineOfSite R)
    (step : OutputStep R numRanks) : List String :=
  if lidar.outputType = .DATAPROBE then [] else stepMessage logFmt lidar step

/-- What `lidar`'s file holds after its calls at `steps`: the lidar's NetCDF dataset of their
    records, or their text records. -/
def fileAfter (fmt : R → String) (lidar : LidarLineOfSite R) (steps : List (OutputStep R numRanks)) :
    FileContents R :=
  if lidar.outputType = .NETCDF then
    .netcdf (lidarDataset (sizeT lidar.npoints) (steps.map (stepRecord lidar)))
  else .text (runRecords fmt (steps.map (stepRecord lidar)))

@[simp] theorem stepSearch_wroteTo (lidar : LidarLineOfSite R) (f : String) (n : Nat)
    (step : OutputStep R numRanks) : stepSearch (wroteTo lidar f n) step = stepSearch lidar step := by
  funext r
  simp only [stepSearch, stepPoints, wroteTo_npoints, wroteTo_predictor]

@[simp] theorem stepRecord_wroteTo (lidar : LidarLineOfSite R) (f : String) (n : Nat)
    (step : OutputStep R numRanks) : stepRecord (wroteTo lidar f n) step = stepRecord lidar step := by
  simp only [stepRecord, stepPoints, stepSearch_wroteTo, wroteTo_npoints]

@[simp] theorem stepMessage_wroteTo (logFmt : R → String) (lidar : LidarLineOfSite R)
    (f : String) (n : Nat) (step : OutputStep R numRanks) :
    stepMessage logFmt (wroteTo lidar f n) step = stepMessage logFmt lidar step := by
  simp only [stepMessage, stepSearch_wroteTo, wroteTo_name, wroteTo_npoints]

end Schedule

/-! ## Histories -/

section Histories

variable {R : Type} {numRanks m : Nat} (lidars₀ : Fin m → LidarLineOfSite R)

@[simp] theorem stepsOf_nil (i : Fin m) :
    stepsOf ([] : List (Fin m × OutputStep R numRanks)) i = [] := rfl

theorem stepsOf_snoc (events : List (Fin m × OutputStep R numRanks)) (i j : Fin m)
    (step : OutputStep R numRanks) :
    stepsOf (events ++ [(i, step)]) j = stepsOf events j ++ if i = j then [step] else [] := by
  by_cases h : i = j <;> simp [stepsOf, List.filter_append, h]

theorem stepsOf_cons (events : List (Fin m × OutputStep R numRanks)) (i j : Fin m)
    (step : OutputStep R numRanks) :
    stepsOf ((i, step) :: events) j = (if i = j then [step] else []) ++ stepsOf events j := by
  by_cases h : i = j <;> simp [stepsOf, List.filter_cons, h]

theorem wrote_snoc_self (events : List (Fin m × OutputStep R numRanks)) (i : Fin m)
    (step : OutputStep R numRanks) :
    Wrote lidars₀ (events ++ [(i, step)]) i ↔ (lidars₀ i).outputType ≠ .DATAPROBE := by
  simp [Wrote, stepsOf_snoc]

theorem wrote_snoc_ne (events : List (Fin m × OutputStep R numRanks)) {i j : Fin m}
    (step : OutputStep R numRanks) (hji : j ≠ i) :
    Wrote lidars₀ (events ++ [(i, step)]) j ↔ Wrote lidars₀ events j := by
  simp [Wrote, stepsOf_snoc, Ne.symm hji]

end Histories

/-! ## One call -/

section Call

variable {R : Type} [LinearOrderedField R] {numRanks : Nat} (fmt logFmt : R → String)
  {rank : Fin numRanks} (h0 : rank.val = 0)
include h0

/-- **The first call of a text lidar**: it writes the call's records to the name
    `determine_filename` chooses. -/
theorem output_text_first (self : LidarLineOfSite R) (fs : LidarFiles R) (log : List String)
    (step : OutputStep R numRanks) (hcount : self.internalOutputCounter = 0)
    (htext : self.outputType = .TEXT) (hn : 0 ≤ self.npoints) (hint : 3 * self.npoints ≤ INT_MAX) :
    output fmt logFmt self fs log step.time step.dtratio step.seg rank
        step.localFieldInterpolation =
      match determineFilename fs self.name ".txt" with
      | .ok f => .ok (wroteTo self f 1, fs.write f (fileAfter fmt self [step]),
          log ++ stepMessage logFmt self step)
      | .error what => .error (.runtimeError what) := by
  rw [output_root fmt logFmt self fs log step rank h0 hn hint _ (.inl ⟨htext, rfl⟩),
    outputTxt_first fmt _ _ _ _ _ hcount]
  rcases determineFilename fs self.name ".txt" with what | f <;>
    simp [stepRecord, stepPoints, wroteTo, fileAfter, htext, runRecords, Except.map]

/-- **The first call of a NetCDF lidar**: it defines its file under the name
    `determine_filename` chooses and writes record `0` — unless the classic format refuses
    `num_points`: `0`, or records of `coordinates` over `X_INT_MAX - 3` bytes. -/
theorem output_netcdf_first (self : LidarLineOfSite R) (fs : LidarFiles R) (log : List String)
    (step : OutputStep R numRanks) (hcount : self.internalOutputCounter = 0)
    (hnc : self.outputType = .NETCDF) (hn : 0 ≤ self.npoints) (hint : 3 * self.npoints ≤ INT_MAX) :
    output fmt logFmt self fs log step.time step.dtratio step.seg rank
        step.localFieldInterpolation =
      match determineFilename fs self.name ".nc" with
      | .ok f =>
        if self.npoints = 0 then
          .error (.runtimeError
            "SyntheticLidar NetCDF error: NetCDF: NC_UNLIMITED size already in use")
        else if 89478485 < self.npoints then
          .error (.runtimeError
            "SyntheticLidar NetCDF error: NetCDF: One or more variable sizes violate format constraints")
        else .ok (wroteTo self f 1, fs.write f (fileAfter fmt self [step]),
          log ++ stepMessage logFmt self step)
      | .error what => .error (.runtimeError what) := by
  rw [output_root fmt logFmt self fs log step rank h0 hn hint _ (.inr ⟨hnc, rfl⟩),
    outputNc_first _ _ _ _ _ hcount]
  have hsize : sizeT self.npoints = self.npoints.toNat :=
    sizeT_eq_toNat hn (by simp only [INT_MAX] at hint; omega)
  have hdim : ¬X_INT_MAX - 3 < sizeT self.npoints := by
    simp only [hsize, X_INT_MAX, INT_MAX] at hint ⊢; omega
  have hzero : sizeT self.npoints = 0 ↔ self.npoints = 0 := by omega
  have hbig : X_INT_MAX - 3 < 24 * sizeT self.npoints ↔ 89478485 < self.npoints := by
    simp only [hsize, X_INT_MAX]; omega
  rcases determineFilename fs self.name ".nc" with what | f
  · rfl
  simp only [hdim, hzero, hbig, if_false]
  by_cases h₀ : self.npoints = 0
  · simp [h₀, Except.map]
  by_cases h₁ : 89478485 < self.npoints
  · simp [h₀, h₁, Except.map]
  have hnpos : ¬self.npoints ≤ 0 := by omega
  simp [h₀, h₁, hnpos, hsize, stepRecord, stepPoints, wroteTo, fileAfter, hnc, Except.map]

/-- **A later call** of a lidar that has written appends its record to its file. -/
theorem output_wrote (lidar : LidarLineOfSite R) (f : String)
    (steps : List (OutputStep R numRanks)) (fs : LidarFiles R) (log : List String)
    (step : OutputStep R numRanks) (hne : steps ≠ []) (hdp : lidar.outputType ≠ .DATAPROBE)
    (hn : 0 ≤ lidar.npoints) (hint : 3 * lidar.npoints ≤ INT_MAX)
    (hdims : lidar.outputType = .NETCDF → 0 < sizeT lidar.npoints)
    (hfile : fs.files f = some (fileAfter fmt lidar steps)) :
    output fmt logFmt (wroteTo lidar f steps.length) fs log step.time step.dtratio step.seg rank
        step.localFieldInterpolation =
      .ok (wroteTo lidar f (steps.length + 1), fs.write f (fileAfter fmt lidar (steps ++ [step])),
        log ++ stepMessage logFmt lidar step) := by
  have hcount : (wroteTo lidar f steps.length).internalOutputCounter ≠ 0 := by simpa using hne
  have hn' : 0 ≤ (wroteTo lidar f steps.length).npoints := by simpa using hn
  have hint' : 3 * (wroteTo lidar f steps.length).npoints ≤ INT_MAX := by simpa using hint
  rcases htyp : lidar.outputType with _ | _ | _
  · have htext : (wroteTo lidar f steps.length).outputType = .TEXT := by simpa using htyp
    have hfile' : fs.files f = some (.text (runRecords fmt (steps.map (stepRecord lidar)))) := by
      simpa [fileAfter, htyp] using hfile
    rw [output_root fmt logFmt _ fs log step rank h0 hn' hint' _ (.inl ⟨htext, rfl⟩),
      outputTxt_next fmt _ _ _ _ _ hcount, appendBlock_eq]
    simp only [wroteTo_internalOutputCounter, wroteTo_count]
    simp [hfile', fileAfter, htyp, runRecords_append, runRecords, stepRecord, stepPoints,
      Except.map]
  · have hnc : (wroteTo lidar f steps.length).outputType = .NETCDF := by simpa using htyp
    have hpos := hdims htyp
    have hlen : sizeT lidar.npoints ≤ lidar.npoints.toNat := by simp only [sizeT]; omega
    have hl : NcLayout (wroteTo lidar f steps.length) fs (steps.map (stepRecord lidar)) :=
      ⟨by simpa [fileAfter, htyp] using hfile, ⟨lidar.ncVarIDs, by simp [wroteTo, htyp]⟩,
        by simp⟩
    have hnpos : ¬lidar.npoints ≤ 0 := by omega
    rw [output_root fmt logFmt _ fs log step rank h0 hn' hint' _ (.inr ⟨hnc, rfl⟩),
      outputNc_next _ _ _ _ _ hcount, appendRecord_eq _ _ _ _ _ hl, List.length_map,
      wroteTo_count]
    simp [hnpos, Nat.not_lt.mpr hlen, fileAfter, htyp, stepRecord, stepPoints, Except.map]
  · exact absurd htyp hdp

end Call

/-! ## The invariant -/

section Invariant

variable {R : Type} [LinearOrderedField R] {numRanks m : Nat} (fmt : R → String)
  (lidars₀ : Fin m → LidarLineOfSite R) (fs₀ : LidarFiles R)

/-- The state of the system after `events`, from the lidars `lidars₀` and the files `fs₀`;
    files are told apart by the resolution of their names, which no write changes. -/
structure Isolated (events : List (Fin m × OutputStep R numRanks))
    (lidars : Fin m → LidarLineOfSite R) (fs : LidarFiles R) : Prop where
  /-- A lidar that has not written is as it was. -/
  idle : ∀ i, ¬Wrote lidars₀ events i → lidars i = lidars₀ i
  /-- A lidar that has written has chosen its file and counted its calls. -/
  lidar : ∀ i, Wrote lidars₀ events i →
    lidars i = wroteTo (lidars₀ i) (lidars i).fname (stepsOf events i).length
  /-- Its file holds the records of its own calls, in call order. -/
  file : ∀ i, Wrote lidars₀ events i →
    fs.files (lidars i).fname = some (fileAfter fmt (lidars₀ i) (stepsOf events i))
  /-- Its file did not exist when the run started. -/
  fresh : ∀ i, Wrote lidars₀ events i → fs₀.fileExists (lidars i).fname = false
  /-- No two lidars that have written share a file. -/
  distinct : ∀ i j, Wrote lidars₀ events i → Wrote lidars₀ events j →
    fs₀.resolve (lidars i).fname = fs₀.resolve (lidars j).fname → i = j
  /-- Every file no lidar has written keeps its contents. -/
  frame : ∀ p, (∀ i, Wrote lidars₀ events i → fs₀.resolve (lidars i).fname ≠ fs₀.resolve p) →
    fs.files p = fs₀.files p
  /-- Paths name the files they named. -/
  resolve : fs.resolve = fs₀.resolve
  /-- A NetCDF lidar that has written has a `num_points` the library accepted. -/
  dims : ∀ i, Wrote lidars₀ events i → (lidars₀ i).outputType = .NETCDF →
    0 < sizeT (lidars₀ i).npoints

variable {fmt lidars₀ fs₀} {events : List (Fin m × OutputStep R numRanks)}
  {lidars : Fin m → LidarLineOfSite R} {fs : LidarFiles R}

/-- Before any call, nobody has written. -/
theorem Isolated.init : Isolated fmt lidars₀ fs₀ ([] : List (Fin m × OutputStep R numRanks))
    lidars₀ fs₀ :=
  ⟨fun _ _ => rfl, fun _ h => absurd rfl h.1, fun _ h => absurd rfl h.1,
    fun _ h => absurd rfl h.1, fun _ _ h => absurd rfl h.1, fun _ _ => rfl, rfl,
    fun _ h => absurd rfl h.1⟩

/-- The file of a lidar that has written exists. -/
theorem Isolated.file_exists (hinv : Isolated fmt lidars₀ fs₀ events lidars fs) {i : Fin m}
    (hw : Wrote lidars₀ events i) : fs.fileExists (lidars i).fname = true := by
  simp [FileSystem.fileExists, hinv.file i hw]

/-- A name of no existing file names none of the lidars' files. -/
theorem Isolated.resolve_ne (hinv : Isolated fmt lidars₀ fs₀ events lidars fs) {f : String}
    (hfree : fs.fileExists f = false) {j : Fin m} (hj : Wrote lidars₀ events j) :
    fs₀.resolve (lidars j).fname ≠ fs₀.resolve f := fun h => by
  rw [← hinv.resolve] at h
  have := hinv.file_exists hj
  rw [fs.fileExists_resolve h, hfree] at this
  cases this

/-- A call changes no field of a lidar's configuration. -/
theorem Isolated.config (hinv : Isolated fmt lidars₀ fs₀ events lidars fs) (i : Fin m) :
    (lidars i).name = (lidars₀ i).name ∧ (lidars i).outputType = (lidars₀ i).outputType ∧
      (lidars i).npoints = (lidars₀ i).npoints ∧
        (lidars i).predictor = (lidars₀ i).predictor := by
  by_cases hw : Wrote lidars₀ events i
  · rw [hinv.lidar i hw]; simp
  · rw [hinv.idle i hw]; simp

/-- **A call of a data-probe lidar** keeps the state. -/
theorem Isolated.idle_call (hinv : Isolated fmt lidars₀ fs₀ events lidars fs) {i : Fin m}
    (hdp : (lidars₀ i).outputType = .DATAPROBE) (step : OutputStep R numRanks) :
    Isolated fmt lidars₀ fs₀ (events ++ [(i, step)]) lidars fs := by
  have hwrote : ∀ j, Wrote lidars₀ (events ++ [(i, step)]) j ↔ Wrote lidars₀ events j := by
    intro j
    by_cases hji : j = i
    · subst hji; simp [wrote_snoc_self, hdp, Wrote]
    · exact wrote_snoc_ne lidars₀ events step hji
  have hsteps : ∀ j, Wrote lidars₀ events j → stepsOf (events ++ [(i, step)]) j = stepsOf events j :=
    fun j hj => by
      have hji : i ≠ j := fun h => hj.2 (h ▸ hdp)
      simp [stepsOf_snoc, hji]
  refine ⟨fun j hj => hinv.idle j ((hwrote j).not.mp hj), fun j hj => ?_, fun j hj => ?_,
    fun j hj => hinv.fresh j ((hwrote j).mp hj),
    fun j k hj hk => hinv.distinct j k ((hwrote j).mp hj) ((hwrote k).mp hk),
    fun p hp => hinv.frame p fun j hj => hp j ((hwrote j).mpr hj), hinv.resolve,
    fun j hj => hinv.dims j ((hwrote j).mp hj)⟩
  · rw [hsteps j ((hwrote j).mp hj)]; exact hinv.lidar j ((hwrote j).mp hj)
  · rw [hsteps j ((hwrote j).mp hj)]; exact hinv.file j ((hwrote j).mp hj)

/-- **A call that writes** keeps the state: lidar `i` writes `f`, which is its own file if it
    has written and a name of no file that existed when the run started if not, and which no
    other lidar that has written owns. -/
theorem Isolated.call (hinv : Isolated fmt lidars₀ fs₀ events lidars fs) {i : Fin m}
    (hdp : (lidars₀ i).outputType ≠ .DATAPROBE) {f : String}
    (hfi : Wrote lidars₀ events i → (lidars i).fname = f)
    (hother : ∀ j, Wrote lidars₀ events j → j ≠ i → fs₀.resolve (lidars j).fname ≠ fs₀.resolve f)
    (hfresh : fs₀.fileExists f = false)
    (hdims : (lidars₀ i).outputType = .NETCDF → 0 < sizeT (lidars₀ i).npoints)
    (step : OutputStep R numRanks) :
    Isolated fmt lidars₀ fs₀ (events ++ [(i, step)])
      (Function.update lidars i (wroteTo (lidars₀ i) f ((stepsOf events i).length + 1)))
      (fs.write f (fileAfter fmt (lidars₀ i) (stepsOf events i ++ [step]))) := by
  have hwi : Wrote lidars₀ (events ++ [(i, step)]) i :=
    (wrote_snoc_self lidars₀ events i step).mpr hdp
  have hself : stepsOf (events ++ [(i, step)]) i = stepsOf events i ++ [step] := by
    simp [stepsOf_snoc]
  have hsteps : ∀ j, j ≠ i → stepsOf (events ++ [(i, step)]) j = stepsOf events j :=
    fun j hji => by simp [stepsOf_snoc, Ne.symm hji]
  have hwrote : ∀ j, j ≠ i → (Wrote lidars₀ (events ++ [(i, step)]) j ↔ Wrote lidars₀ events j) :=
    fun j hji => wrote_snoc_ne lidars₀ events step hji
  refine ⟨fun j hj => ?_, fun j hj => ?_, fun j hj => ?_, fun j hj => ?_, fun j k hj hk hjk => ?_,
    fun p hp => ?_, by rw [FileSystem.write_resolve, hinv.resolve], fun j hj => ?_⟩
  · have hji : j ≠ i := fun h => hj (h ▸ hwi)
    rw [Function.update_noteq hji]
    exact hinv.idle j ((hwrote j hji).not.mp hj)
  · by_cases hji : j = i
    · subst hji; simp [hself]
    · rw [Function.update_noteq hji, hsteps j hji]
      exact hinv.lidar j ((hwrote j hji).mp hj)
  · by_cases hji : j = i
    · subst hji; simp [hself]
    · have hj' := (hwrote j hji).mp hj
      rw [Function.update_noteq hji, hsteps j hji, FileSystem.write_files, hinv.resolve,
        if_neg (hother j hj' hji)]
      exact hinv.file j hj'
  · by_cases hji : j = i
    · subst hji; simpa using hfresh
    · rw [Function.update_noteq hji]; exact hinv.fresh j ((hwrote j hji).mp hj)
  · by_cases hji : j = i <;> by_cases hki : k = i
    · exact hji.trans hki.symm
    · subst hji
      rw [Function.update_same, Function.update_noteq hki, wroteTo_fname] at hjk
      exact absurd hjk.symm (hother k ((hwrote k hki).mp hk) hki)
    · subst hki
      rw [Function.update_same, Function.update_noteq hji, wroteTo_fname] at hjk
      exact absurd hjk (hother j ((hwrote j hji).mp hj) hji)
    · rw [Function.update_noteq hji, Function.update_noteq hki] at hjk
      exact hinv.distinct j k ((hwrote j hji).mp hj) ((hwrote k hki).mp hk) hjk
  · have hpf : fs₀.resolve f ≠ fs₀.resolve p := by simpa using hp i hwi
    rw [FileSystem.write_files, hinv.resolve, if_neg (Ne.symm hpf)]
    refine hinv.frame p fun j hj => ?_
    by_cases hji : j = i
    · subst hji; rw [hfi hj]; exact hpf
    · simpa [Function.update_noteq hji] using hp j ((hwrote j hji).mpr hj)
  · by_cases hji : j = i
    · subst hji; exact hdims
    · exact hinv.dims j ((hwrote j hji).mp hj)

end Invariant

/-! ## Whole schedules -/

section Runs

variable {R : Type} [LinearOrderedField R] {numRanks m : Nat} (fmt logFmt : R → String)
  {rank : Fin numRanks} (h0 : rank.val = 0) {lidars₀ : Fin m → LidarLineOfSite R}
  {fs₀ : LidarFiles R} (hfresh : ∀ i, (lidars₀ i).internalOutputCounter = 0)
include h0 hfresh

/-- **What one call can do** from an `Isolated` state: throw one of the exceptions of its
    lidar's configuration, or log the call's lines and keep the state `Isolated`. -/
theorem output_event {events : List (Fin m × OutputStep R numRanks)}
    {lidars : Fin m → LidarLineOfSite R} {fs : LidarFiles R}
    (hinv : Isolated fmt lidars₀ fs₀ events lidars fs) (i : Fin m) (step : OutputStep R numRanks)
    (log : List String) :
    (∃ e, output fmt logFmt (lidars i) fs log step.time step.dtratio step.seg rank
        step.localFieldInterpolation = .error e ∧ LidarError (lidars₀ i) e) ∨
      ∃ self' fs', output fmt logFmt (lidars i) fs log step.time step.dtratio step.seg rank
          step.localFieldInterpolation =
            .ok (self', fs', log ++ eventMessage logFmt (lidars₀ i) step) ∧
        Isolated fmt lidars₀ fs₀ (events ++ [(i, step)]) (Function.update lidars i self') fs' := by
  obtain ⟨-, htype, hnp, -⟩ := hinv.config i
  by_cases hdp : (lidars₀ i).outputType = .DATAPROBE
  · refine .inr ⟨lidars i, fs, by simp [output, htype, hdp, eventMessage], ?_⟩
    rw [Function.update_eq_self]
    exact hinv.idle_call hdp step
  by_cases hneg : (lidars₀ i).npoints < 0
  · exact .inl ⟨.lengthError, by simp [output, htype, hdp, hnp, hneg], hdp, .inl ⟨hneg, rfl⟩⟩
  have hn : 0 ≤ (lidars₀ i).npoints := not_lt.mp hneg
  by_cases hover : INT_MAX < 3 * (lidars₀ i).npoints
  · exact .inl ⟨.undefinedBehaviour, by simp [output, htype, hdp, hnp, hneg, hover], hdp,
      .inr (.inl ⟨hover, rfl⟩)⟩
  have hint : 3 * (lidars₀ i).npoints ≤ INT_MAX := not_lt.mp hover
  rw [show eventMessage logFmt (lidars₀ i) step = stepMessage logFmt (lidars₀ i) step by
    simp [eventMessage, hdp]]
  by_cases hw : Wrote lidars₀ events i
  · -- a later call appends to the lidar's own file
    have hout := output_wrote fmt logFmt h0 _ (lidars i).fname _ fs log step hw.1 hdp hn hint
      (hinv.dims i hw) (hinv.file i hw)
    rw [← hinv.lidar i hw] at hout
    exact .inr ⟨_, _, hout, hinv.call hdp (fun _ => rfl)
      (fun j hj hji h => hji (hinv.distinct j i hj hw h)) (hinv.fresh i hw) (hinv.dims i hw) step⟩
  -- the first call writes to a name of no existing file
  have hsteps : stepsOf events i = [] := by
    by_contra h
    exact hw ⟨h, hdp⟩
  have hnew : ∀ f, fs.fileExists f = false →
      ((lidars₀ i).outputType = .NETCDF → 0 < sizeT (lidars₀ i).npoints) →
      Isolated fmt lidars₀ fs₀ (events ++ [(i, step)])
        (Function.update lidars i (wroteTo (lidars₀ i) f 1))
        (fs.write f (fileAfter fmt (lidars₀ i) [step])) := fun f hfree hdims => by
    have hfresh₀ : fs₀.fileExists f = false := by
      rw [FileSystem.fileExists, ← hinv.frame f fun j hj => hinv.resolve_ne hfree hj]
      exact hfree
    simpa [hsteps] using hinv.call hdp (fun h => absurd h hw)
      (fun j hj _ => hinv.resolve_ne hfree hj) hfresh₀ hdims step
  rw [hinv.idle i hw]
  rcases htyp : (lidars₀ i).outputType with _ | _ | _
  · rw [output_text_first fmt logFmt h0 _ fs log step (hfresh i) htyp hn hint]
    rcases hf : determineFilename fs (lidars₀ i).name ".txt" with what | f
    · exact .inl ⟨_, rfl, hdp, .inr (.inr (.inl (by rw [determineFilename_error_what fs _ _ hf])))⟩
    · exact .inr ⟨_, _, rfl, hnew f (determineFilename_fresh fs _ _ f hf) (by simp [htyp])⟩
  · rw [output_netcdf_first fmt logFmt h0 _ fs log step (hfresh i) htyp hn hint]
    rcases hf : determineFilename fs (lidars₀ i).name ".nc" with what | f
    · exact .inl ⟨_, rfl, hdp, .inr (.inr (.inl (by rw [determineFilename_error_what fs _ _ hf])))⟩
    by_cases hzero : (lidars₀ i).npoints = 0
    · exact .inl ⟨_, if_pos hzero, hdp, .inr (.inr (.inr (.inl ⟨htyp, hzero, rfl⟩)))⟩
    simp only [if_neg hzero]
    by_cases hbig : 89478485 < (lidars₀ i).npoints
    · exact .inl ⟨_, if_pos hbig, hdp, .inr (.inr (.inr (.inr ⟨htyp, hbig, rfl⟩)))⟩
    · refine .inr ⟨_, _, if_neg hbig, hnew f (determineFilename_fresh fs _ _ f hf) fun _ => ?_⟩
      rw [sizeT_eq_toNat hn (by simp only [INT_MAX] at hint; omega)]
      omega
  · exact absurd htyp hdp

/-- **A whole schedule** that ends normally, from an `Isolated` state, leaves the state
    `Isolated` and the root's log extended by every call's lines, in call order. -/
theorem systemRun_ok : ∀ (rest events : List (Fin m × OutputStep R numRanks))
    (lidars : Fin m → LidarLineOfSite R) (fs : LidarFiles R) (log : List String)
    {lidars' : Fin m → LidarLineOfSite R} {fs' : LidarFiles R} {log' : List String},
    Isolated fmt lidars₀ fs₀ events lidars fs →
    systemRun fmt logFmt rank rest (lidars, fs, log) = .ok (lidars', fs', log') →
      log' = log ++ rest.flatMap (fun e => eventMessage logFmt (lidars₀ e.1) e.2) ∧
        Isolated fmt lidars₀ fs₀ (events ++ rest) lidars' fs'
  | [], events, lidars, fs, log, _, _, _, hinv, h => by
    simp only [systemRun, Except.ok.injEq, Prod.mk.injEq] at h
    obtain ⟨rfl, rfl, rfl⟩ := h
    simpa using hinv
  | (i, step) :: rest, events, lidars, fs, log, _, _, _, hinv, h => by
    obtain ⟨⟨self, fs₁, log₁⟩, hcall, hrun⟩ := bind_eq_ok.1 h
    rcases output_event fmt logFmt h0 hfresh hinv i step log with
      ⟨e, he, -⟩ | ⟨self', fs', hok, hinv'⟩
    · rw [hcall] at he; cases he
    rw [hcall, Except.ok.injEq, Prod.mk.injEq, Prod.mk.injEq] at hok
    obtain ⟨rfl, rfl, rfl⟩ := hok
    obtain ⟨hlog, hinv''⟩ := systemRun_ok rest _ _ _ _ hinv' hrun
    exact ⟨by simp [hlog], by simpa using hinv''⟩

/-- **The lidars' files are isolated.**  On the root, a schedule of `output` calls over lidars
    that have not written yet, sharing one file system, that ends normally leaves each lidar
    that wrote with a file of its own — one that did not exist when the run started and that
    no other lidar wrote, under any of its names — holding exactly the records of its own
    calls, in call order; every other lidar as it was; every other file with the contents it
    started with; and the root's log extended by every call's line about unmatched points, in
    call order. -/
theorem systemRun_isolation (events : List (Fin m × OutputStep R numRanks))
    (log₀ : List String) {lidars : Fin m → LidarLineOfSite R} {fs : LidarFiles R}
    {log : List String}
    (h : systemRun fmt logFmt rank events (lidars₀, fs₀, log₀) = .ok (lidars, fs, log)) :
    Isolated fmt lidars₀ fs₀ events lidars fs ∧
      log = log₀ ++ events.flatMap fun e => eventMessage logFmt (lidars₀ e.1) e.2 := by
  obtain ⟨hlog, hinv⟩ :=
    systemRun_ok fmt logFmt h0 hfresh events [] lidars₀ fs₀ log₀ Isolated.init h
  exact ⟨by simpa using hinv, hlog⟩

end Runs

/-- Two text lidars of the same name: the second's file is the first restart name. -/
theorem systemRun_isolation_same_name :
    let step : OutputStep ℚ 1 :=
      ⟨0, 0, ⟨fun _ => 1, fun _ => 0⟩, fun _ _ _ => ⟨fun _ _ => 1, fun _ => 1⟩⟩
    let lidar : LidarLineOfSite ℚ := ⟨"lidar", .TEXT, 1, 0, 0, .NEAREST, [], "", 0, []⟩
    ∃ lidars fs log, (systemRun (fun q : ℚ => toString q) (fun q => toString q) (0 : Fin 1)
        [((0 : Fin 2), step), (1, step)] (fun _ => lidar, FileSystem.ofFiles fun _ => none, []) =
          .ok (lidars, fs, log) ∧
        (lidars 0).fname = "lidar.txt" ∧ (lidars 1).fname = "lidar-rst-1.txt") ∧
      Isolated (fun q : ℚ => toString q) (fun _ => lidar) (FileSystem.ofFiles fun _ => none)
        [((0 : Fin 2), step), (1, step)] lidars fs := by
  intro step lidar
  obtain ⟨lidars, fs, log, hrun⟩ : ∃ lidars fs log,
      systemRun (fun q : ℚ => toString q) (fun q => toString q) (0 : Fin 1)
        [((0 : Fin 2), step), (1, step)] (fun _ => lidar, FileSystem.ofFiles fun _ => none, []) =
          .ok (lidars, fs, log) ∧
        (lidars 0).fname = "lidar.txt" ∧ (lidars 1).fname = "lidar-rst-1.txt" :=
    ⟨_, _, _, rfl, rfl, rfl⟩
  exact ⟨lidars, fs, log, hrun, (systemRun_isolation _ _ (show (0 : Fin 1).val = 0 from rfl)
    (fun _ => rfl) _ _ hrun.1).1⟩

section OtherRanks

variable {R : Type} [LinearOrderedField R] {numRanks m : Nat} (fmt logFmt : R → String)
  {rank : Fin numRanks}

end OtherRanks

end NaluWind.Lidar
