import NaluWind.Lidar.TextOutput
/-!
  The NetCDF writer: `LidarLineOfSite::prepare_nc_file` and `LidarLineOfSite::output_nc`
  (`src/wind_energy/SyntheticLidar.C`), over the library model of `NaluWind.Lidar.NetCdf`.

  The first call chooses `fname_` with `determine_filename`, creates it with `NC_CLOBBER`, and
  defines the record dimension `num_timesteps`, `num_points` of length `npoints_`, `vec_dim` of
  length 3, and the variables `step`, `time`, `coordinates` and `velocity`.  Every call then
  opens the file and writes its record at index `internal_output_counter_`.  After the records
  `(t_k, x_k, u_k)` the file is `lidarDataset`: record `k` of `step` is `k`, of `time` is `t_k`,
  and of `coordinates` and `velocity` the points of `x_k` and `u_k`.

  * `prepareNcFile_eq`: the definitions succeed exactly when `npoints_` is a classic-format
    length other than `NC_UNLIMITED` and one record of `coordinates`, `24 · npoints_` bytes,
    passes `NC_check_vlens`; `npoints_ = 0` asks for a second unlimited dimension.
  * `appendRecord_eq`, the step lemma: on a file in the lidar's layout (`NcLayout`) a call
    appends its record.
  * `outputNc_run_records`: a run from a writer that has not written yet leaves exactly the
    records of all its calls, in call order.
-/

namespace NaluWind.Lidar

section Writer

variable {R : Type}

/-- `check_nc_error(code)`: a failed call throws `std::runtime_error` with the library's text. -/
def checkNcError {α : Type} : Except NcError α → Except WriterError α
  | .ok a => .ok a
  | .error code => .error (.runtimeError ("SyntheticLidar NetCDF error: " ++ ncStrerror code))

/-- `ncVarIDs_[name]`: `std::map::operator[]` reads `0` for a name it does not hold. -/
def varId (ncVarIDs : List (String × Nat)) (name : String) : Nat :=
  (ncVarIDs.lookup name).getD 0

/-- `static_cast<int>` of a `size_t`: two's complement wrap-around to 32 bits. -/
def staticCastInt (n : Nat) : Int := ((n + 2 ^ 31) % 2 ^ 32 : Nat) - 2 ^ 31

/-- The lambda `add_ncvar(name, dim, dims)` of `prepare_nc_file`: a `double` variable, its id
    stored as `ncVarIDs_[name]`. -/
def addNcvar (h : NcHandle R) (ncVarIDs : List (String × Nat)) (name : String)
    (dims : List Nat) : Except WriterError (NcHandle R × List (String × Nat)) := do
  let (h, varid) ← checkNcError (ncDefVar h name .NC_DOUBLE dims)
  pure (h, (name, varid) :: ncVarIDs)

/-- `LidarLineOfSite::prepare_nc_file()`. -/
def prepareNcFile (self : LidarLineOfSite R) (fs : LidarFiles R) :
    Except WriterError (LidarLineOfSite R × LidarFiles R) := do
  let fname ← (determineFilename fs self.name ".nc").mapError .runtimeError
  let (fs, h) := ncCreate fs fname
  let (h, tDim) ← checkNcError (ncDefDim h "num_timesteps" NC_UNLIMITED)
  let (h, pDim) ← checkNcError (ncDefDim h "num_points" (sizeT self.npoints))
  let (h, vDim) ← checkNcError (ncDefDim h "vec_dim" 3)
  let vec_dim := [tDim, pDim, vDim]
  let (h, varid) ← checkNcError (ncDefVar h "step" .NC_INT [tDim])
  let ncVarIDs := ("step", varid) :: self.ncVarIDs
  let (h, ncVarIDs) ← addNcvar h ncVarIDs "time" [tDim]
  let (h, ncVarIDs) ← addNcvar h ncVarIDs "coordinates" vec_dim
  let (h, ncVarIDs) ← addNcvar h ncVarIDs "velocity" vec_dim
  let h ← checkNcError (ncEnddef h)
  pure ({ self with fname := fname, ncVarIDs := ncVarIDs }, ncClose fs h)

/-- The doubles of a `std::vector<std::array<double, 3>>`, in memory order. -/
def flatten3 (v : List (Fin 3 → R)) : List (NcValue R) :=
  v.flatMap fun p => [.double (p 0), .double (p 1), .double (p 2)]

/-- `&v[0][0]` handed to `nc_put_vara_double` with a count of `npoints` points: undefined
    behaviour when `v` is empty (`v[0]`) or shorter than the count (the library reads past its
    end). -/
def pointBuffer (npoints : Nat) (v : List (Fin 3 → R)) :
    Except WriterError (List (NcValue R)) :=
  if v.isEmpty || v.length < npoints then .error .undefinedBehaviour else .ok (flatten3 v)

/-- The part of `output_nc` after `prepare_nc_file`: open `fname_`, write the call's record at
    index `internal_output_counter_`, close, count the output. -/
def appendRecord (self : LidarLineOfSite R) (fs : LidarFiles R) (time : R)
    (x u : List (Fin 3 → R)) : Except WriterError (LidarLineOfSite R × LidarFiles R) := do
  let h ← checkNcError (ncOpen fs self.fname)
  let c := self.internalOutputCounter
  let vector_list_start := [c, 0, 0]
  let vector_list_count := [1, sizeT self.npoints, 3]
  let step := staticCastInt c
  let h ← checkNcError (ncPutVara h (varId self.ncVarIDs "step") [c] [1] [.int step])
  let h ← checkNcError (ncPutVara h (varId self.ncVarIDs "time") [c] [1] [.double time])
  let bx ← pointBuffer (sizeT self.npoints) x
  let h ← checkNcError
    (ncPutVara h (varId self.ncVarIDs "coordinates") vector_list_start vector_list_count bx)
  let bu ← pointBuffer (sizeT self.npoints) u
  let h ← checkNcError
    (ncPutVara h (varId self.ncVarIDs "velocity") vector_list_start vector_list_count bu)
  pure ({ self with internalOutputCounter := c + 1 }, ncClose fs h)

/-- `LidarLineOfSite::output_nc(time, x, u)`. -/
def outputNc (self : LidarLineOfSite R) (fs : LidarFiles R) (time : R) (x u : List (Fin 3 → R)) :
    Except WriterError (LidarLineOfSite R × LidarFiles R) := do
  let (self, fs) ← if self.internalOutputCounter = 0 then prepareNcFile self fs
    else pure (self, fs)
  appendRecord self fs time x u

end Writer

/-! ## The lidar's dataset -/

section Dataset

variable {R : Type}

/-- The dimensions `prepare_nc_file` defines, for `npoints` points. -/
def lidarDims (npoints : Nat) : List NcDim :=
  [⟨"num_timesteps", NC_UNLIMITED⟩, ⟨"num_points", npoints⟩, ⟨"vec_dim", 3⟩]

/-- A variable over `num_timesteps` whose records are `recs`. -/
def recordValues (recs : List (NcValue R)) : List Nat → Option (NcValue R)
  | [k] => recs[k]?
  | _ => none

/-- A variable over `num_timesteps × num_points × vec_dim` whose records are the point lists
    `recs`. -/
def pointValues (npoints : Nat) (recs : List (List (Fin 3 → R))) : List Nat → Option (NcValue R)
  | [k, j, d] => if j < npoints ∧ d < 3 then recs[k]?.bind fun v => (flatten3 v)[j * 3 + d]?
    else none
  | _ => none

/-- The lidar's file after the records `recs = [(t_k, x_k, u_k)]`. -/
def lidarDataset (npoints : Nat) (recs : List (R × List (Fin 3 → R) × List (Fin 3 → R))) :
    NcDataset R where
  dims := lidarDims npoints
  vars :=
    [⟨"step", .NC_INT, [0],
        recordValues ((List.range recs.length).map fun k => .int (staticCastInt k))⟩,
      ⟨"time", .NC_DOUBLE, [0], recordValues (recs.map fun r => .double r.1)⟩,
      ⟨"coordinates", .NC_DOUBLE, [0, 1, 2], pointValues npoints (recs.map fun r => r.2.1)⟩,
      ⟨"velocity", .NC_DOUBLE, [0, 1, 2], pointValues npoints (recs.map fun r => r.2.2)⟩]
  numrecs := recs.length

/-- The `ncVarIDs_` entries `prepare_nc_file` adds, last defined first. -/
def lidarVarIDs : List (String × Nat) :=
  [("velocity", 3), ("coordinates", 2), ("time", 1), ("step", 0)]

/-- One record of a `double` variable over `num_points × vec_dim` fits the classic format's
    `vlen_max` exactly when its `24 · npoints` bytes do. -/
theorem checkVlenLoop_points (n : Nat) :
    checkVlenLoop (X_INT_MAX - 3) NcType.NC_DOUBLE.xsz [n, 3] = decide (24 * n ≤ X_INT_MAX - 3) := by
  rcases Nat.eq_zero_or_pos n with rfl | hn
  · decide
  have h8 : 0 < 8 * n := by omega
  simp only [checkVlenLoop, NcType.xsz, X_INT_MAX, hn.ne', if_false, OfNat.ofNat_ne_zero,
    Nat.div_lt_iff_lt_mul (by norm_num : 0 < 8), Nat.div_lt_iff_lt_mul h8]
  split_ifs <;> simp <;> omega

/-- **`NC_check_vlens` on the lidar's variables.**  All four are record variables; `step` and
    `time` are one value a record, `coordinates` and `velocity` `24 · npoints` bytes, so
    `nc_enddef` refuses the file exactly when those two are too large — both at once. -/
theorem ncCheckVlens_lidar (n numrecs : Nat) (v₁ v₂ v₃ v₄ : List Nat → Option (NcValue R)) :
    ncCheckVlens (⟨[⟨"num_timesteps", NC_UNLIMITED⟩, ⟨"num_points", n⟩, ⟨"vec_dim", 3⟩],
      [⟨"step", .NC_INT, [0], v₁⟩, ⟨"time", .NC_DOUBLE, [0], v₂⟩,
        ⟨"coordinates", .NC_DOUBLE, [0, 1, 2], v₃⟩, ⟨"velocity", .NC_DOUBLE, [0, 1, 2], v₄⟩],
      numrecs⟩ : NcDataset R) =
      if X_INT_MAX - 3 < 24 * n then .error .NC_EVARSIZE else .ok () := by
  rcases Nat.lt_or_ge (X_INT_MAX - 3) (24 * n) with h | h <;>
    simp [ncCheckVlens, vlenPass, ncCheckVlen, NcDataset.isRecVar, NcDataset.dimLen,
      NC_UNLIMITED, checkVlenLoop.eq_1, checkVlenLoop_points, Nat.not_le.2, Nat.not_lt.2, h]

/-- Writing record `k = recs.length` of a record variable appends it. -/
theorem writeSlab_recordValues (recs : List (NcValue R)) (v : NcValue R) {n : Nat}
    (hn : recs.length = n) :
    writeSlab (recordValues recs) [n] [1] [v] = recordValues (recs ++ [v]) := by
  subst hn
  funext idx
  match idx with
  | [] | _ :: _ :: _ => simp [writeSlab, slabOffset, recordValues]
  | [k] =>
    simp only [writeSlab, slabOffset, recordValues]
    rcases Nat.lt_trichotomy k recs.length with hk | rfl | hk
    · rw [if_neg (by omega)]
      simp [List.getElem?_append_left hk]
    · simp
    · rw [if_neg (by omega)]
      simp [List.getElem?_eq_none (show recs.length ≤ k by omega),
        List.getElem?_eq_none (show (recs ++ [v]).length ≤ k by simp; omega)]

/-- Writing record `k = recs.length` of a point variable appends it. -/
theorem writeSlab_pointValues (npoints : Nat) (recs : List (List (Fin 3 → R)))
    (v : List (Fin 3 → R)) {n : Nat} (hn : recs.length = n) :
    writeSlab (pointValues npoints recs) [n, 0, 0] [1, npoints, 3] (flatten3 v) =
      pointValues npoints (recs ++ [v]) := by
  subst hn
  funext idx
  match idx with
  | [] | [_] | [_, _] | _ :: _ :: _ :: _ :: _ => simp [writeSlab, slabOffset, pointValues]
  | [k, j, d] =>
    simp only [writeSlab, slabOffset, pointValues, List.prod_cons, List.prod_nil]
    by_cases hjd : j < npoints ∧ d < 3
    · rcases Nat.lt_trichotomy k recs.length with hk | rfl | hk
      · rw [if_neg (by omega)]
        simp [hjd, List.getElem?_append_left hk]
      · simp [hjd, Nat.mul_comm]
      · rw [if_neg (by omega)]
        simp [hjd, List.getElem?_eq_none (show recs.length ≤ k by omega),
          List.getElem?_eq_none (show (recs ++ [v]).length ≤ k by simp; omega)]
    · by_cases hk : recs.length ≤ k ∧ k < recs.length + 1
      · rw [if_pos hk]
        simp only [Nat.zero_le, true_and, Nat.zero_add]
        split_ifs <;> simp_all
      · simp only [if_neg hk, if_neg hjd]

/-- The dataset with no records. -/
theorem lidarDataset_nil (npoints : Nat) :
    lidarDataset npoints ([] : List (R × List (Fin 3 → R) × List (Fin 3 → R))) =
      ⟨lidarDims npoints,
        [⟨"step", .NC_INT, [0], fun _ => none⟩, ⟨"time", .NC_DOUBLE, [0], fun _ => none⟩,
          ⟨"coordinates", .NC_DOUBLE, [0, 1, 2], fun _ => none⟩,
          ⟨"velocity", .NC_DOUBLE, [0, 1, 2], fun _ => none⟩], 0⟩ := by
  have hrec : recordValues ([] : List (NcValue R)) = fun _ => none := by
    funext idx; rcases idx with _ | ⟨_, _ | _⟩ <;> rfl
  have hpt : pointValues npoints ([] : List (List (Fin 3 → R))) = fun _ => none := by
    funext idx; rcases idx with _ | ⟨_, _ | ⟨_, _ | ⟨_, _ | _⟩⟩⟩ <;> simp [pointValues]
  simp [lidarDataset, hrec, hpt]

end Dataset

/-! ## The writer's steps -/

section Steps

variable {R : Type}

/-- The writer's state after the records `recs`: `fname_` holds the lidar's dataset with them,
    `ncVarIDs_` maps the four variables to their ids, and the counter has counted the records. -/
structure NcLayout (lidar : LidarLineOfSite R) (fs : LidarFiles R)
    (recs : List (R × List (Fin 3 → R) × List (Fin 3 → R))) : Prop where
  file : fs.files lidar.fname = some (.netcdf (lidarDataset (sizeT lidar.npoints) recs))
  ids : ∃ rest, lidar.ncVarIDs = lidarVarIDs ++ rest
  counter : lidar.internalOutputCounter = recs.length

/-- **The definitions.**  With `f` the name `determine_filename` chooses, `prepare_nc_file`
    leaves `f` holding the lidar's dataset with no records — or throws when `npoints_` is too
    long for the classic format, or is `0`, which asks for a second unlimited dimension, or
    when one record of `coordinates` and of `velocity`, `24 · npoints_` bytes, is over
    `X_INT_MAX - 3`, which `nc_enddef` refuses. -/
theorem prepareNcFile_eq (self : LidarLineOfSite R) (fs : LidarFiles R) {f : String}
    (hf : determineFilename fs self.name ".nc" = .ok f) :
    prepareNcFile self fs =
      if X_INT_MAX - 3 < sizeT self.npoints then
        .error (.runtimeError "SyntheticLidar NetCDF error: NetCDF: Invalid dimension size")
      else if sizeT self.npoints = 0 then
        .error (.runtimeError
          "SyntheticLidar NetCDF error: NetCDF: NC_UNLIMITED size already in use")
      else if X_INT_MAX - 3 < 24 * sizeT self.npoints then
        .error (.runtimeError
          "SyntheticLidar NetCDF error: NetCDF: One or more variable sizes violate format constraints")
      else .ok ({ self with fname := f, ncVarIDs := lidarVarIDs ++ self.ncVarIDs },
        fs.write f (.netcdf (lidarDataset (sizeT self.npoints) []))) := by
  have hunlim : ¬X_INT_MAX - 3 < NC_UNLIMITED := by decide
  have hvec : ¬X_INT_MAX - 3 < 3 := by decide
  have hvlens := ncCheckVlens_lidar (R := R) (sizeT self.npoints) 0 (fun _ => none)
    (fun _ => none) (fun _ => none) (fun _ => none)
  rw [NC_UNLIMITED] at hvlens
  split_ifs with hsize hzero hbig <;>
    simp [prepareNcFile, hf, hunlim, hvec, ncCreate, ncDefDim, ncDefVar, ncEnddef, hvlens,
      ncClose, addNcvar, checkNcError, ncStrerror, Except.mapError, bind, Except.bind, pure,
      Except.pure, Except.map, NC_UNLIMITED, lidarDataset_nil, lidarDims, lidarVarIDs, *]

/-- **The step.**  On a file in the lidar's layout, a call writes its record after the others —
    unless `x` or `u` holds fewer than `npoints_` points, where `&x[0][0]` is read past its end. -/
theorem appendRecord_eq (self : LidarLineOfSite R) (fs : LidarFiles R) (time : R)
    (x u : List (Fin 3 → R)) {recs : List (R × List (Fin 3 → R) × List (Fin 3 → R))}
    (hl : NcLayout self fs recs) :
    appendRecord self fs time x u =
      if (x.isEmpty || x.length < sizeT self.npoints) ||
          (u.isEmpty || u.length < sizeT self.npoints) then .error .undefinedBehaviour
      else .ok ({ self with internalOutputCounter := recs.length + 1 },
        fs.write self.fname
          (.netcdf (lidarDataset (sizeT self.npoints) (recs ++ [(time, x, u)])))) := by
  obtain ⟨rest, hids⟩ := hl.ids
  obtain ⟨hstep, htime, hcoord, hvel⟩ : varId self.ncVarIDs "step" = 0 ∧
      varId self.ncVarIDs "time" = 1 ∧ varId self.ncVarIDs "coordinates" = 2 ∧
      varId self.ncVarIDs "velocity" = 3 := by
    simp [hids, varId, lidarVarIDs, List.lookup]
  by_cases hx : (x.isEmpty || x.length < sizeT self.npoints) = true <;>
  by_cases hu : (u.isEmpty || u.length < sizeT self.npoints) = true <;>
  simp [appendRecord, ncOpen, hl.file, hl.counter, hstep, htime, hcoord, hvel, hx, hu,
    checkNcError, ncPutVara, pointBuffer, lidarDataset, NcDataset.dimLen, lidarDims, ncClose,
    writeSlab_recordValues, writeSlab_pointValues, List.range_succ, bind, Except.bind, pure,
    Except.pure]

/-- **The first call.**  It chooses `fname_` with `determine_filename`, defines the file and
    writes record `0`; the definitions fail for a `npoints_` outside `[1, X_INT_MAX - 3]` or
    whose records of `coordinates`, `24 · npoints_` bytes, are over `X_INT_MAX - 3`. -/
theorem outputNc_first (self : LidarLineOfSite R) (fs : LidarFiles R) (time : R)
    (x u : List (Fin 3 → R)) (h0 : self.internalOutputCounter = 0) :
    outputNc self fs time x u =
      match determineFilename fs self.name ".nc" with
      | .error what => .error (.runtimeError what)
      | .ok f =>
        if X_INT_MAX - 3 < sizeT self.npoints then
          .error (.runtimeError "SyntheticLidar NetCDF error: NetCDF: Invalid dimension size")
        else if sizeT self.npoints = 0 then
          .error (.runtimeError
            "SyntheticLidar NetCDF error: NetCDF: NC_UNLIMITED size already in use")
        else if X_INT_MAX - 3 < 24 * sizeT self.npoints then
          .error (.runtimeError
            "SyntheticLidar NetCDF error: NetCDF: One or more variable sizes violate format constraints")
        else if (x.isEmpty || x.length < sizeT self.npoints) ||
            (u.isEmpty || u.length < sizeT self.npoints) then .error .undefinedBehaviour
        else .ok
          ({ self with
              fname := f, ncVarIDs := lidarVarIDs ++ self.ncVarIDs, internalOutputCounter := 1 },
            fs.write f (.netcdf (lidarDataset (sizeT self.npoints) [(time, x, u)]))) := by
  rcases hf : determineFilename fs self.name ".nc" with what | f
  · simp [outputNc, h0, prepareNcFile, hf, Except.mapError, bind, Except.bind]
  have hrun : outputNc self fs time x u =
      (prepareNcFile self fs).bind fun st => appendRecord st.1 st.2 time x u := by
    simp only [outputNc, h0, if_true]; rfl
  rw [hrun, prepareNcFile_eq self fs hf]
  by_cases hsize : X_INT_MAX - 3 < sizeT self.npoints
  · simp [hsize, Except.bind]
  by_cases hzero : sizeT self.npoints = 0
  · simp [hsize, hzero, Except.bind]
  by_cases hbig : X_INT_MAX - 3 < 24 * sizeT self.npoints
  · simp [hsize, hzero, hbig, Except.bind]
  have hl : NcLayout { self with fname := f, ncVarIDs := lidarVarIDs ++ self.ncVarIDs }
      (fs.write f (.netcdf (lidarDataset (sizeT self.npoints) []))) [] :=
    ⟨by simp, ⟨_, rfl⟩, h0⟩
  simp [hsize, hzero, hbig, Except.bind, appendRecord_eq _ _ _ _ _ hl]

/-- **Every later call** appends its record. -/
theorem outputNc_next (self : LidarLineOfSite R) (fs : LidarFiles R) (time : R)
    (x u : List (Fin 3 → R)) (h0 : self.internalOutputCounter ≠ 0) :
    outputNc self fs time x u = appendRecord self fs time x u := by
  simp [outputNc, h0, pure, Except.pure, bind, Except.bind]

/-- A successful `append_record` only counts the output. -/
theorem appendRecord_self (self : LidarLineOfSite R) (fs : LidarFiles R) (time : R)
    (x u : List (Fin 3 → R)) {self' : LidarLineOfSite R} {fs' : LidarFiles R}
    (h : appendRecord self fs time x u = .ok (self', fs')) :
    self' = { self with internalOutputCounter := self.internalOutputCounter + 1 } := by
  simp only [appendRecord, bind_eq_ok] at h
  obtain ⟨_, -, _, -, _, -, _, -, _, -, _, -, _, -, h⟩ := h
  simp only [pure, Except.pure, Except.ok.injEq, Prod.mk.injEq] at h
  exact h.1.symm

/-- A successful call changes no field of the lidar's configuration. -/
theorem outputNc_frame (self : LidarLineOfSite R) (fs : LidarFiles R) (time : R)
    (x u : List (Fin 3 → R)) {self' : LidarLineOfSite R} {fs' : LidarFiles R}
    (h : outputNc self fs time x u = .ok (self', fs')) :
    self'.name = self.name ∧ self'.outputType = self.outputType ∧
      self'.npoints = self.npoints ∧ self'.predictor = self.predictor := by
  by_cases h0 : self.internalOutputCounter = 0
  · rw [outputNc_first self fs time x u h0] at h
    split at h
    · cases h
    · split_ifs at h
      cases h
      simp
  · rw [outputNc_next self fs time x u h0] at h
    rw [appendRecord_self self fs time x u h]
    simp

/-- The first call creates no file that existed and changes none: the name it writes was free,
    and every existing path keeps its contents. -/
theorem outputNc_first_fresh (self : LidarLineOfSite R) (fs : LidarFiles R) (time : R)
    (x u : List (Fin 3 → R)) (h0 : self.internalOutputCounter = 0)
    {self' : LidarLineOfSite R} {fs' : LidarFiles R}
    (h : outputNc self fs time x u = .ok (self', fs')) :
    fs.fileExists self'.fname = false ∧
      ∀ p, fs.fileExists p = true → fs'.files p = fs.files p := by
  rw [outputNc_first self fs time x u h0] at h
  rcases hf : determineFilename fs self.name ".nc" with what | f
  · simp [hf] at h
  · simp only [hf] at h
    split_ifs at h
    cases h
    have hfresh := determineFilename_fresh fs _ _ f hf
    exact ⟨hfresh, FileSystem.write_keeps_existing fs _ hfresh⟩

end Steps

/-! ## What the file holds -/

section Records

variable {R : Type}

/-- Point `j` of a buffer sits at `3j`, `3j + 1`, `3j + 2`. -/
theorem flatten3_getElem? (v : List (Fin 3 → R)) {j : Nat} (hj : j < v.length) (d : Fin 3) :
    (flatten3 v)[j * 3 + d]? = some (.double (v[j] d)) := by
  induction v generalizing j with
  | nil => simp at hj
  | cons p v ih =>
    cases j with
    | zero => fin_cases d <;> simp [flatten3]
    | succ j =>
      have hidx : (j + 1) * 3 + d = j * 3 + d + 3 := by omega
      simp only [flatten3, List.flatMap_cons] at ih ⊢
      rw [hidx, List.getElem?_append_right (by simp)]
      simpa only [List.length_cons, List.length_nil, Nat.add_sub_cancel, List.getElem_cons_succ]
        using ih (Nat.lt_of_succ_lt_succ hj)

/-- Record `k` of `coordinates` or `velocity` holds the points of its call. -/
theorem pointValues_record (npoints : Nat) (recs : List (List (Fin 3 → R))) {k j : Nat}
    (hk : k < recs.length) (hj : j < npoints) (hjk : j < recs[k].length) (d : Fin 3) :
    pointValues npoints recs [k, j, d] = some (.double (recs[k][j] d)) := by
  simp [pointValues, hj, d.isLt, List.getElem?_eq_getElem hk, flatten3_getElem? _ hjk]

/-- Record `k` of `step` is `k`, for every `k` a 32-bit `int` holds. -/
theorem staticCastInt_of_lt {k : Nat} (hk : k < 2 ^ 31) : staticCastInt k = k := by
  simp only [staticCastInt]
  rw [Nat.mod_eq_of_lt (by omega)]
  push_cast
  ring

end Records

/-! ## The names the writers choose -/

section Fresh

variable {R : Type}

/-- **The names both writers write to.**  `determine_filename(name, suffix)` returns
    `name + suffix` when it is free, else `name-rst-j suffix` for the least free
    `j ∈ [1, max_restarts)`, and throws exactly when all `max_restarts` candidates exist; so the
    first call of either writer writes to a path that did not exist, and leaves every existing
    file as it was. -/
theorem determineFilename_least_free (fs : LidarFiles R) (name suffix : String) :
    (fs.fileExists (name ++ suffix) = false →
      determineFilename fs name suffix = .ok (name ++ suffix)) ∧
    (∀ j, 1 ≤ j → j < maxRestarts → fs.fileExists (name ++ suffix) = true →
      (∀ i, 1 ≤ i → i < j → fs.fileExists (restartName name suffix i) = true) →
      fs.fileExists (restartName name suffix j) = false →
      determineFilename fs name suffix = .ok (restartName name suffix j)) ∧
    (determineFilename fs name suffix = .error "Too many restarts checked" ↔
      fs.fileExists (name ++ suffix) = true ∧
        ∀ j, 1 ≤ j → j < maxRestarts → fs.fileExists (restartName name suffix j) = true) ∧
    (∀ (fmt : R → String) (self self' : LidarLineOfSite R) (fs' : LidarFiles R) (time : R)
        (x u : List (Fin 3 → R)), self.internalOutputCounter = 0 →
      outputTxt fmt self fs time x u = .ok (self', fs') →
        fs.fileExists self'.fname = false ∧
          ∀ p, fs.fileExists p = true → fs'.files p = fs.files p) ∧
    (∀ (self self' : LidarLineOfSite R) (fs' : LidarFiles R) (time : R)
        (x u : List (Fin 3 → R)), self.internalOutputCounter = 0 →
      outputNc self fs time x u = .ok (self', fs') →
        fs.fileExists self'.fname = false ∧
          ∀ p, fs.fileExists p = true → fs'.files p = fs.files p) :=
  ⟨determineFilename_base fs name suffix,
    fun _ hj hjmax hbase htaken hfree =>
      determineFilename_restart fs name suffix hbase hj hjmax htaken hfree,
    determineFilename_error_iff fs name suffix,
    fun fmt self _ _ time x u h0 h => outputTxt_first_fresh fmt self fs time x u h0 h,
    fun self _ _ time x u h0 h => outputNc_first_fresh self fs time x u h0 h⟩

theorem determineFilename_least_free_skips_taken :
    (FileSystem.ofFiles fun p => if p = "lidar.nc" ∨ p = "lidar-rst-1.nc" then some (.text "") else none :
        LidarFiles ℚ).fileExists ("lidar" ++ ".nc") = true ∧
      (FileSystem.ofFiles fun p => if p = "lidar.nc" ∨ p = "lidar-rst-1.nc" then some (.text "") else none :
        LidarFiles ℚ).fileExists (restartName "lidar" ".nc" 1) = true ∧
      (FileSystem.ofFiles fun p => if p = "lidar.nc" ∨ p = "lidar-rst-1.nc" then some (.text "") else none :
        LidarFiles ℚ).fileExists (restartName "lidar" ".nc" 2) = false ∧
      determineFilename
          (FileSystem.ofFiles fun p => if p = "lidar.nc" ∨ p = "lidar-rst-1.nc" then some (.text "") else none :
            LidarFiles ℚ) "lidar" ".nc" = .ok (restartName "lidar" ".nc" 2) ∧
      restartName "lidar" ".nc" 2 = "lidar-rst-2.nc" :=
  ⟨by decide, by decide, by decide,
    (determineFilename_least_free _ "lidar" ".nc").2.1 2 (by decide) (by decide) (by decide)
      (fun i hi hi2 => by
        obtain rfl : i = 1 := by omega
        decide) (by decide),
    by decide⟩

end Fresh

end NaluWind.Lidar
