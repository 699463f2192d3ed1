import NaluWind.Lidar.NetCdf
import NaluWind.Lidar.Load
/-!
  The text writer: `LidarLineOfSite::output_txt` (`src/wind_energy/SyntheticLidar.C`), over a
  model of the `std::ofstream` state it drives.

  A stream is the file its `filebuf` has open, its `failbit` and `badbit`, and whether `failbit`
  is in its exception mask (`OfStream`); each member the writer calls is one function of that
  state and of the file system, as the standard specifies it.  Two of those rules decide what
  the writer produces:
  * `open` on a stream whose buffer is already open fails and sets `failbit`
    (`basic_filebuf::open` returns a null pointer when `is_open()`);
  * an insertion into a stream that is not `good()` writes nothing.
  The header block constructs `file{fname_, std::ios_base::out}` — already open, the file
  truncated — and then calls `file.open(fname_)` on it.  That second `open` fails, so the header
  insertion is dropped (`headerBlock_ok`): the first call leaves `fname_` empty, and the header
  never reaches the file.  The append block that follows is sound (`appendBlock_eq`), and the
  run theorem built on `outputTxt_run_append` shows what every run leaves: exactly the record
  lines of all calls, in call order, with no header.

  An exception ends the run, and the model does not keep the file system it leaves behind.
-/

namespace NaluWind.Lidar

/-- How `output` and the writers it calls end other than normally. -/
inductive WriterError
  /-- `std::runtime_error` with the given text. -/
  | runtimeError (what : String)
  /-- `std::ios_base::failure` (its `strerror(errno)` text is not modelled). -/
  | iosBaseFailure
  /-- `std::out_of_range` from `std::vector::at`. -/
  | outOfRange
  /-- `std::length_error` from a `std::vector` of a negative `int` size. -/
  | lengthError
  /-- Undefined behaviour: a read past the end of a vector, or an `int` product that overflows. -/
  | undefinedBehaviour
  deriving DecidableEq, Repr

/-- The state of a `std::ofstream`. -/
structure OfStream where
  /-- The file its `filebuf` has open, if it is open. -/
  file : Option String
  failbit : Bool
  badbit : Bool
  /-- Whether `failbit` is in `exceptions()`. -/
  throwsOnFail : Bool

/-- The text a stream finds in a file: a text file's contents, nothing for a missing file.  A
    NetCDF dataset's bytes are not modelled as text: a text stream finds nothing in one. -/
def textOf {R : Type} : Option (FileContents R) → String
  | some (.text s) => s
  | _ => ""

@[simp] theorem textOf_text {R : Type} (s : String) :
    textOf (some (FileContents.text s : FileContents R)) = s := rfl

namespace OfStream

variable {R : Type}

/-- `std::ofstream file;` -/
def closed : OfStream := ⟨none, false, false, false⟩

/-- `file.fail()`. -/
def fail (s : OfStream) : Bool := s.failbit || s.badbit

/-- `setstate(failbit)`: throws `std::ios_base::failure` when `failbit` is in the mask. -/
def setFailbit (s : OfStream) : Except WriterError OfStream :=
  if s.throwsOnFail then .error .iosBaseFailure else .ok { s with failbit := true }

/-- `rdbuf()->open(path, mode)` on a closed buffer: the file is created if missing, and
    truncated unless the mode has `app`. -/
def filebufOpen (fs : LidarFiles R) (path : String) (app : Bool) : LidarFiles R :=
  fs.write path (.text (if app then textOf (fs.files path) else ""))

/-- `file.open(path, mode)`: on an open buffer `rdbuf()->open` fails and `setstate(failbit)`
    follows; otherwise the file is opened and the state cleared. -/
def openFile (s : OfStream) (fs : LidarFiles R) (path : String) (app : Bool) :
    Except WriterError (OfStream × LidarFiles R) :=
  match s.file with
  | some _ => do
    let s ← s.setFailbit
    pure (s, fs)
  | none => pure ({ s with file := some path, failbit := false, badbit := false },
      filebufOpen fs path app)

/-- `std::ofstream file{path, mode}`: a closed stream, then `rdbuf()->open(path, mode)`. -/
def construct (fs : LidarFiles R) (path : String) (app : Bool) :
    Except WriterError (OfStream × LidarFiles R) :=
  closed.openFile fs path app

/-- `file << text`: on a stream that is not `good()` the sentry fails and nothing is written;
    a closed buffer takes no characters (`badbit`); otherwise the text goes to the file's end. -/
def insert (s : OfStream) (fs : LidarFiles R) (text : String) :
    Except WriterError (OfStream × LidarFiles R) :=
  if s.fail then do
    let s ← s.setFailbit
    pure (s, fs)
  else match s.file with
    | some path => pure (s, fs.write path (.text (textOf (fs.files path) ++ text)))
    | none => pure ({ s with badbit := true }, fs)

/-- `file.close()`: `rdbuf()->close()` fails on a closed buffer, and `setstate(failbit)`. -/
def close (s : OfStream) (fs : LidarFiles R) : Except WriterError (OfStream × LidarFiles R) :=
  match s.file with
  | some _ => pure ({ s with file := none }, fs)
  | none => do
    let s ← s.setFailbit
    pure (s, fs)

/-- `file.exceptions(file.exceptions() | std::ios::failbit)`: a stream that has already failed
    throws at once. -/
def exceptionsFailbit (s : OfStream) : Except WriterError OfStream :=
  if s.failbit then .error .iosBaseFailure else .ok { s with throwsOnFail := true }

end OfStream

/-! ## `output_txt` -/

section Writer

variable {R : Type} (fmt : R → String)

/-- One record line, `time,x0,x1,x2,u0,u1,u2` and its `std::endl`, `fmt` being how `operator<<`
    prints a `double` at `std::setprecision(15)`. -/
def recordLine (time : R) (x u : Fin 3 → R) : String :=
  fmt time ++ "," ++ fmt (x 0) ++ "," ++ fmt (x 1) ++ "," ++ fmt (x 2) ++ "," ++
    fmt (u 0) ++ "," ++ fmt (u 1) ++ "," ++ fmt (u 2) ++ "\n"

/-- The record loop `for (size_t j = 0; j < x.size(); ++j)`, walking `x` and `u` together:
    `u.at(j)` throws `std::out_of_range` once `u` runs out. -/
def writeRecords (time : R) :
    OfStream → LidarFiles R → List (Fin 3 → R) → List (Fin 3 → R) →
      Except WriterError (OfStream × LidarFiles R)
  | file, fs, [], _ => .ok (file, fs)
  | _, _, _ :: _, [] => .error .outOfRange
  | file, fs, xj :: x, uj :: u => do
    let (file, fs) ← file.insert fs (recordLine fmt time xj uj)
    writeRecords time file fs x u

/-- The block `if (internal_output_counter_ == 0)`: choose `fname_`, construct the stream on it,
    `open` it once more, write the header line, close. -/
def headerBlock (self : LidarLineOfSite R) (fs : LidarFiles R) :
    Except WriterError (LidarLineOfSite R × LidarFiles R) := do
  let fname ← match determineFilename fs self.name ".txt" with
    | .ok fname => .ok fname
    | .error what => .error (.runtimeError what)
  let (file, fs) ← OfStream.construct fs fname false
  let (file, fs) ← file.openFile fs fname false
  let (file, fs) ← file.insert fs "t,x,y,z,u,v,w"
  let (file, fs) ← file.insert fs "\n"
  let (_, fs) ← file.close fs
  pure ({ self with fname := fname }, fs)

/-- The rest of `output_txt`: a stream that throws on `failbit`, opened on `fname_` to append,
    one line per point, closed; then `++internal_output_counter_`. -/
def appendBlock (self : LidarLineOfSite R) (fs : LidarFiles R) (time : R)
    (x u : List (Fin 3 → R)) : Except WriterError (LidarLineOfSite R × LidarFiles R) := do
  let file ← OfStream.closed.exceptionsFailbit
  let (file, fs) ← file.openFile fs self.fname true
  if file.fail then throw .iosBaseFailure
  let (file, fs) ← writeRecords fmt time file fs x u
  let (_, fs) ← file.close fs
  pure ({ self with internalOutputCounter := self.internalOutputCounter + 1 }, fs)

/-- `LidarLineOfSite::output_txt(time, x, u)`. -/
def outputTxt (self : LidarLineOfSite R) (fs : LidarFiles R) (time : R) (x u : List (Fin 3 → R)) :
    Except WriterError (LidarLineOfSite R × LidarFiles R) := do
  let (self, fs) ← if self.internalOutputCounter = 0 then headerBlock self fs
    else pure (self, fs)
  appendBlock fmt self fs time x u

/-- A run of calls `(t_k, x_k, u_k)` of a writer, in call order; an exception ends it. -/
def writerRun (writer : LidarLineOfSite R → LidarFiles R → R → List (Fin 3 → R) →
      List (Fin 3 → R) → Except WriterError (LidarLineOfSite R × LidarFiles R)) :
    List (R × List (Fin 3 → R) × List (Fin 3 → R)) → LidarLineOfSite R × LidarFiles R →
      Except WriterError (LidarLineOfSite R × LidarFiles R)
  | [], st => .ok st
  | (t, x, u) :: calls, (self, fs) => do
    let st ← writer self fs t x u
    writerRun writer calls st

theorem writerRun_cons (writer : LidarLineOfSite R → LidarFiles R → R → List (Fin 3 → R) →
      List (Fin 3 → R) → Except WriterError (LidarLineOfSite R × LidarFiles R))
    (c : R × List (Fin 3 → R) × List (Fin 3 → R))
    (calls : List (R × List (Fin 3 → R) × List (Fin 3 → R)))
    (self : LidarLineOfSite R) (fs : LidarFiles R) :
    writerRun writer (c :: calls) (self, fs) =
      (writer self fs c.1 c.2.1 c.2.2).bind (writerRun writer calls) := rfl

/-- The lines a call should write: one record per point. -/
def records (time : R) : List (Fin 3 → R) → List (Fin 3 → R) → String
  | xj :: x, uj :: u => recordLine fmt time xj uj ++ records time x u
  | _, _ => ""

/-- The lines of a whole run, in call order. -/
def runRecords : List (R × List (Fin 3 → R) × List (Fin 3 → R)) → String
  | [] => ""
  | (t, x, u) :: calls => records fmt t x u ++ runRecords calls

end Writer

/-! ## What a run leaves in the file -/

section Runs

variable {R : Type} (fmt : R → String)

/-- The lines of two runs one after the other. -/
theorem runRecords_append : ∀ (calls calls' : List (R × List (Fin 3 → R) × List (Fin 3 → R))),
    runRecords fmt (calls ++ calls') = runRecords fmt calls ++ runRecords fmt calls'
  | [], _ => by simp [runRecords]
  | (t, x, u) :: calls, calls' => by
    show records fmt t x u ++ runRecords fmt (calls ++ calls') = _
    rw [runRecords_append calls calls', runRecords, String.append_assoc]

/-- **The header is dropped.**  The header block creates `fname_` empty: its second `open` sets
    `failbit`, so neither the header nor its newline is written. -/
theorem headerBlock_ok (self : LidarLineOfSite R) (fs : LidarFiles R) {f : String}
    (h : determineFilename fs self.name ".txt" = .ok f) :
    headerBlock self fs = .ok ({ self with fname := f }, fs.write f (.text "")) := by
  simp [headerBlock, h, OfStream.construct, OfStream.openFile, OfStream.closed,
    OfStream.filebufOpen, OfStream.setFailbit, OfStream.insert, OfStream.fail, OfStream.close,
    bind, Except.bind, pure, Except.pure]

/-- On a good stream open on `path`, the record loop appends one line per point — or throws
    `std::out_of_range` when `u` is shorter than `x`. -/
theorem writeRecords_eq (time : R) (path : String) (throws : Bool) :
    ∀ (fs : LidarFiles R) (c : String) (x u : List (Fin 3 → R)),
      writeRecords fmt time ⟨some path, false, false, throws⟩ (fs.write path (.text c)) x u =
        if x.length ≤ u.length then
          .ok (⟨some path, false, false, throws⟩,
            fs.write path (.text (c ++ records fmt time x u)))
        else .error .outOfRange
  | fs, c, [], u => by simp [writeRecords, records]
  | _, _, _ :: _, [] => by simp [writeRecords]
  | fs, c, xj :: x, uj :: u => by
    simp only [writeRecords, OfStream.insert, OfStream.fail, Bool.or_false, Bool.false_eq_true,
      if_false, FileSystem.write_files, if_true, textOf_text, FileSystem.write_write, pure,
      Except.pure, bind, Except.bind]
    rw [writeRecords_eq time path throws fs _ x u]
    simp only [records, String.append_assoc, List.length_cons, Nat.add_le_add_iff_right]

/-- The append block writes the call's records at the end of `fname_`. -/
theorem appendBlock_eq (self : LidarLineOfSite R) (fs : LidarFiles R) (time : R)
    (x u : List (Fin 3 → R)) :
    appendBlock fmt self fs time x u =
      if x.length ≤ u.length then
        .ok ({ self with internalOutputCounter := self.internalOutputCounter + 1 },
          fs.write self.fname (.text (textOf (fs.files self.fname) ++ records fmt time x u)))
      else .error .outOfRange := by
  by_cases h : x.length ≤ u.length <;>
    simp [appendBlock, OfStream.exceptionsFailbit, OfStream.closed, OfStream.openFile,
      OfStream.filebufOpen, OfStream.fail, writeRecords_eq, h, OfStream.close, bind, Except.bind,
      pure, Except.pure]

/-- **The first call.**  It chooses `fname_` with `determine_filename`, leaves it holding the
    call's records only, and counts one output. -/
theorem outputTxt_first (self : LidarLineOfSite R) (fs : LidarFiles R) (time : R)
    (x u : List (Fin 3 → R)) (h0 : self.internalOutputCounter = 0) :
    outputTxt fmt self fs time x u =
      match determineFilename fs self.name ".txt" with
      | .ok f =>
        if x.length ≤ u.length then
          .ok ({ self with fname := f, internalOutputCounter := 1 },
            fs.write f (.text (records fmt time x u)))
        else .error .outOfRange
      | .error what => .error (.runtimeError what) := by
  rcases hf : determineFilename fs self.name ".txt" with what | f
  · simp [outputTxt, h0, headerBlock, hf, bind, Except.bind]
  · simp [outputTxt, h0, headerBlock_ok self fs hf, appendBlock_eq, bind, Except.bind]

/-- **Every later call** appends its records to `fname_`. -/
theorem outputTxt_next (self : LidarLineOfSite R) (fs : LidarFiles R) (time : R)
    (x u : List (Fin 3 → R)) (h0 : self.internalOutputCounter ≠ 0) :
    outputTxt fmt self fs time x u = appendBlock fmt self fs time x u := by
  simp [outputTxt, h0, pure, Except.pure, bind, Except.bind]

/-- Every call after the first appends its records to `fname_`, in call order. -/
theorem outputTxt_run_append :
    ∀ (calls : List (R × List (Fin 3 → R) × List (Fin 3 → R))) (self : LidarLineOfSite R)
      (fs : LidarFiles R) (acc : String),
      self.internalOutputCounter ≠ 0 → (∀ c ∈ calls, c.2.1.length ≤ c.2.2.length) →
      writerRun (outputTxt fmt) calls (self, fs.write self.fname (.text acc)) =
        .ok ({ self with internalOutputCounter := self.internalOutputCounter + calls.length },
          fs.write self.fname (.text (acc ++ runRecords fmt calls)))
  | [], self, fs, acc, _, _ => by simp [writerRun, runRecords]
  | (t, x, u) :: calls, self, fs, acc, h0, hlen => by
    simp only [writerRun_cons, outputTxt_next fmt _ _ _ _ _ h0, appendBlock_eq,
      if_pos (hlen _ (List.mem_cons_self _ _)), Except.bind, FileSystem.write_files,
      if_true, textOf_text, FileSystem.write_write]
    rw [outputTxt_run_append calls _ fs _ (by simp) fun c hc => hlen c (List.mem_cons_of_mem _ hc)]
    simp only [runRecords, String.append_assoc, List.length_cons, Nat.add_assoc, Nat.add_comm 1]

/-- From a writer that has not written yet, a run of `n ≥ 1` calls, none of whose `u_k` is
    shorter than its `x_k`, leaves `fname_` holding exactly the record lines of all calls. -/
theorem outputTxt_run_records (self : LidarLineOfSite R) (fs : LidarFiles R) {f : String}
    (calls : List (R × List (Fin 3 → R) × List (Fin 3 → R)))
    (h0 : self.internalOutputCounter = 0) (hf : determineFilename fs self.name ".txt" = .ok f)
    (hlen : ∀ c ∈ calls, c.2.1.length ≤ c.2.2.length) (hne : calls ≠ []) :
    writerRun (outputTxt fmt) calls (self, fs) =
      .ok ({ self with fname := f, internalOutputCounter := calls.length },
        fs.write f (.text (runRecords fmt calls))) := by
  obtain ⟨⟨t, x, u⟩, calls, rfl⟩ := List.exists_cons_of_ne_nil hne
  have hxu : x.length ≤ u.length := hlen _ (List.mem_cons_self _ _)
  have hfirst := outputTxt_first fmt self fs t x u h0
  simp only [hf, if_pos hxu] at hfirst
  simp only [writerRun_cons, hfirst, Except.bind]
  refine (outputTxt_run_append fmt calls _ fs _ (by simp)
    fun c hc => hlen c (List.mem_cons_of_mem _ hc)).trans ?_
  simp [runRecords, Nat.add_comm]

/-- A successful call changes no field of the lidar's configuration. -/
theorem outputTxt_frame (self : LidarLineOfSite R) (fs : LidarFiles R) (time : R)
    (x u : List (Fin 3 → R)) {self' : LidarLineOfSite R} {fs' : LidarFiles R}
    (h : outputTxt fmt self fs time x u = .ok (self', fs')) :
    self'.name = self.name ∧ self'.outputType = self.outputType ∧
      self'.npoints = self.npoints ∧ self'.predictor = self.predictor := by
  by_cases h0 : self.internalOutputCounter = 0
  · rw [outputTxt_first fmt self fs time x u h0] at h
    split at h
    · split_ifs at h
      cases h
      simp
    · cases h
  · rw [outputTxt_next fmt self fs time x u h0, appendBlock_eq] at h
    split_ifs at h
    cases h
    simp

/-- **What a text run leaves.**  From a writer that has not written yet, a run of `n ≥ 1`
    calls whose `x_k` and `u_k` have equal lengths ends with `fname_` the name
    `determine_filename` chose, holding exactly the record lines of all calls in call order —
    none lost, duplicated or reordered — and NOT the header line `t,x,y,z,u,v,w`. -/
theorem outputTxt_run_omits_header (self : LidarLineOfSite R) (fs : LidarFiles R) {f : String}
    (calls : List (R × List (Fin 3 → R) × List (Fin 3 → R)))
    (h0 : self.internalOutputCounter = 0) (hf : determineFilename fs self.name ".txt" = .ok f)
    (hlen : ∀ c ∈ calls, c.2.1.length = c.2.2.length) (hne : calls ≠ []) :
    writerRun (outputTxt fmt) calls (self, fs) =
        .ok ({ self with fname := f, internalOutputCounter := calls.length },
          fs.write f (.text (runRecords fmt calls))) ∧
      runRecords fmt calls ≠ "t,x,y,z,u,v,w\n" ++ runRecords fmt calls := by
  refine ⟨outputTxt_run_records fmt self fs calls h0 hf (fun c hc => (hlen c hc).le) hne,
    fun h => ?_⟩
  have hlength := congrArg String.length h
  have hheader : "t,x,y,z,u,v,w\n".length = 14 := by decide
  simp only [String.length_append, hheader] at hlength
  omega

theorem outputTxt_run_omits_header_single_call :
    (⟨"lidar", .TEXT, 1, 0, 0, .NEAREST, [], "", 0, []⟩ : LidarLineOfSite ℚ).internalOutputCounter
        = 0 ∧
      determineFilename (FileSystem.ofFiles fun _ => none : LidarFiles ℚ) "lidar" ".txt" =
        .ok "lidar.txt" ∧
      writerRun (outputTxt fun q : ℚ => toString q) [(0, [0], [0])]
          (⟨"lidar", .TEXT, 1, 0, 0, .NEAREST, [], "", 0, []⟩, FileSystem.ofFiles (fun _ => none)) =
        .ok (⟨"lidar", .TEXT, 1, 0, 0, .NEAREST, [], "lidar.txt", 1, []⟩,
          (FileSystem.ofFiles (fun _ => none) : LidarFiles ℚ).write "lidar.txt"
            (.text (runRecords (fun q : ℚ => toString q) [(0, [0], [0])]))) ∧
      runRecords (fun q : ℚ => toString q) [(0, [0], [0])] = "0,0,0,0,0,0,0\n" :=
  ⟨rfl, rfl, (@outputTxt_run_omits_header ℚ (fun q => toString q)
    ⟨"lidar", .TEXT, 1, 0, 0, .NEAREST, [], "", 0, []⟩ (FileSystem.ofFiles fun _ => none) "lidar.txt"
    [(0, [0], [0])]
    rfl rfl (by simp) (by simp)).1, by decide⟩

/-- The first call truncates no file that existed: the name it writes was free, and every
    path that existed keeps its contents. -/
theorem outputTxt_first_fresh (self : LidarLineOfSite R) (fs : LidarFiles R) (time : R)
    (x u : List (Fin 3 → R)) (h0 : self.internalOutputCounter = 0)
    {self' : LidarLineOfSite R} {fs' : LidarFiles R}
    (h : outputTxt fmt self fs time x u = .ok (self', fs')) :
    fs.fileExists self'.fname = false ∧
      ∀ p, fs.fileExists p = true → fs'.files p = fs.files p := by
  rw [outputTxt_first fmt self fs time x u h0] at h
  rcases hf : determineFilename fs self.name ".txt" with what | f
  · simp [hf] at h
  · simp only [hf] at h
    split_ifs at h
    cases h
    have hfresh := determineFilename_fresh fs _ _ f hf
    exact ⟨hfresh, FileSystem.write_keeps_existing fs _ hfresh⟩

end Runs

end NaluWind.Lidar
