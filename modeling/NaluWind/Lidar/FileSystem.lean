import Mathlib.Logic.Function.Basic
import Mathlib.Order.Basic
/-!
  The files the synthetic lidar writes, and how it names them: `determine_filename`
  (`src/wind_energy/SyntheticLidar.C`).

  The file system is the map from path to contents (`FileSystem D`, the contents' type being
  text for the text writer and a NetCDF dataset for the NetCDF writer); `Ioss::FileInfo::exists`
  reads only whether a path is in it.  A path names a file through the process's resolution
  (`resolve`: the working directory, `.` and `..`, links), fixed for a run: two paths that
  resolve alike read alike (`files_resolve`), and a write reaches every alias of its path.  So
  "a fresh name" and "another lidar's file" below are about files, not strings.

  `determine_filename name suffix` keeps `name + suffix` if that is free, and otherwise probes
  `name-rst-1suffix`, `name-rst-2suffix`, … up to `max_restarts - 1 = 2047`, throwing
  `"Too many restarts checked"` when all of them are taken.  `restartLoop_found` and
  `restartLoop_exhausted` are the loop's two exits; `determineFilename_fresh` is the fact every
  writer relies on: a name it returns is never one that exists.
-/

namespace NaluWind.Lidar

/-- The files that exist, with their contents, read through the paths that name them. -/
@[ext] structure FileSystem (D : Type) where
  /-- The file a path names. -/
  resolve : String → String
  /-- What the file a path names holds, if it exists. -/
  files : String → Option D
  files_resolve : ∀ p q, resolve p = resolve q → files p = files q

namespace FileSystem

variable {D : Type}

/-- The file system of the files `files`, each path naming a file of its own. -/
def ofFiles (files : String → Option D) : FileSystem D := ⟨id, files, fun _ _ h => congrArg files h⟩

/-- `Ioss::FileInfo(path).exists()`. -/
def fileExists (fs : FileSystem D) (path : String) : Bool := (fs.files path).isSome

/-- The file system with the file `path` names holding `d`, created if it was missing. -/
def write (fs : FileSystem D) (path : String) (d : D) : FileSystem D where
  resolve := fs.resolve
  files q := if fs.resolve q = fs.resolve path then some d else fs.files q
  files_resolve p q h := by simp only [h]; split_ifs <;> [rfl; exact fs.files_resolve p q h]

@[simp] theorem write_resolve (fs : FileSystem D) (path : String) (d : D) :
    (fs.write path d).resolve = fs.resolve := rfl

@[simp] theorem write_files (fs : FileSystem D) (path : String) (d : D) (p : String) :
    (fs.write path d).files p = if fs.resolve p = fs.resolve path then some d else fs.files p :=
  rfl

@[simp] theorem write_write (fs : FileSystem D) (path : String) (d d' : D) :
    (fs.write path d).write path d' = fs.write path d' := by
  ext p <;> simp only [write_resolve, write_files]; split_ifs <;> rfl

/-- Paths that name one file exist together. -/
theorem fileExists_resolve (fs : FileSystem D) {p q : String} (h : fs.resolve p = fs.resolve q) :
    fs.fileExists p = fs.fileExists q := by
  rw [fileExists, fileExists, fs.files_resolve p q h]

/-- A write to a path that does not exist leaves every existing file as it was. -/
theorem write_keeps_existing (fs : FileSystem D) {path : String} (d : D)
    (hfree : fs.fileExists path = false) (p : String) (hp : fs.fileExists p = true) :
    (fs.write path d).files p = fs.files p := by
  have hpf : fs.resolve p ≠ fs.resolve path := fun h => by
    rw [fs.fileExists_resolve h, hfree] at hp; cases hp
  simp [hpf]

end FileSystem

section DetermineFilename

variable {D : Type} (fs : FileSystem D) (name suffix : String)

/-- `max_restarts`: "a large, finite amount of names to check". -/
def maxRestarts : Nat := 2048

/-- The `j`-th restart name, `name + "-rst-" + std::to_string(j) + suffix`. -/
def restartName (j : Nat) : String := name ++ "-rst-" ++ toString j ++ suffix

/-- The loop of `determine_filename` from iteration `j` on, `remaining` iterations left, `fname`
    the name last probed: it returns `(found_valid, fname)` at the `break` or at the loop's end. -/
def restartLoop : (j remaining : Nat) → (fname : String) → Bool × String
  | _, 0, fname => (false, fname)
  | j, remaining + 1, _ =>
    let fname := restartName name suffix j
    if !fs.fileExists fname then (true, fname) else restartLoop (j + 1) remaining fname

/-- `determine_filename(name, suffix)`: `name + suffix` when it is free, else the first free
    restart name, else `std::runtime_error("Too many restarts checked")`. -/
def determineFilename : Except String String :=
  let fname := name ++ suffix
  if fs.fileExists fname then
    let (found_valid, fname) := restartLoop fs name suffix 1 (maxRestarts - 1) fname
    if !found_valid then .error "Too many restarts checked" else .ok fname
  else .ok fname

/-- The loop breaks at the first free name of its range. -/
theorem restartLoop_found : ∀ (k j m : Nat) (fname : String),
    j ≤ m → m < j + k → fs.fileExists (restartName name suffix m) = false →
    (∀ i, j ≤ i → i < m → fs.fileExists (restartName name suffix i) = true) →
    restartLoop fs name suffix j k fname = (true, restartName name suffix m)
  | 0, _, _, _, _, hm, _, _ => by omega
  | k + 1, j, m, _, hjm, hm, hfree, htaken => by
    rw [restartLoop]
    by_cases hj : j = m
    · subst hj; simp [hfree]
    · rw [if_neg (by simp [htaken j (Nat.le_refl j) (by omega)])]
      exact restartLoop_found k (j + 1) m _ (by omega) (by omega) hfree
        (fun i hi him => htaken i (by omega) him)

/-- The loop runs out exactly when every name of its range is taken. -/
theorem restartLoop_exhausted : ∀ (k j : Nat) (fname : String),
    (restartLoop fs name suffix j k fname).1 = false ↔
      ∀ i, j ≤ i → i < j + k → fs.fileExists (restartName name suffix i) = true
  | 0, _, _ => by simp [restartLoop]; omega
  | k + 1, j, _ => by
    rw [restartLoop]
    by_cases hj : fs.fileExists (restartName name suffix j) = true
    · rw [if_neg (by simp [hj]), restartLoop_exhausted k (j + 1)]
      constructor
      · intro h i hi hik
        rcases Nat.eq_or_lt_of_le hi with rfl | hlt
        · exact hj
        · exact h i hlt (by omega)
      · exact fun h i hi hik => h i (by omega) (by omega)
    · simp only [Bool.not_eq_true] at hj
      simp only [hj, Bool.not_false, ↓reduceIte, Bool.true_eq_false, false_iff, not_forall]
      exact ⟨j, Nat.le_refl j, by omega, by simp [hj]⟩

/-- A name the loop reports as found is free. -/
theorem restartLoop_found_free : ∀ (k j : Nat) (fname f : String),
    restartLoop fs name suffix j k fname = (true, f) → fs.fileExists f = false
  | 0, _, _, _, h => by simp [restartLoop] at h
  | k + 1, j, _, f, h => by
    rw [restartLoop] at h
    split_ifs at h with hfree
    · cases h; simpa using hfree
    · exact restartLoop_found_free k (j + 1) _ f h

/-- A free `name + suffix` is kept. -/
theorem determineFilename_base (hbase : fs.fileExists (name ++ suffix) = false) :
    determineFilename fs name suffix = .ok (name ++ suffix) := by
  simp [determineFilename, hbase]

/-- Otherwise the least free restart name is chosen. -/
theorem determineFilename_restart (hbase : fs.fileExists (name ++ suffix) = true) {j : Nat}
    (hj : 1 ≤ j) (hjmax : j < maxRestarts)
    (htaken : ∀ i, 1 ≤ i → i < j → fs.fileExists (restartName name suffix i) = true)
    (hfree : fs.fileExists (restartName name suffix j) = false) :
    determineFilename fs name suffix = .ok (restartName name suffix j) := by
  have hloop := restartLoop_found fs name suffix (maxRestarts - 1) 1 j (name ++ suffix) hj
    (by simp only [maxRestarts] at hjmax ⊢; omega) hfree htaken
  simp [determineFilename, hbase, hloop]

/-- It throws exactly when `name + suffix` and all `max_restarts - 1` restart names exist. -/
theorem determineFilename_error_iff :
    determineFilename fs name suffix = .error "Too many restarts checked" ↔
      fs.fileExists (name ++ suffix) = true ∧
        ∀ j, 1 ≤ j → j < maxRestarts →
          fs.fileExists (restartName name suffix j) = true := by
  have hrange : ∀ j, (j < 1 + (maxRestarts - 1) ↔ j < maxRestarts) := by
    intro j; simp only [maxRestarts]
  by_cases hbase : fs.fileExists (name ++ suffix) = true
  · have hexh := restartLoop_exhausted fs name suffix (maxRestarts - 1) 1 (name ++ suffix)
    simp only [hrange] at hexh
    rcases hr : restartLoop fs name suffix 1 (maxRestarts - 1) (name ++ suffix) with
      ⟨_ | _, g⟩ <;> simp_all [determineFilename]
  · simp [determineFilename, hbase]

/-- The one exception it throws is `"Too many restarts checked"`. -/
theorem determineFilename_error_what {what : String}
    (h : determineFilename fs name suffix = .error what) : what = "Too many restarts checked" := by
  unfold determineFilename at h
  rcases hr : restartLoop fs name suffix 1 (maxRestarts - 1) (name ++ suffix) with ⟨found, g⟩
  simp only [hr] at h
  split_ifs at h
  simp_all

/-- **No clobbering.**  A name `determine_filename` returns never exists. -/
theorem determineFilename_fresh (f : String) (h : determineFilename fs name suffix = .ok f) :
    fs.fileExists f = false := by
  unfold determineFilename at h
  rcases hr : restartLoop fs name suffix 1 (maxRestarts - 1) (name ++ suffix) with ⟨found, g⟩
  simp only [hr] at h
  split_ifs at h with hbase
  · cases found
    · simp at *
    · cases h; exact restartLoop_found_free fs name suffix _ _ _ _ hr
  · cases h; simpa using hbase

end DetermineFilename

end NaluWind.Lidar
