import NaluWind.Lidar.System
/-!
  What a reader finds in the text writer's files.  `output_txt` writes one line per point,
  `time,x0,x1,x2,u0,u1,u2` and `std::endl`, the seven numbers printed by `operator<<` at
  `std::setprecision(15)` (`fmt`).  A CSV reader (`csvRows`, the reader side, not in the source)
  cuts the file at its newlines, drops the empty text after the last one, and cuts each line at
  its commas.

  `csvRows_runRecords` is the round trip: as long as `fmt` prints neither a comma nor a newline,
  as `operator<<` does not in the `"C"` locale a `std::ofstream` gets by default, the reader
  recovers one row per point per call, in call order, each the seven printed fields of that
  point.  `systemRun_text_rows` carries it to the system: after any schedule of the lidars, the
  file of every text lidar that was called reads back as the rows of its own calls.  What the
  layout does not carry is a header line, which `output_txt` never writes; `fmt` itself, 15
  significant digits, is a parameter.

  The character-level facts are two: `splitOnChar_append` (a piece without the separator is cut
  off whole) and `splitOnChar_terminated` (lines each ended by the separator come back one by
  one, with an empty last piece).
-/

namespace NaluWind.Lidar

section Split

/-- The pieces of a text between the occurrences of `c`, as `std::getline` with delimiter `c`
    or a `split` on `c` cuts them: one more piece than there are separators. -/
def splitOnChar (c : Char) : List Char → List (List Char)
  | [] => [[]]
  | x :: xs => if x = c then [] :: splitOnChar c xs else consFirst x (splitOnChar c xs)
where
  /-- `x` prepended to the first piece. -/
  consFirst (x : Char) : List (List Char) → List (List Char)
    | [] => [[x]]
    | w :: ws => (x :: w) :: ws

/-- The text `ls` joined by `c`, without a final `c`. -/
def joinWith (c : Char) : List (List Char) → List Char
  | [] => []
  | [l] => l
  | l :: l' :: ls => l ++ c :: joinWith c (l' :: ls)

/-- The text `ls` with each piece ended by `c`. -/
def terminated (c : Char) (ls : List (List Char)) : List Char :=
  ls.flatMap fun l => l ++ [c]

variable {c : Char}

/-- A text without `c` is one piece. -/
theorem splitOnChar_of_not_mem : ∀ {a : List Char}, c ∉ a → splitOnChar c a = [a]
  | [], _ => rfl
  | x :: a, h => by
    rw [splitOnChar, if_neg (Ne.symm (List.ne_of_not_mem_cons h)),
      splitOnChar_of_not_mem (List.not_mem_of_not_mem_cons h)]
    rfl

/-- A piece without `c`, then `c`, is cut off whole. -/
theorem splitOnChar_append : ∀ {a : List Char} (b : List Char), c ∉ a →
    splitOnChar c (a ++ c :: b) = a :: splitOnChar c b
  | [], b, _ => by simp [splitOnChar]
  | x :: a, b, h => by
    rw [List.cons_append, splitOnChar, if_neg (Ne.symm (List.ne_of_not_mem_cons h)),
      splitOnChar_append b (List.not_mem_of_not_mem_cons h)]
    rfl

/-- Pieces joined by `c` come back, when none of them holds `c`. -/
theorem splitOnChar_joinWith : ∀ {ls : List (List Char)}, ls ≠ [] → (∀ l ∈ ls, c ∉ l) →
    splitOnChar c (joinWith c ls) = ls
  | [], hne, _ => absurd rfl hne
  | [l], _, h => splitOnChar_of_not_mem (h l (List.mem_singleton_self l))
  | l :: l' :: ls, _, h => by
    rw [joinWith, splitOnChar_append _ (h l (List.mem_cons_self _ _)),
      splitOnChar_joinWith (List.cons_ne_nil l' ls) fun l hl => h l (List.mem_cons_of_mem _ hl)]

/-- Lines each ended by `c` come back one by one, with the empty text after the last. -/
theorem splitOnChar_terminated : ∀ {ls : List (List Char)}, (∀ l ∈ ls, c ∉ l) →
    splitOnChar c (terminated c ls) = ls ++ [[]]
  | [], _ => rfl
  | l :: ls, h => by
    have hl : terminated c (l :: ls) = l ++ c :: terminated c ls := by
      simp [terminated, List.append_assoc]
    rw [hl, splitOnChar_append _ (h l (List.mem_cons_self _ _)),
      splitOnChar_terminated fun l hl => h l (List.mem_cons_of_mem _ hl), List.cons_append]

/-- A separator other than `c` does not bring `c` into a join. -/
theorem not_mem_joinWith {c' : Char} (hcc : c ≠ c') :
    ∀ {ls : List (List Char)}, (∀ l ∈ ls, c ∉ l) → c ∉ joinWith c' ls
  | [], _ => List.not_mem_nil c
  | [l], h => h l (List.mem_singleton_self l)
  | l :: l' :: ls, h => by
    rw [joinWith]
    simp only [List.mem_append, List.mem_cons, not_or]
    exact ⟨h l (List.mem_cons_self _ _), hcc,
      not_mem_joinWith hcc fun l hl => h l (List.mem_cons_of_mem _ hl)⟩

end Split

/-! ## The text writer's rows -/

section Rows

variable {R : Type} (fmt : R → String)

/-- A CSV reader's rows: the file's lines, the text after the last newline dropped, each cut
    at its commas. -/
def csvRows (s : String) : List (List String) :=
  ((splitOnChar '\n' s.data).dropLast).map fun line => (splitOnChar ',' line).map String.mk

/-- The seven fields of the line of a point. -/
def recordFields (time : R) (x u : Fin 3 → R) : List String :=
  [fmt time, fmt (x 0), fmt (x 1), fmt (x 2), fmt (u 0), fmt (u 1), fmt (u 2)]

/-- The characters of a row: its fields joined by commas. -/
def rowData (fields : List String) : List Char := joinWith ',' (fields.map String.data)

theorem recordLine_data (time : R) (x u : Fin 3 → R) :
    (recordLine fmt time x u).data = rowData (recordFields fmt time x u) ++ ['\n'] := by
  simp [recordLine, rowData, recordFields, joinWith, String.append]

theorem records_data (time : R) : ∀ x u : List (Fin 3 → R),
    (records fmt time x u).data =
      terminated '\n' ((List.zipWith (recordFields fmt time) x u).map rowData)
  | [], _ | _ :: _, [] => by simp [records, terminated]
  | xj :: x, uj :: u => by
    rw [records, String.data_append, recordLine_data, records_data time x u]
    simp [terminated]

theorem runRecords_data : ∀ calls : List (R × List (Fin 3 → R) × List (Fin 3 → R)),
    (runRecords fmt calls).data =
      terminated '\n'
        ((calls.flatMap fun c => List.zipWith (recordFields fmt c.1) c.2.1 c.2.2).map rowData)
  | [] => rfl
  | (t, x, u) :: calls => by
    rw [runRecords, String.data_append, records_data, runRecords_data calls]
    simp [terminated]

/-- **The text file reads back.**  When `fmt` prints neither commas nor newlines, a CSV reader
    finds in the lines of any run exactly one row per point per call, in call order, each the
    seven printed fields of that point: `time`, the point, and its velocity. -/
theorem csvRows_runRecords (hsep : ∀ v, ',' ∉ (fmt v).data ∧ '\n' ∉ (fmt v).data)
    (calls : List (R × List (Fin 3 → R) × List (Fin 3 → R))) :
    csvRows (runRecords fmt calls) =
      calls.flatMap fun c => List.zipWith (recordFields fmt c.1) c.2.1 c.2.2 := by
  have hfield : ∀ (t : R) (x u : Fin 3 → R), ∀ f ∈ (recordFields fmt t x u).map String.data,
      ',' ∉ f ∧ '\n' ∉ f := by
    intro t x u f hf
    simp only [recordFields, List.map_cons, List.map_nil, List.mem_cons, List.not_mem_nil,
      or_false] at hf
    rcases hf with rfl | rfl | rfl | rfl | rfl | rfl | rfl <;> exact hsep _
  have hrow : ∀ (t : R) (x u : Fin 3 → R),
      (splitOnChar ',' (rowData (recordFields fmt t x u))).map String.mk = recordFields fmt t x u ∧
        '\n' ∉ rowData (recordFields fmt t x u) := fun t x u =>
    ⟨by rw [rowData, splitOnChar_joinWith (by simp [recordFields]) fun f hf => (hfield t x u f hf).1,
        List.map_map]; exact List.map_id _,
      not_mem_joinWith (by decide) fun f hf => (hfield t x u f hf).2⟩
  have hrows : ∀ row ∈ calls.flatMap fun c => List.zipWith (recordFields fmt c.1) c.2.1 c.2.2,
      ∃ t x u, row = recordFields fmt t x u := by
    intro row hrow
    obtain ⟨⟨t, x, u⟩, -, hmem⟩ := List.mem_flatMap.mp hrow
    obtain ⟨i, hi, rfl⟩ := List.mem_iff_getElem.mp hmem
    exact ⟨t, _, _, List.getElem_zipWith⟩
  rw [csvRows, runRecords_data, splitOnChar_terminated, List.dropLast_concat, List.map_map]
  · refine (List.map_congr_left fun row hr => ?_).trans (List.map_id _)
    obtain ⟨t, x, u, rfl⟩ := hrows row hr
    exact (hrow t x u).1
  · intro l hl
    obtain ⟨row, hr, rfl⟩ := List.mem_map.mp hl
    obtain ⟨t, x, u, rfl⟩ := hrows row hr
    exact (hrow t x u).2

end Rows

/-! ## The text files of a schedule -/

section Runs

variable {R : Type} [LinearOrderedField R] {numRanks m : Nat} (fmt logFmt : R → String)
  {rank : Fin numRanks} (h0 : rank.val = 0) {lidars₀ : Fin m → LidarLineOfSite R}
  {fs₀ : LidarFiles R} (hfresh : ∀ i, (lidars₀ i).internalOutputCounter = 0)
include h0 hfresh

/-- **Every text file of a schedule reads back.**  On the root, after a schedule of `output`
    calls over lidars that have not written yet that ends normally, and with `fmt` printing
    neither commas nor newlines, the file of every text lidar that was called gives a CSV
    reader one row per point of each of the lidar's own calls, in call order, and nothing
    else: the step's time, the point on the beam, and its velocity averaged over the ranks. -/
theorem systemRun_text_rows (hsep : ∀ v, ',' ∉ (fmt v).data ∧ '\n' ∉ (fmt v).data)
    (events : List (Fin m × OutputStep R numRanks)) (log₀ : List String)
    {lidars : Fin m → LidarLineOfSite R} {fs : LidarFiles R} {log : List String}
    (h : systemRun fmt logFmt rank events (lidars₀, fs₀, log₀) = .ok (lidars, fs, log))
    (i : Fin m) (hcalled : stepsOf events i ≠ []) (htext : (lidars₀ i).outputType = .TEXT) :
    ∃ s, fs.files (lidars i).fname = some (.text s) ∧
      csvRows s = (stepsOf events i).flatMap fun step =>
        List.zipWith (recordFields fmt step.time) (stepPoints (lidars₀ i) step)
          ((List.range (lidars₀ i).npoints.toNat).map
            (averagedVelocity (stepSearch (lidars₀ i) step))) := by
  obtain ⟨-, hinv⟩ := systemRun_ok fmt logFmt h0 hfresh events [] lidars₀ fs₀ log₀ Isolated.init h
  rw [List.nil_append] at hinv
  have hfile := hinv.file i ⟨hcalled, by rw [htext]; decide⟩
  rw [fileAfter, if_neg (by rw [htext]; decide)] at hfile
  refine ⟨_, hfile, ?_⟩
  rw [csvRows_runRecords fmt hsep, List.flatMap_map]
  rfl

end Runs

/-- A one-point text lidar called twice, its values printed by sign: its file reads back as the
    two rows of its two calls, in call order. -/
theorem systemRun_text_rows_two_calls :
    (∀ v : ℚ, ',' ∉ (if v < 0 then "-" else if v = 0 then "0" else "+").data ∧
      '\n' ∉ (if v < 0 then "-" else if v = 0 then "0" else "+").data) ∧
    ∃ lidars fs log, systemRun (fun q : ℚ => if q < 0 then "-" else if q = 0 then "0" else "+")
        (fun q => toString q) (0 : Fin 1)
        [((0 : Fin 1), ⟨0, 0, ⟨fun _ => 1, fun _ => 0⟩, fun _ _ _ => ⟨fun _ _ => 1, fun _ => 1⟩⟩),
          (0, ⟨1, 0, ⟨fun _ => 1, fun _ => 0⟩, fun _ _ _ => ⟨fun _ _ => -1, fun _ => 1⟩⟩)]
        (fun _ => ⟨"lidar", .TEXT, 1, 0, 0, .NEAREST, [], "", 0, []⟩, FileSystem.ofFiles fun _ => none, []) =
          .ok (lidars, fs, log) ∧
      ∃ s, fs.files (lidars 0).fname = some (.text s) ∧
        csvRows s = [["0", "0", "0", "0", "+", "+", "+"], ["+", "0", "0", "0", "-", "-", "-"]] := by
  have hsep : ∀ v : ℚ, ',' ∉ (if v < 0 then "-" else if v = 0 then "0" else "+").data ∧
      '\n' ∉ (if v < 0 then "-" else if v = 0 then "0" else "+").data := fun v => by
    split_ifs <;> decide
  obtain ⟨lidars, fs, log, hrun⟩ : ∃ lidars fs log,
      systemRun (fun q : ℚ => if q < 0 then "-" else if q = 0 then "0" else "+")
        (fun q => toString q) (0 : Fin 1)
        [((0 : Fin 1), (⟨0, 0, ⟨fun _ => 1, fun _ => 0⟩,
            fun _ _ _ => ⟨fun _ _ => 1, fun _ => 1⟩⟩ : OutputStep ℚ 1)),
          (0, ⟨1, 0, ⟨fun _ => 1, fun _ => 0⟩, fun _ _ _ => ⟨fun _ _ => -1, fun _ => 1⟩⟩)]
        (fun _ => ⟨"lidar", .TEXT, 1, 0, 0, .NEAREST, [], "", 0, []⟩, FileSystem.ofFiles fun _ => none, []) =
          .ok (lidars, fs, log) := ⟨_, _, _, rfl⟩
  obtain ⟨s, hs, hrows⟩ := systemRun_text_rows _ _ (show (0 : Fin 1).val = 0 from rfl)
    (fun _ => rfl) hsep _ _ hrun 0 (List.cons_ne_nil _ _) rfl
  exact ⟨hsep, lidars, fs, log, hrun, s, hs, hrows.trans (by
    norm_num [stepsOf, stepPoints, segmentPoint, averagedVelocity, stepSearch, recordFields,
      List.range_succ])⟩

end NaluWind.Lidar
