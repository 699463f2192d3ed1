import NaluWind.Lidar.Load
import Mathlib
/-!
  The data-probe description of a scanning lidar: `LidarLineOfSite::determine_line_of_site_info`
  (`src/wind_energy/SyntheticLidar.C`).

  After `load`, the function sizes nine per-probe vectors with `resize(nsamples_)`, computes
  `divProcProbe = std::max(numProcs / nsamples_, numProcs)` and fills one probe per sample.
  `load` reads `number_of_samples` with `get_required`, which checks only that the key is there
  and converts; no value is refused.  So the outcome splits on the `nsamples_` that `load`
  leaves (`determineLineOfSiteInfo_cases`): a negative count makes the first `resize` throw
  `std::length_error` (its `size_t` is beyond `max_size()`), zero reaches the integer division
  `numProcs / 0` — undefined behaviour, which the model reports as `divisionByZero`, and which
  `load` lets through — and a positive count gives probes whose vectors all have `nsamples_` entries and whose processor ids
  `ilos % numProcs` lie in `[0, numProcs)`.
-/

namespace NaluWind.Lidar

/-- `Segment` (declared outside the source): the tip and tail of one beam. -/
structure Segment (R : Type) where
  tip : Fin 3 → R
  tail : Fin 3 → R

/-- `DataProbeGeomType`, of which the lidar uses one value. -/
inductive DataProbeGeomType
  | LINEOFSITE
  deriving DecidableEq, Repr

/-- The fields of `DataProbeInfo` the lidar fills; `generateNewIds_`, `nodeVector_` and `part_`
    are only resized, and are kept as their sizes. -/
structure DataProbeInfo (R : Type) where
  isLineOfSite : Bool
  numProbes : Int
  partName : List String
  processorId : List Int
  numPoints : List Int
  generateNewIds : Nat
  tipCoordinates : List (Fin 3 → R)
  tailCoordinates : List (Fin 3 → R)
  nodeVector : Nat
  part : Nat
  geomType : List DataProbeGeomType

/-- The fields of `DataProbeSpecInfo` the lidar fills. -/
structure DataProbeSpecInfo (R : Type) where
  xferName : String
  fromToName : List (String × String)
  fieldInfo : List (String × Nat)
  fromTargetNames : List String
  dataProbeInfo : List (DataProbeInfo R)

/-- What `determine_line_of_site_info` ends in other than a probe description. -/
inductive LosError
  /-- An exception from `load`. -/
  | load (e : LoadError)
  /-- `std::length_error` from `resize` of a negative count. -/
  | lengthError
  /-- The integer division `numProcs / nsamples_` with `nsamples_ == 0`. -/
  | divisionByZero
  deriving DecidableEq, Repr

/-- `v.resize(n)` for an `int` count: its `size_t` conversion exceeds `max_size()` exactly when
    the count is negative. -/
def resize (n : Int) : Except LosError Nat :=
  if n < 0 then .error .lengthError else .ok n.toNat

/-- The `int` division `a / b`, truncating; undefined for `b == 0`. -/
def intDivide (a b : Int) : Except LosError Int :=
  if b = 0 then .error .divisionByZero else .ok (a.tdiv b)

section Info

variable {R : Type} [Field R]

/-- The body of the probe loop at `ilos`, given `divProcProbe`: the probe's processor, part
    name, point count and beam. -/
def probeEntry (generate : R → Segment R) (self : LidarLineOfSite R) (divProcProbe : Int)
    (ilos : Nat) : Int × String × Int × Segment R :=
  let lidarTime := self.scanTime / (self.nsamples : R) * (ilos : R)
  let seg := generate lidarTime
  (if divProcProbe > 0 then (ilos : Int).tmod divProcProbe else 0,
   self.name ++ "_" ++ toString ilos, self.npoints, seg)

/-- What `determine_line_of_site_info` builds once the vectors have `n` entries and
    `divProcProbe` is known. -/
def lineOfSiteInfo (generate : R → Segment R) (self : LidarLineOfSite R) (n : Nat)
    (divProcProbe : Int) : DataProbeSpecInfo R :=
  let probes := (List.range n).map (probeEntry generate self divProcProbe)
  let probeInfo : DataProbeInfo R :=
    { isLineOfSite := true, numProbes := self.nsamples,
      partName := probes.map (·.2.1), processorId := probes.map (·.1),
      numPoints := probes.map (·.2.2.1), generateNewIds := n,
      tipCoordinates := probes.map (·.2.2.2.tip), tailCoordinates := probes.map (·.2.2.2.tail),
      nodeVector := n, part := n, geomType := probes.map fun _ => .LINEOFSITE }
  { xferName := "LidarSampling_xfer", fromToName := [("velocity", "velocity_probe")],
    fieldInfo := [("velocity_probe", 3)], fromTargetNames := self.fromTargetNames,
    dataProbeInfo := [probeInfo] }

/-- `LidarLineOfSite::determine_line_of_site_info(node)` on `numProcs` ranks, `generate`
    being the segment generator `load` configured.  The nine `resize(nsamples_)` calls take
    the same count, so the first one throws when any does. -/
def determineLineOfSiteInfo (makeSegmentGenerator : SegmentGeneratorFactory R)
    (generate : R → Segment R) (numProcs : Int) (self : LidarLineOfSite R) (node : YamlNode R) :
    Except LosError (LidarLineOfSite R × DataProbeSpecInfo R) := do
  let self ← match load node makeSegmentGenerator self with
    | .ok self => .ok self
    | .error e => .error (.load e)
  let n ← resize self.nsamples
  let divProcProbe ← intDivide numProcs self.nsamples
  pure (self, lineOfSiteInfo generate self n (max divProcProbe numProcs))

end Info

/-! ## The three outcomes -/

section Outcomes

variable {R : Type} [Field R]

/-- Every per-probe vector of `probe` has `n` entries. -/
def DataProbeInfo.Sized (probe : DataProbeInfo R) (n : Nat) : Prop :=
  probe.partName.length = n ∧ probe.processorId.length = n ∧ probe.numPoints.length = n ∧
    probe.generateNewIds = n ∧ probe.tipCoordinates.length = n ∧
    probe.tailCoordinates.length = n ∧ probe.nodeVector = n ∧ probe.part = n ∧
    probe.geomType.length = n

/-- With at least one sample, `divProcProbe` is `numProcs` itself. -/
theorem max_tdiv_self {numProcs nsamples : Int} (hp : 0 < numProcs) (hn : 0 < nsamples) :
    max (numProcs.tdiv nsamples) numProcs = numProcs := by
  rw [Int.tdiv_eq_ediv hp.le hn.le]
  exact max_eq_right (Int.ediv_le_self _ hp.le)

/-- The probes of a positive sample count: every vector sized, processor `ilos % numProcs`. -/
theorem lineOfSiteInfo_probe (generate : R → Segment R) (self : LidarLineOfSite R) (n : Nat)
    {numProcs : Int} (hp : 0 < numProcs) :
    ∃ probe, (lineOfSiteInfo generate self n numProcs).dataProbeInfo = [probe] ∧
      probe.numProbes = self.nsamples ∧ probe.Sized n ∧
      probe.processorId = (List.range n).map (fun ilos : Nat => (ilos : Int) % numProcs) ∧
      ∀ pid ∈ probe.processorId, 0 ≤ pid ∧ pid < numProcs := by
  have hid : ∀ ilos : Nat, (probeEntry generate self numProcs ilos).1 = (ilos : Int) % numProcs :=
    fun ilos => by simp [probeEntry, hp, Int.tmod_eq_emod (Int.ofNat_nonneg ilos) hp.le]
  have hids : ((List.range n).map (probeEntry generate self numProcs)).map (·.1) =
      (List.range n).map (fun ilos : Nat => (ilos : Int) % numProcs) := by
    rw [List.map_map]; exact List.map_congr_left fun ilos _ => hid ilos
  refine ⟨_, rfl, rfl, ?_, hids, fun pid hpid => ?_⟩
  · simp only [DataProbeInfo.Sized, List.length_map, List.length_range, and_self]
  · have hpid' : pid ∈ (List.range n).map (fun ilos : Nat => (ilos : Int) % numProcs) :=
      hids ▸ hpid
    obtain ⟨ilos, -, rfl⟩ := List.mem_map.1 hpid'
    exact ⟨Int.emod_nonneg _ hp.ne', Int.emod_lt_of_pos _ hp⟩

/-- **The outcomes of `determine_line_of_site_info`.**  On `numProcs ≥ 1` ranks, a spec `load`
    rejects is rejected with `load`'s exception; otherwise the `nsamples_` `load` accepted
    decides: negative throws `std::length_error`, zero divides `numProcs` by zero, and positive
    completes with one probe whose vectors all have `nsamples_` entries and whose processor ids
    `ilos % numProcs` lie in `[0, numProcs)`. -/
theorem determineLineOfSiteInfo_cases (makeSegmentGenerator : SegmentGeneratorFactory R)
    (generate : R → Segment R) {numProcs : Int} (hprocs : 0 < numProcs)
    (self : LidarLineOfSite R) (node : YamlNode R) :
    (∀ e, load node makeSegmentGenerator self = .error e →
      determineLineOfSiteInfo makeSegmentGenerator generate numProcs self node =
        .error (.load e)) ∧
    ∀ l, load node makeSegmentGenerator self = .ok l →
      (l.nsamples < 0 ∧ determineLineOfSiteInfo makeSegmentGenerator generate numProcs
          self node = .error .lengthError) ∨
      (l.nsamples = 0 ∧ determineLineOfSiteInfo makeSegmentGenerator generate numProcs
          self node = .error .divisionByZero) ∨
      (0 < l.nsamples ∧ ∃ info, determineLineOfSiteInfo makeSegmentGenerator generate
          numProcs self node = .ok (l, info) ∧
        ∃ probe, info.dataProbeInfo = [probe] ∧ probe.numProbes = l.nsamples ∧
          probe.Sized l.nsamples.toNat ∧
          probe.processorId =
            (List.range l.nsamples.toNat).map (fun ilos : Nat => (ilos : Int) % numProcs) ∧
          ∀ pid ∈ probe.processorId, 0 ≤ pid ∧ pid < numProcs) := by
  refine ⟨fun e he => by simp [determineLineOfSiteInfo, he, bind, Except.bind],
    fun l hl => ?_⟩
  have hrun : determineLineOfSiteInfo makeSegmentGenerator generate numProcs self node =
      (do let n ← resize l.nsamples
          let divProcProbe ← intDivide numProcs l.nsamples
          pure (l, lineOfSiteInfo generate l n (max divProcProbe numProcs))) := by
    simp [determineLineOfSiteInfo, hl, bind, Except.bind]
  rcases lt_trichotomy l.nsamples 0 with hn | hn | hn
  · exact .inl ⟨hn, by rw [hrun]; simp [resize, hn, bind, Except.bind]⟩
  · exact .inr (.inl ⟨hn, by rw [hrun]; simp [resize, intDivide, hn, bind, Except.bind]⟩)
  · refine .inr (.inr ⟨hn, _, ?_, lineOfSiteInfo_probe generate l _ hprocs⟩)
    rw [hrun]
    simp [resize, intDivide, hn.not_lt, hn.ne', max_tdiv_self hprocs hn, bind, Except.bind,
      pure, Except.pure]

/-- `number_of_samples: 0` with `dataprobes` output, on four ranks: `load` accepts the spec,
    and the run reaches `numProcs / 0`. -/
theorem determineLineOfSiteInfo_cases_zero_samples :
    (0 : Int) < 4 ∧
      load (.map [("output", .scalar ⟨"dataprobes", none, none⟩),
          ("points_along_line", .scalar ⟨"10", some 10, some 10⟩),
          ("scan_time", .scalar ⟨"60", some 60, some 60⟩),
          ("number_of_samples", .scalar ⟨"0", some 0, some 0⟩)]) (fun _ => .ok fun _ => .ok ())
          (⟨"lidar", .TEXT, 0, 0, 1, .NEAREST, [], "", 0, []⟩ : LidarLineOfSite ℚ) =
        .ok ⟨"lidar", .DATAPROBE, 10, 60, 0, .NEAREST, [], "", 0, []⟩ ∧
      determineLineOfSiteInfo (fun _ => .ok fun _ => .ok ()) (fun _ => ⟨0, 0⟩) 4
          (⟨"lidar", .TEXT, 0, 0, 1, .NEAREST, [], "", 0, []⟩ : LidarLineOfSite ℚ)
          (.map [("output", .scalar ⟨"dataprobes", none, none⟩),
            ("points_along_line", .scalar ⟨"10", some 10, some 10⟩),
            ("scan_time", .scalar ⟨"60", some 60, some 60⟩),
            ("number_of_samples", .scalar ⟨"0", some 0, some 0⟩)]) =
        .error .divisionByZero := by
  have hload : load (.map [("output", .scalar ⟨"dataprobes", none, none⟩),
      ("points_along_line", .scalar ⟨"10", some 10, some 10⟩),
      ("scan_time", .scalar ⟨"60", some 60, some 60⟩),
      ("number_of_samples", .scalar ⟨"0", some 0, some 0⟩)]) (fun _ => .ok fun _ => .ok ())
      (⟨"lidar", .TEXT, 0, 0, 1, .NEAREST, [], "", 0, []⟩ : LidarLineOfSite ℚ) =
      .ok ⟨"lidar", .DATAPROBE, 10, 60, 0, .NEAREST, [], "", 0, []⟩ := rfl
  refine ⟨by decide, hload, ?_⟩
  rcases (determineLineOfSiteInfo_cases (fun _ => .ok fun _ => .ok ()) (fun _ => ⟨0, 0⟩)
      (by decide : (0 : Int) < 4) _ _).2 _ hload with ⟨hneg, -⟩ | ⟨-, h⟩ | ⟨hpos, -⟩
  · exact absurd hneg (by decide)
  · exact h
  · exact absurd hpos (by decide)

end Outcomes

end NaluWind.Lidar
