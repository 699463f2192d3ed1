import Mathlib.Algebra.Order.Field.Rat
/-!
  The lidar configuration: `LidarLineOfSite::load` (`src/wind_energy/SyntheticLidar.C`).

  A YAML node is what `yaml-cpp` shows of it (`YamlNode`): a scalar carries its text together
  with what the library's conversions `as<int>` and `as<double>` make of that text, `none` being
  a `YAML::BadConversion`.  Reading a node goes through the library's rules: `node[key]` on a
  scalar throws `YAML::BadSubscript`, and is a zombie node, which tests false, for a key a map
  lacks or on a null node or a sequence (`YamlNode.lookup`); a range-`for` over a map binds
  `iterator_value`s whose own node is a zombie, so `as<std::string>()` on one throws
  `YAML::InvalidNode` (`YamlNode.items`).  The lidar is the record of the fields `load` writes
  (`LidarLineOfSite`), its `double`s in a type `R`.  The segment generator
  (`make_segment_generator`, `segGen->load`) is outside the source: `load` receives it as a
  `SegmentGeneratorFactory`, the function from the `type` entry to the generator's own `load`.

  `load` is written as the sequence of its blocks, each a function of its own
  (`loadOutputType`, `loadPointsAlongLine`, …), so that what a field holds after `load` is
  one lemma about the one block that writes it and one frame lemma per block that does not.
  The `output` block tests the string literal `"dataprobes"` where its siblings compare `type`:
  a literal is a non-null pointer, so every string other than `"text"` and `"netcdf"` selects
  `Output::DATAPROBE` (`loadOutputType_ok`).
-/

namespace NaluWind.Lidar

/-- What `load` throws. -/
inductive LoadError
  /-- `YAML::BadConversion` from `node[key].as<T>()` (or from an item of the sequence under
      `key`). -/
  | badConversion (key : String)
  /-- `YAML::BadSubscript` from `node[key]` on a scalar node. -/
  | badSubscript (key : String)
  /-- `YAML::InvalidNode` from `as<std::string>()` on what a loop over the map under `key`
      visits. -/
  | invalidNode (key : String)
  /-- `get_required(node, key, …)` on a spec without `key`. -/
  | missingRequiredKey (key : String)
  /-- `std::runtime_error` with the given text. -/
  | runtimeError (what : String)
  /-- Whatever `make_segment_generator` or `segGen->load` throws. -/
  | segmentGenerator (what : String)
  deriving DecidableEq, Repr

/-- A YAML scalar: its text, and its `as<int>` and `as<double>` conversions. -/
structure YamlScalar (R : Type) where
  text : String
  asInt : Option Int
  asDouble : Option R

/-- A YAML node as `yaml-cpp` presents it. -/
inductive YamlNode (R : Type)
  | null
  | scalar (s : YamlScalar R)
  | sequence (items : List (YamlNode R))
  | map (entries : List (String × YamlNode R))

namespace YamlNode

variable {R : Type}

/-- `node[key]` on a `const` node: the entry under `key` of a map, and `none` — a zombie node,
    which tests false — for a key the map lacks, on a null node and on a sequence; on a scalar
    `node_data::get` throws `YAML::BadSubscript`. -/
def lookup : YamlNode R → String → Except LoadError (Option (YamlNode R))
  | .map entries, key => .ok ((entries.find? (fun e => e.1 == key)).map Prod.snd)
  | .scalar _, key => .error (.badSubscript key)
  | _, _ => .ok none

/-- `node.as<std::string>()`: a scalar's text, and `"null"` for a null node
    (`as_if<std::string>`). -/
def asString : YamlNode R → Option String
  | .scalar s => some s.text
  | .null => some "null"
  | _ => none

/-- `node.as<int>()`. -/
def asInt : YamlNode R → Option Int
  | .scalar s => s.asInt
  | _ => none

/-- `node.as<double>()`. -/
def asDouble : YamlNode R → Option R
  | .scalar s => s.asDouble
  | _ => none

/-- What a range-`for` over a node that is not a scalar binds at each iteration: a sequence's
    items, nothing for a null node, and for each entry of a map an `iterator_value` whose own
    node is a zombie (`none`). -/
def items : YamlNode R → List (Option (YamlNode R))
  | .sequence items => items.map some
  | .map entries => entries.map fun _ => none
  | _ => []

end YamlNode

/-- `LidarLineOfSite::Output`. -/
inductive Output
  | TEXT
  | NETCDF
  | DATAPROBE
  deriving DecidableEq, Repr

/-- `LidarLineOfSite::Predictor`. -/
inductive Predictor
  | FORWARD_EULER
  | NEAREST
  deriving DecidableEq, Repr

/-- The fields of `LidarLineOfSite` that `load`, `determine_line_of_site_info` and the writers
    read; `lidar_dt_`, which `load` also writes, is read by none of them. -/
structure LidarLineOfSite (R : Type) where
  name : String
  outputType : Output
  npoints : Int
  scanTime : R
  nsamples : Int
  predictor : Predictor
  fromTargetNames : List String
  fname : String
  internalOutputCounter : Nat
  /-- `ncVarIDs_`, the `std::map<std::string, int>` from a NetCDF variable's name to its id. -/
  ncVarIDs : List (String × Nat)

/-- `make_segment_generator` (`type` given, or `SegmentType::SPINNER`) followed by the
    generator's `load`: the generator either cannot be made, or is its `load`. -/
def SegmentGeneratorFactory (R : Type) :=
  Option String → Except String (YamlNode R → Except String Unit)

/-- `node[key].as<T>()` for a defined `node[key]`. -/
def convert {R T : Type} (key : String) (as : YamlNode R → Option T) (v : YamlNode R) :
    Except LoadError T :=
  match as v with
  | some t => .ok t
  | none => .error (.badConversion key)

/-- `target.as<std::string>()` in a loop over the node under `key`: a zombie throws
    `YAML::InvalidNode`. -/
def convertTarget {R : Type} (key : String) : Option (YamlNode R) → Except LoadError String
  | some v => convert key YamlNode.asString v
  | none => .error (.invalidNode key)

/-- `get_required(node, key, result)`: the converted entry, or an error when it is missing. -/
def getRequired {R T : Type} (node : YamlNode R) (key : String) (as : YamlNode R → Option T) :
    Except LoadError T := do
  match ← node.lookup key with
  | some v => convert key as v
  | none => .error (.missingRequiredKey key)

/-! ## The blocks of `load` -/

section Blocks

variable {R : Type} (node : YamlNode R)

/-- `node["type"].as<std::string>()`, when the spec has a `type`. -/
def segmentType : Except LoadError (Option String) := do
  match ← node.lookup "type" with
  | some t => (convert "type" YamlNode.asString t).map some
  | none => pure none

/-- The `type` block: the generator `type` names, or `SegmentType::SPINNER` without one. -/
def loadSegmentType (makeSegmentGenerator : SegmentGeneratorFactory R) :
    Except LoadError (YamlNode R → Except String Unit) := do
  let type ← segmentType node
  match makeSegmentGenerator type with
  | .ok segGen => .ok segGen
  | .error what => .error (.segmentGenerator what)

/-- A string literal tested as a condition: it decays to a non-null pointer. -/
def stringLiteralAsBool (_ : String) : Bool := true

/-- The `output` block: `"text"`, `"netcdf"`, and then `else if ("dataprobes")`. -/
def loadOutputType (self : LidarLineOfSite R) : Except LoadError (LidarLineOfSite R) := do
  match ← node.lookup "output" with
  | some o =>
    let type ← convert "output" YamlNode.asString o
    if type = "text" then pure { self with outputType := .TEXT }
    else if type = "netcdf" then pure { self with outputType := .NETCDF }
    else if stringLiteralAsBool "dataprobes" then pure { self with outputType := .DATAPROBE }
    else pure self
  | none => pure self

/-- `get_required(node, "points_along_line", npoints_)`. -/
def loadPointsAlongLine (self : LidarLineOfSite R) : Except LoadError (LidarLineOfSite R) := do
  let npoints ← getRequired node "points_along_line" YamlNode.asInt
  pure { self with npoints := npoints }

/-- The `name` block. -/
def loadName (self : LidarLineOfSite R) : Except LoadError (LidarLineOfSite R) := do
  match ← node.lookup "name" with
  | some n =>
    let name ← convert "name" YamlNode.asString n
    pure { self with name := name }
  | none => pure self

/-- The sampling block: `time_step`, else `frequency` (both only when the output is not
    `DATAPROBE`), else the required `scan_time` and `number_of_samples`.  Each branch then
    sets `lidar_dt_` (`time_step`, `1.0 / frequency`, `scanTime_ / nsamples_`), which no
    modelled function reads.  The last is a `double` division — `get_required` reads
    `scanTime_` as a `double` — so `nsamples_ = 0` gives an infinity or a NaN there, never a
    trap; only the conversions, which can throw, are modelled. -/
def loadSampling (self : LidarLineOfSite R) : Except LoadError (LidarLineOfSite R) := do
  match ← node.lookup "time_step", self.outputType != .DATAPROBE with
  | some timeStep, true =>
    let _ ← convert "time_step" YamlNode.asDouble timeStep
    pure self
  | _, _ =>
    match ← node.lookup "frequency", self.outputType != .DATAPROBE with
    | some frequency, true =>
      let _ ← convert "frequency" YamlNode.asDouble frequency
      pure self
    | _, _ =>
      let scanTime ← getRequired node "scan_time" YamlNode.asDouble
      let nsamples ← getRequired node "number_of_samples" YamlNode.asInt
      pure { self with scanTime := scanTime, nsamples := nsamples }

/-- `valid`: the `std::map` of predictor specs, in its key order. -/
def validPredictors : List (String × Predictor) :=
  [("forward_euler", .FORWARD_EULER), ("nearest", .NEAREST)]

/-- `valid_keys`: every key followed by a space, the last space dropped. -/
def validKeys : String :=
  (validPredictors.foldl (fun valid_keys pair => valid_keys ++ pair.1 ++ " ") "").dropRight 1

/-- The `predictor` block. -/
def loadPredictor (self : LidarLineOfSite R) : Except LoadError (LidarLineOfSite R) := do
  match ← node.lookup "predictor" with
  | some p =>
    let spec ← convert "predictor" YamlNode.asString p
    match validPredictors.lookup spec with
    | some predictor => pure { self with predictor := predictor }
    | none => .error (.runtimeError
        ("invalid predictor spec: " ++ spec ++ ", valid specs are: " ++ validKeys))
  | none => pure self

/-- The `from_target_part` block: one scalar name, or every name a loop over the node gives. -/
def loadFromTargetPart (self : LidarLineOfSite R) : Except LoadError (LidarLineOfSite R) := do
  match ← node.lookup "from_target_part" with
  | some (.scalar s) => pure { self with fromTargetNames := self.fromTargetNames ++ [s.text] }
  | some fromTargets =>
    let names ← fromTargets.items.mapM (convertTarget "from_target_part")
    pure { self with fromTargetNames := self.fromTargetNames ++ names }
  | none => pure self

/-- The last block: `segGen->load` on `scanning_lidar_specifications`, or on the whole spec. -/
def loadSegmentGenerator (segGen : YamlNode R → Except String Unit) : Except LoadError Unit := do
  let specs ← node.lookup "scanning_lidar_specifications"
  match segGen (specs.getD node) with
  | .ok u => .ok u
  | .error what => .error (.segmentGenerator what)

/-- `LidarLineOfSite::load(node)`. -/
def load (makeSegmentGenerator : SegmentGeneratorFactory R) (self : LidarLineOfSite R) :
    Except LoadError (LidarLineOfSite R) := do
  let segGen ← loadSegmentType node makeSegmentGenerator
  let self ← loadOutputType node self
  let self ← loadPointsAlongLine node self
  let self ← loadName node self
  let self ← loadSampling node self
  let self ← loadPredictor node self
  let self ← loadFromTargetPart node self
  loadSegmentGenerator node segGen
  pure self

end Blocks

/-! ## What `load` leaves in `output_type_` -/

theorem bind_eq_ok {ε α β : Type} {x : Except ε α} {f : α → Except ε β} {b : β} :
    x >>= f = .ok b ↔ ∃ a, x = .ok a ∧ f a = .ok b := by
  cases x <;> simp [bind, Except.bind]

theorem bind_eq_error {ε α β : Type} {x : Except ε α} {f : α → Except ε β} {e : ε} :
    x >>= f = .error e ↔ x = .error e ∨ ∃ a, x = .ok a ∧ f a = .error e := by
  cases x <;> simp [bind, Except.bind]

/-- `node[key]` throws only on a scalar, and only `BadSubscript` for `key`. -/
theorem YamlNode.lookup_eq_error {R : Type} {node : YamlNode R} {key : String} {e : LoadError} :
    node.lookup key = .error e ↔ (∃ s, node = .scalar s) ∧ e = .badSubscript key := by
  cases node <;> simp [YamlNode.lookup, eq_comm]

section OutputType

variable {R : Type} (node : YamlNode R)

/-- **The `output` block on a string.**  `"text"` gives `TEXT`, `"netcdf"` gives `NETCDF`, and
    every other string — not only `"dataprobes"` — gives `DATAPROBE`; none is rejected. -/
theorem loadOutputType_ok (self : LidarLineOfSite R) {sc : YamlScalar R}
    (h : node.lookup "output" = .ok (some (.scalar sc))) :
    loadOutputType node self = .ok { self with outputType :=
      if sc.text = "text" then .TEXT else if sc.text = "netcdf" then .NETCDF else .DATAPROBE } := by
  simp only [loadOutputType, h, convert, YamlNode.asString, stringLiteralAsBool, bind,
    Except.bind, if_true]
  split_ifs <;> rfl

variable {node} {self r : LidarLineOfSite R}

theorem loadPointsAlongLine_outputType (h : loadPointsAlongLine node self = .ok r) :
    r.outputType = self.outputType := by
  obtain ⟨_, -, h⟩ := bind_eq_ok.1 h
  cases h; rfl

theorem loadName_outputType (h : loadName node self = .ok r) :
    r.outputType = self.outputType := by
  obtain ⟨_, -, h⟩ := bind_eq_ok.1 h
  split at h
  · obtain ⟨_, -, h⟩ := bind_eq_ok.1 h
    cases h; rfl
  · cases h; rfl

theorem loadSampling_outputType (h : loadSampling node self = .ok r) :
    r.outputType = self.outputType := by
  obtain ⟨_, -, h⟩ := bind_eq_ok.1 h
  split at h
  · obtain ⟨_, -, h⟩ := bind_eq_ok.1 h
    cases h; rfl
  · obtain ⟨_, -, h⟩ := bind_eq_ok.1 h
    split at h <;> obtain ⟨_, -, h⟩ := bind_eq_ok.1 h
    · cases h; rfl
    · obtain ⟨_, -, h⟩ := bind_eq_ok.1 h
      cases h; rfl

theorem loadPredictor_outputType (h : loadPredictor node self = .ok r) :
    r.outputType = self.outputType := by
  obtain ⟨_, -, h⟩ := bind_eq_ok.1 h
  split at h
  · obtain ⟨_, -, h⟩ := bind_eq_ok.1 h
    split at h
    · cases h; rfl
    · cases h
  · cases h; rfl

theorem loadFromTargetPart_outputType (h : loadFromTargetPart node self = .ok r) :
    r.outputType = self.outputType := by
  obtain ⟨_, -, h⟩ := bind_eq_ok.1 h
  split at h
  · cases h; rfl
  · obtain ⟨_, -, h⟩ := bind_eq_ok.1 h
    cases h; rfl
  · cases h; rfl

/-- After a successful `load`, `output_type_` is what the `output` block set: no later block
    writes it. -/
theorem loadOutputType_eq {makeSegmentGenerator : SegmentGeneratorFactory R}
    (h : load node makeSegmentGenerator self = .ok r) :
    ∃ s, loadOutputType node self = .ok s ∧ r.outputType = s.outputType := by
  obtain ⟨_, -, h⟩ := bind_eq_ok.1 h
  obtain ⟨s, hs, h⟩ := bind_eq_ok.1 h
  obtain ⟨s₁, h₁, h⟩ := bind_eq_ok.1 h
  obtain ⟨s₂, h₂, h⟩ := bind_eq_ok.1 h
  obtain ⟨s₃, h₃, h⟩ := bind_eq_ok.1 h
  obtain ⟨s₄, h₄, h⟩ := bind_eq_ok.1 h
  obtain ⟨s₅, h₅, h⟩ := bind_eq_ok.1 h
  obtain ⟨_, -, h⟩ := bind_eq_ok.1 h
  cases h
  refine ⟨s, hs, ?_⟩
  rw [loadFromTargetPart_outputType h₅, loadPredictor_outputType h₄,
    loadSampling_outputType h₃, loadName_outputType h₂, loadPointsAlongLine_outputType h₁]

end OutputType

/-! ## What `load` rejects -/

section Rejects

variable {R : Type} (node : YamlNode R)

/-- The keys `load` reads. -/
def loadKeys : List String :=
  ["type", "output", "points_along_line", "name", "time_step", "frequency", "scan_time",
    "number_of_samples", "predictor", "from_target_part", "scanning_lidar_specifications"]

/-- The keys `load` reads with `get_required`. -/
def requiredKeys : List String := ["points_along_line", "scan_time", "number_of_samples"]

/-- Whether the value under `key` converts as `load` reads it: `as<int>()` for the counts,
    `as<double>()` for the times, `as<std::string>()` for the strings and for every node a
    loop over `from_target_part` visits. -/
def ConvertsAs (key : String) (v : YamlNode R) : Prop :=
  match key with
  | "points_along_line" | "number_of_samples" => v.asInt.isSome
  | "time_step" | "frequency" | "scan_time" => v.asDouble.isSome
  | "from_target_part" => ∀ u, some u ∈ v.items → u.asString.isSome
  | "type" | "output" | "name" | "predictor" => v.asString.isSome
  | _ => True

/-- What in the spec an exception of `load` is about: a key `load` reads whose value does not
    convert as `load` reads it; a spec that is a scalar, which has no keys; a non-empty map under
    `from_target_part`; a required key the spec lacks; a `predictor` that names no valid spec
    (with the text that says so); or the segment generator's own exception. -/
def LoadErrorCause : LoadError → Prop
  | .badConversion key => ∃ v, node.lookup key = .ok (some v) ∧ ¬ConvertsAs key v
  | .badSubscript key => key ∈ loadKeys ∧ ∃ s, node = .scalar s
  | .invalidNode key =>
    key = "from_target_part" ∧ ∃ entry entries, node.lookup key = .ok (some (.map (entry :: entries)))
  | .missingRequiredKey key => key ∈ requiredKeys ∧ node.lookup key = .ok none
  | .runtimeError what => ∃ p spec,
      node.lookup "predictor" = .ok (some p) ∧ p.asString = some spec ∧
      validPredictors.lookup spec = none ∧
      what = "invalid predictor spec: " ++ spec ++ ", valid specs are: " ++ validKeys
  | .segmentGenerator _ => True

variable {node} {e : LoadError}

theorem convert_eq_error {T : Type} {key : String} {as : YamlNode R → Option T} {v : YamlNode R} :
    convert key as v = .error e ↔ as v = none ∧ e = .badConversion key := by
  unfold convert; split <;> simp [*, eq_comm]

theorem convert_eq_ok {T : Type} {key : String} {as : YamlNode R → Option T} {v : YamlNode R}
    {t : T} : convert key as v = .ok t ↔ as v = some t := by
  unfold convert; split <;> simp [*]

theorem lookup_cause {key : String} (hk : key ∈ loadKeys) (h : node.lookup key = .error e) :
    LoadErrorCause node e := by
  obtain ⟨hs, rfl⟩ := YamlNode.lookup_eq_error.1 h
  exact ⟨hk, hs⟩

theorem convert_cause {T : Type} {key : String} {as : YamlNode R → Option T} {v : YamlNode R}
    (hk : ConvertsAs key v → (as v).isSome) (hv : node.lookup key = .ok (some v))
    (h : convert key as v = .error e) : LoadErrorCause node e := by
  obtain ⟨hnone, rfl⟩ := convert_eq_error.1 h
  exact ⟨v, hv, fun hc => by simpa [hnone] using hk hc⟩

theorem getRequired_cause {T : Type} {key : String} {as : YamlNode R → Option T}
    (hk : key ∈ requiredKeys) (hconv : ∀ v, ConvertsAs key v → (as v).isSome)
    (h : getRequired node key as = .error e) : LoadErrorCause node e := by
  have hsub : requiredKeys ⊆ loadKeys := by decide
  rcases bind_eq_error.1 h with h | ⟨_ | v, hv, h⟩
  · exact lookup_cause (hsub hk) h
  · cases h; exact ⟨hk, hv⟩
  · exact convert_cause (hconv v) hv h

theorem loadSegmentType_cause (gen : SegmentGeneratorFactory R)
    (h : loadSegmentType node gen = .error e) : LoadErrorCause node e := by
  rcases bind_eq_error.1 h with h | ⟨_, -, h⟩
  · rcases bind_eq_error.1 h with h | ⟨_ | t, ht, h⟩
    · exact lookup_cause (by decide) h
    · cases h
    · cases hc : convert "type" YamlNode.asString t <;> simp only [hc] at h <;> cases h
      exact convert_cause id ht hc
  · split at h <;> cases h
    trivial

theorem loadOutputType_cause (self : LidarLineOfSite R) (h : loadOutputType node self = .error e) :
    LoadErrorCause node e := by
  rcases bind_eq_error.1 h with h | ⟨_ | o, ho, h⟩
  · exact lookup_cause (by decide) h
  · cases h
  · rcases bind_eq_error.1 h with h | ⟨_, -, h⟩
    · exact convert_cause id ho h
    · split_ifs at h <;> cases h

theorem loadPointsAlongLine_cause (self : LidarLineOfSite R)
    (h : loadPointsAlongLine node self = .error e) : LoadErrorCause node e := by
  rcases bind_eq_error.1 h with h | ⟨_, -, h⟩
  · exact getRequired_cause (by decide) (fun _ => id) h
  · cases h

theorem loadName_cause (self : LidarLineOfSite R) (h : loadName node self = .error e) :
    LoadErrorCause node e := by
  rcases bind_eq_error.1 h with h | ⟨_ | n, hn, h⟩
  · exact lookup_cause (by decide) h
  · cases h
  · rcases bind_eq_error.1 h with h | ⟨_, -, h⟩
    · exact convert_cause id hn h
    · cases h

theorem loadSampling_cause (self : LidarLineOfSite R) (h : loadSampling node self = .error e) :
    LoadErrorCause node e := by
  rcases bind_eq_error.1 h with h | ⟨t, ht, h⟩
  · exact lookup_cause (by decide) h
  split at h
  · rcases bind_eq_error.1 h with h | ⟨_, -, h⟩
    · exact convert_cause id ht h
    · cases h
  rcases bind_eq_error.1 h with h | ⟨f, hf, h⟩
  · exact lookup_cause (by decide) h
  split at h
  · rcases bind_eq_error.1 h with h | ⟨_, -, h⟩
    · exact convert_cause id hf h
    · cases h
  rcases bind_eq_error.1 h with h | ⟨_, -, h⟩
  · exact getRequired_cause (by decide) (fun _ => id) h
  rcases bind_eq_error.1 h with h | ⟨_, -, h⟩
  · exact getRequired_cause (by decide) (fun _ => id) h
  · cases h

theorem loadPredictor_cause (self : LidarLineOfSite R) (h : loadPredictor node self = .error e) :
    LoadErrorCause node e := by
  rcases bind_eq_error.1 h with h | ⟨_ | p, hp, h⟩
  · exact lookup_cause (by decide) h
  · cases h
  · rcases bind_eq_error.1 h with h | ⟨spec, hspec, h⟩
    · exact convert_cause id hp h
    · split at h
      · cases h
      · cases h
        exact ⟨p, spec, hp, convert_eq_ok.1 hspec, by assumption, rfl⟩

theorem mapM_convertTarget_cause {v : YamlNode R} (hv : node.lookup "from_target_part" = .ok (some v)) :
    ∀ {targets : List (Option (YamlNode R))}, (∀ t ∈ targets, t ∈ v.items) →
      targets.mapM (convertTarget "from_target_part") = .error e → LoadErrorCause node e
  | [], _, h => by cases h
  | t :: targets, hsub, h => by
    simp only [List.mapM_cons, bind_eq_error] at h
    rcases h with h | ⟨_, -, h | ⟨_, -, h⟩⟩
    · rcases t with _ | u
      · cases h
        have hmem := hsub none (List.mem_cons_self _ _)
        rcases v with _ | _ | _ | _ | ⟨entry, entries⟩ <;> simp [YamlNode.items] at hmem
        exact ⟨rfl, entry, entries, hv⟩
      · obtain ⟨hnone, rfl⟩ := convert_eq_error.1 h
        exact ⟨v, hv, fun (hc : ∀ u, some u ∈ v.items → u.asString.isSome) => by
          simpa [hnone] using hc u (hsub _ (List.mem_cons_self _ _))⟩
    · exact mapM_convertTarget_cause hv (fun t ht => hsub t (List.mem_cons_of_mem _ ht)) h
    · cases h

theorem loadFromTargetPart_cause (self : LidarLineOfSite R)
    (h : loadFromTargetPart node self = .error e) : LoadErrorCause node e := by
  rcases bind_eq_error.1 h with h | ⟨v, hv, h⟩
  · exact lookup_cause (by decide) h
  split at h
  · cases h
  · rcases bind_eq_error.1 h with h | ⟨_, -, h⟩
    · exact mapM_convertTarget_cause hv (fun _ => id) h
    · cases h
  · cases h

theorem loadSegmentGenerator_cause (segGen : YamlNode R → Except String Unit)
    (h : loadSegmentGenerator node segGen = .error e) : LoadErrorCause node e := by
  rcases bind_eq_error.1 h with h | ⟨_, -, h⟩
  · exact lookup_cause (by decide) h
  · split at h <;> cases h
    trivial

/-- Every exception of `load` is one of its blocks', and each block's is about the spec. -/
theorem LoadErrorCause.of_load (gen : SegmentGeneratorFactory R) (self : LidarLineOfSite R)
    (h : load node gen self = .error e) : LoadErrorCause node e := by
  simp only [load, bind_eq_error] at h
  rcases h with h | ⟨_, -, h | ⟨_, -, h | ⟨_, -, h | ⟨_, -, h | ⟨_, -, h | ⟨_, -, h |
    ⟨_, -, h | ⟨_, -, h | ⟨_, -, h⟩⟩⟩⟩⟩⟩⟩⟩⟩
  exacts [loadSegmentType_cause gen h, loadOutputType_cause _ h,
    loadPointsAlongLine_cause _ h, loadName_cause _ h, loadSampling_cause _ h,
    loadPredictor_cause _ h, loadFromTargetPart_cause _ h, loadSegmentGenerator_cause _ h]

/-- **Every exception of `load` is about the spec.**  Whatever `load` throws names a key it
    reads whose value does not convert as `load` reads it, or a required key the spec lacks; or
    it is `BadSubscript` on a spec that is a scalar, `InvalidNode` on a non-empty map under
    `from_target_part`, the invalid-`predictor` message for the spec's own `predictor`, or the
    segment generator's exception. -/
theorem load_error_cause (gen : SegmentGeneratorFactory R) (self : LidarLineOfSite R)
    (h : load node gen self = .error e) : LoadErrorCause node e :=
  LoadErrorCause.of_load gen self h

end Rejects

/-- A spec whose `from_target_part` is a map of one entry is rejected: the loop's
    `as<std::string>()` meets the map iterator's zombie node. -/
theorem load_error_cause_target_map :
    load (.map [("points_along_line", .scalar ⟨"10", some 10, some 10⟩),
        ("scan_time", .scalar ⟨"60", some 60, some 60⟩),
        ("number_of_samples", .scalar ⟨"30", some 30, some 30⟩),
        ("from_target_part", .map [("block_1", .null)])]) (fun _ => .ok fun _ => .ok ())
        (⟨"lidar", .DATAPROBE, 0, 0, 0, .NEAREST, [], "", 0, []⟩ : LidarLineOfSite ℚ) =
      .error (.invalidNode "from_target_part") ∧
    LoadErrorCause (.map [("points_along_line", .scalar ⟨"10", some 10, some 10⟩),
        ("scan_time", .scalar ⟨"60", some 60, some 60⟩),
        ("number_of_samples", .scalar ⟨"30", some 30, some 30⟩),
        ("from_target_part", .map [("block_1", .null)])] : YamlNode ℚ)
      (.invalidNode "from_target_part") :=
  ⟨rfl, load_error_cause (fun _ => .ok fun _ => .ok ())
    ⟨"lidar", .DATAPROBE, 0, 0, 0, .NEAREST, [], "", 0, []⟩ rfl⟩

/-! ## The `output` entry -/

section OutputEntry

variable {R : Type} (node : YamlNode R)

/-- **An `output` string.**  `load` never rejects a spec for its `output` string; when it
    succeeds, `output_type_` is `TEXT` exactly for `"text"`, `NETCDF` exactly for `"netcdf"`, and
    `DATAPROBE` for every other string: a misspelt `"text"` or `"netcdf"` is accepted and
    silences the lidar. -/
theorem load_output_string (makeSegmentGenerator : SegmentGeneratorFactory R)
    (self : LidarLineOfSite R) {sc : YamlScalar R}
    (h : node.lookup "output" = .ok (some (.scalar sc))) :
    load node makeSegmentGenerator self ≠ .error (.badConversion "output") ∧
    ∀ r, load node makeSegmentGenerator self = .ok r →
      (r.outputType = .TEXT ↔ sc.text = "text") ∧
      (r.outputType = .NETCDF ↔ sc.text = "netcdf") ∧
      (r.outputType = .DATAPROBE ↔ sc.text ≠ "text" ∧ sc.text ≠ "netcdf") := by
  refine ⟨fun hload => ?_, fun r hr => ?_⟩
  · obtain ⟨v, hv, hconv⟩ := LoadErrorCause.of_load makeSegmentGenerator self hload
    rw [h, Except.ok.injEq, Option.some_inj] at hv
    exact hconv (hv ▸ rfl)
  · obtain ⟨s, hs, hr⟩ := loadOutputType_eq hr
    rw [loadOutputType_ok node self h] at hs
    cases hs
    rw [hr]
    split_ifs <;> simp [*]

/-- `output: txt` — a misspelt `text` — is accepted, and selects `DATAPROBE`. -/
theorem load_output_string_txt :
    (YamlNode.map [("output", .scalar ⟨"txt", none, none⟩),
        ("points_along_line", .scalar ⟨"10", some 10, some 10⟩),
        ("scan_time", .scalar ⟨"60", some 60, some 60⟩),
        ("number_of_samples", .scalar ⟨"30", some 30, some 30⟩)] : YamlNode ℚ).lookup "output" =
        .ok (some (.scalar ⟨"txt", none, none⟩)) ∧
      load (.map [("output", .scalar ⟨"txt", none, none⟩),
          ("points_along_line", .scalar ⟨"10", some 10, some 10⟩),
          ("scan_time", .scalar ⟨"60", some 60, some 60⟩),
          ("number_of_samples", .scalar ⟨"30", some 30, some 30⟩)]) (fun _ => .ok fun _ => .ok ())
          (⟨"lidar", .NETCDF, 0, 0, 0, .NEAREST, [], "", 0, []⟩ : LidarLineOfSite ℚ) =
        .ok ⟨"lidar", .DATAPROBE, 10, 60, 30, .NEAREST, [], "", 0, []⟩ ∧
      (⟨"lidar", .DATAPROBE, 10, 60, 30, .NEAREST, [], "", 0, []⟩ : LidarLineOfSite ℚ).outputType =
        .DATAPROBE :=
  ⟨rfl, rfl, ((load_output_string (.map [("output", .scalar ⟨"txt", none, none⟩),
      ("points_along_line", .scalar ⟨"10", some 10, some 10⟩),
      ("scan_time", .scalar ⟨"60", some 60, some 60⟩),
      ("number_of_samples", .scalar ⟨"30", some 30, some 30⟩)]) (fun _ => .ok fun _ => .ok ())
    (⟨"lidar", .NETCDF, 0, 0, 0, .NEAREST, [], "", 0, []⟩ : LidarLineOfSite ℚ) rfl).2 _ rfl).2.2.2
      ⟨by decide, by decide⟩⟩

end OutputEntry

end NaluWind.Lidar
