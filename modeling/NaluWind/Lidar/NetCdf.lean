import NaluWind.Lidar.FileSystem
import Mathlib
/-!
  The part of the NetCDF C library that the lidar's NetCDF writer calls, and the files the
  lidar writes.

  A dataset (`NcDataset`) is its dimensions, its variables and the current length of its
  unlimited dimension; a variable keeps the values written to it, by index.  Each call the
  writer makes is one function here, failing with the library's status code: `nc_def_dim`,
  `nc_def_var` and `nc_enddef` on a dataset in define mode, `nc_put_vara` on one in data mode,
  and `nc_create`, `nc_open`, `nc_close` between a handle and the file system.  The checks are
  those of the classic format, the one `nc_create` makes without a format flag: a dimension is
  at most `X_INT_MAX - 3` long, only one dimension is unlimited, names are unique, a write
  stays inside the fixed dimensions while it extends the unlimited one, and `nc_enddef` refuses
  a dataset in which more than one variable, or one that is not the last, is larger than
  `X_INT_MAX - 3` bytes (per record, for a record variable): `NC_check_vlens`.  The bytes of
  the file — its header and the variables' offsets — are not modelled: a dataset is a value.

  A file holds text or a NetCDF dataset (`FileContents`), and the two writers share one file
  system (`LidarFiles`), so the existence checks of `determine_filename` see the files of both.
-/

namespace NaluWind.Lidar

/-- The status codes the modelled calls fail with. -/
inductive NcError
  | NC_ENOTINDEFINE
  | NC_EINDEFINE
  | NC_EINVALCOORDS
  | NC_ENAMEINUSE
  | NC_EBADDIM
  | NC_ENOTVAR
  | NC_ENOTNC
  | NC_EUNLIMIT
  | NC_EEDGE
  | NC_EDIMSIZE
  | NC_EVARSIZE
  /-- The system error `ENOENT`: opening a path that does not exist. -/
  | ENOENT
  deriving DecidableEq, Repr

/-- `nc_strerror(code)`. -/
def ncStrerror : NcError → String
  | .NC_ENOTINDEFINE => "NetCDF: Operation not allowed in data mode"
  | .NC_EINDEFINE => "NetCDF: Operation not allowed in define mode"
  | .NC_EINVALCOORDS => "NetCDF: Index exceeds dimension bound"
  | .NC_ENAMEINUSE => "NetCDF: String match to name in use"
  | .NC_EBADDIM => "NetCDF: Invalid dimension ID or name"
  | .NC_ENOTVAR => "NetCDF: Variable not found"
  | .NC_ENOTNC => "NetCDF: Unknown file format"
  | .NC_EUNLIMIT => "NetCDF: NC_UNLIMITED size already in use"
  | .NC_EEDGE => "NetCDF: Start+count exceeds dimension bound"
  | .NC_EDIMSIZE => "NetCDF: Invalid dimension size"
  | .NC_EVARSIZE => "NetCDF: One or more variable sizes violate format constraints"
  | .ENOENT => "No such file or directory"

/-- `nc_type`: the external types of the writer's variables. -/
inductive NcType
  | NC_INT
  | NC_DOUBLE
  deriving DecidableEq, Repr

/-- The external size of one value of the type, in bytes (`ncx_szof`). -/
def NcType.xsz : NcType → Nat
  | .NC_INT => 4
  | .NC_DOUBLE => 8

/-- A value stored in a variable. -/
inductive NcValue (R : Type)
  | int (v : Int)
  | double (v : R)
  deriving DecidableEq, Repr

/-- `NC_UNLIMITED`, the length given to the record dimension. -/
def NC_UNLIMITED : Nat := 0

/-- `X_INT_MAX`, the bound on a classic-format dimension's length. -/
def X_INT_MAX : Nat := 2147483647

/-- The conversion of an `int` to `size_t`. -/
def sizeT (n : Int) : Nat := (n % 2 ^ 64).toNat

/-- A count `size_t` holds converts to itself. -/
theorem sizeT_eq_toNat {n : Int} (h0 : 0 ≤ n) (h : n < 2 ^ 64) : sizeT n = n.toNat := by
  rw [sizeT, Int.emod_eq_of_lt h0 h]

/-- A dimension: its name and its length, `NC_UNLIMITED` for the record dimension. -/
structure NcDim where
  name : String
  len : Nat
  deriving DecidableEq, Repr

/-- A variable: its name, type and dimension ids, and the values written to it by index;
    `none` is a value never written. -/
structure NcVar (R : Type) where
  name : String
  xtype : NcType
  dimids : List Nat
  values : List Nat → Option (NcValue R)

/-- A dataset: its dimensions and variables, their ids being their positions, and the current
    length of the unlimited dimension. -/
structure NcDataset (R : Type) where
  dims : List NcDim
  vars : List (NcVar R)
  numrecs : Nat

/-- An open dataset: the path it belongs to, and whether it is in define mode. -/
structure NcHandle (R : Type) where
  path : String
  dataset : NcDataset R
  indef : Bool

/-- What a file holds: text, or a NetCDF dataset. -/
inductive FileContents (R : Type)
  | text (s : String)
  | netcdf (dataset : NcDataset R)

/-- The file system both writers see. -/
abbrev LidarFiles (R : Type) := FileSystem (FileContents R)

section Calls

variable {R : Type}

/-- The position of `idx` in the row-major order of the hyperslab `start`/`count`, if the slab
    contains it: the element of the caller's buffer that a write puts at `idx`. -/
def slabOffset : List Nat → List Nat → List Nat → Option Nat
  | [], [], [] => some 0
  | s :: start, c :: count, i :: idx =>
    if s ≤ i ∧ i < s + c then (slabOffset start count idx).map ((i - s) * count.prod + ·)
    else none
  | _, _, _ => none

/-- A variable's values after a write of `op` over the slab `start`/`count`. -/
def writeSlab (values : List Nat → Option (NcValue R)) (start count : List Nat)
    (op : List (NcValue R)) (idx : List Nat) : Option (NcValue R) :=
  match slabOffset start count idx with
  | some o => op[o]?
  | none => values idx

/-- The length of dimension `d`. -/
def NcDataset.dimLen (ds : NcDataset R) (d : Nat) : Nat := (ds.dims.getD d ⟨"", 0⟩).len

/-- `nc_def_dim(ncid, name, len, &dimid)`: the new dimension's id is its position. -/
def ncDefDim (h : NcHandle R) (name : String) (len : Nat) :
    Except NcError (NcHandle R × Nat) :=
  if !h.indef then .error .NC_ENOTINDEFINE
  else if X_INT_MAX - 3 < len then .error .NC_EDIMSIZE
  else if len = NC_UNLIMITED ∧ h.dataset.dims.any (·.len == NC_UNLIMITED) then .error .NC_EUNLIMIT
  else if h.dataset.dims.any (·.name == name) then .error .NC_ENAMEINUSE
  else .ok ({ h with dataset := { h.dataset with dims := h.dataset.dims ++ [⟨name, len⟩] } },
    h.dataset.dims.length)

/-- `nc_def_var(ncid, name, xtype, ndims, dimids, &varid)`: the new variable's id is its
    position. -/
def ncDefVar (h : NcHandle R) (name : String) (xtype : NcType) (dimids : List Nat) :
    Except NcError (NcHandle R × Nat) :=
  if !h.indef then .error .NC_ENOTINDEFINE
  else if h.dataset.vars.any (·.name == name) then .error .NC_ENAMEINUSE
  else if dimids.any (h.dataset.dims.length ≤ ·) then .error .NC_EBADDIM
  else .ok ({ h with dataset := { h.dataset with
      vars := h.dataset.vars ++ [⟨name, xtype, dimids, fun _ => none⟩] } },
    h.dataset.vars.length)

/-- `IS_RECVAR(varp)`: the variable's first dimension is the unlimited one. -/
def NcDataset.isRecVar (ds : NcDataset R) (var : NcVar R) : Bool :=
  match var.dimids with
  | d :: _ => ds.dimLen d == NC_UNLIMITED
  | [] => false

/-- The loop of `NC_check_vlen` over the dimension lengths `shape`, `prod` being the product so
    far: it fails at a length over `vlen_max / prod`, and skips a length `0`. -/
def checkVlenLoop (vlenMax : Nat) : Nat → List Nat → Bool
  | _, [] => true
  | prod, s :: shape =>
    if s = 0 then checkVlenLoop vlenMax prod shape
    else if vlenMax / prod < s then false
    else checkVlenLoop vlenMax (prod * s) shape

/-- `NC_check_vlen(varp, vlen_max)`: whether the variable — one record of it, for a record
    variable — has at most `vlen_max` bytes. -/
def ncCheckVlen (ds : NcDataset R) (var : NcVar R) (vlenMax : Nat) : Bool :=
  let shape := var.dimids.map ds.dimLen
  checkVlenLoop vlenMax var.xtype.xsz (if ds.isRecVar var then shape.drop 1 else shape)

/-- One loop of `NC_check_vlens` over the variables `pass` selects: `large_vars_count` and
    `last`, whether the last one it visited is too large. -/
def vlenPass (ds : NcDataset R) (vlenMax : Nat) (pass : NcVar R → Bool) (st : Nat × Bool) :
    Nat × Bool :=
  ds.vars.foldl (fun (large, last) var =>
    if pass var then
      if ncCheckVlen ds var vlenMax then (large, false) else (large + 1, true)
    else (large, last)) st

/-- `NC_check_vlens(ncp)` for the classic format: first the non-record variables, then the
    record variables; of each kind one too-large variable is allowed, and only as the last one
    — and not a non-record one when there are record variables. -/
def ncCheckVlens (ds : NcDataset R) : Except NcError Unit :=
  if ds.vars.isEmpty then .ok ()
  else
    let vlenMax := X_INT_MAX - 3
    let (large, last) := vlenPass ds vlenMax (fun var => !ds.isRecVar var) (0, false)
    let recVarsCount := (ds.vars.filter ds.isRecVar).length
    if large > 1 then .error .NC_EVARSIZE
    else if large = 1 ∧ !last then .error .NC_EVARSIZE
    else if recVarsCount > 0 then
      if large = 1 ∧ last then .error .NC_EVARSIZE
      else
        let (large, last) := vlenPass ds vlenMax ds.isRecVar (0, last)
        if large > 1 then .error .NC_EVARSIZE
        else if large = 1 ∧ !last then .error .NC_EVARSIZE
        else .ok ()
    else .ok ()

/-- `nc_enddef(ncid)`: check the variables' sizes, and leave define mode. -/
def ncEnddef (h : NcHandle R) : Except NcError (NcHandle R) :=
  if !h.indef then .error .NC_ENOTINDEFINE
  else (ncCheckVlens h.dataset).map fun _ => { h with indef := false }

/-- `nc_put_vara_*(ncid, varid, start, count, op)`, `op` being the values the pointer gives,
    in the slab's row-major order, and `start`, `count` having one entry per dimension of the
    variable.  Indices are checked against the fixed dimensions (`NCcoordck`, `NCedgeck`); a
    write to a record variable extends the unlimited dimension to cover it. -/
def ncPutVara (h : NcHandle R) (varid : Nat) (start count : List Nat) (op : List (NcValue R)) :
    Except NcError (NcHandle R) :=
  if h.indef then .error .NC_EINDEFINE
  else match h.dataset.vars[varid]? with
    | none => .error .NC_ENOTVAR
    | some var =>
      let lens := var.dimids.map h.dataset.dimLen
      if !(List.zipWith (fun len s => len == NC_UNLIMITED || s ≤ len) lens start).all id then
        .error .NC_EINVALCOORDS
      else if !(List.zipWith (fun (len, s) c => len == NC_UNLIMITED || s + c ≤ len)
          (lens.zip start) count).all id then .error .NC_EEDGE
      else
        let numrecs := match lens, start, count with
          | len :: _, s :: _, c :: _ =>
            if len = NC_UNLIMITED then max h.dataset.numrecs (s + c) else h.dataset.numrecs
          | _, _, _ => h.dataset.numrecs
        let var := { var with values := writeSlab var.values start count op }
        .ok { h with dataset := { h.dataset with
          vars := h.dataset.vars.set varid var, numrecs := numrecs } }

/-- `nc_create(path, NC_CLOBBER, &ncid)`: an empty dataset in define mode, replacing whatever
    the path held. -/
def ncCreate (fs : LidarFiles R) (path : String) : LidarFiles R × NcHandle R :=
  (fs.write path (.netcdf ⟨[], [], 0⟩), ⟨path, ⟨[], [], 0⟩, true⟩)

/-- `nc_open(path, NC_WRITE, &ncid)`: the dataset the path holds, in data mode. -/
def ncOpen (fs : LidarFiles R) (path : String) : Except NcError (NcHandle R) :=
  match fs.files path with
  | none => .error .ENOENT
  | some (.text _) => .error .NC_ENOTNC
  | some (.netcdf ds) => .ok ⟨path, ds, false⟩

/-- `nc_close(ncid)`: the dataset is written back to its path. -/
def ncClose (fs : LidarFiles R) (h : NcHandle R) : LidarFiles R :=
  fs.write h.path (.netcdf h.dataset)

end Calls

end NaluWind.Lidar
