import Mathlib.Algebra.Algebra.Pi
import Mathlib.LinearAlgebra.CrossProduct
/-!
  The Hex27 sub-control-surface area vectors: `Hex27SCS::weighted_area_vectors` and the
  `area_vector<direction>` kernel it calls (`include/master_element/Hex27CVFEM.h`).

  The kernel is a template over its floating type `ftype`: `double` on the host path, the SIMD
  batch type `DoubleType` on the vectorised path.  We keep it generic the same way: `ftype` is any
  commutative ring `α`, and the `double` constants the kernel reads (the `0.0` that seeds `sjac`,
  the quadrature weight `ipInfo_[ip].weight`) enter through `algebraMap K α` from the ring `K` of
  the `double`s themselves.  Kokkos views are the index functions they are read through
  (`coords(n, i)`, `referenceGradWeights(ip, n, d)`, `areav(ip, c)`), and a write to a view is an
  update of that function.

  The faithful layer is `sjacStep`, `area_vector` and `weighted_area_vectors`, one loop of the
  source per `List.foldl`.  Its one structural fact is `forRange_apply`: a loop whose body writes
  only the row of its own integration point leaves every row as that body alone leaves it.  From
  it, `weightedAreaVectors_apply` reads the whole kernel off in closed form — the quadrature
  weight times the cross product of two columns of the parametric Jacobian — which is what the
  SIMD refinement (`Hex27Simd`) and the cofactor form (`Hex27Nanson`) are proved from.
-/

namespace NaluWind

namespace Jacobian

/-- Modelled from the spec: `Jacobian::Direction` (declared in a header outside the source), the
    three parametric directions, `S`, `T`, `U` being components 0, 1, 2. -/
inductive Direction
  | S_DIRECTION
  | T_DIRECTION
  | U_DIRECTION
  deriving DecidableEq, Repr

/-- The parametric component a direction names. -/
def Direction.toNat : Direction → Nat
  | .S_DIRECTION => 0
  | .T_DIRECTION => 1
  | .U_DIRECTION => 2

/-- The component of a direction, as an index of the 3×3 Jacobian. -/
def Direction.toFin : Direction → Fin 3
  | .S_DIRECTION => 0
  | .T_DIRECTION => 1
  | .U_DIRECTION => 2

end Jacobian

open Jacobian Direction

namespace Hex27

/-- `AlgTraitsHex27::nodesPerElement_`. -/
def nodesPerElement : Nat := 27

/-- `AlgTraitsHex27::numScsIp_` (`numFaceIps_ = 6 * 36`, "= numIntPoints_ for this element"). -/
def numScsIp : Nat := 216

/-- `AlgTraitsHex27::nDim_`. -/
def nDim : Nat := 3

/-- `HexahedralP2Element::ContourData`: the direction an integration point's surface faces and
    its quadrature weight, a `double`. -/
structure ContourData (K : Type*) where
  direction : Direction
  weight : K

/-- The write `v(i, j) = x` to a rank-2 view. -/
def setEntry {α : Type*} (v : Nat → Nat → α) (i j : Nat) (x : α) : Nat → Nat → α :=
  fun i' j' => if i' = i ∧ j' = j then x else v i' j'

@[simp] theorem setEntry_apply {α : Type*} (v : Nat → Nat → α) (i j i' j' : Nat) (x : α) :
    setEntry v i j x i' j' = if i' = i ∧ j' = j then x else v i' j' := rfl

/-- `for (int ip = lo; ip < hi; ++ip) body(ip)`, threading the view the body writes. -/
def forRange {σ : Type*} (lo hi : Nat) (body : Nat → σ → σ) (s : σ) : σ :=
  (List.range' lo (hi - lo)).foldl (fun s ip => body ip s) s

section Kernel

variable {K α : Type*} [CommRing K] [CommRing α] [Algebra K α]

/-- One pass of the node loop of `area_vector`: `sjac[i][0] += dn_ds1 * coords(n, i)` and
    `sjac[i][1] += dn_ds2 * coords(n, i)` for `i = 0, 1, 2`. -/
def sjacStep (referenceGradWeights : Nat → Nat → Nat → α) (coords : Nat → Nat → α)
    (ip s1Component s2Component : Nat) (sjac : Fin 3 → Fin 2 → α) (n : Nat) :
    Fin 3 → Fin 2 → α :=
  let dn_ds1 := referenceGradWeights ip n s1Component
  let dn_ds2 := referenceGradWeights ip n s2Component
  fun i k => sjac i k + (if k = 0 then dn_ds1 else dn_ds2) * coords n i

/-- `s1Component`: `S` for the `T` direction, `T` otherwise. -/
def s1Component (direction : Direction) : Nat :=
  if direction = T_DIRECTION then S_DIRECTION.toNat else T_DIRECTION.toNat

/-- `s2Component`: `S` for the `U` direction, `U` otherwise. -/
def s2Component (direction : Direction) : Nat :=
  if direction = U_DIRECTION then S_DIRECTION.toNat else U_DIRECTION.toNat

/-- `Hex27SCS::area_vector<direction>(ip, referenceGradWeights, coords, areav)`: accumulate the
    3×2 sub-Jacobian of the two in-surface directions over the 27 nodes, then write its column
    cross product to row `ip` of `areav`. -/
def areaVector (direction : Direction) (ip : Nat) (referenceGradWeights : Nat → Nat → Nat → α)
    (coords : Nat → Nat → α) (areav : Nat → Nat → α) : Nat → Nat → α :=
  let sjac := (List.range nodesPerElement).foldl
    (sjacStep referenceGradWeights coords ip (s1Component direction) (s2Component direction)) 0
  let areav := setEntry areav ip 0 (sjac 1 0 * sjac 2 1 - sjac 2 0 * sjac 1 1)
  let areav := setEntry areav ip 1 (sjac 2 0 * sjac 0 1 - sjac 0 0 * sjac 2 1)
  setEntry areav ip 2 (sjac 0 0 * sjac 1 1 - sjac 1 0 * sjac 0 1)

/-- The last loop of `weighted_area_vectors`: `areav(ip, c) *= ipInfo_[ip].weight`, `c = 0, 1, 2`,
    the `double` weight broadcast to `ftype`. -/
def scaleByWeight (ipInfo : Nat → ContourData K) (ip : Nat) (areav : Nat → Nat → α) :
    Nat → Nat → α :=
  let weight : α := algebraMap K α (ipInfo ip).weight
  let areav := setEntry areav ip 0 (areav ip 0 * weight)
  let areav := setEntry areav ip 1 (areav ip 1 * weight)
  setEntry areav ip 2 (areav ip 2 * weight)

/-- `Hex27SCS::weighted_area_vectors`, as built without `ThrowAssert` (the release build): the
    `U` integration points `[0, 72)`, then `T` `[72, 144)`, then `S` `[144, 216)`, then every
    row scaled by its quadrature weight.  What the assertions check is `ipInfoLayoutOk`. -/
def weightedAreaVectors (ipInfo : Nat → ContourData K)
    (referenceGradWeights : Nat → Nat → Nat → α) (coords : Nat → Nat → α)
    (areav : Nat → Nat → α) : Nat → Nat → α :=
  let ipsPerDirection := numScsIp / nDim
  let t_start := 1 * ipsPerDirection
  let s_start := 2 * ipsPerDirection
  let areav := forRange 0 t_start
    (fun ip => areaVector U_DIRECTION ip referenceGradWeights coords) areav
  let areav := forRange t_start s_start
    (fun ip => areaVector T_DIRECTION ip referenceGradWeights coords) areav
  let areav := forRange s_start numScsIp
    (fun ip => areaVector S_DIRECTION ip referenceGradWeights coords) areav
  forRange 0 216 (scaleByWeight ipInfo) areav

end Kernel

/-- The direction the `ThrowAssert`s of `weighted_area_vectors` expect at `ip`. -/
def layoutDirection (ip : Nat) : Direction :=
  if ip < 72 then U_DIRECTION else if ip < 144 then T_DIRECTION else S_DIRECTION

/-- The `ThrowAssert`s of `weighted_area_vectors`: the integration points are laid out
    direction by direction, in `U → T → S` order. -/
def ipInfoLayoutOk {K : Type*} (ipInfo : Nat → ContourData K) : Prop :=
  ∀ ip, ip < numScsIp → (ipInfo ip).direction = layoutDirection ip

instance {K : Type*} (ipInfo : Nat → ContourData K) : Decidable (ipInfoLayoutOk ipInfo) :=
  inferInstanceAs (Decidable (∀ ip, ip < 216 → _))

/-! ## Loops that write one row per iteration -/

section Loops

variable {α : Type*}

/-- A loop body that writes only the row of its own index, and computes that row from the
    same row of the view it is given. -/
structure RowLocal (body : Nat → (Nat → Nat → α) → Nat → Nat → α) : Prop where
  frame : ∀ ip s i c, i ≠ ip → body ip s i c = s i c
  row : ∀ ip s s', (∀ c, s ip c = s' ip c) → ∀ c, body ip s ip c = body ip s' ip c

theorem foldl_range'_apply {body : Nat → (Nat → Nat → α) → Nat → Nat → α} (h : RowLocal body) :
    ∀ (n lo : Nat) (s : Nat → Nat → α) (i c : Nat),
      (List.range' lo n).foldl (fun s ip => body ip s) s i c =
        if lo ≤ i ∧ i < lo + n then body i s i c else s i c
  | 0, lo, s, i, c => by rw [if_neg (by omega)]; rfl
  | n + 1, lo, s, i, c => by
    rw [List.range'_succ, List.foldl_cons, foldl_range'_apply h n (lo + 1)]
    by_cases hi : i = lo
    · subst hi; simp
    · have hrow : ∀ c, body lo s i c = s i c := fun c => h.frame _ _ _ _ hi
      by_cases hin : lo + 1 ≤ i ∧ i < lo + 1 + n
      · rw [if_pos hin, if_pos (by omega), h.row i _ s hrow]
      · rw [if_neg hin, if_neg (by omega), hrow]

/-- **The loop lemma.**  After a loop over `[lo, hi)` whose body is row-local, row `i` is what
    the body alone makes of it when `i` is in range, and untouched otherwise. -/
theorem forRange_apply {body : Nat → (Nat → Nat → α) → Nat → Nat → α} (h : RowLocal body)
    (lo hi : Nat) (s : Nat → Nat → α) (i c : Nat) :
    forRange lo hi body s i c = if lo ≤ i ∧ i < hi then body i s i c else s i c := by
  rw [forRange, foldl_range'_apply h]
  by_cases hl : lo ≤ hi
  · simp only [Nat.add_sub_cancel' hl]
  · simp only [show hi - lo = 0 by omega]; split_ifs <;> first | rfl | omega

end Loops

/-! ## The kernel in closed form -/

section ClosedForm

open Matrix

variable {K α : Type*} [CommRing K] [CommRing α] [Algebra K α]
  (referenceGradWeights : Nat → Nat → Nat → α) (coords : Nat → Nat → α)

/-- Column `d` of the parametric Jacobian at `ip`:
    `J[i][d] = Σ_n referenceGradWeights(ip, n, d) * coords(n, i)`. -/
def jacobianColumn (ip d : Nat) : Fin 3 → α :=
  fun i => ∑ n ∈ Finset.range nodesPerElement, referenceGradWeights ip n d * coords n i

/-- The row `area_vector<direction>` writes: the cross product of the Jacobian columns of the two
    in-surface directions `s1Component`, `s2Component`. -/
def areaVectorOf (direction : Direction) (ip : Nat) : Fin 3 → α :=
  jacobianColumn referenceGradWeights coords ip (s1Component direction) ×₃
    jacobianColumn referenceGradWeights coords ip (s2Component direction)

/-- The node loop accumulates the two sub-Jacobian columns as sums over the nodes. -/
theorem sjac_foldl (ip s1 s2 N : Nat) (i : Fin 3) (k : Fin 2) :
    (List.range N).foldl (sjacStep referenceGradWeights coords ip s1 s2) 0 i k =
      ∑ n ∈ Finset.range N,
        (if k = 0 then referenceGradWeights ip n s1 else referenceGradWeights ip n s2) * coords n i := by
  induction N with
  | zero => rfl
  | succ N ih => rw [List.range_succ, List.foldl_append, Finset.sum_range_succ, ← ih]; rfl

theorem areaVector_row (direction : Direction) (ip : Nat) (areav : Nat → Nat → α) (c : Fin 3) :
    areaVector direction ip referenceGradWeights coords areav ip c =
      areaVectorOf referenceGradWeights coords direction ip c := by
  fin_cases c <;> simp [areaVector, areaVectorOf, cross_apply, sjac_foldl, jacobianColumn]

theorem areaVector_rowLocal (direction : Direction) :
    RowLocal (fun ip => areaVector (α := α) direction ip referenceGradWeights coords) where
  frame ip s i c h := by simp [areaVector, h]
  row ip s s' h c := by simp [areaVector, h]

theorem scaleByWeight_rowLocal (ipInfo : Nat → ContourData K) :
    RowLocal (scaleByWeight (α := α) ipInfo) where
  frame ip s i c h := by simp [scaleByWeight, h]
  row ip s s' h c := by simp [scaleByWeight, h]

theorem scaleByWeight_row (ipInfo : Nat → ContourData K) (ip : Nat) (areav : Nat → Nat → α)
    (c : Fin 3) :
    scaleByWeight ipInfo ip areav ip c = areav ip c * algebraMap K α (ipInfo ip).weight := by
  fin_cases c <;> simp [scaleByWeight]

/-- **The kernel in closed form.**  Row `ip < 216` of `weighted_area_vectors` is the cross
    product of the in-surface Jacobian columns of the direction the layout gives `ip`, times the
    quadrature weight — whatever the output view held before. -/
theorem weightedAreaVectors_apply (ipInfo : Nat → ContourData K) (areav : Nat → Nat → α)
    {ip : Nat} (hip : ip < numScsIp) (c : Fin 3) :
    weightedAreaVectors ipInfo referenceGradWeights coords areav ip c =
      areaVectorOf referenceGradWeights coords (layoutDirection ip) ip c *
        algebraMap K α (ipInfo ip).weight := by
  simp only [numScsIp] at hip
  simp only [weightedAreaVectors, forRange_apply (scaleByWeight_rowLocal ipInfo),
    if_pos (show 0 ≤ ip ∧ ip < 216 from ⟨Nat.zero_le _, hip⟩), scaleByWeight_row]
  congr 1
  simp only [forRange_apply (areaVector_rowLocal _ _ _), areaVector_row, numScsIp, nDim,
    layoutDirection]
  by_cases h1 : ip < 72
  · rw [if_neg (by omega), if_neg (by omega), if_pos (by omega), if_pos h1]
  · by_cases h2 : ip < 144
    · rw [if_neg (by omega), if_pos (by omega), if_neg h1, if_pos h2]
    · rw [if_pos (by omega), if_neg h1, if_neg h2]

end ClosedForm

end Hex27

end NaluWind
