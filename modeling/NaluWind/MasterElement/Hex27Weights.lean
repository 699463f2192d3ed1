import NaluWind.MasterElement.Hex27AreaVector
/-!
  Where the Hex27 kernels' weights come from: `HexahedralP2Element::copy_interpolation_weights_to_view`
  and `copy_deriv_weights_to_view` (`include/master_element/Hex27CVFEM.h`).  Each copies a flat
  `double` array — one it is given, or the element's own `shapeFunctions_` / `shapeDerivs_` —
  into a fresh Kokkos view, row by row, a running index (`shape_index`, `deriv_index`) counting
  the entries read.

  The view is constructed from its label, so it starts zero-filled, and its first extent
  (`extent(0)`, the number of integration points) is fixed by the view type: `numIp` here.  The
  other extents are the loops' literal `27` nodes and `3` directions.  The flat array is the
  function it is read through; the loops read its first `numIp * 27` (`* 3`) entries and no
  more.  The views the kernels copy into have `numIntPoints_ = 216` rows, for which the
  element's arrays hold exactly the entries read and the running `int` index stops at
  `216 * 81 = 17496`: the model, with a `Nat` index and the array as a function, is exact for
  `numIp ≤ 216`, the extents the code uses.

  `copyInterpolationWeightsToView_apply` and `copyDerivWeightsToView_apply` read the
  copies off: entry `(ip, n)` is `interps[ip * 27 + n]`, entry `(ip, n, d)` is
  `derivs[(ip * 27 + n) * 3 + d]`, and every other entry keeps its zero.  Two loop facts carry
  them: `forRange_counter` removes a running index from a loop (it is `k + j * w` at iteration
  `j`), and `foldl_range_get` reads off a loop whose iteration `j` writes a region with values
  that depend only on the entry.  `weightedAreaVectors_shapeDerivs` composes the copy with
  the area-vector kernel: the area vectors are read from the element's flat `shapeDerivs_` in
  that row-major order.
-/

namespace NaluWind.Hex27

open Jacobian

/-! ## Two loop facts -/

section Loops

variable {σ : Type*}

/-- **Removing a running index.**  A loop whose body bumps a counter by `w`, from `k`, sees
    `k + j * w` at iteration `j` and ends at `k + m * w`. -/
theorem foldl_range_counter (w : Nat) (B : Nat → Nat → σ → σ) (body : Nat → σ × Nat → σ × Nat)
    (hbody : ∀ j p, body j p = (B j p.2 p.1, p.2 + w)) (s : σ) (k : Nat) :
    ∀ m, (List.range m).foldl (fun p j => body j p) (s, k) =
      ((List.range m).foldl (fun s j => B j (k + j * w) s) s, k + m * w)
  | 0 => by simp
  | m + 1 => by
    rw [List.range_succ, List.foldl_append, List.foldl_append,
      foldl_range_counter w B body hbody s k m]
    simp [hbody, Nat.succ_mul, Nat.add_assoc]

theorem forRange_counter (w : Nat) (B : Nat → Nat → σ → σ) (body : Nat → σ × Nat → σ × Nat)
    (hbody : ∀ j p, body j p = (B j p.2 p.1, p.2 + w)) (p : σ × Nat) (m : Nat) :
    forRange 0 m body p = (forRange 0 m (fun j s => B j (p.2 + j * w) s) p.1, p.2 + m * w) := by
  simp only [forRange, Nat.sub_zero, ← List.range_eq_range']
  exact foldl_range_counter w B body hbody p.1 p.2 m

variable {ι α : Type*} (get : σ → ι → α)

/-- **A loop of region writes.**  If iteration `j` sets the entries `P j` to `f` and leaves the
    rest, then after `m` iterations the entries of `Q m` — the union of the first `m` regions —
    hold `f`, and the rest what they held. -/
theorem foldl_range_get (P Q : Nat → ι → Prop) [∀ j q, Decidable (P j q)]
    [∀ m q, Decidable (Q m q)] (hQ0 : ∀ q, ¬Q 0 q) (hQ : ∀ m q, Q (m + 1) q ↔ P m q ∨ Q m q)
    (f : ι → α) (body : Nat → σ → σ)
    (hbody : ∀ j s q, get (body j s) q = if P j q then f q else get s q) (s : σ) (q : ι) :
    ∀ m, get ((List.range m).foldl (fun s j => body j s) s) q = if Q m q then f q else get s q
  | 0 => by simp [hQ0]
  | m + 1 => by
    rw [List.range_succ, List.foldl_append, List.foldl_cons, List.foldl_nil, hbody,
      foldl_range_get P Q hQ0 hQ f body hbody s q m]
    by_cases hP : P m q
    · rw [if_pos hP, if_pos ((hQ m q).mpr (.inl hP))]
    · rw [if_neg hP]; simp only [hQ m q, hP, false_or]

theorem forRange_get (P Q : Nat → ι → Prop) [∀ j q, Decidable (P j q)]
    [∀ m q, Decidable (Q m q)] (hQ0 : ∀ q, ¬Q 0 q) (hQ : ∀ m q, Q (m + 1) q ↔ P m q ∨ Q m q)
    (f : ι → α) (body : Nat → σ → σ)
    (hbody : ∀ j s q, get (body j s) q = if P j q then f q else get s q) (s : σ) (q : ι) (m : Nat) :
    get (forRange 0 m body s) q = if Q m q then f q else get s q := by
  simp only [forRange, Nat.sub_zero, ← List.range_eq_range']
  exact foldl_range_get get P Q hQ0 hQ f body hbody s q m

end Loops

/-! ## The copies -/

section Copy

variable {α : Type*}

/-- The write `v(i, j, k) = x` to a rank-3 view. -/
def setEntry3 (v : Nat → Nat → Nat → α) (i j k : Nat) (x : α) : Nat → Nat → Nat → α :=
  fun i' j' k' => if i' = i ∧ j' = j ∧ k' = k then x else v i' j' k'

@[simp] theorem setEntry3_apply (v : Nat → Nat → Nat → α) (i j k i' j' k' : Nat) (x : α) :
    setEntry3 v i j k x i' j' k' = if i' = i ∧ j' = j ∧ k' = k then x else v i' j' k' := rfl

/-- The node loop of `copy_interpolation_weights_to_view` at `ip`:
    `interpWeights(ip, n) = interps[shape_index]; ++shape_index;` for `n < 27`. -/
def interpolationRow (interps : Nat → α) (ip : Nat) (s : (Nat → Nat → α) × Nat) :
    (Nat → Nat → α) × Nat :=
  forRange 0 27 (fun n s => (setEntry s.1 ip n (interps s.2), s.2 + 1)) s

/-- `copy_interpolation_weights_to_view(interps)` for a view of `numIp` integration points. -/
def copyInterpolationWeightsToView [Zero α] (numIp : Nat) (interps : Nat → α) : Nat → Nat → α :=
  (forRange 0 numIp (interpolationRow interps) (fun _ _ => 0, 0)).1

/-- The direction loop of `copy_deriv_weights_to_view` at `(ip, n)`:
    `referenceGradWeights(ip, n, d) = derivs[deriv_index]; ++deriv_index;` for `d < 3`. -/
def derivNode (derivs : Nat → α) (ip n : Nat) (s : (Nat → Nat → Nat → α) × Nat) :
    (Nat → Nat → Nat → α) × Nat :=
  forRange 0 3 (fun d s => (setEntry3 s.1 ip n d (derivs s.2), s.2 + 1)) s

/-- The node loop of `copy_deriv_weights_to_view` at `ip`. -/
def derivRow (derivs : Nat → α) (ip : Nat) (s : (Nat → Nat → Nat → α) × Nat) :
    (Nat → Nat → Nat → α) × Nat :=
  forRange 0 27 (derivNode derivs ip) s

/-- `copy_deriv_weights_to_view(derivs)` for a view of `numIp` integration points. -/
def copyDerivWeightsToView [Zero α] (numIp : Nat) (derivs : Nat → α) : Nat → Nat → Nat → α :=
  (forRange 0 numIp (derivRow derivs) (fun _ _ _ => 0, 0)).1

/-- The flat arrays of a `HexahedralP2Element` the copies read: `shapeFunctions_`
    (`numIntPoints_ * 27` values) and `shapeDerivs_` (`numIntPoints_ * 27 * 3`). -/
structure HexahedralP2Element (α : Type*) where
  shapeFunctions : Nat → α
  shapeDerivs : Nat → α

/-- `copy_interpolation_weights_to_view()`: the element's own `shapeFunctions_`. -/
def HexahedralP2Element.copyInterpolationWeightsToView [Zero α] (self : HexahedralP2Element α)
    (numIp : Nat) : Nat → Nat → α :=
  NaluWind.Hex27.copyInterpolationWeightsToView numIp self.shapeFunctions

/-- `copy_deriv_weights_to_view()`: the element's own `shapeDerivs_`. -/
def HexahedralP2Element.copyDerivWeightsToView [Zero α] (self : HexahedralP2Element α)
    (numIp : Nat) : Nat → Nat → Nat → α :=
  NaluWind.Hex27.copyDerivWeightsToView numIp self.shapeDerivs

theorem interpolationRow_eq (interps : Nat → α) (ip : Nat) (p : (Nat → Nat → α) × Nat) :
    interpolationRow interps ip p =
      (forRange 0 27 (fun n v => setEntry v ip n (interps (p.2 + n * 1))) p.1, p.2 + 27 * 1) :=
  forRange_counter 1 (fun n k v => setEntry v ip n (interps k)) _ (fun _ _ => rfl) p 27

theorem interpolationRow_apply (interps : Nat → α) (ip : Nat) (p : (Nat → Nat → α) × Nat)
    (i c : Nat) :
    (interpolationRow interps ip p).1 i c =
      if i = ip ∧ c < 27 then interps (p.2 + c) else p.1 i c := by
  rw [interpolationRow_eq]
  refine forRange_get (fun v (q : Nat × Nat) => v q.1 q.2) (fun n q => q.1 = ip ∧ q.2 = n)
    (fun m q => q.1 = ip ∧ q.2 < m) (by omega) (by omega) (fun q => interps (p.2 + q.2))
    (fun n v => setEntry v ip n (interps (p.2 + n * 1))) (fun n v q => ?_) p.1 (i, c) 27
  by_cases h : q.1 = ip ∧ q.2 = n <;> simp [h]

/-- **The interpolation weights, unflattened.**  Entry `(ip, n)` of the copy, for `ip` below
    the view's extent and `n < 27`, is `interps[ip * 27 + n]`; every other entry is zero. -/
theorem copyInterpolationWeightsToView_apply [Zero α] (numIp : Nat) (interps : Nat → α) (ip n : Nat) :
    copyInterpolationWeightsToView numIp interps ip n =
      if ip < numIp ∧ n < 27 then interps (ip * 27 + n) else 0 := by
  rw [copyInterpolationWeightsToView,
    forRange_counter 27 (fun ip k v => (interpolationRow interps ip (v, k)).1)
      (interpolationRow interps) (fun ip p => Prod.ext rfl (by rw [interpolationRow_eq]))]
  refine forRange_get (fun v (q : Nat × Nat) => v q.1 q.2) (fun ip q => q.1 = ip ∧ q.2 < 27)
    (fun m q => q.1 < m ∧ q.2 < 27) (by omega) (by omega) (fun q => interps (q.1 * 27 + q.2))
    (fun ip v => (interpolationRow interps ip (v, 0 + ip * 27)).1) (fun ip v q => ?_) _ (ip, n)
    numIp
  dsimp only
  rw [interpolationRow_apply]
  by_cases h : q.1 = ip ∧ q.2 < 27 <;> simp [h]

theorem derivNode_eq (derivs : Nat → α) (ip n : Nat) (p : (Nat → Nat → Nat → α) × Nat) :
    derivNode derivs ip n p =
      (forRange 0 3 (fun d v => setEntry3 v ip n d (derivs (p.2 + d * 1))) p.1, p.2 + 3 * 1) :=
  forRange_counter 1 (fun d k v => setEntry3 v ip n d (derivs k)) _ (fun _ _ => rfl) p 3

theorem derivNode_apply (derivs : Nat → α) (ip n : Nat) (p : (Nat → Nat → Nat → α) × Nat)
    (i j c : Nat) :
    (derivNode derivs ip n p).1 i j c =
      if i = ip ∧ j = n ∧ c < 3 then derivs (p.2 + c) else p.1 i j c := by
  rw [derivNode_eq]
  refine forRange_get (fun v (q : Nat × Nat × Nat) => v q.1 q.2.1 q.2.2)
    (fun d q => q.1 = ip ∧ q.2.1 = n ∧ q.2.2 = d) (fun m q => q.1 = ip ∧ q.2.1 = n ∧ q.2.2 < m)
    (by omega) (by omega) (fun q => derivs (p.2 + q.2.2))
    (fun d v => setEntry3 v ip n d (derivs (p.2 + d * 1))) (fun d v q => ?_) p.1 (i, j, c) 3
  by_cases h : q.1 = ip ∧ q.2.1 = n ∧ q.2.2 = d <;> simp [h]

theorem derivRow_eq (derivs : Nat → α) (ip : Nat) (p : (Nat → Nat → Nat → α) × Nat) :
    derivRow derivs ip p =
      (forRange 0 27 (fun n v => (derivNode derivs ip n (v, p.2 + n * 3)).1) p.1, p.2 + 27 * 3) :=
  forRange_counter 3 (fun n k v => (derivNode derivs ip n (v, k)).1) (derivNode derivs ip)
    (fun n p => Prod.ext rfl (by rw [derivNode_eq])) p 27

theorem derivRow_apply (derivs : Nat → α) (ip : Nat) (p : (Nat → Nat → Nat → α) × Nat)
    (i j c : Nat) :
    (derivRow derivs ip p).1 i j c =
      if i = ip ∧ j < 27 ∧ c < 3 then derivs (p.2 + j * 3 + c) else p.1 i j c := by
  rw [derivRow_eq]
  refine forRange_get (fun v (q : Nat × Nat × Nat) => v q.1 q.2.1 q.2.2)
    (fun n q => q.1 = ip ∧ q.2.1 = n ∧ q.2.2 < 3) (fun m q => q.1 = ip ∧ q.2.1 < m ∧ q.2.2 < 3)
    (by omega) (by omega) (fun q => derivs (p.2 + q.2.1 * 3 + q.2.2))
    (fun n v => (derivNode derivs ip n (v, p.2 + n * 3)).1) (fun n v q => ?_) p.1 (i, j, c) 27
  dsimp only
  rw [derivNode_apply]
  by_cases h : q.1 = ip ∧ q.2.1 = n ∧ q.2.2 < 3
  · rw [if_pos h, if_pos h, h.2.1]
  · rw [if_neg h, if_neg h]

/-- Entry `(ip, n, d)` of the derivative copy, for `ip` below the view's extent, `n < 27` and
    `d < 3`, is `derivs[(ip * 27 + n) * 3 + d]`; every other entry is zero. -/
theorem copyDerivWeightsToView_apply [Zero α] (numIp : Nat) (derivs : Nat → α) (ip n d : Nat) :
    copyDerivWeightsToView numIp derivs ip n d =
      if ip < numIp ∧ n < 27 ∧ d < 3 then derivs ((ip * 27 + n) * 3 + d) else 0 := by
  rw [copyDerivWeightsToView,
    forRange_counter (27 * 3) (fun ip k v => (derivRow derivs ip (v, k)).1) (derivRow derivs)
      (fun ip p => Prod.ext rfl (by rw [derivRow_eq]))]
  refine forRange_get (fun v (q : Nat × Nat × Nat) => v q.1 q.2.1 q.2.2)
    (fun ip q => q.1 = ip ∧ q.2.1 < 27 ∧ q.2.2 < 3) (fun m q => q.1 < m ∧ q.2.1 < 27 ∧ q.2.2 < 3)
    (by omega) (by omega) (fun q => derivs ((q.1 * 27 + q.2.1) * 3 + q.2.2))
    (fun ip v => (derivRow derivs ip (v, 0 + ip * (27 * 3))).1) (fun ip v q => ?_) _ (ip, n, d)
    numIp
  dsimp only
  rw [derivRow_apply]
  by_cases h : q.1 = ip ∧ q.2.1 < 27 ∧ q.2.2 < 3
  · rw [if_pos h, if_pos h, h.1]; congr 1; ring
  · rw [if_neg h, if_neg h]

end Copy

/-! ## The copy feeding the area-vector kernel -/

section Kernel

variable {K α : Type*} [CommRing K] [CommRing α] [Algebra K α] (coords : Nat → Nat → α)

theorem s1Component_lt (direction : Direction) : s1Component direction < 3 := by
  cases direction <;> decide

theorem s2Component_lt (direction : Direction) : s2Component direction < 3 := by
  cases direction <;> decide

/-- The Jacobian columns the kernel builds from a copied view are those of the flat array. -/
theorem jacobianColumn_copy (self : HexahedralP2Element α) {numIp ip d : Nat} (hip : ip < numIp)
    (hd : d < 3) :
    jacobianColumn (self.copyDerivWeightsToView numIp) coords ip d =
      jacobianColumn (fun ip n d => self.shapeDerivs ((ip * 27 + n) * 3 + d)) coords ip d :=
  funext fun _ => Finset.sum_congr rfl fun n hn => by
    rw [HexahedralP2Element.copyDerivWeightsToView, copyDerivWeightsToView_apply,
      if_pos ⟨hip, Finset.mem_range.mp hn, hd⟩]

/-- **The area vectors read the element's `shapeDerivs_` row-major.**  Fed the copy of an
    element's `shapeDerivs_` (a `Hex27SCS` view has `numScsIp_` rows), row `ip < 216` of
    `weighted_area_vectors` is the quadrature weight times the cross product of the in-surface
    Jacobian columns, entry `(ip, n, d)` of the derivatives being
    `shapeDerivs_[(ip * 27 + n) * 3 + d]`. -/
theorem weightedAreaVectors_shapeDerivs (ipInfo : Nat → ContourData K)
    (self : HexahedralP2Element α) (areav : Nat → Nat → α) {ip : Nat} (hip : ip < numScsIp)
    (c : Fin 3) :
    weightedAreaVectors ipInfo (self.copyDerivWeightsToView numScsIp) coords areav ip c =
      areaVectorOf (fun ip n d => self.shapeDerivs ((ip * 27 + n) * 3 + d)) coords
          (layoutDirection ip) ip c * algebraMap K α (ipInfo ip).weight := by
  rw [weightedAreaVectors_apply _ _ _ _ hip, areaVectorOf, areaVectorOf,
    jacobianColumn_copy _ _ hip (s1Component_lt _), jacobianColumn_copy _ _ hip (s2Component_lt _)]

end Kernel

/-- An element whose `shapeDerivs_` gives node `d + 1` the unit gradient in direction `d`, on
    the box with sides `2`, `3`, `4` (Jacobian `diag(2, 3, 4)`), at the first integration
    point. -/
theorem weightedAreaVectors_shapeDerivs_index :
    0 < numScsIp ∧
      weightedAreaVectors (fun ip => (⟨layoutDirection ip, 1⟩ : ContourData ℤ))
          ((⟨fun _ => 0, fun k => if k / 3 % 27 = k % 3 + 1 then 1 else 0⟩ :
            HexahedralP2Element ℤ).copyDerivWeightsToView numScsIp)
          (fun n i => if n = i + 1 then (i : ℤ) + 2 else 0) 0 0 0 =
        areaVectorOf (fun ip n d =>
            if ((ip * 27 + n) * 3 + d) / 3 % 27 = ((ip * 27 + n) * 3 + d) % 3 + 1 then 1 else 0)
          (fun n i => if n = i + 1 then (i : ℤ) + 2 else 0) (layoutDirection 0) 0 0 *
          algebraMap ℤ ℤ 1 :=
  ⟨by decide, weightedAreaVectors_shapeDerivs _ _ _ _ (by decide) 0⟩

end NaluWind.Hex27
