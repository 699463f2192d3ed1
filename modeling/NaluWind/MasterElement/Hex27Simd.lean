import NaluWind.MasterElement.Hex27AreaVector
/-!
  The SIMD execution path of `Hex27SCS::weighted_area_vectors`.

  On the vectorised path the kernel is instantiated with `ftype = DoubleType`, a batch of `W`
  elements processed by one instruction stream.  Lane `l` of every view holds element `l`'s value,
  `+`, `-`, `*` act lane by lane, and the `double` constants of the kernel are broadcast to every
  lane.  That is exactly the ring `Fin W → K` with its `K`-algebra structure, and reading lane `l`
  is the algebra hom `Pi.evalAlgHom`.

  So the refinement is one naturality fact: the kernel commutes with EVERY `K`-algebra hom
  (`map_weightedAreaVectors`), because its closed form (`weightedAreaVectors_apply`) is built
  from sums, products and differences of its inputs and a broadcast constant.  Lane evaluation is
  then one instance (`weightedAreaVectors_lane`): no control flow, accumulation or broadcast in
  the kernel mixes lanes, for any width and any batch.
-/

namespace NaluWind.Hex27

open Jacobian

/-- Modelled from the spec: `DoubleType` (`SimdInterface.h` is outside the source), a batch of
    `W` lanes of `double`s with lane-wise arithmetic and `double` constants broadcast to every
    lane — the algebra `Fin W → K`. -/
abbrev DoubleType (K : Type*) (W : Nat) := Fin W → K

section Naturality

variable {K α β : Type*} [CommRing K] [CommRing α] [CommRing β] [Algebra K α] [Algebra K β]
  (φ : α →ₐ[K] β) (referenceGradWeights : Nat → Nat → Nat → α) (coords : Nat → Nat → α)

theorem map_jacobianColumn (ip d : Nat) (i : Fin 3) :
    φ (jacobianColumn referenceGradWeights coords ip d i) =
      jacobianColumn (fun ip n d => φ (referenceGradWeights ip n d)) (fun n i => φ (coords n i))
        ip d i := by
  simp [jacobianColumn]

theorem map_areaVectorOf (direction : Direction) (ip : Nat) (c : Fin 3) :
    φ (areaVectorOf referenceGradWeights coords direction ip c) =
      areaVectorOf (fun ip n d => φ (referenceGradWeights ip n d)) (fun n i => φ (coords n i))
        direction ip c := by
  fin_cases c <;> simp [areaVectorOf, cross_apply, map_jacobianColumn]

/-- **Every algebra hom commutes with the kernel**: mapping the rows `ip < 216` of the output
    is running the kernel on the mapped inputs, whatever either output view held before. -/
theorem map_weightedAreaVectors (ipInfo : Nat → ContourData K) (areav : Nat → Nat → α)
    (areav' : Nat → Nat → β) {ip : Nat} (hip : ip < numScsIp) (c : Fin 3) :
    φ (weightedAreaVectors ipInfo referenceGradWeights coords areav ip c) =
      weightedAreaVectors ipInfo (fun ip n d => φ (referenceGradWeights ip n d))
        (fun n i => φ (coords n i)) areav' ip c := by
  rw [weightedAreaVectors_apply _ _ _ _ hip, weightedAreaVectors_apply _ _ _ _ hip, map_mul,
    AlgHom.commutes, map_areaVectorOf]

end Naturality

/-- **SIMD lanes refine the scalar kernel.**  For every width `W`, every batch and every lane
    `l`, lane `l` of every area vector the `DoubleType` kernel writes equals the entry the
    `double` kernel writes from lane `l`'s coordinates and gradient weights. -/
theorem weightedAreaVectors_lane {K : Type*} [CommRing K] (W : Nat)
    (ipInfo : Nat → ContourData K) (referenceGradWeights : Nat → Nat → Nat → DoubleType K W)
    (coords : Nat → Nat → DoubleType K W) (areav : Nat → Nat → DoubleType K W)
    (areav' : Nat → Nat → K) (l : Fin W) {ip : Nat} (hip : ip < numScsIp) (c : Fin 3) :
    weightedAreaVectors ipInfo referenceGradWeights coords areav ip c l =
      weightedAreaVectors ipInfo (fun ip n d => referenceGradWeights ip n d l)
        (fun n i => coords n i l) areav' ip c := by
  simpa using map_weightedAreaVectors (Pi.evalAlgHom K (fun _ => K) l) referenceGradWeights
    coords ipInfo areav areav' hip c

/-- A batch of two elements: the unit cube in lane `0`, and in lane `1` the box with sides
    `2`, `3`, `4`, whose Jacobian is `diag(2, 3, 4)`; lane `1` of the batch kernel is the
    scalar kernel on the box. -/
theorem weightedAreaVectors_lane_batch_of_two :
    0 < numScsIp ∧
      weightedAreaVectors (fun ip => ⟨layoutDirection ip, (1 : ℤ)⟩)
          (fun _ n d => ![if n = d + 1 then 1 else 0, if n = d + 1 then 1 else 0])
          (fun n i => ![if n = i + 1 then 1 else 0, if n = i + 1 then (i : ℤ) + 2 else 0])
          0 0 0 1 =
        weightedAreaVectors (fun ip => ⟨layoutDirection ip, (1 : ℤ)⟩)
          (fun _ n d => if n = d + 1 then 1 else 0)
          (fun n i => if n = i + 1 then (i : ℤ) + 2 else 0) 0 0 0 :=
  ⟨by decide, weightedAreaVectors_lane 2 _ _ _ 0 0 1 (by decide) 0⟩

end NaluWind.Hex27
