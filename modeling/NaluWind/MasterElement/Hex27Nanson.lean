import NaluWind.MasterElement.Hex27AreaVector
import Mathlib.LinearAlgebra.Matrix.Adjugate
/-!
  What the Hex27 area vectors ARE: Nanson's formula.

  `area_vector<direction>` never builds the full 3×3 Jacobian — only the two columns of the
  in-surface directions, and their cross product.  This file ties that to the volume metric:
  at every integration point of a correctly laid out `ipInfo_`, the weighted area vector is the
  cofactor column `σ_d · w · cof(J) e_d` of the full parametric Jacobian (`cof J = (adj J)ᵀ`),
  so it is orthogonal to the two in-surface tangents `J e_k` and meets the transverse tangent
  `J e_d` in `σ_d · w · det J` (`weightedAreaVectors_nanson`).  The sign `σ_d` is `+1` for
  `S` and `-1` for `T`, `U`: the order in which `s1Component`/`s2Component` pick the columns.

  The proof is two facts: each direction's cross product is a row of the adjugate
  (`areaVectorOf_eq_adjugate`, one `ring` per entry), and `adj J * J = det J • 1`.
-/

namespace NaluWind.Hex27

open Jacobian Direction Matrix

section Nanson

variable {K α : Type*} [CommRing K] [CommRing α] [Algebra K α]
  (referenceGradWeights : Nat → Nat → Nat → α) (coords : Nat → Nat → α)

/-- The full parametric Jacobian at `ip`:
    `J[i][j] = Σ_n referenceGradWeights(ip, n, j) * coords(n, i)`. -/
def jacobian (ip : Nat) : Matrix (Fin 3) (Fin 3) α :=
  Matrix.of fun i j => jacobianColumn referenceGradWeights coords ip j i

/-- `σ_d`: `+1` for `S`, `-1` for `T` and `U`. -/
def orientation : Direction → α
  | .S_DIRECTION => 1
  | .T_DIRECTION => -1
  | .U_DIRECTION => -1

/-- Each direction's cross product of in-surface columns is `σ_d` times row `d` of `adj J`,
    that is, `σ_d` times the cofactor column `cof(J) e_d`. -/
theorem areaVectorOf_eq_adjugate (direction : Direction) (ip : Nat) (c : Fin 3) :
    areaVectorOf referenceGradWeights coords direction ip c =
      orientation direction *
        (jacobian referenceGradWeights coords ip).adjugate direction.toFin c := by
  cases direction <;> fin_cases c <;>
    simp [areaVectorOf, cross_apply, adjugate_fin_three, jacobian, s1Component, s2Component,
      Direction.toNat, Direction.toFin, orientation] <;> ring

/-- **Nanson's formula for the Hex27 area vectors.**  If `ipInfo_` is laid out as the
    `ThrowAssert`s check, then at every `ip < 216`, with `d` its direction, `w` its weight and
    `J` the full parametric Jacobian, `areav(ip, ·) = w σ_d cof(J) e_d`; equivalently
    `areav(ip, ·) · J e_k` is `σ_d w det J` for `k = d` and `0` for the two in-surface `k`. -/
theorem weightedAreaVectors_nanson (ipInfo : Nat → ContourData K)
    (hlayout : ipInfoLayoutOk ipInfo) (areav : Nat → Nat → α) {ip : Nat} (hip : ip < numScsIp) :
    (∀ c : Fin 3, weightedAreaVectors ipInfo referenceGradWeights coords areav ip c =
      algebraMap K α (ipInfo ip).weight * orientation (ipInfo ip).direction *
        (jacobian referenceGradWeights coords ip).adjugate (ipInfo ip).direction.toFin c) ∧
    ∀ k : Fin 3,
      ∑ c : Fin 3, weightedAreaVectors ipInfo referenceGradWeights coords areav ip c *
          jacobian referenceGradWeights coords ip c k =
      if k = (ipInfo ip).direction.toFin then
        orientation (ipInfo ip).direction * algebraMap K α (ipInfo ip).weight *
          (jacobian referenceGradWeights coords ip).det
      else 0 := by
  have hrow : ∀ c : Fin 3, weightedAreaVectors ipInfo referenceGradWeights coords areav ip c =
      algebraMap K α (ipInfo ip).weight * orientation (ipInfo ip).direction *
        (jacobian referenceGradWeights coords ip).adjugate (ipInfo ip).direction.toFin c := by
    intro c
    rw [weightedAreaVectors_apply _ _ _ _ hip, hlayout ip hip, areaVectorOf_eq_adjugate]
    ring
  refine ⟨hrow, fun k => ?_⟩
  have hadj := congrFun (congrFun (adjugate_mul (jacobian referenceGradWeights coords ip))
    (ipInfo ip).direction.toFin) k
  simp only [mul_apply, smul_apply, one_apply, smul_eq_mul] at hadj
  simp only [hrow, mul_assoc, ← Finset.mul_sum, hadj]
  by_cases h : k = (ipInfo ip).direction.toFin
  · rw [if_pos h.symm, if_pos h]; ring
  · rw [if_neg (Ne.symm h), if_neg h, mul_zero, mul_zero, mul_zero]

/-- The box with sides `2`, `3`, `4` — nodes `1`, `2`, `3` carry the three parametric
    directions, so its Jacobian is `diag(2, 3, 4)` — at the first integration point. -/
theorem weightedAreaVectors_nanson_unit_weights :
    ipInfoLayoutOk (fun ip => (⟨layoutDirection ip, 1⟩ : ContourData ℤ)) ∧ 0 < numScsIp ∧
      weightedAreaVectors (fun ip => (⟨layoutDirection ip, 1⟩ : ContourData ℤ))
          (fun _ n d => if n = d + 1 then 1 else 0)
          (fun n i => if n = i + 1 then (i : ℤ) + 2 else 0) 0 0 0 =
        1 * orientation U_DIRECTION * (jacobian (fun _ n d => if n = d + 1 then 1 else 0)
          (fun n i => if n = i + 1 then (i : ℤ) + 2 else 0) 0).adjugate U_DIRECTION.toFin 0 :=
  ⟨fun _ _ => rfl, by decide,
    (weightedAreaVectors_nanson _ _ _ (fun _ _ => rfl) 0 (by decide)).1 0⟩

end Nanson

end NaluWind.Hex27
