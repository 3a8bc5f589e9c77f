import Lighthouse.Geometry.Transform
import Lighthouse.Proofs.Binary64.Order
/-!
# Rotations that are not numbers

A NaN operand makes a sum, a product or a square root a NaN, and makes an order comparison
false. Carried through the geometry: a rotation vector with a NaN component gives a quaternion
with a NaN component (`ofRotvec_x_isNaN`, whatever `sin` and `cos` return); composing such a
rotation with any other asks `ofQuat` to normalise a quaternion whose length is NaN, which it
refuses (`compose_of_isNaN_x`); so the residual of a slave transform whose rotation vector is not
a number is a fault, whatever the poses it is measured against (`residual_of_isNaN_rotation`).
-/
namespace Lighthouse

namespace Binary64

open Float.Model

theorem unpack_pack_notANumber : (pack .notANumber).unpack = .notANumber := rfl

variable {a b : Float}

theorem isNaN_mul_left (h : a.isNaN = true) (b : Float) : (a * b).isNaN = true := by
  rw [float_isNaN_iff] at h ⊢
  change (pack (UnpackedFloat.mul _ a.toModel.unpack b.toModel.unpack)).unpack = _
  rw [h]
  exact unpack_pack_notANumber

theorem isNaN_mul_right (a : Float) (h : b.isNaN = true) : (a * b).isNaN = true := by
  rw [float_isNaN_iff] at h ⊢
  change (pack (UnpackedFloat.mul _ a.toModel.unpack b.toModel.unpack)).unpack = _
  rw [h]
  cases a.toModel.unpack <;> exact unpack_pack_notANumber

theorem isNaN_add_left (h : a.isNaN = true) (b : Float) : (a + b).isNaN = true := by
  rw [float_isNaN_iff] at h ⊢
  change (pack (UnpackedFloat.add _ a.toModel.unpack b.toModel.unpack)).unpack = _
  rw [h]
  exact unpack_pack_notANumber

theorem isNaN_add_right (a : Float) (h : b.isNaN = true) : (a + b).isNaN = true := by
  rw [float_isNaN_iff] at h ⊢
  change (pack (UnpackedFloat.add _ a.toModel.unpack b.toModel.unpack)).unpack = _
  rw [h]
  cases a.toModel.unpack <;> exact unpack_pack_notANumber

theorem isNaN_div_left (h : a.isNaN = true) (b : Float) : (a / b).isNaN = true := by
  rw [float_isNaN_iff] at h ⊢
  change (pack (UnpackedFloat.div _ a.toModel.unpack b.toModel.unpack)).unpack = _
  rw [h]
  cases b.toModel.unpack <;> exact unpack_pack_notANumber

theorem isNaN_sqrt (h : a.isNaN = true) : a.sqrt.isNaN = true := by
  rw [float_isNaN_iff] at h ⊢
  change (pack (UnpackedFloat.sqrt _ a.toModel.unpack)).unpack = _
  rw [h]
  exact unpack_pack_notANumber

end Binary64

open Binary64

namespace Rotation

/-- The fault of normalising a quaternion whose length is zero or not a number. -/
def zeroNormFault : Fault := Fault.value "Found zero norm quaternions in `quat`."

theorem ofQuat_of_isNaN {x : Float} (hx : x.isNaN = true) (y z w : Float) :
    ofQuat x y z w = .error zeroNormFault := by
  -- the length is the root of `((x * x + y * y) + z * z) + w * w`, NaN from its first term on
  have hn : (x * x + y * y + z * z + w * w).sqrt.isNaN = true :=
    isNaN_sqrt (isNaN_add_left (isNaN_add_left (isNaN_add_left (isNaN_mul_left hx x) _) _) _)
  simp only [ofQuat, hn, Bool.or_true, if_true]
  rfl

/-- A rotation vector with a NaN first component gives a quaternion with a NaN first component:
that component is the vector's, scaled. -/
theorem ofRotvec_x_isNaN {v : Vec3} (h : v.x.isNaN = true) : (ofRotvec v).x.isNaN = true :=
  isNaN_mul_right _ h

/-- Composing a rotation whose first component is NaN with any rotation is refused. -/
theorem compose_of_isNaN_x {p : Rotation} (h : p.x.isNaN = true) (q : Rotation) :
    p.compose q = .error zeroNormFault := by
  -- the first component of the product is `(p.w * q.x + q.w * p.x) + c.x`, NaN through `p.x`
  have hx : (p.w * q.x + q.w * p.x + (p.vec.cross q.vec).x).isNaN = true :=
    isNaN_add_left (isNaN_add_right _ (isNaN_mul_right _ h)) _
  exact ofQuat_of_isNaN hx _ _ _

end Rotation

namespace Transform

/-- The residual of a slave transform whose rotation vector is not a number is a fault, whatever
the poses. -/
theorem residual_of_isNaN_rotation {mTs : Transform} (h : mTs.r.x.isNaN = true)
    (mTt sTt : Transform) : residual mTs mTt sTt = .error Rotation.zeroNormFault := by
  have hc := Rotation.compose_of_isNaN_x (Rotation.ofRotvec_x_isNaN h) sTt.rotation
  simp only [residual, rotation] at hc ⊢
  rw [hc]
  rfl

end Transform

end Lighthouse
