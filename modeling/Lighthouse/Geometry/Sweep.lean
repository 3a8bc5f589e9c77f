import Lighthouse.Geometry.Transform
import Lighthouse.Binary64.Arctangent
/-!
# Sweep angles of points

A lighthouse at pose `vTl` sees a point at the two sweep angles `atan2(x, z)` and `atan2(y, z)`
of the point in the lighthouse frame, each taken as the vector routine takes it.
-/
namespace Lighthouse

/-- The sweep angles at which a lighthouse sees a point given in the outer frame. -/
def sweepAngles (vTl : Transform) (p : Vec3) : Float × Float :=
  let q := vTl.invert.applyTo p
  (Binary64.arcTangent2 q.x q.z, Binary64.arcTangent2 q.y q.z)

end Lighthouse
