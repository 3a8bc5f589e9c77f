import Lighthouse.Geometry.Vec3
/-!
# A sensor constellation

Twelve photodiodes, in meters in the tracker frame, not all in one plane: four on the axes of
the base, four raised at the diagonals, two on top and two below.
-/
namespace Lighthouse

/-- The default constellation of a synthetic tracker. -/
def defaultSensors : List Vec3 :=
  [⟨0.050, 0.000, 0.000⟩, ⟨-0.050, 0.000, 0.000⟩, ⟨0.000, 0.050, 0.000⟩,
   ⟨0.000, -0.050, 0.000⟩, ⟨0.035, 0.035, 0.020⟩, ⟨-0.035, 0.035, 0.020⟩,
   ⟨0.035, -0.035, 0.020⟩, ⟨-0.035, -0.035, 0.020⟩, ⟨0.020, 0.000, 0.040⟩,
   ⟨-0.020, 0.000, 0.040⟩, ⟨0.000, 0.025, -0.030⟩, ⟨0.000, -0.025, -0.030⟩]

end Lighthouse
