/-!
# Vectors in space

Three floats with the operations the rest of the library needs. Sums of products are formed
left to right, starting from zero, so that every result is one definite float.
-/
namespace Lighthouse

/-- A vector or point in space. -/
structure Vec3 where
  x : Float
  y : Float
  z : Float
  deriving Inhabited

namespace Vec3

def zero : Vec3 := ⟨0.0, 0.0, 0.0⟩

def add (a b : Vec3) : Vec3 := ⟨a.x + b.x, a.y + b.y, a.z + b.z⟩

def sub (a b : Vec3) : Vec3 := ⟨a.x - b.x, a.y - b.y, a.z - b.z⟩

def neg (a : Vec3) : Vec3 := ⟨-a.x, -a.y, -a.z⟩

def scale (s : Float) (a : Vec3) : Vec3 := ⟨s * a.x, s * a.y, s * a.z⟩

/-- The dot product, summed left to right. -/
def dot (a b : Vec3) : Float := a.x * b.x + a.y * b.y + a.z * b.z

def cross (a b : Vec3) : Vec3 :=
  ⟨a.y * b.z - a.z * b.y, a.z * b.x - a.x * b.z, a.x * b.y - a.y * b.x⟩

def norm (a : Vec3) : Float := (a.dot a).sqrt

/-- The components in order. -/
def toList (a : Vec3) : List Float := [a.x, a.y, a.z]

def ofList? : List Float → Option Vec3
  | [x, y, z] => some ⟨x, y, z⟩
  | _ => none

end Vec3

end Lighthouse
