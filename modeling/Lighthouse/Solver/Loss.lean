/-!
# The Huber loss

Residual blocks of the registration carry a Huber loss of scale `c`: for a squared residual
norm `s` it is `s` itself up to `s = c²` and `2c√s − c²` beyond, growing linearly in the norm.
A scale that is not positive turns the loss off. `huberWeight` is the weight of the
reweighted normal equations, `ρ'(s)`: one inside, `c / √s` beyond.
-/
namespace Lighthouse

def huberLoss (s c : Float) : Float :=
  if c ≤ 0.0 ∨ s ≤ c * c then s else 2.0 * c * s.sqrt - c * c

def huberWeight (s c : Float) : Float :=
  if c ≤ 0.0 ∨ s ≤ c * c then 1.0 else c / s.sqrt

end Lighthouse
