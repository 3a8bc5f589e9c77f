import Lighthouse.Json.Dynamic
/-!
# Solver options

Stopping criteria and resources of a least-squares solve. The options keep the values they were
given; the solver reads each as a number where it first uses it (`SolverOptions.factor` and its kin), so a value of the
wrong kind fails the solve and not the making of the options.
-/
namespace Lighthouse

/-- The options of a solve, as given. -/
structure SolverOptions where
  maxIterations : Json := .int 100
  maxTime : Json := .float 30.0
  threads : Json := .int 1
  debug : Json := .bool false
  functionTolerance : Json := .float 1e-10
  gradientTolerance : Json := .float 1e-12
  parameterTolerance : Json := .float 1e-10
  initialDamping : Json := .float 1e-4
  jacobianStep : Json := .float 1e-7
  deriving Inhabited

namespace SolverOptions

def toFields (o : SolverOptions) : List (String × Json) :=
  [("max_iterations", o.maxIterations), ("max_time", o.maxTime), ("threads", o.threads),
   ("debug", o.debug), ("function_tolerance", o.functionTolerance),
   ("gradient_tolerance", o.gradientTolerance), ("parameter_tolerance", o.parameterTolerance),
   ("initial_damping", o.initialDamping), ("jacobian_step", o.jacobianStep)]

def toJson (o : SolverOptions) : Json := .obj o.toFields

/-- Options from named fields, defaults filling the rest. -/
def ofFields (fs : List (String × Json)) : SolverOptions :=
  let get (k : String) (d : Json) : Json := ((fs.find? (·.1 == k)).map Prod.snd).getD d
  let o : SolverOptions := {}
  { maxIterations := get "max_iterations" o.maxIterations, maxTime := get "max_time" o.maxTime
    threads := get "threads" o.threads, debug := get "debug" o.debug
    functionTolerance := get "function_tolerance" o.functionTolerance
    gradientTolerance := get "gradient_tolerance" o.gradientTolerance
    parameterTolerance := get "parameter_tolerance" o.parameterTolerance
    initialDamping := get "initial_damping" o.initialDamping
    jacobianStep := get "jacobian_step" o.jacobianStep }

/-- Options from an object of named values; an unknown name is refused. -/
def ofJson (j : Json) : Outcome SolverOptions := do
  let fs ← Json.overrideSettings "SolverOptions" "SolverOptions" ({} : SolverOptions).toFields j
  pure (ofFields fs)

end SolverOptions

end Lighthouse
