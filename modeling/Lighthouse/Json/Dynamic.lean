import Lighthouse.Json.Coerce
/-!
# Documents as loosely typed values

Some settings are kept as the document gave them and only judged where they are used. This
module holds those judgements: the truth of a value (`truthy`), walking over a value
(`iterate`: the items of a list, the keys of an object, the characters of a text), looking up a
key (`require`), membership of a text in a value (`mentions`), the order of a number against an
integer (`ltInt`, `gtInt`), which compares exactly and refuses values that are no numbers, and
values as the keys of a mapping: which may be keys (`asKey`), which are the same key
(`sameKey`) and how keys are ordered (`lessThan`).
-/
namespace Lighthouse.Json

/-- Whether a value counts as true: nonzero numbers, nonempty texts, lists and objects. -/
def truthy : Json → Bool
  | .null => false
  | .bool b => b
  | .int n => n != 0
  | .float x => !(x == 0.0)
  | .str s => !s.isEmpty
  | .arr xs => !xs.isEmpty
  | .obj fs => !fs.isEmpty

def iterate (j : Json) : Outcome (List Json) :=
  match j with
  | .arr xs => .ok xs
  | .obj fs => .ok (fs.map fun p => .str p.1)
  | .str s => .ok (s.toList.map fun c => .str (String.singleton c))
  | other => .error (Fault.type s!"\x27{typeName other}\x27 object is not iterable")

/-- Whether a text is among a value's keys, items or substrings. -/
def mentions (j : Json) (k : String) : Outcome Bool :=
  match j with
  | .obj fs => .ok (fs.any fun p => p.1 == k)
  | .arr xs => .ok (xs.any fun x => match x with
      | .str s => s == k
      | _ => false)
  | .str s => .ok ((s.splitOn k).length > 1)
  | other => .error (Fault.type s!"argument of type \x27{typeName other}\x27 is not iterable")

/-- The value under a key of an object, a key fault when missing. Lists and texts are indexed
by integers only, and other values cannot be indexed at all. -/
def require (j : Json) (k : String) : Outcome Json :=
  match j with
  | .obj _ => match j.get? k with
    | some v => .ok v
    | none => .error ⟨.key, Text.quoted k⟩
  | .arr _ => .error (Fault.type "list indices must be integers or slices, not str")
  | .str _ => .error (Fault.type "string indices must be integers, not \x27str\x27")
  | other => .error (Fault.type s!"\x27{typeName other}\x27 object is not subscriptable")

/-- The value under a key of an object, the default when missing; other values have no keys. -/
def getOr (j : Json) (k : String) (d : Json) : Outcome Json :=
  match j with
  | .obj _ => .ok ((j.get? k).getD d)
  | other => .error ⟨.attribute, s!"\x27{typeName other}\x27 object has no attribute \x27get\x27"⟩

/-- A finite float against an integer, exactly. -/
def floatLtInt (x : Float) (n : Int) : Bool :=
  if x.isNaN then false
  else if x.isInf then x < 0.0
  else
    let r := Binary64.toRatio x
    let num : Int := if r.1 then -(r.2.1 : Int) else r.2.1
    num < n * r.2.2

/-- Whether a number is below an integer; other values cannot be ordered against one. -/
def ltInt (j : Json) (n : Int) : Outcome Bool :=
  match j with
  | .int m => .ok (m < n)
  | .bool b => .ok ((if b then 1 else 0) < n)
  | .float x => .ok (floatLtInt x n)
  | other => .error (Fault.type
      s!"\x27<\x27 not supported between instances of \x27{typeName other}\x27 and \x27int\x27")

/-- Whether a number is above an integer; other values cannot be ordered against one. -/
def gtInt (j : Json) (n : Int) : Outcome Bool :=
  match j with
  | .int m => .ok (m > n)
  | .bool b => .ok ((if b then 1 else 0) > n)
  | .float x => .ok (floatLtInt (-x) (-n))
  | other => .error (Fault.type
      s!"\x27>\x27 not supported between instances of \x27{typeName other}\x27 and \x27int\x27")

/-- A number as an integer (truth values as 0 and 1) or a float; none for other values. -/
def numeric : Json → Option (Int ⊕ Float)
  | .int n => some (.inl n)
  | .bool b => some (.inl (if b then 1 else 0))
  | .float x => some (.inr x)
  | _ => none

/-- Whether `a < b` for two values: numbers compare by value, exactly across integers and floats,
and texts by their characters; any other pair cannot be ordered. -/
def lessThan (a b : Json) : Outcome Bool :=
  match a, b with
  | .str x, .str y => .ok (decide (x < y))
  | _, _ =>
    match numeric a, numeric b with
    | some (.inl m), some (.inl n) => .ok (decide (m < n))
    | some (.inr x), some (.inr y) => .ok (x < y)
    | some (.inr x), some (.inl n) => .ok (floatLtInt x n)
    | some (.inl n), some (.inr x) => .ok (floatLtInt (-x) (-n))
    | _, _ => .error (Fault.type
        s!"\x27<\x27 not supported between instances of \x27{typeName a}\x27 and \x27{typeName b}\x27")

/-- Whether two values are one key of a mapping: numbers equal in value (truth values as 0 and
1), equal texts, or both null. NaN is no key of any other. -/
def sameKey (a b : Json) : Bool :=
  match a, b with
  | .str x, .str y => x == y
  | .null, .null => true
  | _, _ =>
    match numeric a, numeric b with
    | some (.inl m), some (.inl n) => m == n
    | some (.inr x), some (.inr y) => x == y
    | some (.inr x), some (.inl n) | some (.inl n), some (.inr x) =>
      !x.isNaN && !floatLtInt x n && !floatLtInt (-x) (-n)
    | _, _ => false

/-- A value that may key a mapping: lists and objects may not. -/
def asKey (j : Json) : Outcome Json :=
  match j with
  | .arr _ | .obj _ => .error (Fault.type s!"unhashable type: \x27{typeName j}\x27")
  | _ => .ok j

/-- A number as a float for arithmetic; other values are refused with `what`. -/
def realOf (j : Json) (what : String → String) : Outcome Float :=
  match j with
  | .int n => intToFloat n
  | .float x => .ok x
  | .bool b => .ok (if b then 1.0 else 0.0)
  | other => .error (Fault.type (what (typeName other)))

end Lighthouse.Json

namespace Lighthouse.Json

/-- Named settings with defaults, overridden by the fields of an object in their order. The
value must be an object (`qualified` names the settings in that fault) and each key must name
a setting (`short` names them in that fault, which shows the key between quotes as it is). -/
def overrideSettings (qualified short : String) (defaults : List (String × Json)) (given : Json) :
    Outcome (List (String × Json)) :=
  match given with
  | .obj fs =>
    fs.foldlM (fun acc p =>
      if defaults.any (·.1 == p.1) then .ok (insertField acc p.1 p.2)
      else .error (Fault.type
        s!"{short}.__init__() got an unexpected keyword argument \x27{p.1}\x27")) defaults
  | other => .error (Fault.type
      s!"{qualified}() argument after ** must be a mapping, not {typeName other}")

end Lighthouse.Json
