/-!
# JSON documents

`Json` is the document model of configuration files, calibration files, pulse logs and the
messages exchanged with callers. Numbers keep whether they were written as integers, and an
object keeps its fields in insertion order with one value per key: `Json.insertField`
replaces the value of a key already present in place, as a dictionary does.
-/
namespace Lighthouse

/-- A JSON document. -/
inductive Json where
  | null
  | bool (b : Bool)
  | int (n : Int)
  | float (x : Float)
  | str (s : String)
  | arr (items : List Json)
  | obj (fields : List (String × Json))
  deriving Inhabited

namespace Json

/-- Sets a key of a field list: in place when present, else at the end. -/
def insertField (fields : List (String × Json)) (k : String) (v : Json) :
    List (String × Json) :=
  if fields.any (fun p => p.1 == k) then
    fields.map (fun p => if p.1 == k then (k, v) else p)
  else fields ++ [(k, v)]

/-- An object built from fields in order, a later key replacing an earlier one in place. -/
def ofFields (fields : List (String × Json)) : Json :=
  .obj (fields.foldl (fun acc p => insertField acc p.1 p.2) [])

/-- The value under a key, when the document is an object holding it. -/
def get? (j : Json) (k : String) : Option Json :=
  match j with
  | .obj fs => (fs.find? (fun p => p.1 == k)).map Prod.snd
  | _ => none

def has (j : Json) (k : String) : Bool := (j.get? k).isSome

/-- The value under a key, or `null`. -/
def getD (j : Json) (k : String) : Json := (j.get? k).getD .null

/-- The fields of an object, or none. -/
def fields (j : Json) : List (String × Json) :=
  match j with
  | .obj fs => fs
  | _ => []

/-- The items of an array, or none. -/
def items (j : Json) : List Json :=
  match j with
  | .arr xs => xs
  | _ => []

def str? (j : Json) : Option String :=
  match j with
  | .str s => some s
  | _ => none

def int? (j : Json) : Option Int :=
  match j with
  | .int n => some n
  | _ => none

def bool? (j : Json) : Option Bool :=
  match j with
  | .bool b => some b
  | _ => none

/-- A number as a float: integers convert, and the texts `NaN`, `Infinity` and `-Infinity`
stand for the non-finite values. -/
def num? (j : Json) (ofInt : Int → Float) : Option Float :=
  match j with
  | .float x => some x
  | .int n => some (ofInt n)
  | .str "NaN" => some (0.0 / 0.0)
  | .str "Infinity" => some (1.0 / 0.0)
  | .str "-Infinity" => some (-(1.0 / 0.0))
  | _ => none

def set (j : Json) (k : String) (v : Json) : Json :=
  .obj (insertField j.fields k v)

def erase (j : Json) (k : String) : Json :=
  match j with
  | .obj fs => .obj (fs.filter (fun p => p.1 != k))
  | other => other

end Json

end Lighthouse
