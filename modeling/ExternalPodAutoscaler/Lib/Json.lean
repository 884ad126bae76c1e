/-
JSON documents.
-/
import Mathlib.Data.Int.Notation
import Mathlib.Data.Rat.Init

namespace ExternalPodAutoscaler.Lib

/-- A JSON value.  The names of the fields of an object differ. -/
inductive Json where
  | null
  | bool (b : Bool)
  | int (n : ℤ)
  /-- A number that is not written as an integer. -/
  | float (x : ℚ)
  | str (s : String)
  | arr (elems : List Json)
  | obj (fields : List (String × Json))

end ExternalPodAutoscaler.Lib
