import SqlConverter.Decimal.Double

namespace SqlConverter.Toml

inductive Float
  | finite (negative : Bool) (size : Decimal.Scaled)
  | infinite (negative : Bool)
  | nan
  deriving DecidableEq, Repr

/-- Of a date, a time or both nothing is kept. A list of tables that were opened one by one is
kept apart from an array. -/
inductive Value
  | string (text : String)
  | integer (n : Int)
  | float (x : Float)
  | boolean (b : Bool)
  | moment
  | array (items : List Value)
  | table (entries : List (String × Value))
  | tables (items : List (List (String × Value)))
  deriving Inhabited

abbrev Table := List (String × Value)

def Float.sign (negative : Bool) : String := if negative then "-" else ""

/-- The text of the nearest double, without an exponent. -/
def Float.text : Float → String
  | .finite negative size =>
    match Decimal.nearest size with
    | some x => sign negative ++ (Decimal.shortest x).positional
    | none => sign negative ++ "inf"
  | .infinite negative => sign negative ++ "inf"
  | .nan => "NaN"

/-- What a value is called when a table was wanted. -/
def Value.kind : Value → String
  | .string _ => "string"
  | .integer _ => "integer"
  | .float _ => "float"
  | .boolean _ => "boolean"
  | .moment => "datetime"
  | .array _ => "array"
  | .table _ => "table"
  | .tables _ => "array of tables"

end SqlConverter.Toml
