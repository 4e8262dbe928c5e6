/-!
The written forms shared by reports and log lines: hexadecimal numbers, lists
and records of named fields.
-/

namespace FuelGauge.Text

/-- Lower-case hexadecimal with its radix mark and no padding. -/
def hex (value : Nat) : String :=
  "0x" ++ String.ofList (Nat.toDigits 16 value)

def list (items : List String) : String :=
  "[" ++ ", ".intercalate items ++ "]"

def record (name : String) (fields : List (String × String)) : String :=
  name ++ " \x7b " ++ ", ".intercalate (fields.map fun field => field.1 ++ ": " ++ field.2)
    ++ " \x7d"

end FuelGauge.Text
