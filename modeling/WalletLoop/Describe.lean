import WalletLoop.Decimal.Numeral
import WalletLoop.Text.Quoted

namespace WalletLoop.Describe

def applied (name : String) : List String → String
  | [] => name
  | arguments => name ++ "(" ++ String.intercalate ", " arguments ++ ")"

def record (name : String) (fields : List (String × String)) : String :=
  name ++ " \x7b " ++ String.intercalate ", " (fields.map fun field => field.1 ++ ": " ++ field.2)
    ++ " \x7d"

def list (items : List String) : String := "[" ++ String.intercalate ", " items ++ "]"

def optional : Option String → String
  | none => "None"
  | some text => applied "Some" [text]

def map (entries : List (String × String)) : String :=
  "\x7b" ++ String.intercalate ", " (entries.map fun entry => entry.1 ++ ": " ++ entry.2) ++ "\x7d"

def flag (b : Bool) : String := if b then "true" else "false"

def number (n : Nat) : String := decimalText n

end WalletLoop.Describe
