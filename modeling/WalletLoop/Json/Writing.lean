import WalletLoop.Decimal.Numeral
import WalletLoop.Text.Quoted

namespace WalletLoop

/-- A text of a JSON document; `none` when it names halves of surrogate pairs on their own, which
stand for no character. -/
abbrev JsonText := Option String

inductive Json where
  | null
  | flag (b : Bool)
  | number (n : Numeral)
  | text (s : JsonText)
  | array (items : List Json)
  | object (members : List (JsonText × Json))

namespace Json

def ofString (s : String) : Json := .text (some s)

def ofNat (n : Nat) : Json := .number (.ofNat n)

def record (members : List (String × Json)) : Json :=
  .object (members.map fun m => (some m.1, m.2))

def escape (c : Char) : List Char :=
  if c = '"' then ['\\', '"']
  else if c = '\\' then ['\\', '\\']
  else if c.toNat = 8 then ['\\', 'b']
  else if c = '\t' then ['\\', 't']
  else if c = '\n' then ['\\', 'n']
  else if c.toNat = 12 then ['\\', 'f']
  else if c = '\r' then ['\\', 'r']
  else if c.toNat < 32 then
    ['\\', 'u', '0', '0', Text.hexDigit (c.toNat / 16), Text.hexDigit (c.toNat % 16)]
  else [c]

def writeText : JsonText → List Char
  | some s => '"' :: s.toList.flatMap escape ++ ['"']
  | none => "\"\\ud800\"".toList

/-- What stands between two tokens that an indented document keeps apart: at a depth, a new line
with two blanks for each level; on one line, nothing. -/
def gap : Option Nat → List Char
  | none => []
  | some depth => '\n' :: List.replicate (2 * depth) ' '

def deeper (depth : Option Nat) : Option Nat := depth.map (· + 1)

def colon (depth : Option Nat) : List Char := if depth.isSome then [':', ' '] else [':']

mutual

def write (depth : Option Nat) : Json → List Char
  | .null => "null".toList
  | .flag b => (if b then "true" else "false").toList
  | .number n => n.text true
  | .text s => writeText s
  | .array [] => ['[', ']']
  | .array (item :: items) =>
    '[' :: gap (deeper depth) ++ write (deeper depth) item ++ writeItems (deeper depth) items ++
      gap depth ++ [']']
  | .object [] => ['\x7b', '\x7d']
  | .object ((name, value) :: members) =>
    '\x7b' :: gap (deeper depth) ++ writeText name ++ colon depth ++ write (deeper depth) value ++
      writeMembers (deeper depth) members ++ gap depth ++ ['\x7d']

def writeItems (depth : Option Nat) : List Json → List Char
  | [] => []
  | item :: items => ',' :: gap depth ++ write depth item ++ writeItems depth items

def writeMembers (depth : Option Nat) : List (JsonText × Json) → List Char
  | [] => []
  | (name, value) :: members =>
    ',' :: gap depth ++ writeText name ++ colon depth ++ write depth value ++
      writeMembers depth members

end

def compact (j : Json) : String := String.ofList (j.write none)

def pretty (j : Json) : String := String.ofList (j.write (some 0))

mutual

def isNamed : Json → Bool
  | .array items => areNamed items
  | .object members => membersNamed members
  | _ => true

def areNamed : List Json → Bool
  | [] => true
  | item :: items => item.isNamed && areNamed items

def membersNamed : List (JsonText × Json) → Bool
  | [] => true
  | (name, value) :: members => name.isSome && value.isNamed && membersNamed members

end

/-- The text to print. A value with a name that is no proper text has none. -/
def printed? (j : Json) : Option String := if j.isNamed then some j.pretty else none

end Json
end WalletLoop
