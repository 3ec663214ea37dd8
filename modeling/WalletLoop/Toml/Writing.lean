import WalletLoop.Decimal.Numeral
import WalletLoop.Preferences.Table
import WalletLoop.Toml.Form

namespace WalletLoop.Toml

def isControl (c : Char) : Bool := (c.toNat < 0x20 && c != '\t' && c != '\n') || c.toNat == 0x7f

/-- Whether `c` occurs `count` times in a row; `seen` of them stand just before the text. -/
def hasRun (c : Char) (count : Nat) (seen : Nat) : List Char → Bool
  | [] => decide (count ≤ seen)
  | d :: rest => decide (count ≤ seen) || hasRun c count (if d = c then seen + 1 else 0) rest

def form (s : List Char) : Form :=
  let plain := !s.any isControl
  let noBackslash := !s.contains '\\'
  if plain && noBackslash && !s.contains '"' && !s.contains '\n' then .basic
  else if plain && !s.contains '\'' && !s.contains '\n' then .literal
  else if plain && noBackslash && !hasRun '"' 3 0 s then .basicLines
  else if plain && !hasRun '\'' 3 0 s then .literalLines
  else if s.contains '\n' then .basicLines
  else .basic

def hexUpper (n : Nat) : Char := if n < 10 then Char.ofNat (48 + n) else Char.ofNat (55 + n)

def escape (c : Char) : List Char :=
  if c = '\x08' then ['\\', 'b']
  else if c = '\t' then ['\\', 't']
  else if c = '\n' then ['\\', 'n']
  else if c = '\x0c' then ['\\', 'f']
  else if c = '\r' then ['\\', 'r']
  else if c = '\\' then ['\\', '\\']
  else if c = '"' then ['\\', '"']
  else if isControl c then
    ['\\', 'u', '0', '0', hexUpper (c.toNat / 16), hexUpper (c.toNat % 16)]
  else [c]

/-- The inside of a text of several lines: line feeds stay, and of quotes in a row every third is
escaped; `quotes` stand unescaped just before. -/
def escapeLines (quotes : Nat) : List Char → List Char
  | [] => []
  | c :: rest =>
    if c = '\n' then '\n' :: escapeLines 0 rest
    else if c = '"' then
      if quotes = 2 then '\\' :: '"' :: escapeLines 0 rest else '"' :: escapeLines (quotes + 1) rest
    else escape c ++ escapeLines 0 rest

def opening (s : List Char) : List Char := if s.contains '\n' then ['\n'] else []

def quotedAs (s : List Char) : Form → List Char
  | .basic => '"' :: s.flatMap escape ++ ['"']
  | .literal => '\'' :: s ++ ['\'']
  | .basicLines => ['"', '"', '"'] ++ opening s ++ escapeLines 0 s ++ ['"', '"', '"']
  | .literalLines => ['\'', '\'', '\''] ++ opening s ++ s ++ ['\'', '\'', '\'']

def writeText (s : List Char) : List Char := quotedAs s (form s)

def keyForm (s : List Char) : Option Form :=
  if s ≠ [] ∧ s.all isBare then none
  else
    let plain := !s.any fun c => isControl c || c == '\n'
    if plain && !s.contains '\\' && !s.contains '"' then some .basic
    else if plain && !s.contains '\'' then some .literal
    else some .basic

def writeKey (s : List Char) : List Char :=
  match keyForm s with
  | none => s
  | some f => quotedAs s f

def writeValue : Preference → List Char
  | .flag b => if b then "true".toList else "false".toList
  | .number n => decimalInt n.toInt
  | .text s => writeText s.toList

def writeEntry (e : Entry) : List Char :=
  writeKey e.1.toList ++ [' ', '=', ' '] ++ writeValue e.2 ++ ['\n']

def writeTable (t : PreferenceTable) : String := String.ofList (t.entries.flatMap writeEntry)

end WalletLoop.Toml
