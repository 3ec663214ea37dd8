import WalletLoop.Json.Writing

namespace WalletLoop.Json

def isBlank (c : Char) : Bool := c == ' ' || c == '\t' || c == '\n' || c == '\r'

def skipBlanks (s : List Char) : List Char := s.dropWhile isBlank

def expect : List Char → List Char → Option (List Char)
  | [], s => some s
  | _ :: _, [] => none
  | c :: word, d :: s => if c = d then expect word s else none

def hexValue? (c : Char) : Option Nat :=
  if '0' ≤ c ∧ c ≤ '9' then some (c.toNat - 48)
  else if 'a' ≤ c ∧ c ≤ 'f' then some (c.toNat - 87)
  else if 'A' ≤ c ∧ c ≤ 'F' then some (c.toNat - 55)
  else none

def readUnit : List Char → Option (Nat × List Char)
  | a :: b :: c :: d :: s =>
    (hexValue? a).bind fun a => (hexValue? b).bind fun b =>
      (hexValue? c).bind fun c => (hexValue? d).map fun d =>
        (((a * 16 + b) * 16 + c) * 16 + d, s)
  | _ => none

def isHigh (n : Nat) : Bool := decide (0xD800 ≤ n ∧ n < 0xDC00)

def isLow (n : Nat) : Bool := decide (0xDC00 ≤ n ∧ n < 0xE000)

def readLow : List Char → Option (Nat × List Char)
  | '\\' :: 'u' :: s =>
    (readUnit s).bind fun (n, s) => if isLow n then some (n, s) else none
  | _ => none

/-- Reads an escape by number, after its letter: the character, unless it is a half without its
other half. -/
def readNumbered (s : List Char) : Option (Option Char × List Char) :=
  (readUnit s).map fun (n, s) =>
    if isHigh n then
      match readLow s with
      | some (low, s) => (some (Char.ofNat (0x10000 + (n - 0xD800) * 1024 + (low - 0xDC00))), s)
      | none => (none, s)
    else if isLow n then (none, s)
    else (some (Char.ofNat n), s)

def readEscape : List Char → Option (Option Char × List Char)
  | '"' :: s => some ('"', s)
  | '\\' :: s => some ('\\', s)
  | '/' :: s => some ('/', s)
  | 'b' :: s => some ('\x08', s)
  | 'f' :: s => some ('\x0c', s)
  | 'n' :: s => some ('\n', s)
  | 'r' :: s => some ('\r', s)
  | 't' :: s => some ('\t', s)
  | 'u' :: s => readNumbered s
  | _ => none

def readChars : Nat → List Char → Option (Option (List Char) × List Char)
  | 0, _ => none
  | _ + 1, [] => none
  | bound + 1, c :: s =>
    if c = '"' then some (some [], s)
    else if c = '\\' then
      (readEscape s).bind fun (c, s) => (readChars bound s).map fun (cs, s) =>
        (c.bind fun c => cs.map (c :: ·), s)
    else if c.toNat < 32 then none
    else (readChars bound s).map fun (cs, s) => (cs.map (c :: ·), s)

def readText (s : List Char) : Option (JsonText × List Char) :=
  (readChars (s.length + 1) s).map fun (cs, s) => (cs.map String.ofList, s)

mutual

def readValue : Nat → List Char → Option (Json × List Char)
  | 0, _ => none
  | bound + 1, s =>
    match skipBlanks s with
    | 'n' :: s => (expect ['u', 'l', 'l'] s).map fun s => (.null, s)
    | 't' :: s => (expect ['r', 'u', 'e'] s).map fun s => (.flag true, s)
    | 'f' :: s => (expect ['a', 'l', 's', 'e'] s).map fun s => (.flag false, s)
    | '"' :: s => (readText s).map fun (t, s) => (.text t, s)
    | '[' :: s =>
      match skipBlanks s with
      | ']' :: s => some (.array [], s)
      | s => (readItems bound s).map fun (items, s) => (.array items, s)
    | '\x7b' :: s =>
      match skipBlanks s with
      | '\x7d' :: s => some (.object [], s)
      | s => (readMembers bound s).map fun (members, s) => (.object members, s)
    | s => (Numeral.read s).map fun (n, s) => (.number n, s)

def readItems : Nat → List Char → Option (List Json × List Char)
  | 0, _ => none
  | bound + 1, s =>
    (readValue bound s).bind fun (item, s) =>
      match skipBlanks s with
      | ']' :: s => some ([item], s)
      | ',' :: s => (readItems bound s).map fun (items, s) => (item :: items, s)
      | _ => none

def readMembers : Nat → List Char → Option (List (JsonText × Json) × List Char)
  | 0, _ => none
  | bound + 1, s =>
    match skipBlanks s with
    | '"' :: s =>
      (readText s).bind fun (name, s) =>
        match skipBlanks s with
        | ':' :: s =>
          (readValue bound s).bind fun (value, s) =>
            match skipBlanks s with
            | '\x7d' :: s => some ([(name, value)], s)
            | ',' :: s => (readMembers bound s).map fun (members, s) => ((name, value) :: members, s)
            | _ => none
        | _ => none
    | _ => none

end

def read? (text : String) : Option Json :=
  let s := text.toList
  (readValue (2 * s.length + 2) s).bind fun (j, s) => if skipBlanks s = [] then some j else none

end WalletLoop.Json
