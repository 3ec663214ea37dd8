import WalletLoop.Toml.Scalar
import WalletLoop.Toml.Token

namespace WalletLoop.Toml.Quoted
open Token (isBlank isForbidden lineEnd?)

abbrev Read (α : Type) := Option (α × List Char)

def hexValue (s : List Char) : Option Nat :=
  s.foldl (fun n c => n.bind fun n => (Scalar.digit? 16 c).map (16 * n + ·)) (some 0)

def escapedNumber (count : Nat) (s : List Char) : Read Char :=
  if (s.take count).length < count then none
  else
    (hexValue (s.take count)).bind fun n =>
      if n.isValidChar then some (Char.ofNat n, s.drop count) else none

def escaped : List Char → Read Char
  | 'b' :: s => some ('\x08', s)
  | 't' :: s => some ('\t', s)
  | 'n' :: s => some ('\n', s)
  | 'f' :: s => some ('\x0c', s)
  | 'r' :: s => some ('\r', s)
  | 'e' :: s => some ('\x1b', s)
  | '"' :: s => some ('"', s)
  | '\\' :: s => some ('\\', s)
  | 'x' :: s => escapedNumber 2 s
  | 'u' :: s => escapedNumber 4 s
  | 'U' :: s => escapedNumber 8 s
  | _ => none

def basicText (fuel : Nat) (s : List Char) : Read (List Char) :=
  match fuel, s with
  | 0, _ => none
  | _, [] => none
  | fuel + 1, c :: s =>
    if c = '"' then some ([], s)
    else if c = '\\' then
      (escaped s).bind fun (c, s) => (basicText fuel s).map fun (text, s) => (c :: text, s)
    else if isForbidden c then none
    else (basicText fuel s).map fun (text, s) => (c :: text, s)

def literalText : List Char → Read (List Char)
  | [] => none
  | c :: s =>
    if c = '\'' then some ([], s)
    else if isForbidden c then none
    else (literalText s).map fun (text, s) => (c :: text, s)

/-- A backslash at the end of a line takes away the line end with all blanks and line ends after
it. -/
def skipFold (s : List Char) : Option (List Char) :=
  (lineEnd? (s.dropWhile isBlank)).map fun s =>
    let isSpace := fun c => isBlank c || c = '\n'
    s.dropWhile fun c => isSpace c || c = '\r'

def validReturns : List Char → Bool
  | [] => true
  | '\r' :: '\n' :: s => validReturns s
  | '\r' :: _ => false
  | _ :: s => validReturns s

/-- Closing quotes of a text of several lines: two more quotes can belong to the text. -/
def closing (q : Char) (s : List Char) : Option (Nat × List Char) :=
  let count := (s.takeWhile (· = q)).length
  if count < 3 then none
  else if count ≤ 5 then some (count - 3, s.drop count)
  else some (2, s.drop 5)

def linesText (q : Char) (escapes : Bool) (fuel : Nat) (s : List Char) : Read (List Char) :=
  match fuel with
  | 0 => none
  | fuel + 1 =>
    match closing q s with
    | some (extra, rest) => some (List.replicate extra q, rest)
    | none =>
      match s with
      | [] => none
      | c :: rest =>
        if escapes && c = '\\' then
          match skipFold rest with
          | some after =>
            if validReturns (rest.take (rest.length - after.length)) then
              linesText q escapes fuel after
            else none
          | none =>
            (escaped rest).bind fun (c, s) =>
              (linesText q escapes fuel s).map fun (text, s) => (c :: text, s)
        else if c = '\n' then (linesText q escapes fuel rest).map fun (text, s) => ('\n' :: text, s)
        else if c = '\r' then
          match rest with
          | '\n' :: rest =>
            (linesText q escapes fuel rest).map fun (text, s) => ('\r' :: '\n' :: text, s)
          | _ => none
        else if isForbidden c then none
        else (linesText q escapes fuel rest).map fun (text, s) => (c :: text, s)

def afterOpening (s : List Char) : List Char := (lineEnd? s).getD s

def text? (form : Form) (s : List Char) : Option String :=
  let read : Read (List Char) :=
    match form with
    | .basic => basicText (s.length + 1) s
    | .literal => literalText s
    | .basicLines => linesText '"' true (s.length + 1) (afterOpening s)
    | .literalLines => linesText '\'' false (s.length + 1) (afterOpening s)
  match read with
  | some (text, []) => some (String.ofList text)
  | _ => none

end WalletLoop.Toml.Quoted
