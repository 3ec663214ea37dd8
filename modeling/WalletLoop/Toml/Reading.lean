import WalletLoop.Toml.Quoted

/-!
Reading TOML: how tokens make up keys, values and lines. Every function takes the tokens that are
left and gives back what it read with what is left then; `none` stands for tokens in a wrong order,
which spoil the whole document before anything in it is looked at.

A key or a value that is missing where its place is clear, as in `a =` or `[a.]`, is not a wrong
order: it counts as a key or a value that is none, like one that breaks its own rules.
-/

namespace WalletLoop.Toml

abbrev Read (α : Type) := Option (α × List Token)

def skipBlanks : List Token → List Token
  | .blanks _ :: ts => skipBlanks ts
  | ts => ts

def skipSpace : List Token → List Token
  | .blanks _ :: ts => skipSpace ts
  | .lineEnd :: ts => skipSpace ts
  | ts => ts

def bareKey (s : List Char) : WrittenKey :=
  if s ≠ [] ∧ s.all isBare then some (String.ofList s) else none

def quotedKey (form : Form) (s : List Char) : WrittenKey :=
  match form with
  | .basic | .literal => Quoted.text? form s
  | .basicLines | .literalLines => none

def consKey (key : WrittenKey) (r : List WrittenKey × List Token) : List WrittenKey × List Token :=
  (key :: r.1, r.2)

def moreKeys (bound : Nat) (ts : List Token) : List WrittenKey × List Token :=
  match bound, skipBlanks ts with
  | bound + 1, .dot :: ts =>
    match skipBlanks ts with
    | .word s :: ts => consKey (bareKey s) (moreKeys bound ts)
    | .quoted form s :: ts => consKey (quotedKey form s) (moreKeys bound ts)
    | ts => consKey none (moreKeys bound ts)
  | _, ts => ([], ts)

def keys (ts : List Token) : List WrittenKey × List Token :=
  match ts with
  | .word s :: ts => consKey (bareKey s) (moreKeys ts.length ts)
  | .quoted form s :: ts => consKey (quotedKey form s) (moreKeys ts.length ts)
  | ts => consKey none (moreKeys ts.length ts)

def joinWord (s : List Char) (r : List Char × List Token) : List Char × List Token :=
  (s ++ r.1, r.2)

/-- A value without quotes goes on through dots, and through blanks that stand before more of it. -/
def plainWord : List Token → List Char × List Token
  | .word s :: ts => joinWord s (plainWord ts)
  | .dot :: ts => joinWord ['.'] (plainWord ts)
  | .blanks b :: .word s :: ts => joinWord (b ++ s) (plainWord ts)
  | .blanks b :: .dot :: ts => joinWord (b ++ ['.']) (plainWord ts)
  | ts => ([], ts)

mutual

def value (fuel depth : Nat) (ts : List Token) : Read Value :=
  match fuel with
  | 0 => none
  | fuel + 1 =>
    match ts with
    | .quoted form s :: ts => some (.leaf ((Quoted.text? form s).map .text), ts)
    | .openBracket :: ts =>
      if depth < depthLimit then
        (values fuel (depth + 1) ts).map fun (values, ts) => (.brackets values, ts)
      else none
    | .openBrace :: ts =>
      if depth < depthLimit then
        (pairs fuel (depth + 1) ts).map fun (pairs, ts) => (.braces pairs, ts)
      else none
    | .word _ :: _ | .dot :: _ =>
      let (s, ts) := plainWord ts
      some (.leaf (Scalar.item? s), ts)
    | _ => none

def values (fuel depth : Nat) (ts : List Token) : Read (List Value) :=
  match fuel with
  | 0 => none
  | fuel + 1 =>
    match skipSpace ts with
    | .closeBracket :: ts => some ([], ts)
    | ts =>
      (value fuel depth ts).bind fun (first, ts) =>
        match skipSpace ts with
        | .comma :: ts => (values fuel depth ts).map fun (rest, ts) => (first :: rest, ts)
        | .closeBracket :: ts => some ([first], ts)
        | _ => none

def pairs (fuel depth : Nat) (ts : List Token) : Read (List (List WrittenKey × Value)) :=
  match fuel with
  | 0 => none
  | fuel + 1 =>
    match skipSpace ts with
    | .closeBrace :: ts => some ([], ts)
    | .word s :: ts => pair fuel depth (.word s :: ts)
    | .quoted form s :: ts => pair fuel depth (.quoted form s :: ts)
    | .dot :: ts => pair fuel depth (.dot :: ts)
    | .equals :: ts => pair fuel depth (.equals :: ts)
    | _ => none

def pair (fuel depth : Nat) (ts : List Token) : Read (List (List WrittenKey × Value)) :=
  match fuel with
  | 0 => none
  | fuel + 1 =>
    let (path, ts) := keys ts
    let assigned : Read Value :=
      match skipSpace ts with
      | .equals :: ts =>
        match skipSpace ts with
        | .comma :: ts => some (.leaf none, .comma :: ts)
        | .closeBrace :: ts => some (.leaf none, .closeBrace :: ts)
        | ts => value fuel depth ts
      | .comma :: ts => some (.leaf none, .comma :: ts)
      | .closeBrace :: ts => some (.leaf none, .closeBrace :: ts)
      | _ => none
    assigned.bind fun (first, ts) =>
      match skipSpace ts with
      | .comma :: ts => (pairs fuel depth ts).map fun (rest, ts) => ((path, first) :: rest, ts)
      | .closeBrace :: ts => some ([(path, first)], ts)
      | _ => none

end

def header (isArray : Bool) (ts : List Token) : Read Statement :=
  let (path, ts) := keys (skipBlanks ts)
  match isArray, ts with
  | true, .closeBracket :: .closeBracket :: ts => some (.header true path, ts)
  | false, .closeBracket :: ts => some (.header false path, ts)
  | _, _ => none

def assignment (ts : List Token) : Read Statement :=
  let (path, ts) := keys ts
  match ts with
  | .equals :: ts =>
    match skipBlanks ts with
    | [] => some (.assign path (.leaf none), [])
    | .lineEnd :: ts => some (.assign path (.leaf none), .lineEnd :: ts)
    | ts => (value (2 * ts.length + 1) 0 ts).map fun (value, ts) => (.assign path value, ts)
  | _ => none

def statement (ts : List Token) : Read Statement :=
  match ts with
  | .openBracket :: .openBracket :: ts => header true ts
  | .openBracket :: ts => header false ts
  | .word s :: ts => assignment (.word s :: ts)
  | .quoted form s :: ts => assignment (.quoted form s :: ts)
  | .dot :: ts => assignment (.dot :: ts)
  | .equals :: ts => assignment (.equals :: ts)
  | _ => none

def finishLine (ts : List Token) : Option (List Token) :=
  match skipBlanks ts with
  | [] => some []
  | .lineEnd :: ts => some ts
  | _ => none

def lines (fuel : Nat) (ts : List Token) : Option (List Statement) :=
  match fuel with
  | 0 => none
  | fuel + 1 =>
    match skipSpace ts with
    | [] => some []
    | ts =>
      (statement ts).bind fun (first, ts) =>
        (finishLine ts).bind fun ts => (lines fuel ts).map (first :: ·)

def afterMark : List Char → List Char
  | '\ufeff' :: s => s
  | s => s

/-- The lines of a document, if its tokens stand in the right order. -/
def statements? (text : String) : Option (List Statement) :=
  let s := afterMark text.toList
  (Token.read? s.length s).bind fun ts => lines (ts.length + 1) ts

def parse (text : String) : Except Fault Entries := (wellFormed (statements? text)).bind build

end WalletLoop.Toml
