import WalletLoop.Toml.Form

/-!
The tokens of a document: marks, blanks, line ends, quoted texts, and words made of all other
characters. A quote starts a quoted text only at the start of a token. Where its closing quotes are
missing, a quoted text of one line goes on to the end of the line, and one of several lines to the
end of the document; what it holds is looked at later.

Comments are no tokens. They end before the line end, so they can be left out once they hold no
forbidden character.
-/

namespace WalletLoop.Toml

inductive Token where
  | dot
  | equals
  | comma
  | openBracket
  | closeBracket
  | openBrace
  | closeBrace
  | blanks (s : List Char)
  | lineEnd
  | quoted (form : Form) (s : List Char)
  | word (s : List Char)
deriving DecidableEq

namespace Token

def isBlank (c : Char) : Bool := c = ' ' || c = '\t'

def isForbidden (c : Char) : Bool := (c.toNat < 0x20 && c != '\t') || c.toNat == 0x7f

def ofMark? (c : Char) : Option Token :=
  if c = '.' then some dot
  else if c = '=' then some equals
  else if c = ',' then some comma
  else if c = '[' then some openBracket
  else if c = ']' then some closeBracket
  else if c = '\x7b' then some openBrace
  else if c = '\x7d' then some closeBrace
  else none

def endsWord (c : Char) : Bool :=
  (ofMark? c).isSome || isBlank c || c = '#' || c = '\n' || c = '\r'

def more (c : Char) (r : List Char × List Char) : List Char × List Char := (c :: r.1, r.2)

def spanLiteral : List Char → List Char × List Char
  | [] => ([], [])
  | '\'' :: s => (['\''], s)
  | '\n' :: s => ([], '\n' :: s)
  | c :: s => more c (spanLiteral s)

def spanBasic : List Char → List Char × List Char
  | [] => ([], [])
  | '"' :: s => (['"'], s)
  | '\n' :: s => ([], '\n' :: s)
  | '\\' :: '\\' :: s => more '\\' (more '\\' (spanBasic s))
  | '\\' :: '"' :: s => more '\\' (more '"' (spanBasic s))
  | c :: s => more c (spanBasic s)

def spanExtra (q : Char) : List Char → List Char × List Char
  | c :: d :: s =>
    if c = q then if d = q then ([c, d], s) else ([c], d :: s) else ([], c :: d :: s)
  | [c] => if c = q then ([c], []) else ([], [c])
  | [] => ([], [])

def spanClosing (q : Char) (s : List Char) : List Char × List Char :=
  more q (more q (more q (spanExtra q s)))

def spanLiteralLines : List Char → List Char × List Char
  | [] => ([], [])
  | '\'' :: '\'' :: '\'' :: s => spanClosing '\'' s
  | c :: s => more c (spanLiteralLines s)

def spanBasicLines : List Char → List Char × List Char
  | [] => ([], [])
  | '"' :: '"' :: '"' :: s => spanClosing '"' s
  | '\\' :: '\\' :: s => more '\\' (more '\\' (spanBasicLines s))
  | '\\' :: '"' :: s => more '\\' (more '"' (spanBasicLines s))
  | c :: s => more c (spanBasicLines s)

def ofQuoted (form : Form) (r : List Char × List Char) : Token × List Char := (quoted form r.1, r.2)

def readQuoted? : List Char → Option (Token × List Char)
  | '"' :: '"' :: '"' :: s => some (ofQuoted .basicLines (spanBasicLines s))
  | '\'' :: '\'' :: '\'' :: s => some (ofQuoted .literalLines (spanLiteralLines s))
  | '"' :: s => some (ofQuoted .basic (spanBasic s))
  | '\'' :: s => some (ofQuoted .literal (spanLiteral s))
  | _ => none

def lineEnd? : List Char → Option (List Char)
  | '\n' :: s => some s
  | '\r' :: '\n' :: s => some s
  | _ => none

def skipComment : List Char → Option (List Char)
  | [] => some []
  | c :: s =>
    if c = '\n' ∨ c = '\r' then some (c :: s)
    else if isForbidden c then none
    else skipComment s

/-- The tokens of a text, with a bound on their number. A carriage return alone is no line end, and
nothing else either. -/
def read? (bound : Nat) (s : List Char) : Option (List Token) :=
  match bound, s with
  | _, [] => some []
  | 0, _ => none
  | bound + 1, c :: rest =>
    match ofMark? c, readQuoted? (c :: rest) with
    | some mark, _ => (read? bound rest).map (mark :: ·)
    | none, some (text, rest) => (read? bound rest).map (text :: ·)
    | none, none =>
      if c = '#' then (skipComment rest).bind (read? bound)
      else if c = '\n' ∨ c = '\r' then
        (lineEnd? (c :: rest)).bind fun rest => (read? bound rest).map (lineEnd :: ·)
      else
        let belongs := if isBlank c then isBlank else fun c => !endsWord c
        let (first, rest) := (c :: rest).span belongs
        (read? bound rest).map ((if isBlank c then blanks first else word first) :: ·)

end Token
end WalletLoop.Toml
