namespace WalletLoop.Path

def isAbsolute (p : String) : Bool := p.toList.head? == some '/'

def join (base name : String) : String :=
  if isAbsolute name then name
  else if base = "" ∨ base.toList.getLast? = some '/' then base ++ name
  else base ++ "/" ++ name

def split : List Char → List (List Char)
  | [] => [[]]
  | c :: rest =>
    if c = '/' then [] :: split rest
    else
      match split rest with
      | [] => [[c]]
      | part :: parts => (c :: part) :: parts

def isIdle (part : List Char) : Bool := part == [] || part == ['.']

def names (p : String) : List String :=
  (split p.toList).filterMap fun part => if isIdle part then none else some (String.ofList part)

def endsInSlash (p : String) : Bool := p.toList.getLast? == some '/'

def endsInDot (p : String) : Bool :=
  ((split p.toList).filter fun part => part != []).getLast? == some ['.']

def ascending : List (List Char) → List (List (List Char))
  | [] => []
  | part :: outer =>
    if isIdle part && (outer != [] || part == []) then ascending outer
    else (part :: outer) :: ascending outer

def ofParts (parts : List (List Char)) : String := String.ofList (['/'].intercalate parts.reverse)

/-- A path as it is written, and after it the paths of the directories above it, nearest first. -/
def lineage (p : String) : List String :=
  match ascending (split p.toList).reverse with
  | [] => []
  | _ :: above => p :: above.map ofParts

def parent? (p : String) : Option String :=
  match lineage p with
  | [] => none
  | [_] => some (if isAbsolute p then "/" else "")
  | _ :: above :: _ => some above

end WalletLoop.Path
