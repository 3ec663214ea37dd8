import WalletLoop.Binary64.Basic
import WalletLoop.Toml.Fault

/-!
TOML documents: the lines of a document, the values that they write, and the rules by which the
lines make up tables. The first rule that is broken, in the order of the document, is the fault of
the whole. A table under a header in single brackets is looked up when the header is met; one more
table of an array is put there only after its own lines.

A number that has the right form but is too large is no such fault: it makes the document useless
only after all else was found in order.

A table remembers how it came about. One made by its own header or in braces is complete and cannot
be added to by dotted keys; one that a longer header or a dotted key only passed through is open.
-/

namespace WalletLoop.Toml

inductive TableKind where
  | header
  | implied
  | dotted
  | inline
deriving DecidableEq

inductive Item where
  | text (s : String)
  | number (n : Option Int)
  | real (x : Option Binary64)
  | flag (b : Bool)
  | moment (s : String)
  | array (items : List Item)
  | tables (ts : List (List (String × Item)))
  | table (kind : TableKind) (entries : List (String × Item))

abbrev Entries := List (String × Item)

/-- A key with the keys of the tables around it, outermost first. -/
structure KeyPath where
  outer : List String
  last : String

abbrev WrittenKey := Option String

/-- A value as it stands in a document. -/
inductive Value where
  | leaf (item : Option Item)
  | brackets (values : List Value)
  | braces (pairs : List (List WrittenKey × Value))

inductive Statement where
  | header (isArray : Bool) (path : List WrittenKey)
  | assign (path : List WrittenKey) (value : Value)

def depthLimit : Nat := 80

def KeyPath.ofWritten (keys : List WrittenKey) : Except Fault KeyPath :=
  match keys.mapM id with
  | none | some [] => .error .malformed
  | some (key :: rest) =>
    if rest.length < depthLimit then
      .ok ⟨(key :: rest).dropLast, (key :: rest).getLast (by simp)⟩
    else .error .tooManyKeys

namespace Entries

def find? (es : Entries) (key : String) : Option Item :=
  (List.find? (fun e => e.1 == key) es).map Prod.snd

def add (es : Entries) (key : String) (item : Item) : Except Fault Entries :=
  if (find? es key).isSome then .error .malformed else .ok (es ++ [(key, item)])

def replace (es : Entries) (key : String) (item : Item) : Entries :=
  es.map fun e => if e.1 == key then (key, item) else e

def changeLast (change : Entries → Except Fault Entries) (ts : List Entries) :
    Except Fault (List Entries) :=
  match ts.getLast? with
  | some t => (change t).map fun t => ts.dropLast ++ [t]
  | none => .error .malformed

def assignBelow (key : String) (item : Item) : List String → Entries → Except Fault Entries
  | [], es => add es key item
  | outer :: rest, es =>
    match find? es outer with
    | none => (assignBelow key item rest []).map fun inner => es ++ [(outer, .table .dotted inner)]
    | some (.table kind inner) =>
      if kind = .dotted ∨ (kind = .implied ∧ rest ≠ []) then
        (assignBelow key item rest inner).map fun inner => replace es outer (.table kind inner)
      else .error .malformed
    | some (.tables ts) =>
      if rest = [] then .error .malformed
      else (changeLast (assignBelow key item rest) ts).map fun ts => replace es outer (.tables ts)
    | some _ => .error .malformed

def assign (es : Entries) (path : KeyPath) (item : Item) : Except Fault Entries :=
  assignBelow path.last item path.outer es

/-- Changes the table that a header's outer keys lead to; tables that are missing are implied, and
of an array of tables the last one is meant. -/
def within (change : Entries → Except Fault Entries) :
    List String → Entries → Except Fault Entries
  | [], es => change es
  | outer :: rest, es =>
    match find? es outer with
    | none => (within change rest []).map fun inner => es ++ [(outer, .table .implied inner)]
    | some (.table .inline _) => .error .malformed
    | some (.table kind inner) =>
      (within change rest inner).map fun inner => replace es outer (.table kind inner)
    | some (.tables ts) =>
      (changeLast (within change rest) ts).map fun ts => replace es outer (.tables ts)
    | some _ => .error .malformed

def openTable (fill : Entries → Except Fault Entries) (key : String) (es : Entries) :
    Except Fault Entries :=
  match find? es key with
  | none => (fill []).map fun inner => es ++ [(key, .table .header inner)]
  | some (.table .implied old) => (fill old).map fun inner => replace es key (.table .header inner)
  | some _ => .error .malformed

def pushTable (table : Entries) (key : String) (es : Entries) : Except Fault Entries :=
  match find? es key with
  | none => .ok (es ++ [(key, .tables [table])])
  | some (.tables ts) => .ok (replace es key (.tables (ts ++ [table])))
  | some _ => .error .malformed

end Entries

mutual

def Value.item : Value → Except Fault Item
  | .leaf item => wellFormed item
  | .brackets values => (items values).map .array
  | .braces pairs => (assignAll [] pairs).map (.table .inline)

def items : List Value → Except Fault (List Item)
  | [] => .ok []
  | value :: rest => value.item.bind fun first => (items rest).map (first :: ·)

def assignAll (es : Entries) : List (List WrittenKey × Value) → Except Fault Entries
  | [] => .ok es
  | (keys, value) :: rest =>
    (KeyPath.ofWritten keys).bind fun path => value.item.bind fun item =>
      (es.assign path item).bind fun es => assignAll es rest

end

structure Section where
  isArray : Bool
  path : List WrittenKey
  body : List (List WrittenKey × Value)

def sections : List Statement → List (List WrittenKey × Value) × List Section
  | [] => ([], [])
  | .assign path value :: rest => ((path, value) :: (sections rest).1, (sections rest).2)
  | .header isArray path :: rest => ([], ⟨isArray, path, (sections rest).1⟩ :: (sections rest).2)

def Section.apply (s : Section) (es : Entries) : Except Fault Entries :=
  (KeyPath.ofWritten s.path).bind fun path =>
    if s.isArray then
      (assignAll [] s.body).bind fun table => es.within (Entries.pushTable table path.last) path.outer
    else es.within (Entries.openTable (assignAll · s.body) path.last) path.outer

def applySections : List Section → Entries → Except Fault Entries
  | [], es => .ok es
  | s :: rest, es => (s.apply es).bind (applySections rest)

mutual

def Item.isReadable : Item → Bool
  | .number n => n.isSome
  | .real x => x.isSome
  | .array items => readableItems items
  | .tables ts => readableTables ts
  | .table _ entries => readableEntries entries
  | _ => true

def readableItems : List Item → Bool
  | [] => true
  | item :: rest => item.isReadable && readableItems rest

def readableTables : List (List (String × Item)) → Bool
  | [] => true
  | entries :: rest => readableEntries entries && readableTables rest

def readableEntries : List (String × Item) → Bool
  | [] => true
  | (_, item) :: rest => item.isReadable && readableEntries rest

end

def build (statements : List Statement) : Except Fault Entries :=
  (assignAll [] (sections statements).1).bind fun es =>
    (applySections (sections statements).2 es).bind fun es =>
      if readableEntries es then .ok es else .error .malformed

end WalletLoop.Toml
