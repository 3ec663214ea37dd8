import WalletLoop.Proofs.Decimal.Numerals
import WalletLoop.Proofs.Json.Texts

namespace WalletLoop.Json

def Blanks (s : List Char) : Prop := ∀ c ∈ s, isBlank c = true

/-- What a part of a document stands for: a value, or the items of an array or the members of an
object, with the bracket or the brace after them. -/
inductive Phrase where
  | value (j : Json)
  | items (items : List Json)
  | members (members : List (JsonText × Json))

inductive SpellsName : JsonText → List Char → Prop
  | intro {before s after : List Char} {cs : Option (List Char)} (blank : Blanks before)
      (chars : SpellsChars s cs) (blank' : Blanks after) :
      SpellsName (cs.map String.ofList) (before ++ '"' :: s ++ '"' :: after ++ [':'])

inductive Spells : Phrase → List Char → Prop
  | null : Spells (.value .null) ['n', 'u', 'l', 'l']
  | yes : Spells (.value (.flag true)) ['t', 'r', 'u', 'e']
  | no : Spells (.value (.flag false)) ['f', 'a', 'l', 's', 'e']
  | number {n : Numeral} {s : List Char} (spells : n.Spells s) : Spells (.value (.number n)) s
  | text {s : List Char} {cs : Option (List Char)} (chars : SpellsChars s cs) :
      Spells (.value (.text (cs.map String.ofList))) ('"' :: s ++ ['"'])
  | noItems {b : List Char} (blank : Blanks b) : Spells (.value (.array [])) ('[' :: b ++ [']'])
  | array {items : List Json} {s : List Char} (spells : Spells (.items items) s) :
      Spells (.value (.array items)) ('[' :: s)
  | noMembers {b : List Char} (blank : Blanks b) :
      Spells (.value (.object [])) ('\x7b' :: b ++ ['\x7d'])
  | object {members : List (JsonText × Json)} {s : List Char}
      (spells : Spells (.members members) s) : Spells (.value (.object members)) ('\x7b' :: s)
  | lastItem {item : Json} {before s after : List Char} (blank : Blanks before)
      (value : Spells (.value item) s) (blank' : Blanks after) :
      Spells (.items [item]) (before ++ s ++ after ++ [']'])
  | nextItem {item : Json} {items : List Json} {before s after later : List Char}
      (blank : Blanks before) (value : Spells (.value item) s) (blank' : Blanks after)
      (rest : Spells (.items items) later) :
      Spells (.items (item :: items)) (before ++ s ++ after ++ ',' :: later)
  | lastMember {name : JsonText} {item : Json} {key before s after : List Char}
      (named : SpellsName name key) (blank : Blanks before) (value : Spells (.value item) s)
      (blank' : Blanks after) :
      Spells (.members [(name, item)]) (key ++ before ++ s ++ after ++ ['\x7d'])
  | nextMember {name : JsonText} {item : Json} {members : List (JsonText × Json)}
      {key before s after later : List Char} (named : SpellsName name key) (blank : Blanks before)
      (value : Spells (.value item) s) (blank' : Blanks after)
      (rest : Spells (.members members) later) :
      Spells (.members ((name, item) :: members)) (key ++ before ++ s ++ after ++ ',' :: later)

/-- A whole text that is well formed, and the value it is written for. -/
def Document (j : Json) (text : String) : Prop :=
  ∃ before s after, Blanks before ∧ Spells (.value j) s ∧ Blanks after ∧
    text.toList = before ++ s ++ after

theorem blanks_nil : Blanks [] := fun _ mem => nomatch mem

theorem skipBlanks_cons {c : Char} (token : isBlank c = false) (s : List Char) :
    skipBlanks (c :: s) = c :: s := by
  simp [skipBlanks, token]

theorem skipBlanks_append {b : List Char} (blank : Blanks b) (s : List Char) :
    skipBlanks (b ++ s) = skipBlanks s := by
  induction b with
  | nil => rfl
  | cons c b ih =>
      have here : isBlank c = true := blank c (.head b)
      rw [List.cons_append, skipBlanks, List.dropWhile_cons_of_pos here]
      exact ih fun d mem => blank d (.tail c mem)

theorem skipBlanks_blanks {b : List Char} (blank : Blanks b) : skipBlanks b = [] := by
  simpa [skipBlanks] using skipBlanks_append blank []

theorem skipBlanks_skipBlanks (s : List Char) : skipBlanks (skipBlanks s) = skipBlanks s := by
  induction s with
  | nil => rfl
  | cons c s ih =>
      cases token : isBlank c with
      | true => simpa [skipBlanks, token] using ih
      | false => simp [skipBlanks, token]

theorem readValue_skipBlanks (bound : Nat) (s : List Char) :
    readValue bound (skipBlanks s) = readValue bound s := by
  cases bound with
  | zero => rfl
  | succ bound => simp only [readValue, skipBlanks_skipBlanks]

theorem readItems_skipBlanks (bound : Nat) (s : List Char) :
    readItems bound (skipBlanks s) = readItems bound s := by
  cases bound with
  | zero => rfl
  | succ bound => simp only [readItems, readValue_skipBlanks]

theorem readMembers_skipBlanks (bound : Nat) (s : List Char) :
    readMembers bound (skipBlanks s) = readMembers bound s := by
  cases bound with
  | zero => rfl
  | succ bound => simp only [readMembers, skipBlanks_skipBlanks]

def Starts (c : Char) : Prop := isBlank c = false ∧ c ≠ ']'

theorem starts_number {c : Char} (number : c = '-' ∨ ∃ d : Digit, c = d.char) :
    Starts c ∧ c ∉ ['n', 't', 'f', '"', '[', '\x7b'] := by
  have digits : ∀ d : Digit, (isBlank d.char = false ∧ d.char ≠ ']') ∧
      d.char ∉ ['n', 't', 'f', '"', '[', '\x7b'] := by decide
  rcases number with rfl | ⟨d, rfl⟩
  · exact ⟨by constructor <;> decide, by decide⟩
  · exact digits d

theorem Spells.head {j : Json} {s : List Char} (spells : Spells (.value j) s) :
    ∃ c t, s = c :: t ∧ Starts c := by
  cases spells with
  | number spells =>
      obtain ⟨c, t, same, number⟩ := spells.head
      exact ⟨c, t, same, (starts_number number).1⟩
  | _ => exact ⟨_, _, rfl, by constructor <;> decide⟩

theorem Spells.head_items {items : List Json} {s : List Char} (spells : Spells (.items items) s)
    (rest : List Char) : ∃ c t, skipBlanks (s ++ rest) = c :: t ∧ c ≠ ']' := by
  have first {item : Json} {before s : List Char} (blank : Blanks before)
      (value : Spells (.value item) s) (rest : List Char) :
      ∃ c t, skipBlanks (before ++ (s ++ rest)) = c :: t ∧ c ≠ ']' := by
    obtain ⟨c, t, rfl, token, other⟩ := value.head
    rw [skipBlanks_append blank]
    exact ⟨c, t ++ rest, skipBlanks_cons token _, other⟩
  cases spells with
  | lastItem blank value | nextItem blank value =>
      simp only [List.append_assoc]
      exact first blank value _

theorem SpellsName.head {name : JsonText} {key : List Char} (named : SpellsName name key)
    (rest : List Char) : ∃ t, skipBlanks (key ++ rest) = '"' :: t := by
  cases named with
  | intro blank =>
      simp only [List.append_assoc]
      rw [skipBlanks_append blank]
      exact ⟨_, skipBlanks_cons (by decide) _⟩

theorem Spells.head_members {members : List (JsonText × Json)} {s : List Char}
    (spells : Spells (.members members) s) (rest : List Char) :
    ∃ t, skipBlanks (s ++ rest) = '"' :: t := by
  cases spells with
  | lastMember named | nextMember named =>
      simp only [List.append_assoc]
      exact named.head _

theorem stops_blanks {b s : List Char} (blank : Blanks b) (stops : Numeral.Stops s) :
    Numeral.Stops (b ++ s) := by
  cases b with
  | nil => exact stops
  | cons c b =>
      have here : isBlank c = true := blank c (.head b)
      simp only [isBlank, Bool.or_eq_true, beq_iff_eq] at here
      rcases here with ((rfl | rfl) | rfl) | rfl <;>
        exact ⟨fun _ first => by cases first; decide, fun _ first => by cases first; decide⟩

def IsMark (c : Char) : Prop := c = ',' ∨ c = ']' ∨ c = '\x7d'

theorem stops_mark {c : Char} (mark : IsMark c) (s : List Char) : Numeral.Stops (c :: s) := by
  rcases mark with rfl | rfl | rfl <;>
    exact ⟨fun _ first => by cases first; decide, fun _ first => by cases first; decide⟩

theorem readValue_blanks {b : List Char} (blank : Blanks b) (bound : Nat) (s : List Char) :
    readValue bound (b ++ s) = readValue bound s := by
  rw [← readValue_skipBlanks, skipBlanks_append blank, readValue_skipBlanks]

theorem readValue_number {n : Numeral} {s : List Char} (spells : n.Spells s) {rest : List Char}
    (stops : Numeral.Stops rest) (bound : Nat) :
    readValue (bound + 1) (s ++ rest) = some (.number n, rest) := by
  have read := Numeral.read_spelled spells stops
  obtain ⟨c, t, rfl, number⟩ := spells.head
  obtain ⟨⟨token, -⟩, other⟩ := starts_number number
  simp only [List.mem_cons, List.not_mem_nil, or_false, not_or] at other
  rw [List.cons_append] at read ⊢
  rw [readValue, skipBlanks_cons token]
  split <;> simp_all

theorem readValue_quote (bound : Nat) (s : List Char) :
    readValue (bound + 1) ('"' :: s) = (readText s).map fun (t, s) => (.text t, s) := by
  rw [readValue, skipBlanks_cons (by decide)]
  rfl

theorem readValue_bracket (bound : Nat) (s : List Char) : readValue (bound + 1) ('[' :: s) =
    match skipBlanks s with
    | ']' :: s => some (.array [], s)
    | s => (readItems bound s).map fun (items, s) => (.array items, s) := by
  rw [readValue, skipBlanks_cons (by decide)]
  rfl

theorem readValue_brace (bound : Nat) (s : List Char) : readValue (bound + 1) ('\x7b' :: s) =
    match skipBlanks s with
    | '\x7d' :: s => some (.object [], s)
    | s => (readMembers bound s).map fun (members, s) => (.object members, s) := by
  rw [readValue, skipBlanks_cons (by decide)]
  rfl

theorem readValue_array {items : List Json} {s : List Char} (spells : Spells (.items items) s)
    (bound : Nat) (rest : List Char) : readValue (bound + 1) ('[' :: s ++ rest) =
      (readItems bound (s ++ rest)).map fun (items, s) => (.array items, s) := by
  obtain ⟨c, t, same, other⟩ := spells.head_items rest
  rw [← readItems_skipBlanks, List.cons_append, readValue_bracket, same]
  split
  · rename_i first
    exact absurd (List.cons.inj first).1 other
  · rfl

theorem readValue_object {members : List (JsonText × Json)} {s : List Char}
    (spells : Spells (.members members) s) (bound : Nat) (rest : List Char) :
    readValue (bound + 1) ('\x7b' :: s ++ rest) =
      (readMembers bound (s ++ rest)).map fun (members, s) => (.object members, s) := by
  obtain ⟨t, same⟩ := spells.head_members rest
  rw [← readMembers_skipBlanks, List.cons_append, readValue_brace, same]
  rfl

theorem readMembers_named {name : JsonText} {key : List Char} (named : SpellsName name key)
    {bound : Nat} {s rest : List Char} {item : Json}
    (read : readValue bound s = some (item, rest)) : readMembers (bound + 1) (key ++ s) =
      match skipBlanks rest with
      | '\x7d' :: s => some ([(name, item)], s)
      | ',' :: s => (readMembers bound s).map fun (members, s) => ((name, item) :: members, s)
      | _ => none := by
  cases named with
  | intro blank chars blank' =>
      simp only [List.append_assoc, List.cons_append]
      rw [readMembers, skipBlanks_append blank, skipBlanks_cons (by decide)]
      change (readText _).bind _ = _
      rw [readText_spelled chars, Option.bind_some]
      dsimp only
      rw [skipBlanks_append blank', skipBlanks_cons (by decide)]
      change (readValue bound s).bind _ = _
      rw [read]
      rfl

theorem readItems_value {bound : Nat} {s rest : List Char} {item : Json}
    (read : readValue bound s = some (item, rest)) : readItems (bound + 1) s =
      match skipBlanks rest with
      | ']' :: s => some ([item], s)
      | ',' :: s => (readItems bound s).map fun (items, s) => (item :: items, s)
      | _ => none := by
  rw [readItems, read]
  rfl

def Phrase.Read (bound : Nat) (s rest : List Char) : Phrase → Prop
  | .value j => Numeral.Stops rest → readValue bound (s ++ rest) = some (j, rest)
  | .items found => readItems bound (s ++ rest) = some (found, rest)
  | .members found => readMembers bound (s ++ rest) = some (found, rest)

theorem Phrase.Read.between {j : Json} {bound : Nat} {s : List Char}
    (read : ∀ rest, (Phrase.value j).Read bound s rest) {before after : List Char}
    (blank : Blanks before) (blank' : Blanks after) {c : Char} (mark : IsMark c)
    (rest : List Char) :
    readValue bound (before ++ (s ++ (after ++ c :: rest))) = some (j, after ++ c :: rest) ∧
      skipBlanks (after ++ c :: rest) = c :: rest := by
  have token : isBlank c = false := by
    rcases mark with rfl | rfl | rfl <;> decide
  constructor
  · rw [readValue_blanks blank]
    exact read _ (stops_blanks blank' (stops_mark mark rest))
  · rw [skipBlanks_append blank', skipBlanks_cons token]

theorem Spells.read {p : Phrase} {s : List Char} (spells : Spells p s) {bound : Nat}
    (enough : s.length ≤ bound) (rest : List Char) : p.Read bound s rest := by
  -- every part of a document takes one step of the bound and has a mark of its own
  induction spells generalizing bound rest with
  | null | yes | no =>
      match bound, enough with
      | bound + 1, _ => exact fun _ => rfl
  | number spells =>
      obtain ⟨c, t, rfl, -⟩ := spells.head
      match bound, enough with
      | bound + 1, _ => exact fun stops => readValue_number spells stops bound
  | text chars =>
      match bound, enough with
      | bound + 1, _ =>
          intro _
          rw [List.append_assoc, List.cons_append, readValue_quote, List.singleton_append,
            readText_spelled chars]
          rfl
  | noItems blank =>
      match bound, enough with
      | bound + 1, _ =>
          intro _
          rw [List.append_assoc, List.cons_append, readValue_bracket, skipBlanks_append blank]
          rfl
  | noMembers blank =>
      match bound, enough with
      | bound + 1, _ =>
          intro _
          rw [List.append_assoc, List.cons_append, readValue_brace, skipBlanks_append blank]
          rfl
  | array spells ih =>
      match bound, enough with
      | bound + 1, enough =>
          intro _
          rw [readValue_array spells, ih (Nat.le_of_succ_le_succ enough) rest]
          rfl
  | object spells ih =>
      match bound, enough with
      | bound + 1, enough =>
          intro _
          rw [readValue_object spells, ih (Nat.le_of_succ_le_succ enough) rest]
          rfl
  | lastItem blank value blank' ih =>
      simp only [List.length_append, List.length_cons] at enough
      obtain ⟨bound, rfl⟩ := Nat.exists_eq_add_one.2 (show 0 < bound by omega)
      have read := fun rest => ih (show _ ≤ bound by omega) rest
      obtain ⟨found, mark⟩ := Phrase.Read.between read blank blank'
        (show IsMark ']' from .inr (.inl rfl)) rest
      simp only [Phrase.Read, List.append_assoc, List.singleton_append]
      rw [readItems_value found, mark]
      rfl
  | nextItem blank value blank' later ih ih' =>
      simp only [List.length_append, List.length_cons] at enough
      obtain ⟨bound, rfl⟩ := Nat.exists_eq_add_one.2 (show 0 < bound by omega)
      have read := fun rest => ih (show _ ≤ bound by omega) rest
      obtain ⟨found, mark⟩ := Phrase.Read.between read blank blank'
        (show IsMark ',' from .inl rfl) (_ ++ rest)
      simp only [Phrase.Read, List.append_assoc, List.cons_append]
      rw [readItems_value found, mark]
      change (readItems bound _).map _ = _
      rw [ih' (by omega) rest]
      rfl
  | lastMember named blank value blank' ih =>
      simp only [List.length_append, List.length_cons] at enough
      obtain ⟨bound, rfl⟩ := Nat.exists_eq_add_one.2 (show 0 < bound by omega)
      have read := fun rest => ih (show _ ≤ bound by omega) rest
      obtain ⟨found, mark⟩ := Phrase.Read.between read blank blank'
        (show IsMark '\x7d' from .inr (.inr rfl)) rest
      simp only [Phrase.Read, List.append_assoc, List.singleton_append]
      rw [readMembers_named named found, mark]
      rfl
  | nextMember named blank value blank' later ih ih' =>
      simp only [List.length_append, List.length_cons] at enough
      obtain ⟨bound, rfl⟩ := Nat.exists_eq_add_one.2 (show 0 < bound by omega)
      have read := fun rest => ih (show _ ≤ bound by omega) rest
      obtain ⟨found, mark⟩ := Phrase.Read.between read blank blank'
        (show IsMark ',' from .inl rfl) (_ ++ rest)
      simp only [Phrase.Read, List.append_assoc, List.cons_append]
      rw [readMembers_named named found, mark]
      change (readMembers bound _).map _ = _
      rw [ih' (by omega) rest]
      rfl

theorem read?_document {j : Json} {text : String} (document : Document j text) :
    read? text = some j := by
  obtain ⟨before, s, after, blank, spells, blank', same⟩ := document
  have stops : Numeral.Stops after := by
    simpa using stops_blanks blank' Numeral.stops_nil
  have enough : s.length ≤ 2 * (before ++ s ++ after).length + 2 := by
    simp only [List.length_append]
    omega
  have found := spells.read enough after stops
  have whole := (readValue_blanks blank _ (s ++ after)).trans found
  rw [← List.append_assoc, ← same] at whole
  rw [read?, whole, Option.bind_some]
  exact if_pos (skipBlanks_blanks blank')

theorem Document.iff {j : Json} {text : String} (document : Document j text) (k : Json) :
    Document k text ↔ k = j := by
  constructor
  · intro other
    exact Option.some.inj ((read?_document other).symm.trans (read?_document document))
  · rintro rfl
    exact document

theorem blanks_gap (depth : Option Nat) : Blanks (gap depth) := by
  cases depth with
  | none => exact fun _ mem => nomatch mem
  | some depth =>
      intro c mem
      rcases List.mem_cons.1 mem with rfl | mem
      · decide
      · rw [List.eq_of_mem_replicate mem]
        decide

theorem spells_name (depth : Option Nat) (name : JsonText) {before : List Char}
    (blank : Blanks before) : ∃ key blank, SpellsName name key ∧ Blanks blank ∧
      before ++ writeText name ++ colon depth = key ++ blank := by
  obtain ⟨s, cs, same, chars, rfl⟩ := spells_writeText name
  refine ⟨_, if depth.isSome then [' '] else [], .intro blank chars blanks_nil, ?_, ?_⟩
  · split
    · exact fun c mem => by rw [List.mem_singleton.1 mem]; rfl
    · exact blanks_nil
  · rw [same, colon]
    split <;> simp

mutual

theorem spells_write (depth : Option Nat) : ∀ j : Json, Spells (.value j) (write depth j)
  | .null => .null
  | .flag true => .yes
  | .flag false => .no
  | .number n => .number (n.spells_text true)
  | .text t => by
      obtain ⟨s, cs, same, chars, rfl⟩ := spells_writeText t
      rw [write, same]
      exact .text chars
  | .array [] => .noItems blanks_nil
  | .array (item :: items) => by
      have first := spells_write (deeper depth) item
      have spelled := spells_items (deeper depth) items (blanks_gap (deeper depth)) first
        (blanks_gap depth)
      simpa [write] using Spells.array spelled
  | .object [] => .noMembers blanks_nil
  | .object ((name, value) :: members) => by
      have first := spells_write (deeper depth) value
      obtain ⟨key, blank, named, blanks, same⟩ :=
        spells_name depth name (blanks_gap (deeper depth))
      have spelled := spells_members (deeper depth) members named blanks first (blanks_gap depth)
      rw [← same] at spelled
      simpa [write] using Spells.object spelled

theorem spells_items (depth : Option Nat) : ∀ (items : List Json) {item : Json}
    {before s after : List Char}, Blanks before → Spells (.value item) s → Blanks after →
      Spells (.items (item :: items)) (before ++ s ++ writeItems depth items ++ after ++ [']'])
  | [], _, _, _, _, blank, value, blank' => by
      simpa [writeItems] using Spells.lastItem blank value blank'
  | next :: items, _, _, _, _, blank, value, blank' => by
      have later := spells_items depth items (blanks_gap depth) (spells_write depth next) blank'
      simpa [writeItems] using Spells.nextItem blank value blanks_nil later

theorem spells_members (depth : Option Nat) : ∀ (members : List (JsonText × Json))
    {name : JsonText} {item : Json} {key before s after : List Char}, SpellsName name key →
      Blanks before → Spells (.value item) s → Blanks after →
        Spells (.members ((name, item) :: members))
          (key ++ before ++ s ++ writeMembers depth members ++ after ++ ['\x7d'])
  | [], _, _, _, _, _, _, named, blank, value, blank' => by
      simpa [writeMembers] using Spells.lastMember named blank value blank'
  | (name, next) :: members, _, _, _, _, _, _, named, blank, value, blank' => by
      obtain ⟨key, between, named', blanks, same⟩ := spells_name depth name (blanks_gap depth)
      have later := spells_members depth members named' blanks (spells_write depth next) blank'
      rw [← same] at later
      simpa [writeMembers] using Spells.nextMember named blank value blanks_nil later

end

theorem document_write (depth : Option Nat) (j : Json) :
    Document j (String.ofList (write depth j)) :=
  ⟨[], _, [], blanks_nil, spells_write depth j, blanks_nil, by simp⟩

theorem document_compact (j : Json) : Document j j.compact := document_write none j

theorem document_pretty (j : Json) : Document j j.pretty := document_write (some 0) j

end WalletLoop.Json
