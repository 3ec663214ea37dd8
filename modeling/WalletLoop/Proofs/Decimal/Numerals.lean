import WalletLoop.Proofs.Decimal.Digits

namespace WalletLoop

namespace Digit

theorem ofChar?_char (d : Digit) : ofChar? d.char = some d := by
  revert d
  decide

theorem char_unsigned (d : Digit) : d.char ≠ '-' ∧ d.char ≠ '+' := by
  revert d
  decide

def Stops (rest : List Char) : Prop := ∀ c ∈ rest.head?, ofChar? c = none

theorem span_digits (digits : List Digit) {rest : List Char} (stops : Stops rest) :
    span (digits.map char ++ rest) = (digits, rest) := by
  induction digits with
  | nil =>
      cases rest with
      | nil => rfl
      | cons c rest => simp [span, stops c rfl]
  | cons d digits ih =>
      simp only [List.map_cons, List.cons_append, span, ofChar?_char, ih]

end Digit

theorem decimal_cons_char (n : Nat) : ∃ (d : Digit) (s : List Char), decimal n = d.char :: s := by
  obtain ⟨d, digits, same⟩ := List.exists_cons_of_ne_nil (Digit.ofNat_ne_nil n)
  exact ⟨d, digits.map Digit.char, by rw [decimal, same]; rfl⟩

namespace Numeral

inductive SpellsPower : Option Int → List Char → Prop
  | absent : SpellsPower none []
  | unsigned {letter : Char} {digits : List Digit} (power : letter = 'e' ∨ letter = 'E')
      (some_digit : digits ≠ []) :
      SpellsPower (some (Digit.toNat digits)) (letter :: digits.map Digit.char)
  | plus {letter : Char} {digits : List Digit} (power : letter = 'e' ∨ letter = 'E')
      (some_digit : digits ≠ []) :
      SpellsPower (some (Digit.toNat digits)) (letter :: '+' :: digits.map Digit.char)
  | minus {letter : Char} {digits : List Digit} (power : letter = 'e' ∨ letter = 'E')
      (some_digit : digits ≠ []) :
      SpellsPower (some (-(Digit.toNat digits : Int))) (letter :: '-' :: digits.map Digit.char)

/-- The whole part has no leading zero, and no point stands without places. -/
def Spells (n : Numeral) (text : List Char) : Prop :=
  ∃ power, SpellsPower n.exponent power ∧
    text = (if n.negative then ['-'] else []) ++ decimal n.whole ++
      (if n.places = [] then [] else '.' :: n.places.map Digit.char) ++ power

structure Stops (rest : List Char) : Prop where
  digit : Digit.Stops rest
  mark : ∀ c ∈ rest.head?, c ≠ '.' ∧ c ≠ 'e' ∧ c ≠ 'E'

theorem stops_nil : Stops [] :=
  ⟨fun _ first => (nomatch first), fun _ first => (nomatch first)⟩

theorem Spells.head {n : Numeral} {text : List Char} (spells : n.Spells text) :
    ∃ c s, text = c :: s ∧ (c = '-' ∨ ∃ d : Digit, c = d.char) := by
  obtain ⟨power, -, rfl⟩ := spells
  obtain ⟨d, s, same⟩ := decimal_cons_char n.whole
  rw [same]
  cases n.negative with
  | true => exact ⟨'-', _, rfl, .inl rfl⟩
  | false => exact ⟨d.char, _, rfl, .inr ⟨d, rfl⟩⟩

section Reading
variable {rest : List Char}

theorem readWhole_decimal (n : Nat) (stops : Digit.Stops rest) :
    readWhole (decimal n ++ rest) = some (n, rest) := by
  have spanned := Digit.span_digits (Digit.ofNat n) stops
  by_cases small : n < 10
  · rw [readWhole, decimal, spanned, Digit.ofNat_of_lt small]
  · obtain ⟨d, digits, same, nonzero⟩ := Digit.head_ofNat (Nat.not_lt.1 small)
    have value := Digit.toNat_ofNat n
    rw [same] at value
    rw [readWhole, decimal, spanned, same]
    cases digits with
    | nil => simpa [Digit.toNat] using value
    | cons e digits =>
        change (if d = 0 then none else some (Digit.toNat (d :: e :: digits), rest)) = _
        rw [if_neg (show d ≠ 0 from nonzero), value]

theorem readPlaces_spelled {places : List Digit} (stops : Digit.Stops rest)
    (mark : ∀ c ∈ rest.head?, c ≠ '.') :
    readPlaces ((if places = [] then [] else '.' :: places.map Digit.char) ++ rest) =
      some (places, rest) := by
  cases places with
  | nil =>
      rw [if_pos rfl, List.nil_append]
      cases rest with
      | nil => rfl
      | cons c rest =>
          unfold readPlaces
          split
          · rename_i same
            exact absurd (List.cons.inj same).1 (mark c rfl)
          · rfl
  | cons d places =>
      rw [if_neg (by simp), List.cons_append, readPlaces, Digit.span_digits _ stops]

theorem readPower_spelled {digits : List Digit} (negative : Bool) (some_digit : digits ≠ [])
    (stops : Digit.Stops rest) :
    readPower negative (digits.map Digit.char ++ rest) =
      some (some (if negative then -(Digit.toNat digits : Int) else Digit.toNat digits), rest) := by
  cases digits with
  | nil => exact absurd rfl some_digit
  | cons d digits => rw [readPower, Digit.span_digits _ stops]

theorem readExponent_spelled {exponent : Option Int} {power : List Char}
    (spells : SpellsPower exponent power) (stops : Stops rest) :
    readExponent (power ++ rest) = some (exponent, rest) := by
  cases spells with
  | absent =>
      cases rest with
      | nil => rfl
      | cons c rest =>
          have other := stops.mark c rfl
          simp [readExponent, other]
  | @unsigned letter digits power some_digit =>
      have value := readPower_spelled false some_digit stops.digit
      cases digits with
      | nil => exact absurd rfl some_digit
      | cons d digits =>
          obtain ⟨minus, plus⟩ := d.char_unsigned
          rw [List.cons_append, readExponent, if_pos power]
          · exact value
          · exact fun s same => minus (List.cons.inj same).1
          · exact fun s same => plus (List.cons.inj same).1
  | plus power some_digit =>
      rw [List.cons_append, List.cons_append, readExponent, if_pos power]
      exact readPower_spelled false some_digit stops.digit
  | minus power some_digit =>
      rw [List.cons_append, List.cons_append, readExponent, if_pos power]
      exact readPower_spelled true some_digit stops.digit

theorem stops_power {exponent : Option Int} {power : List Char} (spells : SpellsPower exponent power)
    (stops : Stops rest) :
    Digit.Stops (power ++ rest) ∧ ∀ c ∈ (power ++ rest).head?, c ≠ '.' := by
  have letters {letter : Char} (power : letter = 'e' ∨ letter = 'E') :
      Digit.ofChar? letter = none ∧ letter ≠ '.' := by
    rcases power with rfl | rfl <;> decide
  cases spells with
  | absent => exact ⟨stops.digit, fun c first => (stops.mark c first).1⟩
  | unsigned power | plus power | minus power =>
      have letter := letters power
      constructor <;> intro c first <;> cases first
      · exact letter.1
      · exact letter.2

theorem stops_places {places : List Digit} (stops : Digit.Stops rest) :
    Digit.Stops ((if places = [] then [] else '.' :: places.map Digit.char) ++ rest) := by
  split
  · exact stops
  · intro c first
    cases first
    decide

theorem readUnsigned_spelled {n : Numeral} {power : List Char}
    (spells : SpellsPower n.exponent power) (stops : Stops rest) :
    readUnsigned n.negative (decimal n.whole ++
      ((if n.places = [] then [] else '.' :: n.places.map Digit.char) ++ (power ++ rest))) =
        some (n, rest) := by
  obtain ⟨digit, mark⟩ := stops_power spells stops
  rw [readUnsigned, readWhole_decimal n.whole (stops_places digit), Option.bind_some]
  dsimp only
  rw [readPlaces_spelled digit mark, Option.bind_some]
  dsimp only
  rw [readExponent_spelled spells stops]
  rfl

theorem read_spelled {n : Numeral} {text : List Char} (spells : n.Spells text)
    (stops : Stops rest) : read (text ++ rest) = some (n, rest) := by
  obtain ⟨power, spells, rfl⟩ := spells
  have unsigned := readUnsigned_spelled spells stops
  cases sign : n.negative with
  | true =>
      rw [sign] at unsigned
      simpa [read] using unsigned
  | false =>
      rw [sign] at unsigned
      obtain ⟨d, s, same⟩ := decimal_cons_char n.whole
      simp only [Bool.false_eq_true, if_false, List.nil_append, List.append_assoc]
      rw [same, List.cons_append] at unsigned ⊢
      rw [read]
      · exact unsigned
      · exact fun s first => d.char_unsigned.1 (List.cons.inj first).1

end Reading

theorem spells_exponentText (plus : Bool) (e : Int) : SpellsPower (some e) (exponentText plus e) := by
  have digits := Digit.ofNat_ne_nil e.natAbs
  have value := Digit.toNat_ofNat e.natAbs
  by_cases negative : e < 0
  · have spelled : SpellsPower (some (-(Digit.toNat (Digit.ofNat e.natAbs) : Int)))
        (exponentText plus e) := by
      rw [exponentText, if_pos negative]
      exact .minus (.inl rfl) digits
    rwa [value, show -(e.natAbs : Int) = e by omega] at spelled
  · have spelled : SpellsPower (some (Digit.toNat (Digit.ofNat e.natAbs)))
        (exponentText plus e) := by
      rw [exponentText, if_neg negative]
      cases plus with
      | true => exact .plus (.inl rfl) digits
      | false => exact .unsigned (.inl rfl) digits
    rwa [value, show (e.natAbs : Int) = e by omega] at spelled

theorem spells_text (n : Numeral) (plus : Bool) : n.Spells (n.text plus) := by
  refine ⟨_, ?_, rfl⟩
  cases n.exponent with
  | none => exact .absent
  | some e => exact spells_exponentText plus e

end Numeral
end WalletLoop
