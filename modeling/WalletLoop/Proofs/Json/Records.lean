import WalletLoop.Proofs.Binary64.Range
import WalletLoop.Proofs.Json.Snapshots

namespace WalletLoop

def Fees.ofText? (text : String) : Option Fees := (Json.read? text).bind Fees.ofJson?

def Rate.ofText? (text : String) : Option Rate := (Json.read? text).bind Rate.ofJson?

namespace Json

abbrev Members := List (JsonText × Json)

def under (name : String) (members : Members) : Members :=
  members.filter fun m => m.1 == some name

def Proper (members : Members) : Prop := ∀ m ∈ members, m.1.isSome = true

/-- A name stands for one member, with a value of some kind. -/
def Once (members : Members) (name : String) (kind : Json → Prop) : Prop :=
  (members.map Prod.fst).count (some name) = 1 ∧
    ∀ value, (some name, value) ∈ members → kind value

section Members
variable {members members' : Members} {name : String} {kind : Json → Prop}

theorem mem_under {m : JsonText × Json} :
    m ∈ under name members ↔ m ∈ members ∧ m.1 = some name := by
  simp [under]

theorem length_under (name : String) (members : Members) :
    (under name members).length = (members.map Prod.fst).count (some name) := by
  rw [under, ← List.countP_eq_length_filter, List.count, List.countP_map]
  rfl

theorem once_iff : Once members name kind ↔
    ∃ value, under name members = [(some name, value)] ∧ kind value := by
  rw [Once, ← length_under, List.length_eq_one_iff]
  constructor
  · rintro ⟨⟨⟨other, value⟩, single⟩, all⟩
    obtain ⟨there, rfl⟩ := mem_under.1 (single ▸ List.mem_singleton_self _)
    exact ⟨value, single, all value there⟩
  · rintro ⟨value, single, fits⟩
    refine ⟨⟨_, single⟩, fun other there => ?_⟩
    have member : (some name, other) ∈ under name members := mem_under.2 ⟨there, rfl⟩
    rw [single, List.mem_singleton, Prod.mk.injEq] at member
    exact member.2 ▸ fits

theorem once_congr (same : (under name members).Perm (under name members')) :
    Once members name kind ↔ Once members' name kind := by
  simp only [once_iff]
  refine exists_congr fun value => and_congr_left fun _ => ?_
  constructor
  · intro single
    exact List.perm_singleton.1 (single ▸ same.symm)
  · intro single
    exact List.perm_singleton.1 (single ▸ same)

theorem mapM_eq_some {α β : Type} {f : α → Option β} {l : List α} {l' : List β} :
    l.mapM f = some l' ↔ List.Forall₂ (fun a b => f a = some b) l l' := by
  induction l generalizing l' with
  | nil => cases l' <;> simp
  | cons a l ih => cases l' <;> simp [List.mapM_cons, Option.bind_eq_some_iff, ih]

theorem values?_object {names : List String} {values : List Json} :
    (object members).values? names = some values ↔ Proper members ∧
      List.Forall₂ (fun name value => under name members = [(some name, value)]) names values := by
  rw [values?]
  split
  · rename_i proper
    have proper : Proper members := List.all_eq_true.1 proper
    simp only [mapM_eq_some, proper, true_and]
    refine iff_of_eq (congrArg (List.Forall₂ · names values) (funext₂ fun name value => propext ?_))
    constructor
    · intro read
      split at read
      · rename_i m single
        have named : m.1 = some name := (mem_under.1 (single ▸ List.mem_singleton_self m)).2
        cases read
        exact single.trans (by rw [← named])
      · cases read
    · intro single
      rw [← under, single]
  · rename_i improper
    have improper : ¬ Proper members := fun proper => improper (List.all_eq_true.2 proper)
    simp [improper]

end Members

theorem asUInt64?_iff {j : Json} {n : UInt64} : j.asUInt64? = some n ↔ j = .ofNat n.toNat := by
  refine ⟨fun read => ?_, fun same => same ▸ asUInt64?_ofNat n⟩
  cases j with
  | number numeral =>
      obtain ⟨i, whole, bounded⟩ := Option.bind_eq_some_iff.1 read
      obtain ⟨negative, digits, places, exponent⟩ := numeral
      rw [Numeral.toInt?] at whole
      split at whole
      · cases whole
      split at bounded
      · rename_i plain fits
        simp only [ne_eq, not_or, not_not, not_and] at plain
        obtain ⟨rfl, rfl, signed⟩ := plain
        cases bounded
        cases whole
        cases negative with
        | true => exact absurd (signed rfl) (by simp at fits; omega)
        | false =>
            simp only [Bool.false_eq_true, if_false] at fits ⊢
            rw [UInt64.toNat_ofNat_of_lt' (by omega)]
            rfl
      · cases bounded
  | _ => cases read

theorem asString?_iff {j : Json} {s : String} : j.asString? = some s ↔ j = .ofString s := by
  cases j <;> simp [asString?, ofString]

theorem asBinary64?_iff {j : Json} {x : Binary64} :
    j.asBinary64? = some x ↔ ∃ n, j = .number n ∧ Binary64.ofNumeral? n = some x := by
  cases j <;> simp [asBinary64?]

end Json

section Objects
open Json
variable {members members' : Members} {text text' : String}

theorem Fees.ofText?_document {j : Json} (document : Document j text) :
    ofText? text = ofJson? j := by
  rw [ofText?, read?_document document, Option.bind_some]

theorem Rate.ofText?_document {j : Json} (document : Document j text) :
    ofText? text = ofJson? j := by
  rw [ofText?, read?_document document, Option.bind_some]

theorem Fees.ofJson?_object {f : Fees} : ofJson? (.object members) = some f ↔ Proper members ∧
    Once members "regular" (· = .ofNat f.regular.toNat) ∧
    Once members "economy" (· = .ofNat f.economy.toNat) := by
  rw [ofJson?]
  constructor
  · intro read
    split at read
    · rename_i regular economy found
      obtain ⟨proper, singles⟩ := values?_object.1 found
      obtain ⟨n, first, rest⟩ := Option.bind_eq_some_iff.1 read
      obtain ⟨n', second, rfl⟩ := Option.map_eq_some_iff.1 rest
      simp only [List.forall₂_cons] at singles
      obtain ⟨single, single', -⟩ := singles
      exact ⟨proper, once_iff.2 ⟨_, single, asUInt64?_iff.1 first⟩,
        once_iff.2 ⟨_, single', asUInt64?_iff.1 second⟩⟩
    · cases read
  · rintro ⟨proper, regular, economy⟩
    obtain ⟨_, single, rfl⟩ := once_iff.1 regular
    obtain ⟨_, single', rfl⟩ := once_iff.1 economy
    rw [values?_object.2 ⟨proper, .cons single (.cons single' .nil)⟩]
    simp

theorem Rate.ofJson?_object {r : Rate} : ofJson? (.object members) = some r ↔ Proper members ∧
    Once members "code" (· = .ofString r.code) ∧ Once members "name" (· = .ofString r.name) ∧
    Once members "rate" fun value =>
      ∃ n, value = .number n ∧ Binary64.ofNumeral? n = some r.rate := by
  rw [ofJson?]
  constructor
  · intro read
    split at read
    · rename_i code name rate found
      obtain ⟨proper, singles⟩ := values?_object.1 found
      obtain ⟨s, first, rest⟩ := Option.bind_eq_some_iff.1 read
      obtain ⟨s', second, rest⟩ := Option.bind_eq_some_iff.1 rest
      obtain ⟨x, third, rfl⟩ := Option.map_eq_some_iff.1 rest
      simp only [List.forall₂_cons] at singles
      obtain ⟨single, single', single'', -⟩ := singles
      exact ⟨proper, once_iff.2 ⟨_, single, asString?_iff.1 first⟩,
        once_iff.2 ⟨_, single', asString?_iff.1 second⟩,
        once_iff.2 ⟨_, single'', asBinary64?_iff.1 third⟩⟩
    · cases read
  · rintro ⟨proper, code, name, rate⟩
    obtain ⟨_, single, rfl⟩ := once_iff.1 code
    obtain ⟨_, single', rfl⟩ := once_iff.1 name
    obtain ⟨_, single'', number⟩ := once_iff.1 rate
    rw [values?_object.2 ⟨proper, .cons single (.cons single' (.cons single'' .nil))⟩]
    simp [asBinary64?_iff.2 number]

theorem Fees.ofText?_object (document : Document (.object members) text) {f : Fees} :
    ofText? text = some f ↔ Proper members ∧
      Once members "regular" (· = .ofNat f.regular.toNat) ∧
      Once members "economy" (· = .ofNat f.economy.toNat) := by
  rw [ofText?_document document, ofJson?_object]

theorem Rate.ofText?_object (document : Document (.object members) text) {r : Rate} :
    ofText? text = some r ↔ Proper members ∧
      Once members "code" (· = .ofString r.code) ∧ Once members "name" (· = .ofString r.name) ∧
      Once members "rate" fun value =>
        ∃ n, value = .number n ∧ Binary64.ofNumeral? n = some r.rate := by
  rw [ofText?_document document, ofJson?_object]

theorem Fees.ofText?_json {f : Fees} (document : Document f.json text) :
    ofText? text = some f := by
  rw [ofText?_document document, ofJson?_json]

theorem Rate.ofJson?_json {r : Rate} (finite : r.rate.isFinite = true)
    (exact : r.rate.ReadBy Binary64.ofNumeral?) : ofJson? r.json = some r := by
  have number : (Json.ofBinary64 r.rate).asBinary64? = some r.rate := by
    rw [Json.ofBinary64, if_pos finite]
    exact exact finite
  simp [ofJson?, json, values?, record, number]

theorem Rate.ofText?_json {r : Rate} (finite : r.rate.isFinite = true)
    (exact : r.rate.ReadBy Binary64.ofNumeral?) (document : Document r.json text) :
    ofText? text = some r := by
  rw [ofText?_document document, ofJson?_json finite exact]

theorem Fees.ofText?_congr (document : Document (.object members) text)
    (document' : Document (.object members') text') (proper : Proper members ↔ Proper members')
    (same : ∀ name ∈ ["regular", "economy"], (under name members).Perm (under name members')) :
    ofText? text = ofText? text' := by
  refine Option.ext fun f => ?_
  rw [ofText?_object document, ofText?_object document', once_congr (same "regular" (by simp)),
    once_congr (same "economy" (by simp))]
  rw [proper]

theorem Rate.ofText?_congr (document : Document (.object members) text)
    (document' : Document (.object members') text') (proper : Proper members ↔ Proper members')
    (same : ∀ name ∈ ["code", "name", "rate"], (under name members).Perm (under name members')) :
    ofText? text = ofText? text' := by
  refine Option.ext fun r => ?_
  rw [ofText?_object document, ofText?_object document', once_congr (same "code" (by simp)),
    once_congr (same "name" (by simp)), once_congr (same "rate" (by simp))]
  rw [proper]

end Objects

namespace Json

/-- Fees and rates are read back as they were written, and from every object that has each of their
names once with a value of its kind: whole numbers of 64 bits, proper texts, and a number that is
not too large. The result does not depend on anything else in a text, unless a name is no proper
text, which spoils the whole. -/
theorem records_read :
    (∀ f : Fees, Fees.ofText? f.json.compact = some f ∧ Fees.ofText? f.json.pretty = some f) ∧
    (∀ r : Rate, r.rate.isFinite = true → r.rate.ReadBy Binary64.ofNumeral? →
      Rate.ofText? r.json.compact = some r ∧ Rate.ofText? r.json.pretty = some r) ∧
    (∀ members text, Document (.object members) text →
      (∀ f, Fees.ofText? text = some f ↔ Proper members ∧
        Once members "regular" (· = .ofNat f.regular.toNat) ∧
        Once members "economy" (· = .ofNat f.economy.toNat)) ∧
      ∀ r, Rate.ofText? text = some r ↔ Proper members ∧
        Once members "code" (· = .ofString r.code) ∧ Once members "name" (· = .ofString r.name) ∧
        Once members "rate" fun value =>
          ∃ n, value = .number n ∧ Binary64.ofNumeral? n = some r.rate) ∧
    (∀ n : Numeral, (n.magnitude ≤ Binary64.surelyRead → (Binary64.ofNumeral? n).isSome = true) ∧
      (Binary64.surelyRefused ≤ n.magnitude → Binary64.ofNumeral? n = none)) ∧
    ∀ members members' text text', Document (.object members) text →
      Document (.object members') text' → (Proper members ↔ Proper members') →
      ((∀ name ∈ ["regular", "economy"], (under name members).Perm (under name members')) →
        Fees.ofText? text = Fees.ofText? text') ∧
      ((∀ name ∈ ["code", "name", "rate"], (under name members).Perm (under name members')) →
        Rate.ofText? text = Rate.ofText? text') := by
  refine ⟨fun f => ⟨?_, ?_⟩, fun r finite exact => ⟨?_, ?_⟩, fun members text document => ⟨?_, ?_⟩,
    fun n => ⟨Binary64.isSome_ofNumeral?, Binary64.ofNumeral?_eq_none⟩,
    fun members members' text text' document document' proper => ⟨?_, ?_⟩⟩
  · exact Fees.ofText?_json (document_compact f.json)
  · exact Fees.ofText?_json (document_pretty f.json)
  · exact Rate.ofText?_json finite exact (document_compact r.json)
  · exact Rate.ofText?_json finite exact (document_pretty r.json)
  · exact fun f => Fees.ofText?_object document
  · exact fun r => Rate.ofText?_object document
  · exact Fees.ofText?_congr document document' proper
  · exact Rate.ofText?_congr document document' proper

example : Fees.ofText? "\x7b \"\\u0065conomy\" : 2,\"x\":[\x7b\x7d],\"regular\":1\x7d" = some ⟨1, 2⟩ := by
  decide +kernel

def scattered : Members :=
  [(some "x", .array [.object [], .null]), (some "economy", .ofNat 1), (some "x", .flag true),
    (some "regular", .ofNat 18446744073709551615)]

def ordered : Members :=
  [(some "regular", .ofNat 18446744073709551615), (some "economy", .ofNat 1)]

def euro : Rate := ⟨"EUR", "Euro", .hundred⟩

theorem magnitude_whole (negative : Bool) (n p : Nat) :
    (⟨negative, n, [], some p⟩ : Numeral).magnitude = ((n * 10 ^ p : ℕ) : ℚ) := by
  simp [Numeral.magnitude, Digit.toNat]

theorem scattered_read :
    Fees.ofText? (object scattered).pretty = some ⟨18446744073709551615, 1⟩ ∧
    Fees.ofText? (object scattered).pretty = Fees.ofText? (object ordered).compact ∧
    (Rate.ofText? euro.json.compact = some euro ∧ Rate.ofText? euro.json.pretty = some euro) ∧
    (Binary64.ofNumeral? ⟨true, 1, [], some 308⟩).isSome = true ∧
    Binary64.ofNumeral? ⟨false, 1, [], some 309⟩ = none := by
  obtain ⟨fees, rates, objects, range, same⟩ := records_read
  have proper : Proper scattered ∧ Proper ordered := by simp [Proper, scattered, ordered]
  refine ⟨?_, ?_, ?_, ?_, ?_⟩
  · refine ((objects scattered _ (document_pretty _)).1 _).2 ⟨proper.1, ⟨rfl, ?_⟩, ⟨rfl, ?_⟩⟩ <;>
      simp [scattered]
  · refine (same scattered ordered _ _ (document_pretty _) (document_compact _)
      (iff_of_true proper.1 proper.2)).1 fun name known => ?_
    simp only [List.mem_cons, List.not_mem_nil, or_false] at known
    obtain rfl | rfl := known <;> exact .refl _
  · exact rates euro (by decide) (by decide +kernel)
  · have low : 1 * 10 ^ 308 ≤ Binary64.surelyRead := by decide +kernel
    exact (range _).1 ((magnitude_whole true 1 308).trans_le (by exact_mod_cast low))
  · have high : Binary64.surelyRefused ≤ 1 * 10 ^ 309 := by decide +kernel
    exact (range _).2 (le_of_le_of_eq (by exact_mod_cast high) (magnitude_whole false 1 309).symm)

def nearGreatest : Numeral := ⟨false, 1797693134862315708, [], some 290⟩

def steep : Members :=
  [(some "code", .ofString ""), (some "name", .ofString ""), (some "rate", .number nearGreatest)]

def unpaired : Members := [(some "regular", .ofNat 1), (some "economy", .ofNat 2), (none, .ofNat 0)]

def negativeZero : Json := .number ⟨true, 0, [], none⟩

def signed : Members := [(some "regular", negativeZero), (some "economy", .ofNat 0)]

theorem in_range_refused :
    ((object steep).compact =
        "\x7b\"code\":\"\",\"name\":\"\",\"rate\":1797693134862315708e+290\x7d" ∧
      Proper steep ∧ Once steep "code" (· = .ofString "") ∧ Once steep "name" (· = .ofString "") ∧
      Once steep "rate" (· = .number nearGreatest) ∧ nearGreatest.magnitude ≤ Binary64.greatest ∧
      Rate.ofText? (object steep).compact = none) ∧
    ((object unpaired).compact = "\x7b\"regular\":1,\"economy\":2,\"\\ud800\":0\x7d" ∧
      Once unpaired "regular" (· = .ofNat 1) ∧ Once unpaired "economy" (· = .ofNat 2) ∧
      Fees.ofText? (object unpaired).compact = none) ∧
    ((object signed).compact = "\x7b\"regular\":-0,\"economy\":0\x7d" ∧
      Proper signed ∧ Once signed "regular" (· = negativeZero) ∧ Once signed "economy" (· = .ofNat 0) ∧
      Fees.ofText? (object signed).compact = none) := by
  have rate {j : Json} : Rate.ofText? j.compact = Rate.ofJson? j :=
    Rate.ofText?_document (document_compact j)
  have fees {j : Json} : Fees.ofText? j.compact = Fees.ofJson? j :=
    Fees.ofText?_document (document_compact j)
  refine ⟨⟨?_, ?_, ⟨rfl, ?_⟩, ⟨rfl, ?_⟩, ⟨rfl, ?_⟩, ?_, rate.trans ?_⟩,
    ⟨?_, ⟨rfl, ?_⟩, ⟨rfl, ?_⟩, fees.trans ?_⟩, ?_, ?_, ⟨rfl, ?_⟩, ⟨rfl, ?_⟩, fees.trans ?_⟩
  · exact String.toList_inj.1 (by simp only [compact, String.toList_ofList]; decide +kernel)
  · simp [Proper, steep]
  · simp [steep]
  · simp [steep]
  · simp [steep]
  · have low : 1797693134862315708 * 10 ^ 290 ≤ Binary64.greatest := by decide +kernel
    exact (magnitude_whole false 1797693134862315708 290).trans_le (by exact_mod_cast low)
  · decide +kernel
  · exact String.toList_inj.1 (by simp only [compact, String.toList_ofList]; decide +kernel)
  · simp [unpaired]
  · simp [unpaired]
  · rfl
  · exact String.toList_inj.1 (by simp only [compact, String.toList_ofList]; decide +kernel)
  · simp [Proper, signed]
  · simp [signed]
  · simp [signed]
  · rfl

end Json
end WalletLoop
