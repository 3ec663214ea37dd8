import WalletLoop.Json.Records
import WalletLoop.Proofs.Instant.Texts
import WalletLoop.Proofs.Json.Documents

namespace WalletLoop

namespace Json

def part? {α : Type} (name : String) (read : Json → Option α) : Json → Option α
  | .object members =>
    match members.filter fun m => m.1 == some name with
    | [m] => read m.2
    | _ => none
  | _ => none

def asFlag? : Json → Option Bool
  | .flag b => some b
  | _ => none

def asUInt32? (j : Json) : Option UInt32 :=
  j.asUInt64?.bind fun n => if n.toNat < UInt32.size then some (UInt32.ofNat n.toNat) else none

def asNamed? {α : Type} (name : α → String) (all : List α) (j : Json) : Option α :=
  j.asString?.bind fun s => all.find? fun a => name a == s

def asOptional? {α : Type} (read : Json → Option α) : Json → Option (Option α)
  | .null => some none
  | j => (read j).map some

def asList? {α : Type} (read : Json → Option α) : Json → Option (List α)
  | .array items => items.mapM read
  | _ => none

def asReal? (number : Numeral → Option Binary64) : Json → Option Binary64
  | .null => some .notANumber
  | .number n => number n
  | _ => none

def asInstant? (j : Json) : Option Instant := j.asString?.bind Instant.ofText?

end Json

section Reading
variable (number : Numeral → Option Binary64)

def Transaction.ofJson? (j : Json) : Option Transaction := do
  return {
    hash := ← j.part? "hash" Json.asString?
    direction := ← j.part? "direction" (Json.asNamed? Direction.name [.sent, .received, .moved])
    amount := ← j.part? "amount" Json.asUInt64?
    fee := ← j.part? "fee" Json.asUInt64?
    timestamp := ← j.part? "timestamp" Json.asUInt32?
    blockHeight := ← j.part? "block_height" (Json.asOptional? Json.asUInt32?) }

def Wallet.ofJson? (j : Json) : Option Wallet := do
  return {
    connected := ← j.part? "connected" Json.asFlag?
    syncProgress := ← j.part? "sync_progress" (Json.asReal? number)
    syncState :=
      ← j.part? "sync_state" (Json.asNamed? SyncState.name [.syncing, .connecting, .success])
    balance := ← j.part? "balance" (Json.asOptional? Json.asUInt64?)
    transactions := ← j.part? "transactions" (Json.asList? Transaction.ofJson?)
    lastBlockTimestamp := ← j.part? "last_block_timestamp" Json.asUInt32?
    name := ← j.part? "name" Json.asString?
    creationDate := ← j.part? "creation_date" Json.asInstant?
    rescanning := ← j.part? "rescanning" Json.asFlag? }

def Rate.ofShown? (j : Json) : Option Rate := do
  return {
    code := ← j.part? "code" Json.asString?
    name := ← j.part? "name" Json.asString?
    rate := ← j.part? "rate" (Json.asReal? number) }

def Snapshot.ofJson? (j : Json) : Option Snapshot := do
  return {
    startFlowVisible := ← j.part? "start_flow_visible" Json.asFlag?
    loginRequired := ← j.part? "login_required" Json.asFlag?
    rootModal := ← j.part? "root_modal" (Json.asNamed? RootModal.name RootModal.all)
    wallet := ← j.part? "wallet" (Wallet.ofJson? number)
    altCurrencyDisplayed := ← j.part? "alt_currency_displayed" Json.asFlag?
    alert := ← j.part? "alert" (Json.asOptional? (Json.asNamed? AlertKind.name AlertKind.all))
    touchIdEnabled := ← j.part? "touch_id_enabled" Json.asFlag?
    promptingTouchId := ← j.part? "prompting_touch_id" Json.asFlag?
    pushNotificationsEnabled := ← j.part? "push_notifications_enabled" Json.asFlag?
    recommendRescan := ← j.part? "recommend_rescan" Json.asFlag?
    loadingTransactions := ← j.part? "loading_transactions" Json.asFlag?
    maxDisplayDigits := ← j.part? "max_display_digits" Json.asUInt32?
    pinLength := ← j.part? "pin_length" Json.asUInt64?
    fees := ← j.part? "fees" Fees.ofJson?
    defaultCurrencyCode := ← j.part? "default_currency_code" Json.asString?
    currentRate := ← j.part? "current_rate" (Json.asOptional? (Rate.ofShown? number))
    rates := ← j.part? "rates" (Json.asList? (Rate.ofShown? number)) }

def Snapshot.ofText? (text : String) : Option Snapshot :=
  (Json.read? text).bind (Snapshot.ofJson? number)

end Reading

def Binary64.faded (x : Binary64) : Binary64 := if x.isFinite then x else .notANumber

def Rate.faded (r : Rate) : Rate := { r with rate := r.rate.faded }

def Wallet.faded (w : Wallet) : Wallet :=
  { w with
    syncProgress := w.syncProgress.faded
    creationDate := w.creationDate.settled }

namespace Snapshot

def faded (s : Snapshot) : Snapshot :=
  { s with
    wallet := s.wallet.faded
    currentRate := s.currentRate.map Rate.faded
    rates := s.rates.map Rate.faded }

def reals (s : Snapshot) : List Binary64 :=
  s.wallet.syncProgress :: (s.currentRate.toList ++ s.rates).map Rate.rate

end Snapshot

namespace Json
variable {α : Type}

theorem part?_record (members : List (String × Json)) (name : String) (read : Json → Option α) :
    (record members).part? name read =
      match members.filter fun m => m.1 == name with
      | [m] => read m.2
      | _ => none := by
  have same : ((members.map fun m => (some m.1, m.2)).filter fun m => m.1 == some name) =
      (members.filter fun m => m.1 == name).map fun m => (some m.1, m.2) := by
    rw [List.filter_map]
    rfl
  rw [record, part?, same]
  generalize (members.filter fun m => m.1 == name) = found
  rcases found with _ | ⟨m, _ | ⟨m', found⟩⟩ <;> rfl

@[simp] theorem part?_here {members : List (String × Json)} {name : String} {j : Json}
    (once : name ∉ members.map Prod.fst) (read : Json → Option α) :
    (record ((name, j) :: members)).part? name read = read j := by
  have others : members.filter (fun m => m.1 == name) = [] := by
    refine List.filter_eq_nil_iff.2 fun m mem same => once ?_
    exact List.mem_map.2 ⟨m, mem, beq_iff_eq.1 same⟩
  rw [part?_record, List.filter_cons, if_pos (beq_self_eq_true name), others]

@[simp] theorem part?_later {members : List (String × Json)} {name other : String} {j : Json}
    (different : other ≠ name) (read : Json → Option α) :
    (record ((other, j) :: members)).part? name read = (record members).part? name read := by
  rw [part?_record, part?_record, List.filter_cons, if_neg (by simpa using different)]

@[simp] theorem asFlag?_flag (b : Bool) : (Json.flag b).asFlag? = some b := rfl

@[simp] theorem asString?_ofString (s : String) : (Json.ofString s).asString? = some s := rfl

theorem asUInt64?_of_lt {n : Nat} (fits : n < UInt64.size) :
    (Json.ofNat n).asUInt64? = some (UInt64.ofNat n) := by
  have whole : (Numeral.ofNat n).toInt? = some (n : Int) := by simp [Numeral.ofNat, Numeral.toInt?]
  rw [Json.ofNat, asUInt64?, whole, Option.bind_some, if_pos (by omega), Int.toNat_natCast]

@[simp] theorem asUInt64?_ofNat (n : UInt64) : (Json.ofNat n.toNat).asUInt64? = some n := by
  rw [asUInt64?_of_lt n.toNat_lt, UInt64.ofNat_toNat]

@[simp] theorem asUInt32?_ofNat (n : UInt32) : (Json.ofNat n.toNat).asUInt32? = some n := by
  have small : n.toNat < UInt32.size := n.toNat_lt
  have fits : n.toNat < UInt64.size := Nat.lt_trans small (by decide)
  rw [asUInt32?, asUInt64?_of_lt fits, Option.bind_some, UInt64.toNat_ofNat_of_lt' fits,
    if_pos small, UInt32.ofNat_toNat]

@[simp] theorem asInstant?_ofString (t : Instant) :
    (Json.ofString t.text).asInstant? = some t.settled := by
  rw [asInstant?, asString?_ofString, Option.bind_some, Instant.ofText?_text]

theorem asOptional?_optional {read : Json → Option α} {write : α → Json} {f : α → α}
    {a : Option α} (present : ∀ a, write a ≠ .null) (back : ∀ b ∈ a, read (write b) = some (f b)) :
    (Json.optional write a).asOptional? read = some (a.map f) := by
  cases a with
  | none => rfl
  | some a =>
      rw [Json.optional, asOptional?.eq_2 _ _ (present a), back a rfl]
      rfl

theorem asList?_map {read : Json → Option α} {write : α → Json} {f : α → α} {l : List α}
    (back : ∀ a ∈ l, read (write a) = some (f a)) :
    (Json.array (l.map write)).asList? read = some (l.map f) := by
  rw [asList?]
  induction l with
  | nil => rfl
  | cons a l ih =>
      have first := back a (.head l)
      have later := ih fun b mem => back b (.tail a mem)
      simp [first, later]

end Json

/-- The numeral of a finite number is read as that number. -/
def Binary64.ReadBy (number : Numeral → Option Binary64) (x : Binary64) : Prop :=
  x.isFinite = true → number (x.numeral jsonLayout) = some x

instance (number : Numeral → Option Binary64) (x : Binary64) : Decidable (x.ReadBy number) :=
  inferInstanceAs (Decidable (_ → _))

section Parts
variable {number : Numeral → Option Binary64}

theorem Json.asReal?_ofBinary64 {x : Binary64} (exact : x.ReadBy number) :
    (Json.ofBinary64 x).asReal? number = some x.faded := by
  cases finite : x.isFinite with
  | true => simp [Json.ofBinary64, Json.asReal?, Binary64.faded, finite, exact finite]
  | false => simp [Json.ofBinary64, Json.asReal?, Binary64.faded, finite]

open Json in
theorem Transaction.ofJson?_json (t : Transaction) : Transaction.ofJson? t.json = some t := by
  have direction : (Json.ofString t.direction.name).asNamed? Direction.name
      [.sent, .received, .moved] = some t.direction := by
    cases t.direction <;> rfl
  have height : (Json.optional (fun n : UInt32 => .ofNat n.toNat) t.blockHeight).asOptional?
      asUInt32? = some t.blockHeight := by
    simpa using asOptional?_optional (f := id) nofun fun n _ => asUInt32?_ofNat n
  simp [Transaction.ofJson?, Transaction.json, direction, height]

open Json in
theorem Wallet.ofJson?_json {w : Wallet} (exact : w.syncProgress.ReadBy number) :
    Wallet.ofJson? number w.json = some w.faded := by
  have progress := asReal?_ofBinary64 exact
  have state : (Json.ofString w.syncState.name).asNamed? SyncState.name
      [.syncing, .connecting, .success] = some w.syncState := by
    cases w.syncState <;> rfl
  have balance : (Json.optional (fun n : UInt64 => .ofNat n.toNat) w.balance).asOptional?
      asUInt64? = some w.balance := by
    simpa using asOptional?_optional (f := id) nofun fun n _ => asUInt64?_ofNat n
  have transactions : (Json.array (w.transactions.map Transaction.json)).asList?
      Transaction.ofJson? = some w.transactions := by
    simpa using asList?_map (f := id) fun t _ => Transaction.ofJson?_json t
  simp [Wallet.ofJson?, Wallet.json, Wallet.faded, progress, state, balance, transactions]

theorem Rate.ofShown?_json {r : Rate} (exact : r.rate.ReadBy number) :
    Rate.ofShown? number r.json = some r.faded := by
  simp [Rate.ofShown?, Rate.json, Json.asReal?_ofBinary64 exact, Rate.faded]

theorem Fees.ofJson?_json (f : Fees) : Fees.ofJson? f.json = some f := by
  simp [Fees.ofJson?, Fees.json, Json.values?, Json.record]

open Json in
theorem Snapshot.ofJson?_json {s : Snapshot} (exact : ∀ x ∈ s.reals, x.ReadBy number) :
    Snapshot.ofJson? number s.json = some s.faded := by
  have modal : (Json.ofString s.rootModal.name).asNamed? RootModal.name RootModal.all =
      some s.rootModal := by
    cases s.rootModal <;> rfl
  have wallet : Wallet.ofJson? number s.wallet.json = some s.wallet.faded :=
    Wallet.ofJson?_json (exact _ (.head _))
  have alert : (Json.optional (fun kind : AlertKind => .ofString kind.name) s.alert).asOptional?
      (asNamed? AlertKind.name AlertKind.all) = some s.alert := by
    simpa using asOptional?_optional (f := id) nofun fun kind _ => by cases kind <;> rfl
  have fees : Fees.ofJson? s.fees.json = some s.fees := Fees.ofJson?_json s.fees
  have rate {r : Rate} (mem : r ∈ s.currentRate.toList ++ s.rates) :=
    Rate.ofShown?_json (exact r.rate (.tail _ (List.mem_map_of_mem mem)))
  have current : (Json.optional Rate.json s.currentRate).asOptional? (Rate.ofShown? number) =
      some (s.currentRate.map Rate.faded) :=
    asOptional?_optional nofun fun r mem => rate (by simp_all)
  have rates : (Json.array (s.rates.map Rate.json)).asList? (Rate.ofShown? number) =
      some (s.rates.map Rate.faded) :=
    asList?_map fun r mem => rate (List.mem_append_right _ mem)
  simp [Snapshot.ofJson?, Snapshot.json, Snapshot.faded, modal, wallet, alert, fees, current, rates]

end Parts

theorem Binary64.not_finite_iff (x : Binary64) :
    x.isFinite = false ↔ x.isNaN = true ∨ x.isInfinite = true := by
  by_cases whole : x.trailing = 0 <;> simp [isFinite, isNaN, isInfinite, whole]

theorem Json.ofBinary64_eq_null_iff (x : Binary64) :
    Json.ofBinary64 x = .null ↔ x.isNaN = true ∨ x.isInfinite = true := by
  rw [← Binary64.not_finite_iff]
  cases finite : x.isFinite <;> simp [Json.ofBinary64, finite]

theorem Binary64.json_faded (x : Binary64) : Json.ofBinary64 x.faded = Json.ofBinary64 x := by
  cases finite : x.isFinite with
  | true => rw [faded, if_pos finite]
  | false =>
      have null := (Json.ofBinary64_eq_null_iff x).2 ((not_finite_iff x).1 finite)
      rw [faded, if_neg (by simp [finite]), null]
      exact (Json.ofBinary64_eq_null_iff notANumber).2 (.inl (by decide))

theorem Rate.json_faded (r : Rate) : r.faded.json = r.json := by
  simp only [Rate.faded, Rate.json, Binary64.json_faded]

theorem Wallet.json_faded (w : Wallet) : w.faded.json = w.json := by
  simp only [Wallet.faded, Wallet.json, Binary64.json_faded, Instant.text_settled]

namespace Snapshot

theorem json_faded (s : Snapshot) : s.faded.json = s.json := by
  have current : Json.optional Rate.json (s.currentRate.map Rate.faded) =
      Json.optional Rate.json s.currentRate := by
    cases s.currentRate with
    | none => rfl
    | some r => exact Rate.json_faded r
  have rates : (s.rates.map Rate.faded).map Rate.json = s.rates.map Rate.json := by
    rw [List.map_map]
    exact List.map_congr_left fun r _ => Rate.json_faded r
  simp only [faded, json, Wallet.json_faded, current, rates]

theorem ofText?_of_document {number : Numeral → Option Binary64} {s : Snapshot} {text : String}
    (document : Json.Document s.json text) (exact : ∀ x ∈ s.reals, x.ReadBy number) :
    ofText? number text = some s.faded := by
  rw [ofText?, Json.read?_document document, Option.bind_some, ofJson?_json exact]

/-- Both texts of a snapshot are documents for one and the same value, and every part of the snapshot
is found in them. Only numbers that are not finite are written alike, as null. The date of creation is
found unless it lies in a leap second that does not end a minute. -/
theorem ofText?_written {number : Numeral → Option Binary64} (s : Snapshot)
    (exact : ∀ x ∈ s.reals, x.ReadBy number) :
    (∀ j, (Json.Document j s.json.compact ↔ j = s.json) ∧
      (Json.Document j s.json.pretty ↔ j = s.json)) ∧
    (ofText? number s.json.compact = some s.faded ∧ ofText? number s.json.pretty = some s.faded) ∧
    (∀ x, Json.ofBinary64 x = .null ↔ x.isNaN = true ∨ x.isInfinite = true) ∧
    (s.faded.wallet.creationDate = s.wallet.creationDate ↔ s.wallet.creationDate.Regular) ∧
    s.faded.json = s.json := by
  have compact := Json.document_compact s.json
  have pretty := Json.document_pretty s.json
  exact ⟨fun j => ⟨compact.iff j, pretty.iff j⟩,
    ⟨ofText?_of_document compact exact, ofText?_of_document pretty exact⟩,
    Json.ofBinary64_eq_null_iff, s.wallet.creationDate.settled_eq_self_iff, json_faded s⟩

def midnight : Snapshot :=
  { initial .standard with
    wallet :=
      { Wallet.initial with
        syncProgress := ⟨0x3fe0000000000000⟩
        balance := some 18446744073709551615
        transactions := [⟨"\"\\\n\x01", .moved, 18446744073709551615, 0, 4294967295, none⟩]
        name := "é😀"
        creationDate := ⟨1483228799, 1500000000, by decide⟩ }
    currentRate := some ⟨"USD", "", .notANumber⟩
    rates := [⟨"EUR", "Euro", .hundred⟩, ⟨"", "/", ⟨0xfff0000000000000⟩⟩] }

theorem midnight_written :
    (∀ x ∈ midnight.reals, x.ReadBy Binary64.ofNumeral?) ∧
    (∀ j, (Json.Document j midnight.json.compact ↔ j = midnight.json) ∧
      (Json.Document j midnight.json.pretty ↔ j = midnight.json)) ∧
    (ofText? Binary64.ofNumeral? midnight.json.compact = some midnight.faded ∧
      ofText? Binary64.ofNumeral? midnight.json.pretty = some midnight.faded) ∧
    midnight.faded.wallet.creationDate = midnight.wallet.creationDate ∧
    midnight.faded.json = midnight.json := by
  have exact : ∀ x ∈ midnight.reals, x.ReadBy Binary64.ofNumeral? := by decide +kernel
  have regular : midnight.wallet.creationDate.Regular := fun _ => by decide
  obtain ⟨documents, read, -, date, same⟩ := ofText?_written midnight exact
  exact ⟨exact, documents, read, date.2 regular, same⟩

def createdAt (t : Instant) : Snapshot :=
  { initial .standard with wallet := { Wallet.initial with creationDate := t } }

/-- A third of a second into the leap second after 23:56:04 and into 23:56:05 is one and the same in a
text, so that no reader can tell the two dates apart. -/
theorem leap_lost :
    let t : Instant := ⟨86164, 1333333333, by decide⟩
    let t' : Instant := ⟨86165, 333333333, by decide⟩
    t ≠ t' ∧ (createdAt t).json.compact = (createdAt t').json.compact ∧
      (createdAt t).json.pretty = (createdAt t').json.pretty ∧
      ¬ ∃ read : String → Option Instant,
        ∀ s : Snapshot, read s.json.compact = some s.wallet.creationDate := by
  intro t t'
  have different : t ≠ t' := by decide
  have settles : t.settled = t' := by decide
  have same : (createdAt t).json = (createdAt t').json := by
    simp only [createdAt, json, Wallet.json, ← settles, Instant.text_settled]
  refine ⟨different, congrArg Json.compact same, congrArg Json.pretty same, ?_⟩
  rintro ⟨read, faithful⟩
  have found : read (createdAt t).json.compact = some t := faithful (createdAt t)
  have found' : read (createdAt t').json.compact = some t' := faithful (createdAt t')
  rw [same, found'] at found
  exact different (Option.some.inj found).symm

end Snapshot
end WalletLoop
