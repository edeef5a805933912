import Docstore.Bulk.Operation
import Docstore.Proofs.Calendar.TimeText
import Docstore.Proofs.Number.FloatReading
import Docstore.Proofs.Text.IdentifierText
import Docstore.Value.Reading
import Docstore.Value.StoreForm

/-!
# Values are read back from the texts that stand for them

The store holds dates, timestamps and identifiers as texts, and numbers are shown by texts.  What was
read once is read back from such a text, so that no reading tells apart a value and its text.  Members
of vocabularies are read from their texts and from nothing else.

* `readDate_store`, `readTimestamp_store`, `readUuid_store` — what was read is read back from what it
  is stored as.
* `readFloat_plainText`, `readDecimal_plainText` — a number that was read is read back from its text.
* `readOctets_hexText` — octets are read back from their hexadecimal digits.
* `readMember_eq_ok` — a member of a vocabulary is read from the texts that name it.
-/

namespace Docstore.Value

variable {v w : Value} {s : String} {object : Nat}

/-- What a text is read as. -/
theorem readText_eq_ok {read : String → Except Fault Value} :
    v.readText read = .ok w ↔ ∃ s, v = .str s ∧ read s = .ok w := by
  cases v <;> simp [readText]

/-! ## Store forms -/

/-- **A date that was read** is read back from what it is stored as. -/
theorem readDate_store (h : v.readDate = .ok w) : w.store >>= readDate = .ok w := by
  obtain ⟨s, -, hread⟩ := readText_eq_ok.mp h
  split at hread
  · rename_i d hd
    cases hread
    have hback := Calendar.readDate_of_readDate hd
    simp only [store, bind, Except.bind, readDate, readText, hback]
  · cases hread

/-- **A timestamp that was read** is read back from what it is stored as. -/
theorem readTimestamp_store (h : v.readTimestamp = .ok w) : w.store >>= readTimestamp = .ok w := by
  obtain ⟨s, -, hread⟩ := readText_eq_ok.mp h
  split at hread
  · rename_i t ht
    cases hread
    have hback := Calendar.readTimestamp_of_readTimestamp ht
    simp only [store, bind, Except.bind, readTimestamp, readText, hback]
  · cases hread

/-- **An identifier that was read** is read back from what it is stored as. -/
theorem readUuid_store (h : v.readUuid = .ok w) : w.store >>= readUuid = .ok w := by
  unfold readUuid at h
  split at h
  · cases h
  · split at h
    · rename_i u hu
      cases h
      have hback := Uuid.ofText_of_ofText hu
      simp only [store, bind, Except.bind, readUuid, hback]
    · cases h
  · cases h

/-! ## Numbers -/

/-- **A floating-point number that was read** is read back from its text, as the same object. -/
theorem readFloat_plainText (h : v.readFloat object = .ok w) :
    w.plainText >>= (fun s => (str s).readFloat object) = .ok w := by
  have hfloat : ∃ x, w = .float x (.given object) := by
    unfold readFloat at h
    split at h
    · rename_i n _
      cases hx : nearestFloat n with
      | error e =>
        rw [hx] at h
        cases h
      | ok x =>
        rw [hx] at h
        cases h
        exact ⟨x, rfl⟩
    · obtain ⟨s, -, hread⟩ := readText_eq_ok.mp h
      split at hread
      · rename_i x _
        cases hread
        exact ⟨x, rfl⟩
      · cases hread
  obtain ⟨x, rfl⟩ := hfloat
  have hback := Binary64.binary64?_text x
  have htext : (float x (.given object)).plainText = .ok x.text := plainText_eq_ok.mpr ⟨rfl, rfl⟩
  simp only [htext, bind, Except.bind, readFloat, whole?, readText, hback]

/-- **A decimal number that was read from a text** is read back from its own text, as the same
object. -/
theorem readDecimal_plainText (h : (str s).readDecimal object = .ok w) :
    w.plainText >>= (fun s => (str s).readDecimal object) = .ok w := by
  simp only [readDecimal, whole?, readText] at h
  split at h
  · rename_i d hd
    cases h
    have hback := Number.decimal_of_decimal hd
    have htext : (decimal d object).plainText = .ok d.text := plainText_eq_ok.mpr ⟨rfl, rfl⟩
    simp only [htext, bind, Except.bind, readDecimal, whole?, readText, hback]
  · cases h

/-! ## Octets -/

/-- Octets as pairs of hexadecimal digits. -/
def hexText (octets : List UInt8) : String :=
  String.ofList (octets.flatMap fun o => Text.hex 2 o.toNat)

theorem hex_two : ∀ n < 256, Text.hex 2 n = [Nat.digitChar (n / 16), Nat.digitChar (n % 16)] := by
  decide +kernel

theorem octetsFrom_pair {place high low : Nat} {c d : Char} {rest : List Char}
    (hgap : isGap c = false) (hc : Uuid.hexDigit? c = some high) (hd : Uuid.hexDigit? d = some low) :
    octetsFrom place (c :: d :: rest) =
      (octetsFrom (place + 2) rest).map ((16 * high + low).toUInt8 :: ·) := by
  rw [octetsFrom.eq_def]
  simp only [hgap, Bool.false_eq_true, if_false, hc, hd]

theorem octetsFrom_hex (place : Nat) (octets : List UInt8) :
    octetsFrom place (octets.flatMap fun o => Text.hex 2 o.toNat) = .ok octets := by
  have hgap : ∀ d < 16, isGap (Nat.digitChar d) = false := by decide
  induction octets generalizing place with
  | nil => rfl
  | cons o rest ih =>
    have ho : o.toNat < 256 := o.toNat_lt
    have hhigh : o.toNat / 16 < 16 := by omega
    have hlow : o.toNat % 16 < 16 := by omega
    have hvalue : 16 * (o.toNat / 16) + o.toNat % 16 = o.toNat := Nat.div_add_mod _ _
    rw [List.flatMap_cons, hex_two _ ho, List.cons_append, List.cons_append, List.nil_append]
    rw [octetsFrom_pair (hgap _ hhigh) (Uuid.hexDigit?_digitChar _ hhigh)
      (Uuid.hexDigit?_digitChar _ hlow), ih, hvalue]
    simp [Except.map]

/-- **Octets are read back from their hexadecimal digits.** -/
theorem readOctets_hexText (octets : List UInt8) :
    (str (hexText octets)).readOctets = .ok (.bytes octets) := by
  have hascii : (octets.flatMap fun o => Text.hex 2 o.toNat).findIdx? (fun c => 0x80 ≤ c.toNat) =
      none := by
    have hsmall : ∀ d < 16, (Nat.digitChar d).toNat < 0x80 := by decide
    rw [List.findIdx?_eq_none_iff]
    intro c hc
    obtain ⟨o, -, hc⟩ := List.mem_flatMap.mp hc
    obtain ⟨d, hd, rfl⟩ := Text.mem_hex hc
    exact decide_eq_false (Nat.not_le.mpr (hsmall d hd))
  simp only [readOctets, readText, hexText, String.toList_ofList, hascii, octetsFrom_hex]

/-! ## Members of vocabularies -/

/-- A member of a vocabulary is read from the texts that name it, and from nothing else. -/
theorem readMember_eq_ok {α : Type} {vocabulary : String} {member? : String → Option α} {a : α} :
    readMember vocabulary member? v = .ok a ↔ ∃ s, v.text? = some s ∧ member? s = some a := by
  rw [← Option.bind_eq_some_iff]
  unfold readMember
  cases v.text?.bind member? with
  | some b => simp
  | none => cases v.display <;> simp [bind, Except.bind]

/-- Where members are named by their texts, one text only is read as a member. -/
theorem readMember_iff_text {α : Type} {vocabulary : String} {member? : String → Option α}
    {text : α → String} (hfound : ∀ a, member? (text a) = some a)
    (htext : ∀ s a, member? s = some a → text a = s) {a : α} :
    readMember vocabulary member? v = .ok a ↔ v.text? = some (text a) := by
  rw [readMember_eq_ok]
  constructor
  · rintro ⟨s, hs, ha⟩
    rw [hs, htext s a ha]
  · exact fun h => ⟨text a, h, hfound a⟩

theorem readOperator_eq_ok {op : Operator} : v.readOperator = .ok op ↔ v.text? = some op.text :=
  readMember_iff_text Operator.ofText?_text fun _ _ => Operator.text_of_ofText?

theorem readConnector_eq_ok {c : Connector} : v.readConnector = .ok c ↔ v.text? = some c.text :=
  readMember_iff_text Connector.ofText?_text fun _ _ => Connector.text_of_ofText?

theorem readDirection_eq_ok {d : Direction} : v.readDirection = .ok d ↔ v.text? = some d.text :=
  readMember_iff_text Direction.ofText?_text fun _ _ => Direction.text_of_ofText?

theorem readWriteKind_eq_ok {kind : WriteKind} :
    WriteKind.read v = .ok kind ↔ v.text? = some kind.text :=
  readMember_iff_text (fun kind => by cases kind <;> decide)
    fun _ _ h => by simpa using List.find?_some h

end Docstore.Value
