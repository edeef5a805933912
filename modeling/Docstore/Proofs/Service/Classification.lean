import Docstore.Proofs.Service.Submission
import Docstore.Proofs.Store.Boundary

/-!
# Two classifiers of failed calls

A point call that fails is classified in two places.  In a batch it settles its operation: with the
status of a timeout, with the status that the error carries, or with the failure itself, to be
raised.  At the boundary of a store it becomes a timeout of the store, a rejected action, or passes
as it is.  Both put timeouts and errors of the service apart from everything else.  They differ on
one kind of error: one that is no timeout by its type and carries the status of a timeout outside
the database protocol.  A batch hands its status on, so that it counts as a timeout there; the
boundary takes it for a rejection.  Besides, the boundary needs words for a fault before it
classifies it, and a batch does not.

* `settle_error` — what an operation settles with when its call fails.
* `Fault.refusal?_of_service` — what an error of the service becomes at the boundary.
* `classifiedAlike_iff` — a failure is classified alike exactly if it hides no timeout and the
  boundary has words for it.
-/

namespace Docstore

/-- Whether a refusal says that the store did not answer in time. -/
def Refusal.isTimeout : Refusal → Bool
  | .storeTimeout .. => true
  | _ => false

namespace Fault

variable {f : Fault} {s : ServiceError}

/-- An error of the service carries the status of a timeout, but does not count as one. -/
def HidesTimeout (f : Fault) : Prop :=
  ∃ s, f = .service s ∧ s.isTimeout = false ∧ s.status? = some Batch.timeoutStatus

/-- What becomes of a fault tells some detail. -/
theorem exists_of_refusal? {action : Action} {d : Option Refusal} (h : f.refusal? action = .ok d) :
    ∃ detail, d = f.refusalWith? action detail := by
  unfold refusal? at h
  obtain ⟨detail, -, h⟩ := bind_eq_ok.mp h
  refine ⟨detail, ?_⟩
  cases hr : f.refusalWith? action detail with
  | none =>
    rw [hr] at h
    exact (Except.ok.inj h).symm
  | some r =>
    rw [hr] at h
    obtain ⟨text, -, h⟩ := bind_eq_ok.mp h
    exact (Except.ok.inj h).symm

/-- A timeout becomes a timeout of the store. -/
theorem refusalWith?_of_isTimeout (action : Action) (detail : Value) (h : f.isTimeout = true) :
    ∃ r, f.refusalWith? action detail = some r ∧ r.isTimeout = true ∧ r.isPersistence = true := by
  unfold refusalWith?
  rw [if_pos h]
  exact ⟨_, rfl, rfl, rfl⟩

/-- Any other error of the service becomes a rejected action. -/
theorem refusal?_of_service (action : Action) (h : s.isTimeout = false) :
    ∃ r, (service s).refusal? action = .ok (some r) ∧ r.isTimeout = false ∧
      r.isPersistence = true := by
  obtain ⟨detail, -, hbecomes⟩ := refusal?_of_isForeign action (e := service s) rfl
  have htimeout : ¬(service s).isTimeout = true := by simp [isTimeout, h]
  unfold refusalWith? at hbecomes
  rw [if_neg htimeout] at hbecomes
  exact ⟨_, hbecomes, rfl, rfl⟩

/-- What the service does not report passes the boundary. -/
theorem refusalWith?_of_not_isReported (action : Action) (detail : Value) (h : f.isReported = false) :
    f.refusalWith? action detail = none := by
  unfold refusalWith?
  cases f with
  | service s => cases h
  | _ =>
    simp only [isReported] at h
    simp [h]

theorem isReported_of_isTimeout (h : f.isTimeout = true) : f.isReported = true := by
  cases f with
  | service s => rfl
  | _ => exact h

/-- A fault is a timeout, another error of the service, or none of the service's. -/
theorem sort_cases (f : Fault) :
    f.isTimeout = true ∨ (∃ s, f = .service s ∧ s.isTimeout = false) ∨ f.isReported = false := by
  cases f with
  | service s =>
    cases h : s.isTimeout with
    | true => exact .inl h
    | false => exact .inr (.inl ⟨s, rfl, h⟩)
  | refusal r => cases r <;> simp [isTimeout, isReported]
  | timeout message => exact .inl rfl
  | _ => exact .inr (.inr rfl)

theorem hidesTimeout_service_iff (h : s.isTimeout = false) :
    (service s).HidesTimeout ↔ s.status? = some Batch.timeoutStatus := by
  constructor
  · rintro ⟨s', hs', -, hstatus⟩
    cases hs'
    exact hstatus
  · exact fun hstatus => ⟨s, rfl, h, hstatus⟩

end Fault

namespace Batch

variable {o : Operation} {action : Action} {e : Failure}

/-- **What an operation settles with when its call fails**: a status, if the failure is one that the
service reports, and the failure itself otherwise. -/
theorem settle_error (o : Operation) (e : Failure) : (settle o (.error e)).1 =
    if e.fault.isReported then .ok (status o (.error e)) else .error e := by
  have hsettlement := settlement_eq (fun _ => .error e) (0, o)
  rw [settlement, raised?] at hsettlement
  rw [hsettlement]
  cases e.fault.isReported <;> rfl

/-- A batch and the boundary of a store classify a failure of a point call alike. -/
structure ClassifiedAlike (o : Operation) (action : Action) (e : Failure) : Prop where
  timeout : (settle o (.error e)).1 = .ok (.int timeoutStatus) ↔
    ∃ r, e.fault.refusal? action = .ok (some r) ∧ r.isTimeout = true
  rejection : (∃ reported, (settle o (.error e)).1 = .ok reported ∧ reported ≠ .int timeoutStatus) ↔
    ∃ r, e.fault.refusal? action = .ok (some r) ∧ r.isPersistence = true ∧ r.isTimeout = false
  passing : (settle o (.error e)).1 = .error e ↔ e.fault.refusal? action = .ok none
  /-- An error with the status of a timeout is one on both paths. -/
  byStatus : ∀ s, e.fault = .service s → s.status? = some timeoutStatus →
    (settle o (.error e)).1 = .ok (.int timeoutStatus) ∧
      ∃ r, e.fault.refusal? action = .ok (some r) ∧ r.isTimeout = true

/-- Timeouts for which the boundary has words are classified alike. -/
theorem classifiedAlike_of_isTimeout (o : Operation) (h : e.fault.isTimeout = true)
    {d : Option Refusal} (hd : e.fault.refusal? action = .ok d) : ClassifiedAlike o action e := by
  have hsettle : (settle o (.error e)).1 = .ok (.int timeoutStatus) := by
    rw [settle_error, if_pos (Fault.isReported_of_isTimeout h), status, if_pos h]
  obtain ⟨detail, rfl⟩ := Fault.exists_of_refusal? hd
  obtain ⟨r, hr, htimeout, -⟩ := Fault.refusalWith?_of_isTimeout action detail h
  rw [hr] at hd
  refine ⟨?_, ?_, ?_, ?_⟩ <;> simp [hsettle, hd, htimeout]

/-- What the service does not report is classified alike if the boundary has words for it. -/
theorem classifiedAlike_of_not_isReported (o : Operation) (h : e.fault.isReported = false)
    {d : Option Refusal} (hd : e.fault.refusal? action = .ok d) : ClassifiedAlike o action e := by
  have hsettle : (settle o (.error e)).1 = .error e := by
    rw [settle_error, h, if_neg Bool.false_ne_true]
  obtain ⟨detail, rfl⟩ := Fault.exists_of_refusal? hd
  rw [Fault.refusalWith?_of_not_isReported action detail h] at hd
  refine ⟨?_, ?_, ?_, ?_⟩
  · simp [hsettle, hd]
  · simp [hsettle, hd]
  · simp [hsettle, hd]
  · intro s hs
    rw [hs] at h
    cases h

/-- What is classified alike has words at the boundary. -/
theorem ClassifiedAlike.exists_refusal? (h : ClassifiedAlike o action e) :
    ∃ d, e.fault.refusal? action = .ok d := by
  rcases e.fault.sort_cases with htimeout | ⟨s, hs, hnot⟩ | hforeign
  · have hsettle : (settle o (.error e)).1 = .ok (.int timeoutStatus) := by
      rw [settle_error, if_pos (Fault.isReported_of_isTimeout htimeout), status, if_pos htimeout]
    obtain ⟨r, hr, -⟩ := h.timeout.mp hsettle
    exact ⟨some r, hr⟩
  · obtain ⟨r, hr, -⟩ := Fault.refusal?_of_service action hnot
    exact ⟨some r, hs ▸ hr⟩
  · have hsettle : (settle o (.error e)).1 = .error e := by
      rw [settle_error, hforeign, if_neg Bool.false_ne_true]
    exact ⟨none, h.passing.mp hsettle⟩

/-- An error of the service that is no timeout settles an operation with the status that it carries,
if any. -/
theorem settle_service (o : Operation) {s : ServiceError} (hfault : e.fault = .service s)
    (h : s.isTimeout = false) :
    (settle o (.error e)).1 = .ok ((s.status?.map Value.int).getD .null) := by
  have htimeout : ¬e.fault.isTimeout = true := by simp [hfault, Fault.isTimeout, h]
  have hreported : e.fault.isReported = true := by rw [hfault]; rfl
  rw [settle_error, if_pos hreported, status, if_neg htimeout, hfault]

/-- An error of the service that is no timeout is classified alike exactly if it does not carry the
status of one. -/
theorem classifiedAlike_service_iff (o : Operation) (action : Action) {s : ServiceError}
    (hfault : e.fault = .service s) (h : s.isTimeout = false) :
    ClassifiedAlike o action e ↔ s.status? ≠ some timeoutStatus := by
  have hsettle := settle_service o hfault h
  have hstatus : (s.status?.map Value.int).getD .null = .int timeoutStatus ↔
      s.status? = some timeoutStatus := by
    cases s.status? <;> simp
  obtain ⟨r, hr, htimeout, hpersistence⟩ := Fault.refusal?_of_service action h
  rw [← hfault] at hr
  constructor
  · intro halike hsame
    obtain ⟨r', hr', htimeout'⟩ := halike.timeout.mp (by rw [hsettle, hstatus.mpr hsame])
    cases hr.symm.trans hr'
    exact Bool.false_ne_true (htimeout.symm.trans htimeout')
  · intro hother
    refine ⟨?_, ?_, ?_, ?_⟩
    · simp [hsettle, hr, htimeout, hstatus, hother]
    · simp [hsettle, hr, htimeout, hpersistence, hstatus, hother]
    · simp [hsettle, hr]
    · intro s' hs' hsame
      cases hfault.symm.trans hs'
      exact absurd hsame hother

/-- **A failure is classified alike exactly if it hides no timeout** and the boundary has words for
it, as it has for every fault with a message that is none of the library's own.  Whatever the
operation and the action, a failed point call is a timeout, a rejection or none of the store's
concern in a batch exactly if it is at the boundary of the store, unless its error carries the status
of a timeout without counting as one.  Such an error settles with the status of a timeout in a batch
and is a rejection at the boundary. -/
theorem classifiedAlike_iff (o : Operation) (action : Action) (e : Failure) :
    (ClassifiedAlike o action e ↔
      ¬e.fault.HidesTimeout ∧ ∃ d, e.fault.refusal? action = .ok d) ∧
    ((∀ r, e.fault ≠ .refusal r) →
      ((∃ d, e.fault.refusal? action = .ok d) ↔ e.fault.HasMessage)) ∧
    (e.fault.HidesTimeout → (settle o (.error e)).1 = .ok (.int timeoutStatus) ∧
      ∃ r, e.fault.refusal? action = .ok (some r) ∧ r.isPersistence = true ∧
        r.isTimeout = false) := by
  refine ⟨⟨fun halike => ⟨?_, halike.exists_refusal?⟩, ?_⟩,
    Fault.exists_refusal?_iff action, ?_⟩
  · rintro ⟨s, hs, hnot, hstatus⟩
    exact (classifiedAlike_service_iff o action hs hnot).mp halike hstatus
  · rintro ⟨hhides, d, hd⟩
    rcases e.fault.sort_cases with htimeout | ⟨s, hs, hnot⟩ | hforeign
    · exact classifiedAlike_of_isTimeout o htimeout hd
    · rw [hs, Fault.hidesTimeout_service_iff hnot] at hhides
      exact (classifiedAlike_service_iff o action hs hnot).mpr hhides
    · exact classifiedAlike_of_not_isReported o hforeign hd
  · rintro ⟨s, hs, hnot, hstatus⟩
    obtain ⟨r, hr, htimeout, hpersistence⟩ := Fault.refusal?_of_service action hnot
    rw [settle_service o hs hnot, hstatus, hs]
    exact ⟨rfl, r, hr, hpersistence, htimeout⟩

/-- A response outside the database protocol with the status of a timeout.  A batch reports a
timeout, and the boundary a rejected action. -/
theorem response_with_status_of_timeout :
    let o : Operation := ⟨.replace, .str "a", .str "a", some (.dict [(.str "id", .str "a")])⟩
    let e : Failure := ⟨.service (.http (some 408) (some "x")), none⟩
    (settle o (.error e)).1 = .ok (.int 408) ∧
      e.fault.refusal? .update = .ok (some (.persistence
        (.str "Error updating item in the database.") (.str "x") (.str "update"))) ∧
      ¬ClassifiedAlike o .update e := by
  intro o e
  have hrefusal : e.fault.refusal? .update = .ok (some (.persistence
      (.str "Error updating item in the database.") (.str "x") (.str "update"))) := by rfl
  refine ⟨rfl, hrefusal, fun halike => ?_⟩
  obtain ⟨r, hr, htimeout⟩ := halike.timeout.mp rfl
  cases hrefusal.symm.trans hr
  cases htimeout

end Batch

end Docstore
