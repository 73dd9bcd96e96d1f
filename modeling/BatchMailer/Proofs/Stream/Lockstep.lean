import BatchMailer.Stream

/-!
# BatchMailer.Proofs.Stream.Lockstep

Two handlers that keep in step.

What a handler keeps is its own affair; the intake only notices what becomes of
the store, and whether the handler raises a fault.  Two handlers that agree in
this, as long as their states stay in some relation, take a stream in alike:
through one piece (`feed_inStep`), through all reads (`pumpReads_inStep`), and
with the reads counted (`pump_inStep`).
-/

namespace BatchMailer

variable {σ τ : Type} {R : σ → τ → Prop}

/-- Two handlers that do the same to any store while their states are related,
and leave them related. -/
def LineHandler.InStep (R : σ → τ → Prop) (onLine : LineHandler σ) (onLine' : LineHandler τ) :
    Prop :=
  ∀ d store a b, R a b → ∃ result store' a' b',
    onLine d store a = (result, store', a') ∧ onLine' d store b = (result, store', b') ∧ R a' b'

/-- Two intakes that got equally far and came to the same end. -/
structure Progress.InStep (R : σ → τ → Prop) (p : Progress σ) (q : Progress τ) : Prop where
  result : p.result = q.result
  intake : p.intake = q.intake
  state : R p.state q.state

theorem Progress.InStep.andThen {p : Progress σ} {q : Progress τ} (h : p.InStep R q)
    {next : Intake → σ → Progress σ} {next' : Intake → τ → Progress τ}
    (hnext : ∀ s a b, R a b → (next s a).InStep R (next' s b)) :
    (p.andThen next).InStep R (q.andThen next') := by
  obtain ⟨result, s, a⟩ := p
  obtain ⟨_, _, b⟩ := q
  obtain ⟨rfl, rfl, hab⟩ := h
  cases result with
  | ok _ => exact hnext s a b hab
  | error f => exact ⟨rfl, rfl, hab⟩

section

variable {onLine : LineHandler σ} {onLine' : LineHandler τ}

theorem feed_inStep (h : onLine.InStep R onLine') (chunk : List UInt8) (s : Intake) {a : σ} {b : τ}
    (hab : R a b) : (feed onLine chunk s a).InStep R (feed onLine' chunk s b) := by
  induction chunk generalizing s a b with
  | nil => exact ⟨rfl, rfl, hab⟩
  | cons byte rest ih =>
      rw [feed, feed]
      split
      · exact ⟨rfl, rfl, hab⟩
      · exact ih _ hab
      · next t _ =>
          obtain ⟨result, store, a', b', hline, hline', hab'⟩ := h t.decoder t.store a b hab
          rw [hline, hline']
          cases result with
          | ok _ => exact ih _ hab'
          | error f => exact ⟨rfl, rfl, hab'⟩

theorem pumpReads_inStep (h : onLine.InStep R onLine') {onRead : Option Piece → σ → σ}
    {onRead' : Option Piece → τ → τ} (hread : ∀ got a b, R a b → R (onRead got a) (onRead' got b))
    (pieces : List Piece) (s : Intake) {a : σ} {b : τ} (hab : R a b) :
    (pumpReads onRead onLine pieces s a).InStep R (pumpReads onRead' onLine' pieces s b) := by
  induction pieces generalizing s a b with
  | nil => exact ⟨rfl, rfl, hread none a b hab⟩
  | cons piece rest ih =>
      cases piece with
      | failure f => exact ⟨rfl, rfl, hread _ a b hab⟩
      | bytes content =>
          have hfeed := feed_inStep h content s (hread (some (.bytes content)) a b hab)
          exact hfeed.andThen fun t _ _ hab' => ih t hab'

/-- Related states, with the same kept beside them. -/
def SameBeside (υ : Type) (R : σ → τ → Prop) (a : υ × σ) (b : υ × τ) : Prop := a.1 = b.1 ∧ R a.2 b.2

theorem LineHandler.InStep.beside {υ : Type} (h : onLine.InStep R onLine') :
    onLine.beside.InStep (SameBeside υ R) onLine'.beside := by
  rintro d store ⟨kept, a⟩ ⟨_, b⟩ ⟨rfl, hab⟩
  obtain ⟨result, store', a', b', hline, hline', hab'⟩ := h d store a b hab
  refine ⟨result, store', (kept, a'), (kept, b'), ?_, ?_, rfl, hab'⟩
  · simp only [LineHandler.beside, hline]
  · simp only [LineHandler.beside, hline']

/-- Handlers that keep in step take a stream in alike, by equally many reads. -/
theorem pump_inStep (h : onLine.InStep R onLine') (size : Int) (pieces : List Piece) (s : Intake)
    {a : σ} {b : τ} (hab : R a b) :
    (pump onLine size pieces s a).1 = (pump onLine' size pieces s b).1 ∧
      (pump onLine size pieces s a).2.InStep R (pump onLine' size pieces s b).2 := by
  have hboth : (pumpReads (fun _ p => (p.1 + 1, p.2)) onLine.beside
        (reads size pieces) s (0, a)).InStep (SameBeside Nat R)
      (pumpReads (fun _ q => (q.1 + 1, q.2)) onLine'.beside (reads size pieces) s (0, b)) := by
    refine pumpReads_inStep h.beside ?_ (reads size pieces) s ⟨rfl, hab⟩
    intro got p q hpq
    exact ⟨congrArg (· + 1) hpq.1, hpq.2⟩
  exact ⟨hboth.state.1, hboth.result, hboth.intake, hboth.state.2⟩

end

end BatchMailer
