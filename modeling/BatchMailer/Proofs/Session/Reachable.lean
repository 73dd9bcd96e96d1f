import BatchMailer.Session

/-!
# BatchMailer.Proofs.Session.Reachable

The states that a decoder and its store can get into.

`Store.Worked` is what callers do to a store: they add and append records, drain
and clear batches, flush them with whatever sender they have, and report them.
`Intake.Reached` adds what is done to the decoder: it consumes bytes, is fed
pieces of input with some work on the store at the end of each line, and is
reset.  Any of this may fail, and the next operation goes on from what the failed
one left behind.

The decoder's attributes are never assigned from outside, and records that are
added from outside have fields that a decoder could have read.  The steps of a
session that keep to this lead to reached states only (`reached_of_mem_run`).
-/

namespace BatchMailer

/-- A field as it can stand on the wire. -/
def Wire.FieldFits (field : List UInt8) : Prop :=
  field.length ≤ Record.maxFieldLength ∧ ∀ b ∈ field, isDelimiter b = false

/-- A record whose fields can stand on the wire. -/
def Record.Fits (r : Record) : Prop := ∀ field ∈ r.fields, Wire.FieldFits field

/-- What can become of a store that is worked on. -/
inductive Store.Worked (s : Store) : Store → Prop where
  | nothing : s.Worked s
  | add {t u : Store} {r : Record} (h : s.Worked t) (hr : r.Fits) (hadd : t.add r = .ok u) :
      s.Worked u
  | append {t u : Store} {kind : Kind} {r : Record} (h : s.Worked t) (hr : r.Fits)
      (happend : t.append kind r = .ok u) : s.Worked u
  | drain {t : Store} (h : s.Worked t) (kind : Kind) : s.Worked (t.drain kind).2
  | clear {t : Store} (h : s.Worked t) (kind : Kind) : s.Worked (t.clear kind)
  | flush {t : Store} {σ : Type} (h : s.Worked t) (send : Sender σ) (outputDir : RawText)
      (sendState : SendState σ) : s.Worked (Flush.flush send outputDir t sendState).2.1
  | report {t : Store} (h : s.Worked t) : s.Worked t.clearAll

/-- A handler that does nothing to a store but to work on it. -/
def LineHandler.Works {σ : Type} (onLine : LineHandler σ) : Prop :=
  ∀ (d : Decoder) (store : Store) (a : σ), store.Worked (onLine d store a).2.1

/-- What can become of a decoder and its store, from the beginning on. -/
inductive Intake.Reached (capacity : Int) : Intake → Prop where
  | new : Reached capacity (.new capacity)
  | consume {s : Intake} (h : Reached capacity s) (b : UInt8) : Reached capacity (s.consume b).2
  | feed {s : Intake} {σ : Type} (h : Reached capacity s) {onLine : LineHandler σ}
      (hline : onLine.Works) (chunk : List UInt8) (a : σ) :
      Reached capacity (BatchMailer.feed onLine chunk s a).intake
  | reset {s : Intake} (h : Reached capacity s) : Reached capacity s.reset
  | work {s : Intake} {t : Store} (h : Reached capacity s) (hwork : s.store.Worked t) :
      Reached capacity { s with store := t }

namespace Session

/-- A step that assigns nothing, and adds only what could be on the wire. -/
def Step.Ordinary : Step → Prop
  | .assign _ _ => False
  | .add r | .append _ r => r.Fits
  | _ => True

variable {capacity : Int}

theorem reached_consumeAll {s : Intake} (h : s.Reached capacity) (bytes : List UInt8) :
    (consumeAll bytes s).2.2.Reached capacity := by
  induction bytes generalizing s with
  | nil => exact h
  | cons b rest ih =>
      have hb := h.consume b
      rw [consumeAll]
      split
      · next hconsume => rwa [hconsume] at hb
      · next hconsume =>
          rw [hconsume] at hb
          exact ih hb

theorem works_handler (outputDir : RawText) (action : LineAction) :
    (handler outputDir action).Works := by
  intro d store a
  cases action with
  | observe => exact .nothing
  | clear => exact .report .nothing
  | tally => exact .report .nothing
  | flush =>
      have hflush : store.Worked (flushStore outputDir store a.scriptState).2.1 := .flush .nothing _ _ _
      rw [handler]
      split
      · next heq => rwa [heq] at hflush
      · next heq => rwa [heq] at hflush

theorem works_beside {σ τ : Type} {onLine : LineHandler σ} (h : onLine.Works) :
    (onLine.beside (τ := τ)).Works :=
  fun d store a => h d store a.2

theorem reached_pumpReads {σ : Type} {onRead : Option Piece → σ → σ} {onLine : LineHandler σ}
    (hline : onLine.Works) (pieces : List Piece) {s : Intake} (h : s.Reached capacity) (a : σ) :
    (pumpReads onRead onLine pieces s a).intake.Reached capacity := by
  induction pieces generalizing s a with
  | nil => exact h
  | cons piece rest ih =>
      cases piece with
      | failure f => exact h
      | bytes content =>
          have hfeed := h.feed hline content (onRead (some (.bytes content)) a)
          rw [pumpReads]
          cases hp : feed onLine content s (onRead (some (.bytes content)) a) with
          | mk result t c =>
              rw [hp] at hfeed
              cases result with
              | ok _ => exact ih hfeed c
              | error f => exact hfeed

/-- An ordinary step leads from a reached state to another. -/
theorem reached_step {s : State} (h : s.intake.Reached capacity) {action : Step}
    (haction : action.Ordinary) : (step s action).2.intake.Reached capacity := by
  have hadded : ∀ {result : Except WireError Store},
      (∀ t, result = .ok t → s.intake.store.Worked t) →
        (withStore s result).2.intake.Reached capacity := by
    intro result hworked
    cases result with
    | error e => exact h
    | ok t => exact h.work (hworked t rfl)
  cases action with
  | consume bytes => exact reached_consumeAll h bytes
  | feed bytes maxLines onLine outlet => exact h.feed (works_handler _ _) _ _
  | pump pieces size onLine outlet =>
      exact reached_pumpReads (works_beside (works_handler _ _)) _ h _
  | reset => exact h.reset
  | assign index kind => exact haction.elim
  | add record => exact hadded fun t ht => .add .nothing haction ht
  | append batch record => exact hadded fun t ht => .append .nothing haction ht
  | ofFields kind fields =>
      rw [step]
      split <;> exact h
  | drain batch => exact h.work (.drain .nothing batch)
  | clear batch => exact h.work (.clear .nothing batch)
  | report => exact h.work (.report .nothing)
  | flush outlet => exact h.work (.flush .nothing _ _ _)
  | records => exact h
  | isFull => exact h
  | isEmpty => exact h
  | counts => exact h

/-- A session of ordinary steps leads to reached states only. -/
theorem reached_of_mem_run {s : State} (h : s.intake.Reached capacity) {steps : List Step}
    (hsteps : ∀ action ∈ steps, action.Ordinary)
    {result : Except Fault Result} {t : State} {added : List Log.Entry}
    (ht : (result, t, added) ∈ run s steps) : t.intake.Reached capacity := by
  induction steps generalizing s with
  | nil => contradiction
  | cons action rest ih =>
      have hnext : (step s action).2.intake.Reached capacity :=
        reached_step h (hsteps action List.mem_cons_self)
      rw [run, List.mem_cons] at ht
      obtain hhere | hlater := ht
      · cases hhere
        exact hnext
      · exact ih hnext (fun other hother => hsteps other (List.mem_cons_of_mem action hother)) hlater

end Session

end BatchMailer
