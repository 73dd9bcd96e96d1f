import BatchMailer.Proofs.Flush.InTurn
import BatchMailer.Proofs.Run.Dispatch
import BatchMailer.Proofs.Stream.Delivery
import BatchMailer.Proofs.Wire.Veil

/-!
# BatchMailer.Proofs.Run.Matched

Runs over streams that look the same through a veil.

Such streams fail alike and are taken in alike, however each is delivered, so all
depends on what a flush makes of stores that look the same.  These make as many
requests, each like the other (`Store.SameUnder.requests`).  If a dispatch of like
requests preserves a relation between what the two runs have come to, so do a
flush and a line (`Run.flushing_inStepUnder`) and a whole run (`Run.matched_send`).
-/

namespace BatchMailer

/-! ## streams -/

/-- Two streams that bring bytes which look the same, and fail alike. -/
structure Delivery.SameUnder (veil : Veil) (d d' : Delivery) : Prop where
  bytes : Wire.SameUnder veil d.bytes d'.bytes
  failure : d.failure = d'.failure

/-- Streams that never fail look the same if their bytes do. -/
theorem Delivery.sameUnder_of_chunks {veil : Veil} {chunks chunks' : List (List UInt8)}
    (hchunks : ∀ chunk ∈ chunks, chunk ≠ []) (hchunks' : ∀ chunk ∈ chunks', chunk ≠ [])
    (h : Wire.SameUnder veil chunks.flatten chunks'.flatten) :
    (delivered (chunks.map .bytes)).SameUnder veil (delivered (chunks'.map .bytes)) := by
  rw [delivered_bytes hchunks, delivered_bytes hchunks']
  exact ⟨h, rfl⟩

/-! ## requests -/

section

variable {veil : Veil} {Q : Request → Request → Prop}
  (hQ : ∀ kind records records', List.Forall₂ (Record.SameUnder veil) records records' →
    Q (.ofRecords kind records) (.ofRecords kind records'))
include hQ

theorem forall₂_request_ofKind (kind : Kind) {records records' : List Record}
    (h : List.Forall₂ (Record.SameUnder veil) records records') :
    List.Forall₂ Q ((Lot.ofKind kind records).map Lot.request)
      ((Lot.ofKind kind records').map Lot.request) := by
  rw [Lot.ofKind, Lot.ofKind]
  cases h with
  | nil => exact .nil
  | cons hr hrest => exact .cons (hQ kind _ _ (.cons hr hrest)) .nil

/-- Stores that look the same make as many requests, each like the other. -/
theorem Store.SameUnder.requests {s s' : Store} (h : s.SameUnder veil s') :
    List.Forall₂ Q s.requests s'.requests := by
  have hkinds : ∀ kinds : List Kind,
      List.Forall₂ Q ((Lot.ofKinds kinds s.pending).map Lot.request)
        ((Lot.ofKinds kinds s'.pending).map Lot.request) := by
    intro kinds
    induction kinds with
    | nil => exact .nil
    | cons kind rest ih =>
        rw [Lot.ofKinds, Lot.ofKinds, List.flatMap_cons, List.flatMap_cons, List.map_append,
          List.map_append]
        exact List.rel_append (forall₂_request_ofKind hQ kind (h kind).records) ih
  exact hkinds Kind.all

end

/-! ## flushes -/

namespace Flush

variable {σ : Type} {send : Sender σ} {dir : RawText} {Q : Request → Request → Prop}
  {R : SendState σ → SendState σ → Prop}

/-- What one dispatch preserves, dispatches in turn do. -/
theorem dispatchAll_related
    (hdispatch : ∀ q q' o o', Q q q' → R o o' →
      ((dispatch send dir q o).1.map fun _ => ()) = ((dispatch send dir q' o').1.map fun _ => ()) ∧
        R (dispatch send dir q o).2 (dispatch send dir q' o').2)
    {requests requests' : List Request} (h : List.Forall₂ Q requests requests') {o o' : SendState σ}
    (ho : R o o') :
    (dispatchAll send dir requests o).1 = (dispatchAll send dir requests' o').1 ∧
      R (dispatchAll send dir requests o).2 (dispatchAll send dir requests' o').2 := by
  induction h generalizing o o' with
  | nil => exact ⟨rfl, ho⟩
  | @cons q q' rest rest' hq _ ih =>
      obtain ⟨hresult, hsendState⟩ := hdispatch q q' o o' hq ho
      rw [dispatchAll, dispatchAll]
      generalize dispatch send dir q o = first at hresult hsendState ⊢
      generalize dispatch send dir q' o' = second at hresult hsendState ⊢
      obtain ⟨result, p⟩ := first
      obtain ⟨result', p'⟩ := second
      cases result with
      | error f =>
          cases result' with
          | error f' => exact ⟨congrArg Except.error (Except.error.inj hresult), hsendState⟩
          | ok d' => contradiction
      | ok d =>
          cases result' with
          | error f' => contradiction
          | ok d' => exact ih hsendState

end Flush

namespace Run

variable {σ τ : Type}

/-- What one dispatch preserves, the end of a line does. -/
theorem flushing_inStepUnder {send : Sender σ} {dir : RawText} {Q : Request → Request → Prop}
    {R : SendState σ → SendState σ → Prop} {veil : Veil}
    (hQ : ∀ kind records records', List.Forall₂ (Record.SameUnder veil) records records' →
      Q (.ofRecords kind records) (.ofRecords kind records'))
    (hdispatch : ∀ q q' o o', Q q q' → R o o' →
      ((Flush.dispatch send dir q o).1.map fun _ => ()) =
          ((Flush.dispatch send dir q' o').1.map fun _ => ()) ∧
        R (Flush.dispatch send dir q o).2 (Flush.dispatch send dir q' o').2) :
    (flushing send dir).InStepUnder veil R (flushing send dir) := by
  intro d d' store store' o o' hstore ho
  obtain ⟨hresult, hsendState⟩ := Flush.dispatchAll_related hdispatch (hstore.requests hQ) ho
  obtain ⟨left, hflush, hleft⟩ := flushing_eq send dir d store o
  obtain ⟨left', hflush', hleft'⟩ := flushing_eq send dir d' store' o'
  refine ⟨_, left, left', _, _, hflush, by rw [hflush', hresult], hsendState, fun hok => ?_⟩
  rw [hleft hok, hleft' (hresult ▸ hok)]
  exact hstore.clearAll

/-! ## runs -/

/-- Two runs that did not begin, in the same way, or that ended alike with send states
that are related. -/
inductive Report.Matched (R : SendState σ → SendState σ → Prop) (r r' : Report σ) : Prop where
  | same (h : r = r')
  | ended (result : Except Fault Unit) (o o' : SendState σ) (h : R o o')
      (sender : r.sender = some o.sender) (sender' : r'.sender = some o'.sender)
      (finish : (r.ending, r.host) = Run.finish result o.host)
      (finish' : (r'.ending, r'.host) = Run.finish result o'.host)
      (client : r.client = r'.client)

/-- Runs over streams that look the same, if the ends of lines go by in step. -/
theorem matched_send {veil : Veil} {R : SendState σ → SendState σ → Prop} (build : Settings → BuiltSender σ)
    (settings : Except SettingsError Settings)
    (hflush : ∀ s, settings = .ok s → (flushing (build s).send s.outputDir).InStepUnder veil R
      (flushing (build s).send s.outputDir))
    (hstart : ∀ s, settings = .ok s → ∀ host, R ⟨(build s).state, host⟩ ⟨(build s).state, host⟩)
    {pieces pieces' : List Piece} (hsame : (delivered pieces).SameUnder veil (delivered pieces'))
    (host : Host) :
    (send build settings pieces host).Matched R (send build settings pieces' host) := by
  cases settings with
  | error e => exact .same rfl
  | ok s =>
      cases hmade : host.files.ensureDirectories s.outputDir with
      | mk result files =>
          cases result with
          | error e =>
              by_cases hrefused : ∃ cause path, e = .refused cause path
              · obtain ⟨cause, path, rfl⟩ := hrefused
                rw [send_of_refused _ hmade, send_of_refused _ hmade]
                exact .same rfl
              · have hmisuse : ∀ cause path, e ≠ .refused cause path :=
                  fun cause path he => hrefused ⟨cause, path, he⟩
                rw [send_of_misuse _ hmisuse hmade, send_of_misuse _ hmisuse hmade]
                exact .same rfl
          | ok _ =>
              obtain ⟨hsender, hfinish⟩ := send_of_pump build hmade pieces
              obtain ⟨hsender', hfinish'⟩ := send_of_pump build hmade pieces'
              have hclient := client_send build hmade pieces
              have hclient' := client_send build hmade pieces'
              have hsize : 0 < defaultReadSize := by decide
              rw [pump_delivered _ hsize, state_conclude] at hsender hfinish hsender' hfinish'
              rw [result_conclude] at hfinish hfinish'
              obtain ⟨hresult, hstate⟩ := feed_sameUnder (hflush s rfl) hsame.bytes
                (hstart s rfl (buildSender build s { host.info s.summary with files }).2)
                Store.defaultCapacity
              rw [← hresult, ← hsame.failure] at hfinish'
              exact .ended _ _ _ hstate hsender hsender' hfinish hfinish'
                (hclient.trans hclient'.symm)

end Run

end BatchMailer
