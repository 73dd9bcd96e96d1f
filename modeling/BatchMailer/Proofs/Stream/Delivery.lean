import BatchMailer.Proofs.Stream.Lockstep
import BatchMailer.Proofs.Stream.Notes

/-!
# BatchMailer.Proofs.Stream.Delivery

What a stream brings, whichever way it is delivered.

A stream brings bytes and then comes to its end, or to a failure of a read.  A
piece without bytes is an end as well, and nothing behind an end or a failure is
ever read.  Taking in a stream is feeding all its bytes and then ending as the
stream does (`pump_delivered`), so of two deliveries that bring the same the
same comes.
-/

namespace BatchMailer

variable {σ : Type}

/-- Bytes, and the failure behind them, if there is one. -/
structure Delivery where
  bytes : List UInt8
  failure : Option Failure
  deriving DecidableEq, Repr

/-- What the pieces of a stream bring. -/
def delivered : List Piece → Delivery
  | [] => ⟨[], none⟩
  | .failure f :: _ => ⟨[], some f⟩
  | .bytes content :: rest =>
    if content = [] then ⟨[], none⟩
    else ⟨content ++ (delivered rest).bytes, (delivered rest).failure⟩

/-- What is left to do of a stream when its bytes have been taken in. -/
def Delivery.conclude (d : Delivery) (s : Intake) (a : σ) : Progress σ :=
  match d.failure with
  | none => ⟨.ok (), s, a⟩
  | some f => ⟨.error (.outside f), s, a⟩

/-- A fault, if there is one. -/
def raised : Option Fault → Except Fault Unit
  | none => .ok ()
  | some f => .error f

section

variable (p : Progress σ) (d : Delivery)

/-- What is left of a stream ends it with its failure, if there is one. -/
theorem result_conclude :
    (p.andThen d.conclude).result = p.result.bind fun _ => raised (d.failure.map .outside) := by
  obtain ⟨result, s, a⟩ := p
  obtain ⟨bytes, failure⟩ := d
  cases result <;> cases failure <;> rfl

/-- Nothing happens to the state in it. -/
theorem state_conclude : (p.andThen d.conclude).state = p.state := by
  obtain ⟨result, s, a⟩ := p
  obtain ⟨bytes, failure⟩ := d
  cases result <;> cases failure <;> rfl

end

/-- It takes two intakes that are in step to the same end. -/
theorem Delivery.conclude_inStep {τ : Type} {R : σ → τ → Prop} (d : Delivery) (s : Intake) (a : σ)
    (b : τ) (h : R a b) : (d.conclude s a).InStep R (d.conclude s b) := by
  obtain ⟨bytes, failure⟩ := d
  cases failure with
  | none => exact ⟨rfl, rfl, h⟩
  | some f => exact ⟨rfl, rfl, h⟩

/-- Only a failure among the pieces is delivered. -/
theorem mem_of_failure_delivered {pieces : List Piece} {f : Failure}
    (h : (delivered pieces).failure = some f) : .failure f ∈ pieces := by
  fun_induction delivered pieces with
  | case1 => contradiction
  | case2 g rest =>
      rw [Option.some.inj h]
      exact List.mem_cons_self
  | case3 rest => contradiction
  | case4 content rest hcontent ih => exact List.mem_cons_of_mem _ (ih h)

/-- Pieces that all hold bytes bring these bytes. -/
theorem delivered_bytes {chunks : List (List UInt8)} (hchunks : ∀ chunk ∈ chunks, chunk ≠ []) :
    delivered (chunks.map .bytes) = ⟨chunks.flatten, none⟩ := by
  induction chunks with
  | nil => rfl
  | cons chunk rest ih =>
      have hchunk : chunk ≠ [] := hchunks chunk List.mem_cons_self
      have hrest := ih fun other hother => hchunks other (List.mem_cons_of_mem chunk hother)
      rw [List.map_cons, delivered, if_neg hchunk, hrest, List.flatten_cons]

/-! ## taking in what is delivered -/

theorem Progress.andThen_assoc {τ : Type} (p : Progress τ) (next after : Intake → τ → Progress τ) :
    (p.andThen next).andThen after = p.andThen fun s a => (next s a).andThen after := by
  obtain ⟨result, s, a⟩ := p
  cases result <;> rfl

/-- Reads that get bytes, and the reads behind them. -/
theorem pumpReads_append (onLine : LineHandler σ) (chunks : List (List UInt8)) (rest : List Piece)
    (s : Intake) (a : σ) :
    pumpReads (fun _ a => a) onLine (chunks.map .bytes ++ rest) s a =
      (feed onLine chunks.flatten s a).andThen (pumpReads (fun _ a => a) onLine rest) := by
  induction chunks generalizing s a with
  | nil => rfl
  | cons chunk more ih =>
      have hmore : pumpReads (fun _ a => a) onLine (more.map .bytes ++ rest) =
          fun s a => (feed onLine more.flatten s a).andThen
            (pumpReads (fun _ a => a) onLine rest) :=
        funext fun s => funext fun a => ih s a
      rw [List.map_cons, List.cons_append, pumpReads, hmore, List.flatten_cons, feed_append,
        Progress.andThen_assoc]

/-- One piece, read by reads of a positive size. -/
theorem cut_of_pos {size : Int} (hsize : 0 < size) (content : List UInt8) :
    cut size content = stretches (size.toNat - 1) content := by
  by_cases hcontent : content = []
  · rw [cut, if_pos (.inl hcontent), stretches, dif_pos hcontent]
  · have hstop : ¬ (content = [] ∨ size = 0) := by
      simp only [hcontent, false_or]
      omega
    rw [cut, if_neg hstop, if_neg (by omega)]

/-- Reads of a stream take in what it brings. -/
theorem pumpReads_reads (onLine : LineHandler σ) {size : Int} (hsize : 0 < size)
    (pieces : List Piece) (s : Intake) (a : σ) :
    pumpReads (fun _ a => a) onLine (reads size pieces) s a =
      (feed onLine (delivered pieces).bytes s a).andThen (delivered pieces).conclude := by
  induction pieces generalizing s a with
  | nil => rfl
  | cons piece rest ih =>
      cases piece with
      | failure f => rfl
      | bytes content =>
          rw [reads, cut_of_pos hsize, delivered]
          by_cases hcontent : content = []
          · rw [if_pos hcontent, stretches, dif_pos hcontent]
            rfl
          · have hflatten : (stretches (size.toNat - 1) content).flatten = content :=
              flatten_stretches _ content
            have hrest : pumpReads (fun _ a => a) onLine (reads size rest) =
                fun s a => (feed onLine (delivered rest).bytes s a).andThen
                  (delivered rest).conclude :=
              funext fun s => funext fun a => ih s a
            rw [if_neg hcontent, feed_append, Progress.andThen_assoc]
            cases hcut : stretches (size.toNat - 1) content with
            | nil =>
                rw [hcut] at hflatten
                exact absurd hflatten.symm hcontent
            | cons first more =>
                rw [hcut] at hflatten
                simp only [pumpReads_append, hflatten, hrest]
                rfl

/-- What comes of a stream depends on nothing but what it brings. -/
theorem pump_delivered (onLine : LineHandler σ) {size : Int} (hsize : 0 < size)
    (pieces : List Piece) (s : Intake) (a : σ) :
    (pump onLine size pieces s a).2 =
      (feed onLine (delivered pieces).bytes s a).andThen (delivered pieces).conclude := by
  have halike : onLine.beside.Alike Prod.snd onLine :=
    onLine.alike_of_noting fun _ _ (count : Nat) => count
  rw [← pumpReads_reads onLine hsize]
  exact (pumpReads_map halike (fun _ _ => rfl) (reads size pieces) s (0, a)).symm

end BatchMailer
