import BatchMailer.Proofs.Stream.Lockstep

/-!
# BatchMailer.Proofs.Stream.Notes

Notes that are taken while a stream is taken in.

A handler's state is no concern of the intake: a handler over another state that
acts alike on the store takes the stream in alike (`feed_map`, `pumpReads_map`).
So notes may be kept beside the state (`LineHandler.noting`), in whatever form,
and struck out again.  A stream whose reads all get bytes is taken in as if one
read had got them all (`pumpReads_bytes`).
-/

namespace BatchMailer

variable {σ τ υ : Type}

/-! ## handlers over other states -/

/-- The same progress, with another state. -/
def Progress.map (f : σ → τ) (p : Progress σ) : Progress τ := ⟨p.result, p.intake, f p.state⟩

/-- Two handlers that act alike, on states that correspond. -/
def LineHandler.Alike (f : σ → τ) (onLine : LineHandler σ) (onLine' : LineHandler τ) : Prop :=
  ∀ d store a, onLine' d store (f a) =
    ((onLine d store a).1, (onLine d store a).2.1, f (onLine d store a).2.2)

/-- Such handlers keep in step. -/
theorem LineHandler.Alike.inStep {f : σ → τ} {onLine : LineHandler σ} {onLine' : LineHandler τ}
    (h : onLine.Alike f onLine') : onLine.InStep (fun a b => b = f a) onLine' := by
  rintro d store a _ rfl
  exact ⟨_, _, _, _, rfl, h d store a, rfl⟩

theorem Progress.InStep.eq_map {f : σ → τ} {p : Progress σ} {q : Progress τ}
    (h : p.InStep (fun a b => b = f a) q) : q = p.map f := by
  obtain ⟨result, s, a⟩ := p
  obtain ⟨_, _, _⟩ := q
  obtain ⟨rfl, rfl, rfl⟩ := h
  rfl

theorem feed_map {f : σ → τ} {onLine : LineHandler σ} {onLine' : LineHandler τ}
    (h : onLine.Alike f onLine') (chunk : List UInt8) (s : Intake) (a : σ) :
    feed onLine' chunk s (f a) = (feed onLine chunk s a).map f :=
  (feed_inStep h.inStep chunk s rfl).eq_map

theorem pumpReads_map {f : σ → τ} {onLine : LineHandler σ} {onLine' : LineHandler τ}
    (h : onLine.Alike f onLine') {onRead : Option Piece → σ → σ} {onRead' : Option Piece → τ → τ}
    (hread : ∀ got a, onRead' got (f a) = f (onRead got a)) (pieces : List Piece) (s : Intake)
    (a : σ) :
    pumpReads onRead' onLine' pieces s (f a) = (pumpReads onRead onLine pieces s a).map f := by
  refine (pumpReads_inStep h.inStep ?_ pieces s rfl).eq_map
  rintro got a _ rfl
  exact hread got a

/-! ## handlers that take notes -/

/-- A handler that keeps notes of what it sees. -/
def LineHandler.noting (note : Decoder → Store → τ → τ) (onLine : LineHandler σ) :
    LineHandler (τ × σ) :=
  fun d store (kept, a) =>
    let (result, store', a) := onLine d store a
    (result, store', (note d store kept, a))

/-- Notes may be turned into others that are taken alike. -/
theorem LineHandler.alike_noting {g : τ → υ} {note : Decoder → Store → τ → τ}
    {note' : Decoder → Store → υ → υ} (h : ∀ d store kept, note' d store (g kept) = g (note d store kept))
    (onLine : LineHandler σ) : (onLine.noting note).Alike (Prod.map g id) (onLine.noting note') := by
  rintro d store ⟨kept, a⟩
  simp only [noting, Prod.map, h]
  rfl

/-- Notes may be struck out. -/
theorem LineHandler.alike_of_noting (note : Decoder → Store → τ → τ) (onLine : LineHandler σ) :
    (onLine.noting note).Alike Prod.snd onLine :=
  fun _ _ _ => rfl

/-! ## reads that get bytes -/

/-- Where each read gets bytes, it does not matter how many there are. -/
theorem pumpReads_bytes (onLine : LineHandler σ) (chunks : List (List UInt8)) (s : Intake) (a : σ) :
    pumpReads (fun _ a => a) onLine (chunks.map .bytes) s a = feed onLine chunks.flatten s a := by
  induction chunks generalizing s a with
  | nil => rfl
  | cons chunk rest ih =>
      rw [List.map_cons, pumpReads, List.flatten_cons, feed_append]
      congr 1
      funext t b
      exact ih t b

/-- What the reads of a stream get, if it never fails and has something to offer
each time. -/
theorem reads_bytes {size : Int} (hsize : 0 < size) {chunks : List (List UInt8)}
    (hchunks : ∀ chunk ∈ chunks, chunk ≠ []) :
    reads size (chunks.map .bytes) = (chunks.flatMap (stretches (size.toNat - 1))).map .bytes := by
  induction chunks with
  | nil => rfl
  | cons chunk rest ih =>
      have hchunk : chunk ≠ [] := hchunks chunk List.mem_cons_self
      have hcut : cut size chunk = stretches (size.toNat - 1) chunk := by
        rw [cut, if_neg (by simp only [hchunk, false_or]; omega), if_neg (by omega)]
      have hpieces : stretches (size.toNat - 1) chunk =
          chunk.take (size.toNat - 1 + 1) ::
            stretches (size.toNat - 1) (chunk.drop (size.toNat - 1 + 1)) := by
        rw [stretches, dif_neg hchunk]
      rw [List.map_cons, reads, hcut, List.flatMap_cons, List.map_append,
        ← ih fun other hother => hchunks other (List.mem_cons_of_mem chunk hother), hpieces]

theorem flatten_flatMap_stretches (size : Nat) (chunks : List (List UInt8)) :
    (chunks.flatMap (stretches size)).flatten = chunks.flatten := by
  induction chunks with
  | nil => rfl
  | cons chunk rest ih =>
      rw [List.flatMap_cons, List.flatten_append, ih, flatten_stretches, List.flatten_cons]

/-- A stream that always has something to offer is taken in as one piece. -/
theorem pump_bytes (onLine : LineHandler σ) {size : Int} (hsize : 0 < size)
    {chunks : List (List UInt8)} (hchunks : ∀ chunk ∈ chunks, chunk ≠ []) (s : Intake) (a : σ) :
    (pump onLine size (chunks.map .bytes) s a).2 = feed onLine chunks.flatten s a := by
  have halike : onLine.beside.Alike Prod.snd onLine :=
    onLine.alike_of_noting fun _ _ (count : Nat) => count
  rw [← flatten_flatMap_stretches (size.toNat - 1), ← pumpReads_bytes, ← reads_bytes hsize hchunks]
  exact (pumpReads_map halike (fun _ _ => rfl) (reads size (chunks.map .bytes)) s (0, a)).symm

end BatchMailer
