import BatchMailer.Wire

/-!
# BatchMailer.Stream

Taking in a stream of bytes that arrives in pieces.  At the end of every line a
handler runs, before any byte behind that line is looked at; it may empty or
refill the batches and keeps a state of its own.

`feed` takes in one piece, `pump` a whole stream: it reads until a read yields
nothing, and stops at the first fault.  `reads` says what successive reads of a
limited size yield.  `feed_append` is why cutting a stream differently changes
nothing.
-/

namespace BatchMailer

/-- What runs at the end of a line.  It sees the decoder, and may change the
store and its own state. -/
abbrev LineHandler (σ : Type) : Type :=
  Decoder → Store → σ → Except Fault Unit × Store × σ

/-- How far a stream was taken in: to its end or to a fault, and what came of
the intake and of the handler's state. -/
structure Progress (σ : Type) where
  result : Except Fault Unit
  intake : Intake
  state : σ

variable {σ : Type}

/-- Takes in bytes one by one and runs the handler at the end of each line. -/
def feed (onLine : LineHandler σ) : List UInt8 → Intake → σ → Progress σ
  | [], s, a => ⟨.ok (), s, a⟩
  | b :: rest, s, a =>
    match s.consume b with
    | (.error e, s) => ⟨.error (.wire e), s, a⟩
    | (.ok .continues, s) => feed onLine rest s a
    | (.ok .complete, s) =>
      match onLine s.decoder s.store a with
      | (.error f, store, a) => ⟨.error f, { s with store }, a⟩
      | (.ok (), store, a) => feed onLine rest { s with store } a

/-! ## one byte -/

section

variable {onLine : LineHandler σ} {s t : Intake} {a b : σ} {byte : UInt8}

theorem feed_of_error {e : WireError} (h : s.consume byte = (.error e, t)) (rest : List UInt8) :
    feed onLine (byte :: rest) s a = ⟨.error (.wire e), t, a⟩ := by
  rw [feed, h]

theorem feed_of_continues (h : s.consume byte = (.ok .continues, t)) (rest : List UInt8) :
    feed onLine (byte :: rest) s a = feed onLine rest t a := by
  rw [feed, h]

theorem feed_of_complete_of_error (h : s.consume byte = (.ok .complete, t)) {e : Fault} {u : Store}
    (hline : onLine t.decoder t.store a = (.error e, u, b)) (rest : List UInt8) :
    feed onLine (byte :: rest) s a = ⟨.error e, { t with store := u }, b⟩ := by
  rw [feed, h]
  simp only [hline]

theorem feed_of_complete_of_ok (h : s.consume byte = (.ok .complete, t)) {u : Store}
    (hline : onLine t.decoder t.store a = (.ok (), u, b)) (rest : List UInt8) :
    feed onLine (byte :: rest) s a = feed onLine rest { t with store := u } b := by
  rw [feed, h]
  simp only [hline]

end

/-! ## reading in pieces -/

/-- What a stream has to offer at one time: bytes, or a failure. -/
inductive Piece where
  | bytes (content : List UInt8)
  | failure (f : Failure)
  deriving DecidableEq, Repr

/-- A list in stretches of `size + 1` elements; the last may be shorter. -/
def stretches {α : Type} (size : Nat) (l : List α) : List (List α) :=
  if _h : l = [] then [] else l.take (size + 1) :: stretches size (l.drop (size + 1))
termination_by l.length
decreasing_by
  have := List.length_pos_iff.2 _h
  simp only [List.length_drop]
  omega

/-- What successive reads of at most `size` bytes get out of one piece.  A
negative size is no limit, and a read of no bytes gets nothing. -/
def cut (size : Int) (content : List UInt8) : List (List UInt8) :=
  if content = [] ∨ size = 0 then []
  else if size < 0 then [content]
  else stretches (size.toNat - 1) content

/-- What successive reads get out of a stream.  A read gets bytes of one piece
only; the stream ends with its last piece, with an empty one, or with a
failure. -/
def reads (size : Int) : List Piece → List Piece
  | [] => []
  | .failure f :: _ => [.failure f]
  | .bytes content :: rest =>
    match cut size content with
    | [] => []
    | first :: more => (first :: more).map .bytes ++ reads size rest

/-- How many bytes a read asks for, unless told otherwise. -/
def defaultReadSize : Int := 8192

/-- What comes after a piece that brought no fault. -/
def Progress.andThen (p : Progress σ) (next : Intake → σ → Progress σ) : Progress σ :=
  match p with
  | ⟨.ok (), s, a⟩ => next s a
  | ⟨.error f, s, a⟩ => ⟨.error f, s, a⟩

/-- Takes in what the reads of a stream get, one read after the other.  Each read
is noted with what it got when it is made; the last one gets nothing or a
failure, or is the one whose bytes brought a fault. -/
def pumpReads (onRead : Option Piece → σ → σ) (onLine : LineHandler σ) :
    List Piece → Intake → σ → Progress σ
  | [], s, a => ⟨.ok (), s, onRead none a⟩
  | .failure f :: _, s, a => ⟨.error (.outside f), s, onRead (some (.failure f)) a⟩
  | .bytes content :: rest, s, a =>
    (feed onLine content s (onRead (some (.bytes content)) a)).andThen
      (pumpReads onRead onLine rest)

/-- A handler that leaves alone what is kept beside its state. -/
def LineHandler.beside {τ : Type} (onLine : LineHandler σ) : LineHandler (τ × σ) :=
  fun d store (kept, a) =>
    let (result, store, a) := onLine d store a
    (result, store, (kept, a))

/-- Takes in a stream, by reads of a given size, and counts them. -/
def pump (onLine : LineHandler σ) (size : Int) (pieces : List Piece) (s : Intake) (a : σ) :
    Nat × Progress σ :=
  let progress := pumpReads (fun _ (count, a) => (count + 1, a)) onLine.beside
    (reads size pieces) s (0, a)
  (progress.state.1, ⟨progress.result, progress.intake, progress.state.2⟩)

/-! ## cutting does not matter -/

/-- Feeding two pieces one after the other is feeding them as one. -/
theorem feed_append (onLine : LineHandler σ) (front back : List UInt8) (s : Intake) (a : σ) :
    feed onLine (front ++ back) s a = (feed onLine front s a).andThen (feed onLine back) := by
  induction front generalizing s a with
  | nil => rfl
  | cons b rest ih =>
    simp only [List.cons_append, feed]
    split
    · rfl
    · exact ih _ _
    · split
      · rfl
      · exact ih _ _

/-- The stretches of a list make it up again. -/
@[simp] theorem flatten_stretches {α : Type} (size : Nat) (l : List α) :
    (stretches size l).flatten = l := by
  fun_induction stretches size l with
  | case1 => rfl
  | case2 l h ih => rw [List.flatten_cons, ih, List.take_append_drop]

end BatchMailer
