import BatchMailer.Proofs.Calendar.Dates
import BatchMailer.Proofs.FileTree.Usable
import Mathlib.Data.List.Basic

/-!
# BatchMailer.Proofs.Diagnostic.Name

What the name of a diagnostic file tells.

A name holds the kind's index and an instant in UTC, down to the millisecond, and
nothing else.  Everything but the year is written in a fixed number of digits, so
the parts can be read back from the end (`Diagnostic.stamp_injective`), and an
instant from its parts.  Two names are therefore the same exactly if the kinds are
and the instants fall into the same millisecond (`Diagnostic.fileName_eq_iff`),
however the wall clock shows them.
-/

namespace BatchMailer

/-- A moment whose parts fit into the digits they are written in. -/
structure Moment.Written (m : Moment) : Prop where
  month : m.date.month < 100
  day : m.date.day < 100
  hour : m.hour < 100
  minute : m.minute < 100
  second : m.second < 100
  microsecond : m.microsecond < 1000000

/-- A moment of a clock that shows UTC does. -/
theorem Moment.Proper.written {u : Moment} (hu : u.Proper) : u.Written := by
  have hlengths : ∀ leap, ∀ k < 12, (Calendar.monthLengths leap).getD k 0 ≤ 31 := by decide
  have hmonth : u.date.month - 1 < 12 := Calendar.lt_length_of_lt_getD
    (Nat.lt_of_lt_of_le (Nat.sub_lt hu.date.day.1 Nat.one_pos) hu.date.day.2)
  have hday := hlengths (Calendar.isLeap u.date.year) _ hmonth
  have hlast := hu.date.day.2
  have hhour := hu.hour
  have hminute := hu.minute
  have hsecond := hu.second
  exact ⟨by omega, by omega, by omega, by omega, by omega, hu.microsecond⟩

/-! ## numerals -/

/-- A number is read back from its numeral. -/
theorem nat_eq_of_repr_eq {m n : Nat} (h : m.repr = n.repr) : m = n := by
  have hread : ∀ k : Nat, Nat.ofDigitChars 10 k.repr.toList 0 = k := fun k => by
    rw [Nat.toList_repr, Nat.ofDigitChars_toDigits (by decide) (by decide)]
  rw [← hread m, h, hread]

/-- A sign tells the negative numbers from the others. -/
theorem int_eq_of_repr_eq {k l : Int} (h : k.repr = l.repr) : k = l := by
  have hsign : ∀ m n : Nat, m.repr ≠ "-" ++ n.repr := fun m n heq => by
    have hminus : '-' ∈ m.repr.toList := by simp [heq]
    exact absurd (isDigit_of_mem_repr hminus) (by decide)
  rw [Int.repr_eq_if, Int.repr_eq_if] at h
  split at h <;> split at h
  · have heq := nat_eq_of_repr_eq h
    omega
  · exact absurd h (hsign _ _)
  · exact absurd h.symm (hsign _ _)
  · have heq := nat_eq_of_repr_eq ((String.append_right_inj "-").1 h)
    omega

/-! ## names -/

namespace Diagnostic

theorem field_injective {width m n : Nat} (hm : m < Nat.pow 10 width) (hn : n < Nat.pow 10 width)
    (h : field width m = field width n) : m = n :=
  Text.digits_injective (by omega) (by omega) hm hn h

/-- What is written in equally many digits at the end can be cut off. -/
theorem append_field_inj {front front' : List Char} {width m n : Nat}
    (hm : m < Nat.pow 10 width) (hn : n < Nat.pow 10 width)
    (h : front ++ field width m = front' ++ field width n) : front = front' ∧ m = n := by
  obtain ⟨hfront, hfield⟩ := List.append_inj' h (by simp [field])
  exact ⟨hfront, field_injective hm hn hfield⟩

/-- A moment is read back from its stamp, but for what is below a millisecond. -/
theorem stamp_injective {m n : Moment} (hm : m.Written) (hn : n.Written) (h : stamp m = stamp n) :
    m.date = n.date ∧ m.hour = n.hour ∧ m.minute = n.minute ∧ m.second = n.second ∧
      m.microsecond / 1000 = n.microsecond / 1000 := by
  have hmillis : ∀ {k : Nat}, k < 1000000 → k / 1000 < Nat.pow 10 3 := fun hk => by
    show _ < 1000
    omega
  simp only [stamp] at h
  obtain ⟨h, hmillisecond⟩ := List.append_inj' h (by simp [field])
  obtain ⟨h, hsecond⟩ := append_field_inj hm.second hn.second h
  obtain ⟨h, hminute⟩ := append_field_inj hm.minute hn.minute h
  obtain ⟨h, hhour⟩ := append_field_inj hm.hour hn.hour h
  obtain ⟨h, hday⟩ := append_field_inj hm.day hn.day h
  obtain ⟨h, hmonth⟩ := append_field_inj hm.month hn.month h
  have hyear : m.date.year = n.date.year := nat_eq_of_repr_eq (String.toList_inj.1 h)
  have hdate : m.date = n.date := by
    obtain ⟨⟨_, _, _⟩, _⟩ := m
    obtain ⟨⟨_, _, _⟩, _⟩ := n
    simp_all
  exact ⟨hdate, hhour, hminute, hsecond,
    field_injective (hmillis hm.microsecond) (hmillis hn.microsecond) (List.cons.inj hmillisecond).2⟩

/-- What is written of a moment is its millisecond. -/
theorem stamp_eq_iff {u v : Moment} (hu : u.Proper) (hv : v.Proper) :
    stamp u = stamp v ↔ u.millis = v.millis := by
  rw [Moment.millis, Moment.millis]
  constructor
  · intro heq
    obtain ⟨hdate, hhour, hminute, hsecond, hmillis⟩ := stamp_injective hu.written hv.written heq
    rw [(hu.utcSeconds_eq_iff hv).2 ⟨hdate, hhour, hminute, hsecond⟩, hmillis]
  · intro heq
    have hmicro := hu.microsecond
    have hmicro' := hv.microsecond
    obtain ⟨hseconds, hmillis⟩ : u.utcSeconds = v.utcSeconds ∧
        u.microsecond / 1000 = v.microsecond / 1000 := by omega
    obtain ⟨hdate, hhour, hminute, hsecond⟩ := (hu.utcSeconds_eq_iff hv).1 hseconds
    simp only [stamp, hdate, hhour, hminute, hsecond, hmillis]

theorem not_underscore_stamp (m : Moment) : '_' ∉ stamp m := by
  intro h
  obtain h | h := mem_stamp h
  · exact absurd h (by decide)
  · exact absurd h (by decide)

theorem not_underscore_repr (k : Int) : '_' ∉ k.repr.toList := by
  intro h
  obtain h | h := isDigit_of_mem_repr_int h
  · exact absurd h (by decide)
  · exact absurd h (by decide)

/-- A stamp and a kind's index are told apart by what stands between them. -/
theorem stamp_append_inj {m n : Moment} {k l : Int}
    (h : "ses_" ++ String.ofList (stamp m) ++ "_" ++ toString k ++ ".http" =
      "ses_" ++ String.ofList (stamp n) ++ "_" ++ toString l ++ ".http") :
    stamp m = stamp n ∧ k = l := by
  have hback : ∀ i : Int, '_' ∉ i.repr.toList ++ ".http".toList := fun i hmem =>
    (List.mem_append.1 hmem).elim (not_underscore_repr i) (by decide)
  have htext : ∀ (w : Moment) (i : Int),
      ("ses_" ++ String.ofList (stamp w) ++ "_" ++ toString i ++ ".http").toList =
        "ses_".toList ++ (stamp w ++ '_' :: (i.repr.toList ++ ".http".toList)) := by
    intro w i
    simp only [String.toList_append, String.toList_ofList, List.append_assoc]
    rfl
  have hchars := congrArg String.toList h
  rw [htext, htext, List.append_cancel_left_eq] at hchars
  obtain ⟨hstamp, -, hindex⟩ :=
    (List.append_cons_inj_of_notMem (not_underscore_stamp m) (hback k)).1 hchars
  exact ⟨hstamp, int_eq_of_repr_eq (String.toList_inj.1 (List.append_cancel_right hindex))⟩

theorem exists_utc_of_fileName {k : Int} {m : Moment} {name : String}
    (h : fileName k m = .ok name) : ∃ u, m.toUtc? = some u ∧
      name = "ses_" ++ String.ofList (stamp u) ++ "_" ++ toString k ++ ".http" := by
  rw [fileName] at h
  split at h
  · contradiction
  · next u hu => exact ⟨u, hu, (Except.ok.inj h).symm⟩

/-- Two names are the same exactly if the kinds and the milliseconds are. -/
theorem fileName_eq_iff {k l : Int} {m n : Moment} (hm : m.microsecond < 1000000)
    (hn : n.microsecond < 1000000) {name name' : String} (hname : fileName k m = .ok name)
    (hname' : fileName l n = .ok name') : name = name' ↔ k = l ∧ m.millis = n.millis := by
  obtain ⟨u, hu, rfl⟩ := exists_utc_of_fileName hname
  obtain ⟨v, hv, rfl⟩ := exists_utc_of_fileName hname'
  rw [Moment.toUtc?_eq_some_iff hm] at hu
  rw [Moment.toUtc?_eq_some_iff hn] at hv
  rw [← hu.millis_eq, ← hv.millis_eq, ← stamp_eq_iff hu.proper hv.proper]
  constructor
  · intro heq
    obtain ⟨hstamp, hindex⟩ := stamp_append_inj heq
    exact ⟨hindex, hstamp⟩
  · rintro ⟨rfl, hstamp⟩
    rw [hstamp]

end Diagnostic

end BatchMailer
