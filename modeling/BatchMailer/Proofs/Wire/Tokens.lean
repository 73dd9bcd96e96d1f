import BatchMailer.Segments
import BatchMailer.Wire
import Mathlib.Data.List.Basic

/-!
# BatchMailer.Proofs.Wire.Tokens

An input as its grammar sees it.  It is cut at every delimiter into tokens; a
delimiter closes the token in front of it, and the last token is still open.
Five closed tokens are a group: the token of a kind and four fields.  The closed
tokens behind the last complete group make up the open group.

`entries` are the records that the complete groups of an input spell, each with
the number of the line on which its last delimiter lies.

Nothing here runs the decoder.  All that the decoder is compared with later is
read off an input by these definitions, and the lemmas say how each of them
grows with one more byte at the end of the input.
-/

namespace BatchMailer

namespace Wire

/-! ## tokens -/

/-- What lies between the delimiters of an input. -/
def tokens (input : List UInt8) : List (List UInt8) := segments isDelimiter input

/-- The tokens that a delimiter has closed. -/
def closedTokens (input : List UInt8) : List (List UInt8) := (tokens input).dropLast

/-- The token at the end of an input, which may still grow. -/
def openToken (input : List UInt8) : List UInt8 := (tokens input).getLastD []

theorem tokens_eq (input : List UInt8) : tokens input = closedTokens input ++ [openToken input] := by
  have hne : tokens input ≠ [] := segments_ne_nil isDelimiter input
  rw [closedTokens, openToken, List.getLastD_eq_getLast?, List.getLast?_eq_some_getLast hne,
    Option.getD_some, List.dropLast_concat_getLast hne]

/-- There are as many closed tokens as delimiters. -/
theorem length_closedTokens (input : List UInt8) :
    (closedTokens input).length = input.countP isDelimiter := by
  rw [closedTokens, List.length_dropLast, tokens, length_segments]
  rfl

@[simp] theorem closedTokens_nil : closedTokens [] = [] := rfl

@[simp] theorem openToken_nil : openToken [] = [] := rfl

section

variable {b : UInt8} (input : List UInt8)

/-- A delimiter closes the open token. -/
theorem closedTokens_append_delimiter (hb : isDelimiter b = true) :
    closedTokens (input ++ [b]) = closedTokens input ++ [openToken input] := by
  rw [closedTokens, tokens, segments_append_sep hb, List.dropLast_concat]
  exact tokens_eq input

theorem openToken_append_delimiter (hb : isDelimiter b = true) : openToken (input ++ [b]) = [] := by
  rw [openToken, tokens, segments_append_sep hb, List.getLastD_concat]

/-- Any other byte joins the open token. -/
theorem closedTokens_append_byte (hb : isDelimiter b = false) :
    closedTokens (input ++ [b]) = closedTokens input := by
  rw [closedTokens, tokens, segments_append_not_sep hb, List.dropLast_concat]
  rfl

theorem openToken_append_byte (hb : isDelimiter b = false) :
    openToken (input ++ [b]) = openToken input ++ [b] := by
  rw [openToken, tokens, segments_append_not_sep hb, List.getLastD_concat]
  rfl

end

/-- No token holds a delimiter. -/
theorem not_delimiter_of_mem_tokens {input t : List UInt8} {b : UInt8} (ht : t ∈ tokens input)
    (hb : b ∈ t) : isDelimiter b = false :=
  not_sep_of_mem_segments ht hb

/-! ## kinds and records -/

/-- The kind that a token spells: activation is the digit one, and recovery is two. -/
def kindOf? (token : List UInt8) : Option Kind :=
  if token = [0x31] then some .activation
  else if token = [0x32] then some .passwordRecovery
  else none

/-- The record that a token and the four fields behind it spell. -/
def recordOf? : List (List UInt8) → Option Record
  | [token, toAddress, login, secret, code] =>
    (kindOf? token).map fun kind => { kind, toAddress, login, secret, code }
  | _ => none

/-- A kind is spelled by its own byte alone. -/
theorem kindOf?_eq_some_iff {t : List UInt8} {kind : Kind} :
    kindOf? t = some kind ↔ t = [kind.token] := by
  have hdiffer : ([0x31] : List UInt8) ≠ [0x32] := by decide
  rw [kindOf?]
  split
  · next h => cases kind <;> simp [h, Kind.token]
  · next hone =>
      split
      · next h => cases kind <;> simp [h, Kind.token]
      · next htwo => cases kind <;> simp [hone, htwo, Kind.token]

@[simp] theorem kindOf?_nil : kindOf? [] = none := rfl

/-- So a single byte spells the kind that it is read as. -/
@[simp] theorem kindOf?_singleton (b : UInt8) : kindOf? [b] = Kind.ofToken? b := by
  refine Option.ext fun kind => ?_
  rw [kindOf?_eq_some_iff, Kind.ofToken?_eq_some_iff, List.singleton_inj]

@[simp] theorem kindOf?_cons_cons (b c : UInt8) (rest : List UInt8) :
    kindOf? (b :: c :: rest) = none := by
  simp [kindOf?]

theorem recordOf?_eq_some_iff {group : List (List UInt8)} {r : Record} :
    recordOf? group = some r ↔ group = [r.kind.token] :: r.fields := by
  unfold recordOf?
  split
  · simp only [Option.map_eq_some_iff, kindOf?_eq_some_iff]
    constructor
    · rintro ⟨kind, rfl, rfl⟩
      rfl
    · intro heq
      obtain ⟨rfl, rfl, rfl, rfl, rfl⟩ : _ ∧ _ ∧ _ ∧ _ ∧ _ := by simpa [Record.fields] using heq
      exact ⟨r.kind, rfl, rfl⟩
  · next hother =>
      simp only [reduceCtorEq, false_iff]
      exact fun heq => hother _ _ _ _ _ heq

/-! ## groups -/

/-- Which token of its group the open one is: 0 for that of a kind, and from 1 on
the number of a field. -/
def phase (input : List UInt8) : Nat := (closedTokens input).length % 5

/-- How many groups of an input are complete. -/
def groupCount (input : List UInt8) : Nat := (closedTokens input).length / 5

/-- The closed tokens of the group with a given number. -/
def group (input : List UInt8) (j : Nat) : List (List UInt8) :=
  ((closedTokens input).drop (5 * j)).take 5

/-- The closed tokens of the group that is not complete. -/
def openGroup (input : List UInt8) : List (List UInt8) :=
  (closedTokens input).drop (5 * groupCount input)

theorem length_openGroup (input : List UInt8) : (openGroup input).length = phase input := by
  rw [openGroup, List.length_drop, phase, groupCount]
  omega

theorem phase_lt (input : List UInt8) : phase input < 5 := Nat.mod_lt _ (by decide)

section

variable {b : UInt8} (input : List UInt8)

theorem phase_append_byte (hb : isDelimiter b = false) : phase (input ++ [b]) = phase input := by
  rw [phase, closedTokens_append_byte input hb, phase]

theorem groupCount_append_byte (hb : isDelimiter b = false) :
    groupCount (input ++ [b]) = groupCount input := by
  rw [groupCount, closedTokens_append_byte input hb, groupCount]

theorem openGroup_append_byte (hb : isDelimiter b = false) :
    openGroup (input ++ [b]) = openGroup input := by
  rw [openGroup, closedTokens_append_byte input hb, groupCount_append_byte input hb, openGroup]

theorem groupCount_append_delimiter (hb : isDelimiter b = true) :
    groupCount (input ++ [b]) = groupCount input + if phase input = 4 then 1 else 0 := by
  rw [groupCount, closedTokens_append_delimiter input hb, List.length_append, List.length_singleton,
    groupCount, phase]
  split <;> omega

/-- A delimiter puts the open token into the open group, which starts anew when
it is complete. -/
theorem openGroup_append_delimiter (hb : isDelimiter b = true) :
    openGroup (input ++ [b]) =
      if phase input = 4 then [] else openGroup input ++ [openToken input] := by
  have hphase : phase input = (closedTokens input).length % 5 := rfl
  rw [openGroup, closedTokens_append_delimiter input hb, groupCount_append_delimiter input hb]
  split
  · apply List.drop_eq_nil_of_le
    rw [List.length_append, List.length_singleton, groupCount]
    omega
  · rw [Nat.add_zero, openGroup, List.drop_append_of_le_length]
    rw [groupCount]
    omega

/-- A complete group does not change any more. -/
theorem group_append (b : UInt8) {j : Nat} (hj : j < groupCount input) :
    group (input ++ [b]) j = group input j := by
  rw [groupCount] at hj
  by_cases hb : isDelimiter b = true
  · rw [group, closedTokens_append_delimiter input hb, List.drop_append_of_le_length (by omega),
      List.take_append_of_le_length (by rw [List.length_drop]; omega), group]
  · rw [group, closedTokens_append_byte input (by simpa using hb), group]

/-- The delimiter behind the last field completes a group. -/
theorem group_groupCount (hb : isDelimiter b = true) (hphase : phase input = 4) :
    group (input ++ [b]) (groupCount input) = openGroup input ++ [openToken input] := by
  have hlen : (openGroup input).length = 4 := by rw [length_openGroup, hphase]
  have hle : 5 * groupCount input ≤ (closedTokens input).length := by rw [groupCount]; omega
  rw [group, closedTokens_append_delimiter input hb, List.drop_append_of_le_length hle]
  apply List.take_of_length_le
  rw [List.length_append, List.length_singleton, ← openGroup]
  omega

end

/-! ## entries -/

/-- How many lines end before the delimiter with a given number: the number of
the line that this delimiter lies on. -/
def lineOf (input : List UInt8) (delimiter : Nat) : Nat :=
  ((input.filter isDelimiter).take delimiter).count lineFeed

/-- A record and the number of the line that its last delimiter lies on. -/
structure Entry where
  line : Nat
  record : Record
  deriving DecidableEq, Repr

/-- The entry of the group with a given number. -/
def entryOf (input : List UInt8) (j : Nat) : Option Entry :=
  (recordOf? (group input j)).map fun record => { line := lineOf input (5 * j + 4), record }

/-- What the complete groups of an input spell, in order. -/
def entries (input : List UInt8) : List Entry :=
  (List.range (groupCount input)).filterMap (entryOf input)

/-- The records of an input, in order. -/
def records (input : List UInt8) : List Record := (entries input).map (·.record)

/-- The record that a byte completes when it follows an input. -/
def completed? (input : List UInt8) (b : UInt8) : Option Record :=
  if isDelimiter b = true ∧ phase input = 4 then recordOf? (openGroup input ++ [openToken input])
  else none

@[simp] theorem entries_nil : entries [] = [] := rfl

/-- The line of a delimiter depends on the input up to it alone. -/
theorem lineOf_append (input : List UInt8) (b : UInt8) {delimiter : Nat}
    (h : delimiter ≤ (closedTokens input).length) :
    lineOf (input ++ [b]) delimiter = lineOf input delimiter := by
  have hle : delimiter ≤ (input.filter isDelimiter).length := by
    rwa [← List.countP_eq_length_filter, ← length_closedTokens]
  rw [lineOf, List.filter_append, List.take_append_of_le_length hle, lineOf]

/-- The delimiter behind an input lies on the line behind all that have ended. -/
theorem lineOf_length (input : List UInt8) :
    lineOf input (closedTokens input).length = input.count lineFeed := by
  rw [lineOf, length_closedTokens, List.countP_eq_length_filter, List.take_length]
  exact List.count_filter rfl

/-- One more byte adds the record that it completes, on the current line. -/
theorem entries_append (input : List UInt8) (b : UInt8) :
    entries (input ++ [b]) =
      entries input ++ (completed? input b).toList.map ({ line := input.count lineFeed, record := · }) := by
  have hold : ∀ j ∈ List.range (groupCount input), entryOf (input ++ [b]) j = entryOf input j := by
    intro j hj
    have hlt : j < groupCount input := List.mem_range.1 hj
    have hle : 5 * j + 4 ≤ (closedTokens input).length := by rw [groupCount] at hlt; omega
    rw [entryOf, group_append input b hlt, lineOf_append input b hle, entryOf]
  by_cases hb : isDelimiter b = true ∧ phase input = 4
  · obtain ⟨hdelimiter, hphase⟩ := hb
    have hline : 5 * groupCount input + 4 = (closedTokens input).length := by
      rw [phase] at hphase
      rw [groupCount]
      omega
    rw [entries, groupCount_append_delimiter input hdelimiter, if_pos hphase, List.range_succ,
      List.filterMap_append, List.filterMap_congr hold, ← entries, completed?,
      if_pos ⟨hdelimiter, hphase⟩]
    congr 1
    rw [List.filterMap_cons, List.filterMap_nil, entryOf, group_groupCount input hdelimiter hphase,
      hline, lineOf_append input b (Nat.le_refl _), lineOf_length]
    cases recordOf? (openGroup input ++ [openToken input]) <;> rfl
  · have hcount : groupCount (input ++ [b]) = groupCount input := by
      by_cases hdelimiter : isDelimiter b = true
      · rw [groupCount_append_delimiter input hdelimiter, if_neg fun hphase => hb ⟨hdelimiter, hphase⟩]
        rfl
      · exact groupCount_append_byte input (by simpa using hdelimiter)
    rw [entries, hcount, List.filterMap_congr hold, ← entries, completed?, if_neg hb]
    simp

theorem records_append (input : List UInt8) (b : UInt8) :
    records (input ++ [b]) = records input ++ (completed? input b).toList := by
  rw [records, entries_append, List.map_append, List.map_map, ← records]
  congr 1
  exact List.map_id _

end Wire

end BatchMailer
