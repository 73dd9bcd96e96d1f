import BatchMailer.Proofs.Json.Grammar
import Mathlib.Tactic.SplitIfs

/-!
# BatchMailer.Proofs.Json.Written

What is written as JSON is read back, and in no other way (`reads_object_iff`).

Every character between the quotes of a string is written as one that stands for
it (`character_escapeChar`), so the closing quote is the first one that a reader
takes for a quote.  Behind a string stands a sign of the object, and no blank is
written anywhere, which leaves a reader no choice.
-/

namespace BatchMailer

namespace Json

open JsonText (quote backslash escapeChar)
open Text (digit digits)

/-! ## strings -/

theorem hexDigit?_digit : ∀ v : Fin 16, hexDigit? (digit v) = some v.val := by decide

/-- Four digits are read as the number they were written for. -/
theorem codeUnit?_digits {n : Nat} (h : n < 0x10000) (rest : List Char) :
    codeUnit? (digits 16 4 n ++ rest) = some (n, rest) := by
  have hlt : ∀ m : Nat, m % 16 < 16 := fun m => Nat.mod_lt m (by decide)
  have hdigit : ∀ m : Nat, hexDigit? (digit (m % 16)) = some (m % 16) :=
    fun m => hexDigit?_digit ⟨m % 16, hlt m⟩
  have hvalue : ((n / 16 / 16 / 16 % 16 * 16 + n / 16 / 16 % 16) * 16 + n / 16 % 16) * 16 + n % 16 =
      n := by omega
  simp only [digits, List.nil_append, List.cons_append, codeUnit?, hdigit, hvalue]

/-- What is written for a character stands for it. -/
theorem character_escapeChar (c : Char) (rest : List Char) :
    Character (escapeChar c ++ rest) c rest := by
  have hshort : ∀ {e d : Char}, c = d → shortEscapes.lookup e = some d →
      Character (backslash :: e :: rest) c rest := by
    intro e d hc hlookup
    rw [hc]
    exact .short hlookup rest
  rw [escapeChar]
  split_ifs with hspecial hn hr ht hb hf hcontrol
  · obtain hc | hc := hspecial
    · rw [hc]
      exact .short rfl rest
    · rw [hc]
      exact .short rfl rest
  · exact hshort hn rfl
  · exact hshort hr rfl
  · exact hshort ht rfl
  · exact hshort hb rfl
  · exact hshort hf rfl
  · have hunit := codeUnit?_digits (show c.toNat < 0x10000 by omega) rest
    have hc : Char.ofNat c.toNat = c := Char.ofNat_toNat c
    have hcharacter := Character.unit hunit (.inl (by omega))
    rwa [hc] at hcharacter
  · rw [not_or] at hspecial
    exact .unescaped (Nat.not_lt.1 hcontrol) hspecial.1 hspecial.2 rest

theorem chars_escaped (cs rest : List Char) :
    Chars (cs.flatMap escapeChar ++ quote :: rest) cs rest := by
  induction cs with
  | nil => exact .close rest
  | cons c more ih =>
      rw [List.flatMap_cons, List.append_assoc]
      exact .cons (character_escapeChar c _) ih

section

variable {text cs ds rest rest' : List Char} {v : Json}

theorem string_append (cs rest : List Char) :
    JsonText.string cs ++ rest = quote :: (cs.flatMap escapeChar ++ quote :: rest) := by
  simp [JsonText.string]

/-- A string that was written is read as what it was written for. -/
theorem quoted_string_iff :
    Quoted (JsonText.string cs ++ rest) ds rest' ↔ ds = cs ∧ rest' = rest := by
  have hwritten : Quoted (JsonText.string cs ++ rest) cs rest :=
    ⟨_, string_append cs rest, chars_escaped cs rest⟩
  constructor
  · intro h
    exact h.unique hwritten
  · rintro ⟨rfl, rfl⟩
    exact hwritten

/-! ## values and members -/

/-- No other value begins with a quote. -/
theorem value_string_iff :
    Value (JsonText.string cs ++ rest) v rest' ↔ v = .string cs ∧ rest' = rest := by
  have hquote : ∀ {c : Char} {body : List Char}, Sign c (JsonText.string cs ++ rest) body →
      c = quote := by
    intro c body hsign
    rw [string_append] at hsign
    exact (hsign.of_cons rfl).1.symm
  constructor
  · intro h
    generalize hinput : JsonText.string cs ++ rest = input at h hquote
    cases h with
    | null => cases hinput
    | true => cases hinput
    | false => cases hinput
    | number hnumber =>
        obtain ⟨c, behind, rfl, hc⟩ := exists_head_of_number hnumber
        rw [string_append] at hinput
        obtain ⟨rfl, -⟩ := List.cons.inj hinput
        obtain hc | hc := hc <;> contradiction
    | string hstring =>
        rw [← hinput] at hstring
        obtain ⟨rfl, rfl⟩ := quoted_string_iff.1 hstring
        exact ⟨rfl, rfl⟩
    | emptyArray hopen => cases hquote hopen
    | array hopen => cases hquote hopen
    | emptyObject hopen => cases hquote hopen
    | object hopen => cases hquote hopen
  · rintro ⟨rfl, rfl⟩
    exact .string (quoted_string_iff.2 ⟨rfl, rfl⟩)

/-- What a member that was written stands for. -/
def memberOf (m : String × List Char) : List Char × Json := (m.1.toList, .string m.2)

theorem member_iff {m : String × List Char} {n : List Char × Json} :
    Member (JsonText.member m ++ rest) n rest' ↔ n = memberOf m ∧ rest' = rest := by
  have hmember : JsonText.member m ++ rest =
      JsonText.string m.1.toList ++ (':' :: (JsonText.string m.2 ++ rest)) := by
    simp [JsonText.member]
  rw [hmember]
  constructor
  · intro h
    cases h with
    | mk hname hsep hvalue =>
        obtain ⟨rfl, rfl⟩ := quoted_string_iff.1 hname
        rw [Sign.iff_cons rfl, string_append] at hsep
        rw [hsep.eq_cons rfl, ← string_append] at hvalue
        obtain ⟨rfl, rfl⟩ := value_string_iff.1 hvalue
        exact ⟨rfl, rfl⟩
  · rintro ⟨rfl, rfl⟩
    exact .mk (quoted_string_iff.2 ⟨rfl, rfl⟩) ((Sign.iff_cons rfl).2 (.nil _))
      (value_string_iff.2 ⟨rfl, rfl⟩)

/-! ## objects -/

/-- The name of the first member comes first. -/
theorem Members.exists_eq {input after : List Char} {ns : List (List Char × Json)}
    (h : Members input ns after) : ∃ behind, input = quote :: behind := by
  have hmember : ∀ {n between}, Member input n between → ∃ behind, input = quote :: behind := by
    intro n between hmember
    cases hmember with
    | mk hname =>
        obtain ⟨behind, hquote, -⟩ := hname
        exact ⟨behind, hquote⟩
  cases h with
  | last h => exact hmember h
  | more h => exact hmember h

theorem exists_members_append (m : String × List Char) (more : List (String × List Char))
    (rest : List Char) : ∃ behind, JsonText.members (m :: more) ++ rest = quote :: behind := by
  cases more <;> exact ⟨_, rfl⟩

/-- The written members of an object are read up to the brace that closes it. -/
theorem members_iff {ms : List (String × List Char)} (hms : ms ≠ [])
    {ns : List (List Char × Json)} :
    (∃ after, Members (JsonText.members ms ++ '\x7d' :: rest) ns after ∧ Sign '\x7d' after rest') ↔
      ns = ms.map memberOf ∧ Blanks rest rest' := by
  induction ms generalizing ns with
  | nil => contradiction
  | cons m more ih =>
      cases more with
      | nil =>
          constructor
          · rintro ⟨after, hmembers, hclose⟩
            rw [JsonText.members] at hmembers
            cases hmembers with
            | last h =>
                obtain ⟨rfl, rfl⟩ := member_iff.1 h
                exact ⟨rfl, (Sign.iff_cons rfl).1 hclose⟩
            | more h hsep =>
                obtain ⟨rfl, rfl⟩ := member_iff.1 h
                have hcomma := (hsep.of_cons rfl).1
                contradiction
          · rintro ⟨rfl, hblanks⟩
            exact ⟨_, .last (member_iff.2 ⟨rfl, rfl⟩), (Sign.iff_cons rfl).2 hblanks⟩
      | cons m' more =>
          have ih := @ih (List.cons_ne_nil m' more)
          have hwritten : JsonText.members (m :: m' :: more) ++ '\x7d' :: rest =
              JsonText.member m ++ ',' :: (JsonText.members (m' :: more) ++ '\x7d' :: rest) := by
            rw [JsonText.members, List.append_assoc, List.cons_append]
            exact List.cons_ne_nil m' more
          rw [hwritten]
          constructor
          · rintro ⟨after, hmembers, hclose⟩
            cases hmembers with
            | last h =>
                obtain ⟨rfl, rfl⟩ := member_iff.1 h
                have hcomma := (hclose.of_cons rfl).1
                contradiction
            | more h hsep hmore =>
                obtain ⟨rfl, rfl⟩ := member_iff.1 h
                obtain ⟨behind, hbehind⟩ := exists_members_append m' more ('\x7d' :: rest)
                rw [Sign.iff_cons rfl, hbehind] at hsep
                rw [hsep.eq_cons rfl, ← hbehind] at hmore
                obtain ⟨rfl, hblanks⟩ := ih.1 ⟨after, hmore, hclose⟩
                exact ⟨rfl, hblanks⟩
          · rintro ⟨rfl, hblanks⟩
            obtain ⟨after, hmore, hclose⟩ := ih.2 ⟨rfl, hblanks⟩
            exact ⟨after, .more (member_iff.2 ⟨rfl, rfl⟩) ((Sign.iff_cons rfl).2 (.nil _)) hmore,
              hclose⟩

/-- What stands between the braces of an object. -/
theorem body_iff {ms : List (String × List Char)} {body : List Char} (hbody : body =
    JsonText.members ms ++ '\x7d' :: rest) {ns : List (List Char × Json)} :
    (ns = [] ∧ Sign '\x7d' body rest' ∨ ∃ after, Members body ns after ∧ Sign '\x7d' after rest') ↔
      ns = ms.map memberOf ∧ Blanks rest rest' := by
  subst hbody
  cases ms with
  | nil =>
      have hnone : ∀ after, ¬ Members ('\x7d' :: rest) ns after := by
        intro after hmembers
        obtain ⟨behind, hbehind⟩ := hmembers.exists_eq
        cases hbehind
      simp [JsonText.members, Sign.iff_cons (show isBlank '\x7d' = false from rfl), hnone]
  | cons m more =>
      have hnone : ¬ Sign '\x7d' (JsonText.members (m :: more) ++ '\x7d' :: rest) rest' := by
        intro hclose
        obtain ⟨behind, hbehind⟩ := exists_members_append m more ('\x7d' :: rest)
        rw [hbehind] at hclose
        have hquote := (hclose.of_cons rfl).1
        contradiction
      rw [members_iff (List.cons_ne_nil m more)]
      simp [hnone]

/-- No blank stands behind the brace that opens an object. -/
theorem eq_of_sign_object {ms : List (String × List Char)} {c : Char} {body : List Char}
    (h : Sign c (JsonText.object ms) body) : c = '\x7b' ∧ body = JsonText.members ms ++ ['\x7d'] := by
  rw [JsonText.object, List.cons_append] at h
  obtain ⟨rfl, hblanks⟩ := h.of_cons rfl
  refine ⟨rfl, ?_⟩
  cases ms with
  | nil => exact hblanks.eq_cons rfl
  | cons m more =>
      obtain ⟨behind, hbehind⟩ := exists_members_append m more ['\x7d']
      rw [hbehind] at hblanks ⊢
      exact hblanks.eq_cons rfl

end

/-- No other value begins with an opening brace. -/
theorem value_object_iff {ms : List (String × List Char)} {v : Json} {rest : List Char} :
    Value (JsonText.object ms) v rest ↔ v = .object (ms.map memberOf) ∧ rest = [] := by
  constructor
  · intro h
    have hbrace := @eq_of_sign_object ms
    generalize hinput : JsonText.object ms = input at h hbrace
    cases h with
    | null => cases hinput
    | true => cases hinput
    | false => cases hinput
    | number hnumber =>
        obtain ⟨c, behind, rfl, hc⟩ := exists_head_of_number hnumber
        obtain ⟨rfl, -⟩ := List.cons.inj hinput
        obtain hc | hc := hc <;> contradiction
    | string hstring =>
        obtain ⟨behind, rfl, -⟩ := hstring
        cases hinput
    | emptyArray hopen => cases (hbrace hopen).1
    | array hopen => cases (hbrace hopen).1
    | emptyObject hopen hclose =>
        obtain ⟨hnil, hblanks⟩ := (body_iff (hbrace hopen).2).1 (.inl ⟨rfl, hclose⟩)
        exact ⟨congrArg _ hnil, hblanks.eq_nil⟩
    | object hopen hmembers hclose =>
        obtain ⟨rfl, hblanks⟩ := (body_iff (hbrace hopen).2).1 (.inr ⟨_, hmembers, hclose⟩)
        exact ⟨rfl, hblanks.eq_nil⟩
  · rintro ⟨rfl, rfl⟩
    have hopen : Sign '\x7b' (JsonText.object ms) (JsonText.members ms ++ ['\x7d']) :=
      (Sign.iff_cons rfl).2 (.nil _)
    obtain ⟨hnil, hclose⟩ | ⟨after, hmembers, hclose⟩ :=
      (body_iff rfl).2 ⟨rfl, Blanks.nil []⟩
    · rw [hnil]
      exact .emptyObject hopen hclose
    · exact .object hopen hmembers hclose

/-- **What is written is read back.**  The text of an object whose values are
strings stands for this object, name by name and in order, and for nothing else. -/
theorem reads_object_iff {ms : List (String × List Char)} {v : Json} :
    Reads (JsonText.object ms) v ↔ v = .object (ms.map memberOf) := by
  constructor
  · rintro ⟨front, back, hfront, hvalue, -⟩
    rw [Blanks.eq_cons hfront rfl] at hvalue
    exact (value_object_iff.1 hvalue).1
  · rintro rfl
    exact ⟨_, _, .nil _, value_object_iff.2 ⟨rfl, rfl⟩, .nil _⟩

end Json

end BatchMailer
