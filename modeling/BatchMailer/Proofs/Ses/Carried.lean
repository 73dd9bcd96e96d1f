import BatchMailer.Proofs.Json.Written
import BatchMailer.Proofs.Text.Encoding
import BatchMailer.Ses.Parameters
import Mathlib.Data.List.Forall2

/-!
# BatchMailer.Proofs.Ses.Carried

What a bulk send carries of the records it was made for.

Each destination carries one record: its address, and in its template data the
fields that a mail of this kind shows, whatever bytes they hold
(`carries_ofRecord`).  Fields that are well-formed UTF-8 are not changed on the
way, so a bulk send tells its kind and all that its mails show
(`used_eq_of_ofRecord_eq`).
-/

namespace BatchMailer

/-! ## records and destinations -/

namespace Record

/-- The fields that a mail of a record's kind shows, under the names its template
knows them by. -/
def shown (r : Record) : List (String × List UInt8) :=
  match r.kind with
  | .activation => [("login", r.login), ("secret", r.secret)]
  | .passwordRecovery => [("login", r.login), ("secret", r.secret), ("code", r.code)]

/-- The fields of a record that are used: where a mail goes, and what it shows. -/
def used (r : Record) : List UInt8 × List (String × List UInt8) := (r.toAddress, r.shown)

/-- A record whose used fields are well-formed UTF-8. -/
def Encoded (r : Record) : Prop :=
  ∀ field ∈ r.toAddress :: r.shown.map Prod.snd, ∃ cs, field = Text.Utf8.encode cs

/-- The object that a mail for a record is filled with. -/
def data (r : Record) : Json :=
  .object (r.shown.map fun field => (field.1.toList, .string (fieldText field.2)))

end Record

/-- A destination that brings a record to its address. -/
structure Destination.Carries (r : Record) (d : Destination) : Prop where
  toAddress : d.toAddress.toList = fieldText r.toAddress
  templateData : ∀ v, Json.Reads d.templateData.toList v ↔ v = r.data

theorem Record.templateMembers_eq (r : Record) :
    r.templateMembers = r.shown.map fun field => (field.1, fieldText field.2) := by
  obtain ⟨kind, toAddress, login, secret, code⟩ := r
  cases kind <;> rfl

theorem Record.map_fst_shown (r : Record) : r.shown.map Prod.fst = r.kind.templateKeys := by
  obtain ⟨kind, toAddress, login, secret, code⟩ := r
  cases kind <;> rfl

/-- The template data of a record is read as its object, and as nothing else. -/
theorem reads_templateData_iff (r : Record) (v : Json) :
    Json.Reads r.templateData.toList v ↔ v = r.data := by
  rw [Record.templateData, String.toList_ofList, Json.reads_object_iff, r.templateMembers_eq,
    List.map_map]
  rfl

theorem carries_ofRecord (r : Record) : Destination.Carries r (.ofRecord r) :=
  ⟨String.toList_ofList, reads_templateData_iff r⟩

/-- A default has every name of its kind, with nothing in it. -/
theorem reads_defaultTemplateData_iff (kind : Kind) (v : Json) :
    Json.Reads kind.defaultTemplateData.toList v ↔
      v = .object (kind.templateKeys.map fun key => (key.toList, .string [])) := by
  rw [Kind.defaultTemplateData, String.toList_ofList, Json.reads_object_iff, List.map_map]
  rfl

/-! ## what can be recovered -/

/-- Well-formed fields with the same text are the same. -/
theorem eq_of_fieldText_eq {a b : List UInt8} (ha : ∃ cs, a = Text.Utf8.encode cs)
    (hb : ∃ cs, b = Text.Utf8.encode cs) (h : fieldText a = fieldText b) : a = b := by
  obtain ⟨cs, rfl⟩ := ha
  obtain ⟨ds, rfl⟩ := hb
  rw [fieldText, fieldText, Text.Utf8.decodeLossy_encode, Text.Utf8.decodeLossy_encode] at h
  rw [h]

/-- What is determined element by element is determined list by list. -/
theorem map_eq_map_of_map_eq_map {α β γ : Type} {f : α → β} {g : α → γ} {l m : List α}
    (h : ∀ a ∈ l, ∀ b ∈ m, f a = f b → g a = g b) (hmap : l.map f = m.map f) :
    l.map g = m.map g := by
  induction l generalizing m with
  | nil =>
      rw [List.map_nil] at hmap
      rw [List.map_eq_nil_iff.1 hmap.symm]
  | cons a l ih =>
      cases m with
      | nil => cases hmap
      | cons b m =>
          obtain ⟨hhead, htail⟩ := List.cons.inj hmap
          have hg : g a = g b := h a List.mem_cons_self b List.mem_cons_self hhead
          have hrest : l.map g = m.map g := ih (fun a' ha' b' hb' =>
            h a' (List.mem_cons_of_mem a ha') b' (List.mem_cons_of_mem b hb')) htail
          rw [List.map_cons, List.map_cons, hg, hrest]

/-- Records that show the same texts show the same fields. -/
theorem shown_eq_of_data_eq {r s : Record} (hr : r.Encoded) (hs : s.Encoded)
    (h : r.data = s.data) : r.shown = s.shown := by
  have hencoded : ∀ {t : Record}, t.Encoded → ∀ field ∈ t.shown,
      ∃ cs, field.2 = Text.Utf8.encode cs :=
    fun ht field hfield => ht _ (List.mem_cons_of_mem _ (List.mem_map_of_mem hfield))
  rw [← List.map_id r.shown, ← List.map_id s.shown]
  refine map_eq_map_of_map_eq_map (fun a ha b hb hab => ?_) (Json.object.inj h)
  obtain ⟨hname, htext⟩ := Prod.mk.inj hab
  have hfield := eq_of_fieldText_eq (hencoded hr a ha) (hencoded hs b hb) (Json.string.inj htext)
  exact Prod.ext (String.toList_inj.1 hname) hfield

/-- Destinations that are the same were made for the same used fields. -/
theorem used_eq_of_ofRecord_eq {r s : Record} (hr : r.Encoded) (hs : s.Encoded)
    (h : Destination.ofRecord r = .ofRecord s) : r.used = s.used := by
  have hcarries : Destination.Carries r (.ofRecord s) := h ▸ carries_ofRecord r
  have haddress : fieldText r.toAddress = fieldText s.toAddress :=
    hcarries.toAddress.symm.trans (carries_ofRecord s).toAddress
  have hdata : r.data = s.data :=
    ((carries_ofRecord s).templateData r.data).1 ((hcarries.templateData r.data).2 rfl)
  exact Prod.ext (eq_of_fieldText_eq (hr _ List.mem_cons_self) (hs _ List.mem_cons_self) haddress)
    (shown_eq_of_data_eq hr hs hdata)

theorem Kind.template_injective {k l : Kind} (h : k.template = l.template) : k = l := by
  cases k <;> cases l <;> first | rfl | exact absurd h (by decide)

namespace Ses

/-- **A bulk send carries its batch.**  There is one destination for each record,
in order, and it carries this record: strict readers take its template data for
one object, with the names of the default data and the texts of the record's own
fields.  Batches of well-formed UTF-8 that are sent alike are of one kind and use
the same fields.  Reply addresses go with recovery mails, if there are any, and
with nothing else. -/
theorem Parameters.carries_ofRecords (identity : Identity) (kind : Kind) (records : List Record)
    (hkind : ∀ r ∈ records, r.kind = kind) :
    let p := ofRequest identity (.ofRecords kind records)
    List.Forall₂ Destination.Carries records p.destinations ∧
    (∀ v, Json.Reads p.defaultTemplateData.toList v ↔
      v = .object (kind.templateKeys.map fun key => (key.toList, .string []))) ∧
    kind.templateKeys.Nodup ∧ (∀ r ∈ records, r.shown.map Prod.fst = kind.templateKeys) ∧
    (∀ (other : Identity) (kind' : Kind) (records' : List Record),
      (∀ r ∈ records ++ records', r.Encoded) → p = ofRequest other (.ofRecords kind' records') →
        kind = kind' ∧ records.map Record.used = records'.map Record.used) ∧
    p.replyTo =
      if kind = .passwordRecovery ∧ identity.replyTo ≠ [] then some identity.replyTo else none := by
  intro p
  refine ⟨?_, reads_defaultTemplateData_iff kind, ?_, fun r hr => ?_, ?_, ?_⟩
  · exact List.forall₂_map_right_iff.2 (List.forall₂_same.2 fun r _ => carries_ofRecord r)
  · cases kind <;> decide
  · rw [r.map_fst_shown, hkind r hr]
  · intro other kind' records' hencoded hsame
    have htemplate : kind.template = kind'.template := congrArg template hsame
    have hdestinations : records.map Destination.ofRecord = records'.map Destination.ofRecord :=
      congrArg destinations hsame
    refine ⟨Kind.template_injective htemplate, map_eq_map_of_map_eq_map ?_ hdestinations⟩
    intro r hr s hs hrs
    exact used_eq_of_ofRecord_eq (hencoded r (List.mem_append_left _ hr))
      (hencoded s (List.mem_append_right _ hs)) hrs
  · simp only [p, ofRequest, Request.ofRecords, isAnswerable, beq_iff_eq, and_comm]

/-- A recovery whose login closes the string and the object it stands in, and whose
secret holds a line feed and a byte that is no UTF-8. -/
theorem Parameters.carries_hostile_fields :
    let r : Record := ⟨.passwordRecovery, [0x61], [0x22, 0x7D, 0x5C], [0x0A, 0xFF], []⟩
    let p := ofRequest ⟨"set", "source", ["reply"]⟩ (.ofRecords .passwordRecovery [r])
    (∃ d, p.destinations = [d] ∧ ∀ v, Json.Reads d.templateData.toList v ↔ v = .object
      [("login".toList, .string ['\x22', '\x7d', '\x5c']), ("secret".toList, .string ['\n', '\uFFFD']),
        ("code".toList, .string [])]) ∧ p.replyTo = some ["reply"] := by
  intro r p
  obtain ⟨hcarries, -, -, -, -, hreply⟩ := Parameters.carries_ofRecords
    ⟨"set", "source", ["reply"]⟩ .passwordRecovery [r] (by simp [r])
  obtain ⟨d, ds, hd, hnone, hds⟩ := List.forall₂_cons_left_iff.1 hcarries
  cases hnone
  refine ⟨⟨d, hds, ?_⟩, hreply⟩
  exact hd.templateData

end Ses

end BatchMailer
