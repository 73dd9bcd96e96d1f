import BatchMailer.Proofs.Flush.Captured
import BatchMailer.Proofs.Text.Encoding

/-!
# BatchMailer.Proofs.Diagnostic.Dump

Diagnostic files are read back.

A dump has no lengths and no quotes: its first line ends where the status does,
its headers end at the first empty line, and a name ends at the first colon with a
space behind it.  `Dump.read?` takes a text apart by these marks alone.  It gets back
what was written as long as the status, the names and the values hold none of them
(`HttpResponse.Readable`, `Dump.read?_text`), whatever the body holds: nothing is
looked for behind the empty line.  So two dumps are the same text only if they tell
the same (`Dump.text_eq_iff`).

Only the body is allowed to say what stands for no body, and then the two cannot be
told apart (`Dump.body_eq_iff`).
-/

namespace BatchMailer

/-! ## reading -/

/-- What a dump tells. -/
@[ext]
structure Dump where
  status : RawText
  headers : List (RawText × RawText)
  body : RawText
  deriving DecidableEq, Repr

namespace Dump

/-- What the first line of a dump starts with. -/
def protocol : RawText := "HTTP/1.1 "

/-- What ends a line. -/
def lineFeed : CodePoint := .char '\n'

/-- Cuts a text behind its first empty line: the lines in front of that, and what
follows it.  The first line continues one that has begun. -/
def cutAtEmptyLine (begun : RawText) : RawText → Option (List RawText × RawText)
  | [] => none
  | c :: rest =>
    if c ≠ lineFeed then cutAtEmptyLine (begun ++ [c]) rest
    else if begun = [] then some ([], rest)
    else (cutAtEmptyLine [] rest).map fun (lines, body) => (begun :: lines, body)

/-- Cuts a line at its first colon with a space behind it. -/
def cutAtColon : RawText → Option (RawText × RawText)
  | [] => none
  | c :: rest =>
    if c = .char ':' ∧ rest.head? = some (.char ' ') then some ([], rest.tail)
    else (cutAtColon rest).map fun (name, value) => (c :: name, value)

/-- The line of a header. -/
def headerLine (header : RawText × RawText) : RawText :=
  header.1 ++ .char ':' :: .char ' ' :: header.2

/-- What a dump tells, from its text. -/
def read? (text : RawText) : Option Dump := do
  let (lines, body) ← cutAtEmptyLine [] text
  let status ← (lines.headD []).dropPrefix? protocol
  let headers ← lines.tail.mapM cutAtColon
  some { status, headers, body }

/-- Lines that are not empty and hold no line feed are found up to the empty line
behind them. -/
theorem cutAtEmptyLine_lines {lines : List RawText}
    (h : ∀ line ∈ lines, line ≠ [] ∧ lineFeed ∉ line) (body : RawText) :
    cutAtEmptyLine [] (lines.flatMap (· ++ [lineFeed]) ++ lineFeed :: body) =
      some (lines, body) := by
  have hline : ∀ {line : RawText}, lineFeed ∉ line → ∀ begun rest,
      cutAtEmptyLine begun (line ++ rest) = cutAtEmptyLine (begun ++ line) rest := by
    intro line
    induction line with
    | nil => simp
    | cons c more ih =>
        intro hmem begun rest
        have hc : c ≠ lineFeed := fun heq => hmem (heq ▸ List.mem_cons_self)
        have hmore := ih (fun hmem' => hmem (List.mem_cons_of_mem c hmem')) (begun ++ [c]) rest
        simpa [cutAtEmptyLine, hc] using hmore
  induction lines with
  | nil => simp [cutAtEmptyLine]
  | cons line rest ih =>
      obtain ⟨hne, hmem⟩ := h line List.mem_cons_self
      have hrest := ih fun other hother => h other (List.mem_cons_of_mem line hother)
      simp only [List.flatMap_cons, List.append_assoc, hline hmem, List.nil_append]
      simp [cutAtEmptyLine, hne, hrest]

/-- A name without a colon ends where the colon and the space are. -/
theorem cutAtColon_append {name : RawText} (h : .char ':' ∉ name) (value : RawText) :
    cutAtColon (name ++ .char ':' :: .char ' ' :: value) = some (name, value) := by
  induction name with
  | nil => simp [cutAtColon]
  | cons c rest ih =>
      have hc : c ≠ .char ':' := fun heq => h (heq ▸ List.mem_cons_self)
      have hrest := ih fun hmem => h (List.mem_cons_of_mem c hmem)
      simp [cutAtColon, hc, hrest]

end Dump

/-! ## writing -/

/-- The text of a body; bytes are decoded. -/
def Body.shown : Body → RawText
  | .bytes content => .ofChars (Text.Utf8.decodeLossy content)
  | .text content => content

namespace HttpResponse

/-- The text a response has in its body, which is empty if there is none. -/
def content (r : HttpResponse) : RawText := (r.body.getD none).elim [] Body.shown

/-- What the dump of a response tells. -/
def dump (r : HttpResponse) : Dump where
  status := Value.displayOption r.statusCode
  headers := r.headerList.map fun header => (header.1, header.2.display)
  body := if r.content = [] then emptyBodyMarker else r.content

/-- The text of a dump up to its body. -/
def head (r : HttpResponse) : RawText :=
  r.statusLine ++ (r.headerList.map headerLine).flatten ++ "\n"

/-- A response whose status line and headers are lines of their own, with names that
end at their colon. -/
structure Readable (r : HttpResponse) : Prop where
  status : .char '\n' ∉ Value.displayOption r.statusCode
  names : ∀ header ∈ r.headerList, .char ':' ∉ header.1 ∧ .char '\n' ∉ header.1
  values : ∀ header ∈ r.headerList, .char '\n' ∉ header.2.display

end HttpResponse

/-- Whatever bytes there are, something is read. -/
theorem Text.Utf8.decodeLossy_eq_nil_iff {bytes : List UInt8} :
    decodeLossy bytes = [] ↔ bytes = [] := by
  -- a sequence that was begun is completed or replaced
  have hbegun : ∀ (s : Sequence) rest, decodeFrom (some s) rest ≠ [] := by
    intro s rest
    induction rest generalizing s with
    | nil => simp [decodeFrom]
    | cons b more ih =>
        rw [decodeFrom, step, Sequence.next]
        split
        · split
          · simp
          · simpa using ih _
        · simp
  cases bytes with
  | nil => simp
  | cons b rest =>
      have hlead : (lead b).1 ≠ [] ∨ ∃ s, (lead b).2 = some s := by
        unfold lead
        repeat' split
        all_goals simp
      obtain hshown | ⟨s, hs⟩ := hlead
      · simp [decodeLossy, decodeFrom, step, hshown]
      · simp [decodeLossy, decodeFrom, step, hs, hbegun]

namespace HttpResponse

variable {r s : HttpResponse}

theorem bodyText_eq (r : HttpResponse) : r.bodyText = r.dump.body := by
  cases hbody : r.body.getD none with
  | none => simp [bodyText, dump, content, hbody]
  | some body =>
      cases body with
      | bytes content =>
          have hempty : RawText.ofChars (Text.Utf8.decodeLossy content) = [] ↔ content = [] := by
            rw [← Text.Utf8.decodeLossy_eq_nil_iff, RawText.ofChars, List.map_eq_nil_iff]
          simp [bodyText, dump, HttpResponse.content, Body.shown, hbody, hempty]
      | text content => simp [bodyText, dump, HttpResponse.content, Body.shown, hbody]

/-- The lines of a dump up to the empty line. -/
def lines (r : HttpResponse) : List RawText :=
  (Dump.protocol ++ r.dump.status) :: r.dump.headers.map Dump.headerLine

theorem text_eq (r : HttpResponse) :
    r.text = r.lines.flatMap (· ++ [Dump.lineFeed]) ++ Dump.lineFeed :: r.dump.body := by
  have hlineFeed : ("\n" : RawText) = [Dump.lineFeed] := by decide
  have hcolon : (": " : RawText) = [.char ':', .char ' '] := by decide
  have hstatus : r.statusLine = Dump.protocol ++ r.dump.status ++ [Dump.lineFeed] := by
    rw [statusLine, hlineFeed]
    rfl
  have hline : ∀ header : RawText × Value, headerLine header =
      Dump.headerLine (header.1, header.2.display) ++ [Dump.lineFeed] := fun header => by
    simp [headerLine, Dump.headerLine, hlineFeed, hcolon]
  have hheaders : (r.headerList.map headerLine).flatten =
      (r.dump.headers.map Dump.headerLine).flatMap (· ++ [Dump.lineFeed]) := by
    rw [List.flatMap_def, dump, List.map_map, List.map_map]
    exact congrArg List.flatten (List.map_congr_left fun header _ => hline header)
  rw [text, bodyText_eq, hstatus, hheaders, lines, List.flatMap_cons, hlineFeed]
  simp only [List.append_assoc, List.singleton_append]

theorem Readable.lines (h : r.Readable) : ∀ line ∈ r.lines, line ≠ [] ∧ Dump.lineFeed ∉ line := by
  have hprotocol : Dump.protocol ≠ [] ∧ Dump.lineFeed ∉ Dump.protocol := by decide
  intro line hline
  rw [HttpResponse.lines, List.mem_cons] at hline
  obtain rfl | hline := hline
  · have hstatus : Dump.lineFeed ∉ r.dump.status := h.status
    simp [hprotocol, hstatus]
  · obtain ⟨told, htold, rfl⟩ := List.mem_map.1 hline
    obtain ⟨header, hheader, rfl⟩ := List.mem_map.1 htold
    have hname := (h.names header hheader).2
    have hvalue := h.values header hheader
    simpa [Dump.headerLine, Dump.lineFeed] using ⟨hname, hvalue⟩

theorem Readable.mapM_cutAtColon (h : r.Readable) :
    r.lines.tail.mapM Dump.cutAtColon = some r.dump.headers := by
  have hread : ∀ headers : List (RawText × RawText), (∀ header ∈ headers, .char ':' ∉ header.1) →
      (headers.map Dump.headerLine).mapM Dump.cutAtColon = some headers := by
    intro headers hnames
    induction headers with
    | nil => rfl
    | cons header rest ih =>
        have hrest := ih fun other hother => hnames other (List.mem_cons_of_mem header hother)
        have hname := hnames header List.mem_cons_self
        simp [Dump.headerLine, Dump.cutAtColon_append hname, hrest]
  refine hread _ fun told htold => ?_
  obtain ⟨header, hheader, rfl⟩ := List.mem_map.1 htold
  exact (h.names header hheader).1

end HttpResponse

namespace Dump

variable {r s : HttpResponse}

/-- A dump is read back. -/
theorem read?_text (h : r.Readable) : read? r.text = some r.dump := by
  have hcut := cutAtEmptyLine_lines h.lines r.dump.body
  have hstatus : (r.lines.headD []).dropPrefix? protocol = some r.dump.status :=
    List.dropPrefix?_append_of_beq _ (by simp)
  rw [read?, r.text_eq, hcut]
  simp only [Option.bind_eq_bind, Option.bind_some, hstatus, h.mapM_cutAtColon]

/-- Responses with one dump are those that tell the same. -/
theorem text_eq_iff (hr : r.Readable) (hs : s.Readable) : r.text = s.text ↔ r.dump = s.dump := by
  constructor
  · intro heq
    have hread := read?_text hr
    rw [heq, read?_text hs] at hread
    exact (Option.some.inj hread).symm
  · intro heq
    rw [r.text_eq, s.text_eq, HttpResponse.lines, HttpResponse.lines, heq]

/-- Only a body that reads like the mark for none is taken for it. -/
theorem body_eq_iff : r.dump.body = s.dump.body ↔ r.content = s.content ∨
    r.content = [] ∧ s.content = HttpResponse.emptyBodyMarker ∨
    r.content = HttpResponse.emptyBodyMarker ∧ s.content = [] := by
  have hmarker : (HttpResponse.emptyBodyMarker : RawText) ≠ [] := by decide
  simp only [HttpResponse.dump]
  by_cases hr : r.content = [] <;> by_cases hs : s.content = [] <;>
    simp [hr, hs, hmarker, eq_comm]

/-- The bytes of a well-formed body stand at the end of the file as they are. -/
theorem bytes_text {content : List UInt8} (hbody : r.body = some (some (.bytes content)))
    (hne : content ≠ []) (hformed : (Text.Utf8.decode? content).isSome) :
    Text.bytes Text.contentCoding r.text =
      Text.bytes Text.contentCoding r.head ++ content := by
  obtain ⟨cs, hcs⟩ := Option.isSome_iff_exists.1 hformed
  have htext : Text.Utf8.encode (Text.Utf8.decodeLossy content) = content := by
    have hencode := Text.Utf8.encode_of_decode? hcs
    rw [← hencode, Text.Utf8.decodeLossy_encode]
  have hbodyText : r.bodyText = .ofChars (Text.Utf8.decodeLossy content) := by
    simp [HttpResponse.bodyText, hbody, hne]
  rw [HttpResponse.text, ← HttpResponse.head, Text.bytes_append, hbodyText,
    Text.bytes_ofChars fun c => rfl, htext]

end Dump

/-- A text without surrogates is one of characters. -/
theorem RawText.exists_ofChars {t : RawText} (h : ∀ c ∈ t, c.isSurrogate = false) :
    ∃ cs, t = ofChars cs := by
  induction t with
  | nil => exact ⟨[], rfl⟩
  | cons c rest ih =>
      obtain ⟨cs, rfl⟩ := ih fun d hd => h d (List.mem_cons_of_mem c hd)
      cases c with
      | char c => exact ⟨c :: cs, rfl⟩
      | surrogate n => exact absurd (h _ List.mem_cons_self) (by simp [CodePoint.isSurrogate])

/-- A response that was written to a file can be dumped, and the file took all of it. -/
theorem Diagnostic.write_of_write {r : HttpResponse} {dir : RawText} {kindIndex : Int}
    {startedAt : Option Binary64} {h after : Host} {file : Written}
    (hwrite : write r dir kindIndex startedAt h = (.ok (some file), after)) :
    r.Dumps ∧ file.size = (Text.bytes Text.contentCoding r.text).length ∧
      h.files.write file.path (Text.bytes Text.contentCoding r.text) = .ok after.files := by
  simp only [write, Host.readWall, writeAt] at hwrite
  split at hwrite
  · simp at hwrite
  · split at hwrite
    · simp at hwrite
    · next content hbytes =>
        obtain ⟨hdumps, rfl⟩ := HttpResponse.renderBytes_eq_ok_iff.1 hbytes
        obtain ⟨rfl, hput⟩ := write_of_writeFile hwrite
        exact ⟨hdumps, rfl, hput⟩

/-- **A diagnostic file is read back.**  Take a response whose status, header names and
header values hold no line feed, with no colon in a name.  Its dump is its text, unless an
integer in it is too long to be written, and this text is read as its status, its headers
in order and its body, whatever that holds; a body that is missing or empty reads as the
mark for none.  Another such response has the same text exactly if it has the same status,
headers and body, but for this mark, which may also be a body.  If it is written to a
file, this file holds the text in UTF-8, as many bytes as are reported, and a body of
well-formed bytes stands at the end of it as it was. -/
theorem Dump.recovered_render {r : HttpResponse} (hr : r.Readable) :
    (r.isWritable = true → r.render = .ok r.text) ∧ read? r.text = some r.dump ∧
    (∀ s : HttpResponse, s.Readable → (r.text = s.text ↔
      r.dump.status = s.dump.status ∧ r.dump.headers = s.dump.headers ∧
        (r.content = s.content ∨
          r.content = [] ∧ s.content = HttpResponse.emptyBodyMarker ∨
          r.content = HttpResponse.emptyBodyMarker ∧ s.content = []))) ∧
    ∀ dir kindIndex startedAt h file after,
      Diagnostic.write r dir kindIndex startedAt h = (.ok (some file), after) →
      ∃ cs bytes, r.render = .ok (.ofChars cs) ∧ bytes = Text.Utf8.encode cs ∧
        after.files.read file.path = .ok bytes ∧ file.size = bytes.length ∧
        Text.Utf8.decode? bytes = some cs ∧
        ∀ content, r.body = some (some (.bytes content)) → content ≠ [] →
          (Text.Utf8.decode? content).isSome →
          bytes = Text.bytes Text.contentCoding r.head ++ content := by
  refine ⟨fun hwritable => if_pos hwritable, read?_text hr, fun s hs => ?_, ?_⟩
  · rw [text_eq_iff hr hs, ← body_eq_iff]
    constructor
    · intro heq
      rw [heq]
      exact ⟨rfl, rfl, rfl⟩
    · rintro ⟨hstatus, hheaders, hbody⟩
      exact Dump.ext hstatus hheaders hbody
  · intro dir kindIndex startedAt h file after hwrite
    obtain ⟨⟨hwritable, hnone⟩, hsize, hput⟩ := Diagnostic.write_of_write hwrite
    obtain ⟨cs, hcs⟩ := RawText.exists_ofChars hnone
    have hbytes : Text.bytes Text.contentCoding r.text = Text.Utf8.encode cs := by
      rw [hcs, Text.bytes_ofChars fun c => rfl]
    have hdecode : Text.Utf8.decode? (Text.Utf8.encode cs) = some cs := by
      rw [Text.Utf8.decode?, Text.Utf8.decodeLossy_encode, if_pos rfl]
    refine ⟨cs, _, ?_, hbytes, FileTree.read_of_write hput, hsize, hbytes ▸ hdecode,
      fun content => bytes_text⟩
    rw [← hcs]
    exact if_pos hwritable

/-- A response with two headers of one name and one without a name, and a body that
looks like a dump. -/
theorem Dump.recovered_render_dump_in_body :
    let r : HttpResponse := ⟨some (.int 500),
      some (some [("", .text ""), ("via", .text "a: b"), ("via", .null)]),
      some (some (.bytes [0x41, 0x3A, 0x20, 0x62, 0x0A, 0x0A, 0x48, 0xC3, 0xA9]))⟩
    let host := Host.start ⟨⟨⟨2024, 2, 29⟩, 12, 30, 0, 0, 0⟩, []⟩ ⟨.nan, []⟩ .fresh
    read? r.text = some ⟨"500", [("", ""), ("via", "a: b"), ("via", "None")], "A: b\n\nHé"⟩ ∧
      (Diagnostic.write r "." 0 none host).2.files.read "ses_20240229123000.000_0.http" =
        .ok (Text.bytes Text.contentCoding r.head ++
          [0x41, 0x3A, 0x20, 0x62, 0x0A, 0x0A, 0x48, 0xC3, 0xA9]) := by
  intro r host
  have hr : r.Readable := by
    refine ⟨?_, ?_, ?_⟩
    · decide +kernel
    · decide +kernel
    · decide +kernel
  obtain ⟨-, hread, -, hfile⟩ := Dump.recovered_render hr
  have hwritten : (Diagnostic.write r "." 0 none host).1 =
      .ok (some ⟨"ses_20240229123000.000_0.http",
        (Text.bytes Text.contentCoding r.text).length⟩) := by decide +kernel
  cases hwrite : Diagnostic.write r "." 0 none host with
  | mk result after =>
      rw [hwrite] at hwritten
      obtain ⟨cs, bytes, -, -, hbytes, -, -, hback⟩ :=
        hfile "." 0 none host _ after (hwrite.trans (Prod.ext hwritten rfl))
      refine ⟨?_, ?_⟩
      · rw [hread]
        decide +kernel
      · rw [hbytes, hback _ rfl (by decide) (by decide +kernel)]

end BatchMailer
