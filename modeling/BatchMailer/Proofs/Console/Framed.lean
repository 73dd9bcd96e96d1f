import BatchMailer.Proofs.Text.Lossy
import BatchMailer.Segments
import BatchMailer.Sender

/-!
# BatchMailer.Proofs.Console.Framed

The lines of a dry run.

Stretches that hold no separator, each with one behind it, are read back from the
whole (`segments_flatMap_concat`).  So the lines of a block are read back from what is
printed as long as no text in it holds a newline, and then the blocks are, since the
last line of a block is its only empty one (`Console.cutBlocks_join`).

No text in a block can hold a newline.  Read with replacements, only the byte of a
newline becomes one (`lineFeed_mem_of_newline_mem_fieldText`), and this byte is a
delimiter, which no field of a record holds; an object has no control characters at
all (`JsonText.not_control_of_mem_object`).
-/

namespace BatchMailer

/-! ## stretches with a separator behind each -/

section

variable {α : Type} {isSep : α → Bool} {sep : α}

/-- Stretches without separators, each with one behind it, are read back. -/
theorem segments_flatMap_concat (hsep : isSep sep = true) {pieces : List (List α)}
    (hpieces : ∀ piece ∈ pieces, ∀ a ∈ piece, isSep a = false) :
    segments isSep (pieces.flatMap (· ++ [sep])) = pieces ++ [[]] := by
  induction pieces with
  | nil => rfl
  | cons piece rest ih =>
      rw [List.forall_mem_cons] at hpieces
      rw [List.flatMap_cons, List.append_assoc, List.singleton_append, segments_append_cons hsep,
        segments_of_forall_not_sep hpieces.1, ih hpieces.2, List.singleton_append, List.cons_append]

end

/-! ## texts without a newline -/

/-- In text that was read with replacements, a newline stands for its byte. -/
theorem lineFeed_mem_of_newline_mem_fieldText {bytes : List UInt8}
    (h : '\n' ∈ fieldText bytes) : 0x0A ∈ bytes := by
  have hbyte : ∀ n : Fin 0x100, Text.Utf8.asciiChar (Text.Utf8.byte n) = '\n' →
      Text.Utf8.byte n = 0x0A := by decide +kernel
  have hfilter : '\n' ∈ (bytes.filter Text.Utf8.isAsciiByte).map Text.Utf8.asciiChar := by
    rw [← Text.Utf8.filter_isAscii_decodeLossy]
    exact List.mem_filter.2 ⟨h, by decide⟩
  obtain ⟨b, hb, hchar⟩ := List.mem_map.1 hfilter
  have hb' := hbyte ⟨b.toNat, b.toNat_lt⟩
  rw [Text.Utf8.byte_toNat] at hb'
  rw [← hb' hchar]
  exact (List.mem_filter.1 hb).1

namespace JsonText

variable {d : Char}

theorem not_control_of_mem_string {cs : List Char} (h : d ∈ string cs) : 0x20 ≤ d.toNat := by
  rw [string, List.mem_append, List.mem_cons, List.mem_singleton, List.mem_flatMap] at h
  obtain (rfl | ⟨c, -, hc⟩) | rfl := h
  · decide
  · exact not_control_of_mem_escapeChar hc
  · decide

theorem not_control_of_mem_members {ms : List (String × List Char)} (h : d ∈ members ms) :
    0x20 ≤ d.toNat := by
  have hmember : ∀ m, d ∈ member m → 0x20 ≤ d.toNat := by
    intro m hm
    rw [member, List.mem_append, List.mem_cons] at hm
    obtain hkey | rfl | hvalue := hm
    · exact not_control_of_mem_string hkey
    · decide
    · exact not_control_of_mem_string hvalue
  fun_induction members ms with
  | case1 => contradiction
  | case2 m => exact hmember m h
  | case3 m more hmore ih =>
      rw [List.mem_append, List.mem_cons] at h
      obtain hm | rfl | hrest := h
      · exact hmember m hm
      · decide
      · exact ih hrest

/-- Nothing in an object is a control character. -/
theorem not_control_of_mem_object {ms : List (String × List Char)} (h : d ∈ object ms) :
    0x20 ≤ d.toNat := by
  rw [object, List.cons_append, List.mem_cons, List.mem_append, List.mem_singleton] at h
  obtain rfl | hmembers | rfl := h
  · decide
  · exact not_control_of_mem_members hmembers
  · decide

theorem newline_not_mem_object (ms : List (String × List Char)) : '\n' ∉ object ms := fun h =>
  absurd (not_control_of_mem_object h) (by decide)

end JsonText

/-- A request none of whose texts holds a newline. -/
structure Request.OneLine (request : Request) : Prop where
  template : '\n' ∉ request.template.toList
  defaultTemplateData : '\n' ∉ request.defaultTemplateData.toList
  toAddress : ∀ d ∈ request.destinations, '\n' ∉ d.toAddress.toList
  templateData : ∀ d ∈ request.destinations, '\n' ∉ d.templateData.toList

/-- Addresses without the byte of a newline are all it takes. -/
theorem Request.oneLine_ofRecords {kind : Kind} {records : List Record}
    (h : ∀ r ∈ records, 0x0A ∉ r.toAddress) : (Request.ofRecords kind records).OneLine where
  template := by
    have htemplate : '\n' ∉ kind.template.toList := by cases kind <;> decide
    exact htemplate
  defaultTemplateData := by
    rw [ofRecords, Kind.defaultTemplateData, String.toList_ofList]
    exact JsonText.newline_not_mem_object _
  toAddress := by
    intro d hd
    obtain ⟨r, hr, rfl⟩ := List.mem_map.1 hd
    rw [Destination.ofRecord, String.toList_ofList]
    exact fun hnewline => h r hr (lineFeed_mem_of_newline_mem_fieldText hnewline)
  templateData := by
    intro d hd
    obtain ⟨r, -, rfl⟩ := List.mem_map.1 hd
    rw [Destination.ofRecord, Record.templateData, String.toList_ofList]
    exact JsonText.newline_not_mem_object _

namespace Console

/-! ## lines -/

/-- A text cut at its newlines.  The last piece is what stands behind the last of
them. -/
def cutLines (text : String) : List String :=
  (segments (· == '\n') text.toList).map String.ofList

/-- Lines, each with a newline behind it. -/
def unlines (lines : List String) : String := String.join (lines.map (· ++ "\n"))

theorem toList_unlines (lines : List String) :
    (unlines lines).toList = (lines.map String.toList).flatMap (· ++ ['\n']) := by
  induction lines with
  | nil => rfl
  | cons line rest ih =>
      rw [unlines] at ih
      simp [unlines, ih]

/-- Lines without newlines are read back. -/
theorem cutLines_unlines {lines : List String} (h : ∀ line ∈ lines, '\n' ∉ line.toList) :
    cutLines (unlines lines) = lines ++ [""] := by
  have hlines : ∀ cs ∈ lines.map String.toList, ∀ c ∈ cs, (c == '\n') = false := by
    intro cs hcs c hc
    obtain ⟨line, hline, rfl⟩ := List.mem_map.1 hcs
    refine beq_false_of_ne ?_
    rintro rfl
    exact h line hline hc
  rw [cutLines, toList_unlines, segments_flatMap_concat rfl hlines]
  simp

/-- They are as many as there are newlines. -/
theorem count_unlines {lines : List String} (h : ∀ line ∈ lines, '\n' ∉ line.toList) :
    (unlines lines).toList.count '\n' = lines.length := by
  have hcut := congrArg List.length (cutLines_unlines h)
  rw [cutLines, List.length_map, length_segments, List.length_append] at hcut
  exact Nat.succ.inj hcut

/-! ## blocks -/

/-- A destination's line stands in its place and has its number. -/
theorem getElem?_destinationLines (first : Nat) (ds : List Destination) (i : Nat) :
    (destinationLines first ds)[i]? = ds[i]?.map (destinationLine (first + i)) := by
  induction ds generalizing first i with
  | nil => rfl
  | cons d rest ih =>
      cases i with
      | zero => rfl
      | succ i => rw [destinationLines, List.getElem?_cons_succ, ih, List.getElem?_cons_succ,
          Nat.succ_add_eq_add_succ]

theorem newline_not_mem_toDigits (n : Nat) : '\n' ∉ Nat.toDigits 10 n := fun h =>
  absurd (Nat.isDigit_of_mem_toDigits (by decide) (by decide) h) (by decide)

section

variable {configurationSet source : String} {request : Request}

/-- The lines of a block that are not empty. -/
def shownLines (configurationSet source : String) (request : Request) : List String :=
  heading configurationSet source request ++ destinationLines 1 request.destinations

theorem blockLines_eq : blockLines configurationSet source request =
    shownLines configurationSet source request ++ [""] := rfl

theorem block_eq : block configurationSet source request =
    unlines (blockLines configurationSet source request) := rfl

theorem exists_of_mem_destinationLines {first : Nat} {ds : List Destination} {line : String}
    (h : line ∈ destinationLines first ds) :
    ∃ number, ∃ d ∈ ds, line = destinationLine number d := by
  obtain ⟨i, hi⟩ := List.getElem?_of_mem h
  rw [getElem?_destinationLines] at hi
  obtain ⟨d, hd, rfl⟩ := Option.map_eq_some_iff.1 hi
  exact ⟨first + i, d, List.mem_of_getElem? hd, rfl⟩

/-- Every such line starts with what the console writes itself. -/
theorem ne_empty_of_mem_shownLines {line : String}
    (h : line ∈ shownLines configurationSet source request) : line ≠ "" := by
  rw [shownLines, List.mem_append] at h
  obtain hheading | hdestination := h
  · simp only [heading, List.mem_cons, List.not_mem_nil, or_false] at hheading
    obtain rfl | rfl | rfl | rfl | rfl | rfl := hheading <;> simp
  · obtain ⟨number, d, -, rfl⟩ := exists_of_mem_destinationLines hdestination
    simp [destinationLine]

theorem newline_not_mem_shownLines (hset : '\n' ∉ configurationSet.toList)
    (hsource : '\n' ∉ source.toList) (hrequest : request.OneLine) {line : String}
    (h : line ∈ shownLines configurationSet source request) : '\n' ∉ line.toList := by
  rw [shownLines, List.mem_append] at h
  obtain hheading | hdestination := h
  · simp only [heading, List.mem_cons, List.not_mem_nil, or_false] at hheading
    obtain rfl | rfl | rfl | rfl | rfl | rfl := hheading <;>
      simp [hset, hsource, hrequest.template, hrequest.defaultTemplateData, newline_not_mem_toDigits]
  · obtain ⟨number, d, hd, rfl⟩ := exists_of_mem_destinationLines hdestination
    simp [destinationLine, hrequest.toAddress d hd, hrequest.templateData d hd,
      newline_not_mem_toDigits]

theorem newline_not_mem_blockLines (hset : '\n' ∉ configurationSet.toList)
    (hsource : '\n' ∉ source.toList) (hrequest : request.OneLine) :
    ∀ line ∈ blockLines configurationSet source request, '\n' ∉ line.toList := by
  intro line hline
  rw [blockLines_eq, List.mem_append, List.mem_singleton] at hline
  obtain hshown | rfl := hline
  · exact newline_not_mem_shownLines hset hsource hrequest hshown
  · simp

end

/-- A block for a request: the lines that are shown, none of them empty, and an empty one,
each with a newline behind it.  Behind six lines of heading each destination has one, with
its number, its address and its data. -/
structure Framed (request : Request) (shown : List String) (text : String) : Prop where
  eq_unlines : text = unlines (shown ++ [""])
  lines : cutLines text = shown ++ ["", ""]
  newlines : text.toList.count '\n' = request.destinations.length + 7
  length : shown.length = 6 + request.destinations.length
  ne_empty : ∀ line ∈ shown, line ≠ ""
  destination : ∀ i d, request.destinations[i]? = some d →
    shown[6 + i]? = some ("  " ++ toString (i + 1) ++ ". to=" ++ d.toAddress ++ " data=" ++
      d.templateData)

theorem framed_block {configurationSet source : String} {request : Request}
    (hset : '\n' ∉ configurationSet.toList) (hsource : '\n' ∉ source.toList)
    (hrequest : request.OneLine) :
    Framed request (shownLines configurationSet source request)
      (block configurationSet source request) where
  eq_unlines := rfl
  lines := by
    rw [block_eq, cutLines_unlines (newline_not_mem_blockLines hset hsource hrequest), blockLines_eq,
      List.append_assoc]
    rfl
  newlines := by
    rw [block_eq, count_unlines (newline_not_mem_blockLines hset hsource hrequest),
      length_blockLines]
  length := by
    rw [shownLines, List.length_append, length_destinationLines]
    rfl
  ne_empty := fun line => ne_empty_of_mem_shownLines
  destination := by
    intro i d hd
    have hheading : (heading configurationSet source request).length = 6 := rfl
    rw [shownLines, List.getElem?_append_right (by omega), hheading, Nat.add_sub_cancel_left,
      getElem?_destinationLines, hd, Nat.add_comm 1 i]
    rfl

/-! ## blocks in turn -/

/-- The blocks in a text: what stands in front of each empty line, and this line. -/
def cutBlocks (text : String) : List String :=
  ((segments (· == "") (cutLines text).dropLast).dropLast).map fun shown => unlines (shown ++ [""])

theorem join_blocks (configurationSet source : String) (requests : List Request) :
    String.join (requests.map (block configurationSet source)) =
      unlines (requests.flatMap (blockLines configurationSet source)) := by
  rw [← String.toList_inj, toList_unlines]
  induction requests with
  | nil => rfl
  | cons request rest ih => simp [block_eq, toList_unlines, ih]

/-- Blocks are read back from the text that they make up. -/
theorem cutBlocks_join {configurationSet source : String} (hset : '\n' ∉ configurationSet.toList)
    (hsource : '\n' ∉ source.toList) {requests : List Request}
    (hrequests : ∀ request ∈ requests, request.OneLine) :
    cutBlocks (String.join (requests.map (block configurationSet source))) =
      requests.map (block configurationSet source) := by
  have hlines : ∀ line ∈ requests.flatMap (blockLines configurationSet source),
      '\n' ∉ line.toList := by
    intro line hline
    obtain ⟨request, hrequest, hline⟩ := List.mem_flatMap.1 hline
    exact newline_not_mem_blockLines hset hsource (hrequests request hrequest) line hline
  have hshown : ∀ shown ∈ requests.map (shownLines configurationSet source), ∀ line ∈ shown,
      (line == "") = false := by
    intro shown hshown line hline
    obtain ⟨request, -, rfl⟩ := List.mem_map.1 hshown
    exact beq_false_of_ne (ne_empty_of_mem_shownLines hline)
  have hblocks : requests.flatMap (blockLines configurationSet source) =
      (requests.map (shownLines configurationSet source)).flatMap (· ++ [""]) := by
    rw [List.flatMap_map]
    rfl
  rw [cutBlocks, join_blocks, cutLines_unlines hlines, List.dropLast_concat, hblocks,
    segments_flatMap_concat rfl hshown, List.dropLast_concat, List.map_map]
  rfl

end Console

end BatchMailer
