import BatchMailer.Segments
import BatchMailer.Text.Blank

/-!
# BatchMailer.Text.CommaList

Lists written with commas between their items.  Blanks around an item do not
count, and items that are only blanks are left out.
-/

namespace BatchMailer.Text

/-- Whether a character separates two items. -/
def isComma (c : Char) : Bool := c == ','

/-- The items of a comma-separated list, in order. -/
def commaItems (cs : List Char) : List (List Char) :=
  ((segments isComma cs).map (trimWhere isBlank)).filter (!·.isEmpty)

theorem ne_nil_of_mem_commaItems {cs item : List Char} (h : item ∈ commaItems cs) : item ≠ [] := by
  simpa using (List.mem_filter.1 h).2

/-- Items neither start nor end with a blank. -/
theorem ends_of_mem_commaItems {cs item : List Char} {c : Char} (h : item ∈ commaItems cs)
    (hc : item.head? = some c ∨ item.getLast? = some c) : isBlank c = false := by
  obtain ⟨segment, _, rfl⟩ := List.mem_map.1 (List.mem_filter.1 h).1
  exact hc.elim head?_trimWhere getLast?_trimWhere

end BatchMailer.Text
