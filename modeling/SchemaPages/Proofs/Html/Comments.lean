import SchemaPages.Html.Markup
import SchemaPages.Proofs.Text.Tidy

/-!
The lines of descriptions. A description is shown by its tidy lines, so that it is not shown at all
just if it has nothing but white space, and what is shown is the same for all descriptions that
differ in white space at the ends of lines or in how lines are ended.
-/

namespace SchemaPages.Html

open Text (IsTidy inked isBlank tidyLines withoutReturns)

theorem commentLines_some (description : String) :
    commentLines (some description) = (tidyLines description.toList).map String.ofList := by
  rw [commentLines, tidyLines, List.map_map]
  rfl

theorem map_toList_commentLines (description : String) :
    (commentLines (some description)).map String.toList = tidyLines description.toList := by
  rw [commentLines_some, List.map_map]
  exact (List.map_congr_left fun _ _ => String.toList_ofList).trans (List.map_id _)

/-- Tidy lines are the lines of the description that they make when they are joined. -/
theorem commentLines_intercalate {lines : List String} (h : IsTidy (lines.map String.toList)) :
    commentLines (some ("\n".intercalate lines)) = lines := by
  have hjoined : ("\n".intercalate lines).toList = ['\n'].intercalate (lines.map String.toList) :=
    String.toList_intercalate
  rw [commentLines_some, hjoined, h.tidyLines_intercalate, List.map_map]
  exact (List.map_congr_left fun _ _ => String.ofList_toList).trans (List.map_id _)

/-- The lines of a description are tidy, and so they are the lines of the description that they
make when they are joined. There are none just if the description is white space; otherwise there is
one more than there are line feeds in what is left of the description without the white space around
it. They show all characters that are no white space, and do not depend on carriage returns before
line feeds. -/
theorem commentLines_tidy (description : String) :
    (commentLines (some description) = [] ↔ ∀ c ∈ description.toList, isBlank c) ∧
      IsTidy ((commentLines (some description)).map String.toList) ∧
      (commentLines (some description) ≠ [] →
        (commentLines (some description)).length =
          (Text.trim description.toList).count '\n' + 1) ∧
      (commentLines (some description)).flatMap (fun line => inked line.toList) =
        inked description.toList ∧
      commentLines (some ("\n".intercalate (commentLines (some description)))) =
        commentLines (some description) ∧
      commentLines (some (String.ofList (withoutReturns description.toList))) =
        commentLines (some description) := by
  have hlines := map_toList_commentLines description
  have htidy : IsTidy ((commentLines (some description)).map String.toList) := by
    rw [hlines]
    exact Text.isTidy_tidyLines description.toList
  refine ⟨?_, htidy, ?_, ?_, commentLines_intercalate htidy, ?_⟩
  · rw [← Text.tidyLines_eq_nil_iff, commentLines_some, List.map_eq_nil_iff]
  · rw [commentLines_some, List.length_map, ne_eq, List.map_eq_nil_iff]
    exact Text.length_tidyLines
  · rw [← Text.flatMap_inked_tidyLines, ← hlines, List.flatMap_map]
  · rw [commentLines_some, String.toList_ofList, Text.tidyLines_withoutReturns, commentLines_some]

-- A return that is not before a line feed does not end a line; at the end it is white space.
example : commentLines (some "\r\n  a \r\r\n\n b\rc\r") = ["a", "", " b\rc"] := by decide

end SchemaPages.Html
