import SchemaPages.Proofs.Html.Anchors
import SchemaPages.Proofs.Html.Definition
import SchemaPages.Proofs.Introspection.Wrappers

/-!
The markup of references. It is the markup of one name in the marks of the wrappers, which can be
read back: the name from the text of its element and the wrappers from what stands around it,
whatever characters are in the name or in the address that it is linked to.
-/

namespace SchemaPages.Html

open Introspection (Kind TypeRef Wrapper IsUnmarked write_wrapped namedType_wrapped)
open Introspection.Wrapper (writeAll writeAll_inj closes)

/-- The text can stand in an element or in the value of an attribute, and is read as `words`
there. -/
structure Encodes (text words : String) : Prop where
  plain : ∀ c ∈ text.toList, c ≠ '<' ∧ c ≠ '>' ∧ c ≠ '"'
  decoded : unescape text.toList = words.toList

theorem encodes_escape (words : String) : Encodes (escape words) words where
  plain _ := not_special_of_mem_escape
  decoded := by
    rw [← String.toList_ofList (l := unescape _), unescape_toList_escape]

inductive IsNameElement (linker : Linker) (name : String) : String → Prop
  | link {address text : String} : name ∈ linker.known →
      Encodes address (linker.baseUrl ++ Text.lowerCase name ++ ".doc.html") → Encodes text name →
        IsNameElement linker name
          ("<a class=\"support type\" href=\"" ++ address ++ "\">" ++ text ++ "</a>")
  | span {text : String} : name ∉ linker.known → Encodes text name →
      IsNameElement linker name ("<span class=\"support type\">" ++ text ++ "</span>")

/-- The element does not end as wrappers are closed. -/
theorem IsNameElement.not_closes {linker : Linker} {name element : String}
    (h : IsNameElement linker name element) : ∀ c ∈ element.toList.getLast?, ¬closes c := by
  have hend : element.toList.getLast? = some '>' := by
    cases h <;> simp [List.getLast?_cons]
  rw [hend]
  rintro _ ⟨⟩
  decide

namespace Linker

variable (linker : Linker)

theorem isNameElement_named (name : String) : IsNameElement linker name (linker.named name) := by
  rw [named]
  split
  · rename_i hknown
    exact .link (List.contains_iff_mem.1 hknown) (encodes_escape _) (encodes_escape name)
  · rename_i hunknown
    exact .span (fun hknown => hunknown (List.contains_iff_mem.2 hknown)) (encodes_escape name)

theorem named_injective : Function.Injective linker.named := by
  intro name other h
  have hread (name : String) : readText (linker.named name) = name := by
    rw [← write_nameMarkup, readText_write, content_nameMarkup]
  rw [← hread name, h, hread other]

end Linker

/-- A reference in any wrappers has the name that they stand around. If no mark of wrappers is in
the names then references are written alike just if they have the same wrappers and the same name.
The markup of references is alike only then as well, whatever the names are: it is one element for
the name in the marks of the wrappers. -/
theorem typeRef_readable (linker : Linker) (wrappers others : List Wrapper) (kind other : Kind)
    (name otherName : String) :
    (TypeRef.wrapped wrappers kind name).namedType = some name ∧
      (IsUnmarked name → IsUnmarked otherName →
        ((TypeRef.wrapped wrappers kind name).display =
            (TypeRef.wrapped others other otherName).display ↔
          wrappers = others ∧ name = otherName)) ∧
      (linker.typeRef (TypeRef.wrapped wrappers kind name) =
          linker.typeRef (TypeRef.wrapped others other otherName) ↔
        wrappers = others ∧ name = otherName) ∧
      ∃ element, IsNameElement linker name element ∧
        linker.typeRef (TypeRef.wrapped wrappers kind name) = writeAll wrappers element := by
  have helement := linker.isNameElement_named
  refine ⟨namedType_wrapped wrappers kind name, fun h h' => ?_, ?_,
    linker.named name, helement name, write_wrapped wrappers kind name _⟩
  · rw [TypeRef.display, TypeRef.display, write_wrapped, write_wrapped]
    exact writeAll_inj h.not_closes h'.not_closes
  · rw [Linker.typeRef, Linker.typeRef, write_wrapped, write_wrapped,
      writeAll_inj (helement name).not_closes (helement otherName).not_closes,
      linker.named_injective.eq_iff]

/-- A list of values that are never null is told from a list that is never null itself, also by its
markup. -/
theorem typeRef_ne_swapped :
    (TypeRef.wrapped [.list, .nonNull] .scalar "ID").display ≠
        (TypeRef.wrapped [.nonNull, .list] .scalar "ID").display ∧
      Linker.typeRef ⟨"./", ["ID"]⟩ (TypeRef.wrapped [.list, .nonNull] .scalar "ID") ≠
        Linker.typeRef ⟨"./", ["ID"]⟩ (TypeRef.wrapped [.nonNull, .list] .scalar "ID") := by
  obtain ⟨-, hdisplay, hmarkup, -⟩ := typeRef_readable ⟨"./", ["ID"]⟩ [.list, .nonNull]
    [.nonNull, .list] .scalar .scalar "ID" "ID"
  have hwrappers : [Wrapper.list, .nonNull] ≠ [.nonNull, .list] := by decide
  exact ⟨fun h => hwrappers ((hdisplay (by decide) (by decide)).1 h).1,
    fun h => hwrappers (hmarkup.1 h).1⟩

end SchemaPages.Html
