import SchemaPages.Template.Render

/-!
What a template gives. `Fills scope last items text` says that the items give the text from the
value in scope, without a fault. The place at which a template starts matters to the faults only,
so the judgement leaves it open, and that is what lets the rules compose along a template: one rule
for every kind of item, and `Fills.append` to put the parts together.
-/

namespace SchemaPages.Template

open Json (Value)

/-- The items give the text, wherever the first of them starts. -/
def Fills (scope : Value) (last : Bool) (items : List Item) (text : String) : Prop :=
  ∀ place, render scope last place items = .ok text

variable {scope : Value} {last : Bool} {name : String} {items rest body : List Item}
variable {s t : String} {term : Term}

theorem after_append (place : Place) (s t : String) :
    place.after (s ++ t) = (place.after s).after t := by
  simp [Place.after, String.toList_append, List.foldl_append]

theorem render_append (place : Place) (items rest : List Item) :
    render scope last place (items ++ rest) = do
      let first ← render scope last place items
      let others ← render scope last (place.after (source items)) rest
      return first ++ others := by
  -- Each item moves the place at which the rest starts.
  induction items generalizing place with
  | nil =>
      change render scope last place rest = render scope last place rest >>= fun others =>
        pure ("" ++ others)
      simp
  | cons item items ih =>
      simp only [List.cons_append, render, source, ih, after_append, bind_assoc, pure_bind,
        String.append_assoc]

theorem render_singleton (place : Place) (item : Item) :
    render scope last place [item] = renderItem scope last place item := by
  change renderItem scope last place item >>= (fun first => .ok (first ++ "")) = _
  simp only [String.append_empty]
  exact bind_pure _

def repeated {α : Type} (text : α → Bool → String) : List α → String
  | [] => ""
  | x :: xs => text x xs.isEmpty ++ repeated text xs

namespace Fills

theorem nil : Fills scope last [] "" := fun _ => rfl

theorem append (h : Fills scope last items s) (h' : Fills scope last rest t) :
    Fills scope last (items ++ rest) (s ++ t) := by
  intro place
  rw [render_append, h place]
  change (do
    let others ← render scope last _ rest
    return s ++ others) = _
  rw [h' _]
  rfl

theorem of_item {item : Item} (h : ∀ place, renderItem scope last place item = .ok s) :
    Fills scope last [item] s := by
  intro place
  rw [render_singleton, h]

theorem text (content : String) : Fills scope last [.text content] content :=
  of_item fun _ => rfl

theorem escaped (h : term.value? scope = .ok (.str s)) :
    Fills scope last [.escaped term] (Html.escape s) := by
  apply of_item
  intro place
  simp only [renderItem, h, fill]

theorem raw (h : term.value? scope = .ok (.str s)) : Fills scope last [.raw term] s := by
  apply of_item
  intro place
  simp only [renderItem, h, fill]

theorem each {α : Type} {element : α → Value} {text : α → Bool → String} {xs : List α}
    (hxs : elements? scope name = .ok (xs.map element))
    (hbody : ∀ x last, Fills (element x) last body (text x last)) :
    Fills scope last [.each name body] (repeated text xs) := by
  apply of_item
  intro place
  simp only [renderItem, hxs]
  -- What is left speaks of the elements alone.
  clear hxs
  induction xs with
  | nil => rfl
  | cons x xs ih =>
      simp only [List.map_cons, repeatFor, hbody x _ _, ih, List.isEmpty_map]
      rfl

theorem whenSet (h : isSetMember scope name = true) (hbody : Fills scope last body s) :
    Fills scope last [.whenSet name body] s := by
  apply of_item
  intro place
  simp only [renderItem, h, if_true]
  exact hbody _

theorem whenSet_not (h : isSetMember scope name = false) :
    Fills scope last [.whenSet name body] "" := by
  apply of_item
  intro place
  simp [renderItem, h]

theorem unlessLast (hbody : Fills scope false body s) :
    Fills scope last [.unlessLast body] (if last then "" else s) := by
  apply of_item
  intro place
  cases last with
  | true => simp [renderItem]
  | false =>
      simp only [renderItem]
      exact hbody _

end Fills

end SchemaPages.Template
