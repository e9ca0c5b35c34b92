import Mathlib.Data.List.Basic
import SchemaPages.Introspection.TypeRef

/-!
References in wrappers. Whatever the name of a type is written as, the wrappers around it are
written around that. The closing marks alone tell the wrappers, from the innermost to the outermost,
and the opening brackets go with them. So the wrappers and the text that they stand around can be
read off the whole, unless that text ends with a closing mark itself.
-/

namespace SchemaPages.Introspection

inductive Wrapper where
  | list
  | nonNull
deriving DecidableEq

namespace Wrapper

def wrap : Wrapper → TypeRef → TypeRef
  | .list => .list
  | .nonNull => .nonNull

/-- Writes the wrapper around what it stands around. -/
def write : Wrapper → String → String
  | .list, text => "[" ++ text ++ "]"
  | .nonNull, text => text ++ "!"

def mark : Wrapper → Char
  | .list => ']'
  | .nonNull => '!'

theorem mark_injective : Function.Injective mark := by
  intro wrapper other h
  cases wrapper <;> cases other
  all_goals first | rfl | exact absurd h (by decide)

/-- Writes wrappers around a text, the first of them outermost. -/
def writeAll (wrappers : List Wrapper) (text : String) : String := wrappers.foldr write text

end Wrapper

/-- A reference to a named type in wrappers, the first of them outermost. -/
def TypeRef.wrapped (wrappers : List Wrapper) (kind : Kind) (name : String) : TypeRef :=
  wrappers.foldr Wrapper.wrap (.named kind name)

variable (wrappers : List Wrapper) (kind : Kind) (name : String)

theorem write_wrapped (leaf : String → String) :
    (TypeRef.wrapped wrappers kind name).write leaf = Wrapper.writeAll wrappers (leaf name) := by
  induction wrappers with
  | nil => cases kind <;> rfl
  | cons wrapper rest ih =>
      have hwritten := congrArg wrapper.write ih
      cases wrapper <;> exact hwritten

theorem namedType_wrapped : (TypeRef.wrapped wrappers kind name).namedType = some name := by
  induction wrappers with
  | nil => rfl
  | cons wrapper rest ih => cases wrapper <;> exact ih

namespace Wrapper

/-! ### Reading wrappers -/

def closes (c : Char) : Bool := c == ']' || c == '!'

theorem closes_mark (wrapper : Wrapper) : closes wrapper.mark := by
  cases wrapper <;> decide

theorem toList_writeAll (text : String) :
    (writeAll wrappers text).toList =
      List.replicate (wrappers.count .list) '[' ++ text.toList ++ (wrappers.map mark).reverse := by
  induction wrappers with
  | nil => simp [writeAll]
  | cons wrapper rest ih =>
      have hstep : writeAll (wrapper :: rest) text = wrapper.write (writeAll rest text) := rfl
      cases wrapper with
      | list => simp [hstep, write, ih, mark, List.replicate_succ]
      | nonNull => simp [hstep, write, ih, mark]

/-- From its end on, the text goes on with closing marks up to what the wrappers stand around. -/
theorem takeWhile_closes_writeAll {text : String} (h : ∀ c ∈ text.toList.getLast?, ¬closes c) :
    (writeAll wrappers text).toList.reverse.takeWhile closes = wrappers.map mark := by
  have hmarks : ∀ c ∈ wrappers.map mark, closes c := by
    intro c hc
    obtain ⟨wrapper, -, rfl⟩ := List.mem_map.1 hc
    exact wrapper.closes_mark
  have hopen : ∀ n, (List.replicate n '[').takeWhile closes = [] := by
    intro n
    cases n <;> rfl
  rw [toList_writeAll, List.reverse_append, List.reverse_append, List.reverse_reverse,
    List.takeWhile_append_of_pos hmarks, List.reverse_replicate]
  rw [← List.head?_reverse] at h
  cases hreverse : text.toList.reverse with
  | nil => rw [List.nil_append, hopen, List.append_nil]
  | cons c before =>
      rw [hreverse] at h
      rw [List.cons_append, List.takeWhile_cons_of_neg (h c rfl), List.append_nil]

/-- Wrappers and what they stand around are read in one way only. -/
theorem writeAll_inj {wrappers others : List Wrapper} {text other : String}
    (h : ∀ c ∈ text.toList.getLast?, ¬closes c) (h' : ∀ c ∈ other.toList.getLast?, ¬closes c) :
    writeAll wrappers text = writeAll others other ↔ wrappers = others ∧ text = other := by
  constructor
  · intro heq
    have hmarks : wrappers.map mark = others.map mark := by
      rw [← takeWhile_closes_writeAll wrappers h, ← takeWhile_closes_writeAll others h', heq]
    obtain rfl := mark_injective.list_map hmarks
    have htext := congrArg String.toList heq
    rw [toList_writeAll, toList_writeAll, List.append_left_inj, List.append_right_inj] at htext
    exact ⟨rfl, String.toList_inj.1 htext⟩
  · rintro ⟨rfl, rfl⟩
    rfl

end Wrapper

def IsUnmarked (name : String) : Prop := ∀ c ∈ name.toList, c ∉ ['[', ']', '!']

instance (name : String) : Decidable (IsUnmarked name) :=
  List.decidableBAll (fun c => c ∉ ['[', ']', '!']) name.toList

theorem IsUnmarked.not_closes {name : String} (h : IsUnmarked name) :
    ∀ c ∈ name.toList.getLast?, ¬Wrapper.closes c := by
  intro c hc hcloses
  refine h c (List.mem_of_getLast? hc) ?_
  rw [Wrapper.closes, Bool.or_eq_true, beq_iff_eq, beq_iff_eq] at hcloses
  rcases hcloses with rfl | rfl <;> decide

end SchemaPages.Introspection
