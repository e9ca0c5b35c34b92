import SchemaPages.Proofs.Json.Numerals
import SchemaPages.Proofs.Json.Values
import SchemaPages.Proofs.Text.Trimming
import SchemaPages.Report.Outline

/-!
Outlines in colours and without. `unstyled` takes the control sequences of styles out of a text. If
no key and no string has a character that starts one then the outline in colours is in this way the
outline without them: what is written around a text is taken out wherever it stands. White space at
the end of the outline that a control sequence kept from being taken off can be taken off then.
-/

namespace SchemaPages.Report

open Json (Value)

/-! ### Taking styles out -/

/-- The character may stand in a control sequence of a style. -/
def isParameter (c : Char) : Bool := c.isDigit || c == ';'

/-- What comes after the rest of a control sequence of a style. -/
def pastParameters? : List Char → Option (List Char)
  | [] => none
  | c :: rest =>
    if c = 'm' then some rest else if isParameter c then pastParameters? rest else none

/-- What comes after the control sequence of a style that a text starts with. -/
def pastStyle? : List Char → Option (List Char)
  | c :: d :: rest => if c = '\x1b' ∧ d = '[' then pastParameters? rest else none
  | _ => none

theorem length_le_of_pastParameters? {text after : List Char}
    (h : pastParameters? text = some after) : after.length ≤ text.length := by
  induction text with
  | nil => cases h
  | cons c rest ih =>
      rw [pastParameters?] at h
      split at h
      · cases h
        exact Nat.le_succ _
      · split at h
        · exact (ih h).trans (Nat.le_succ _)
        · cases h

theorem length_lt_of_pastStyle? {text after : List Char} (h : pastStyle? text = some after) :
    after.length < text.length := by
  match text with
  | [] | [_] => cases h
  | c :: d :: rest =>
      rw [pastStyle?] at h
      split at h
      · have hle := length_le_of_pastParameters? h
        simp only [List.length_cons]
        omega
      · cases h

def unstyled : List Char → List Char
  | [] => []
  | c :: rest =>
    match _h : pastStyle? (c :: rest) with
    | some after => unstyled after
    | none => c :: unstyled rest
termination_by text => text.length
decreasing_by
  · exact length_lt_of_pastStyle? ‹_›
  · exact Nat.lt_succ_self _

@[simp] theorem unstyled_nil : unstyled [] = [] := by
  rw [unstyled]

theorem unstyled_of_pastStyle? {text after : List Char} (h : pastStyle? text = some after) :
    unstyled text = unstyled after := by
  cases text with
  | nil => cases h
  | cons c rest =>
      rw [unstyled]
      split
      · rename_i other hother
        rw [Option.some.inj (hother.symm.trans h)]
      · rename_i hnone
        cases hnone.symm.trans h

theorem unstyled_cons {c : Char} {rest : List Char} (h : pastStyle? (c :: rest) = none) :
    unstyled (c :: rest) = c :: unstyled rest := by
  rw [unstyled]
  split
  · rename_i hsome
    cases hsome.symm.trans h
  · rfl

/-! ### White space at the end -/

def IsBlank (text : List Char) : Prop := ∀ c ∈ text, Text.isBlank c

theorem not_isBlank_of_isParameter {c : Char} (h : isParameter c) : ¬Text.isBlank c := by
  rw [isParameter, Bool.or_eq_true, beq_iff_eq] at h
  rcases h with hdigit | rfl
  · have hrange := Char.isDigit_iff_toNat.1 hdigit
    have hbounds : '0'.toNat = 48 ∧ '9'.toNat = 57 := by decide
    simp only [Text.isBlank, Bool.or_eq_true, Bool.and_eq_true, decide_eq_true_eq, beq_iff_eq]
    omega
  · decide

theorem IsBlank.ne {c : Char} {rest : List Char} (h : IsBlank (c :: rest)) {d : Char}
    (hd : ¬Text.isBlank d) : c ≠ d := by
  rintro rfl
  exact hd (h c List.mem_cons_self)

theorem pastParameters?_append {blank : List Char} (h : IsBlank blank) (text : List Char) :
    pastParameters? (text ++ blank) = (pastParameters? text).map (· ++ blank) := by
  induction text with
  | nil =>
      cases blank with
      | nil => rfl
      | cons c rest =>
          have hparameter : ¬isParameter c := fun hc =>
            not_isBlank_of_isParameter hc (h c List.mem_cons_self)
          have hlast : c ≠ 'm' := h.ne (by decide)
          exact (if_neg hlast).trans (if_neg hparameter)
  | cons c rest ih =>
      rw [List.cons_append, pastParameters?, pastParameters?, ih]
      split
      · rfl
      · split <;> rfl

theorem pastStyle?_append {blank : List Char} (h : IsBlank blank) (text : List Char) :
    pastStyle? (text ++ blank) = (pastStyle? text).map (· ++ blank) := by
  match text, blank with
  | [], [] | [], [_] | [_], [] => rfl
  | [], c :: d :: rest => exact if_neg fun hc => h.ne (by decide) hc.1
  | [c], d :: rest => exact if_neg fun hd => h.ne (by decide) hd.2
  | c :: d :: rest, blank =>
      rw [List.cons_append, List.cons_append, pastStyle?, pastStyle?, pastParameters?_append h]
      split <;> rfl

theorem unstyled_of_isBlank {blank : List Char} (h : IsBlank blank) : unstyled blank = blank := by
  induction blank with
  | nil => exact unstyled_nil
  | cons c rest ih =>
      rw [unstyled_cons (pastStyle?_append h []), ih (List.forall_mem_cons.1 h).2]

/-- White space at the end stays where styles are taken out. -/
theorem unstyled_append {blank : List Char} (h : IsBlank blank) (text : List Char) :
    unstyled (text ++ blank) = unstyled text ++ blank := by
  -- White space completes no control sequence, so the same is taken out step by step.
  induction text using unstyled.induct with
  | case1 => rw [List.nil_append, unstyled_of_isBlank h, unstyled_nil, List.nil_append]
  | case2 c rest after hafter ih =>
      have happend := pastStyle?_append h (c :: rest)
      rw [hafter] at happend
      rw [unstyled_of_pastStyle? happend, ih, unstyled_of_pastStyle? hafter]
  | case3 c rest hnone ih =>
      have happend := pastStyle?_append h (c :: rest)
      rw [hnone] at happend
      rw [List.cons_append] at happend ⊢
      rw [unstyled_cons happend, ih, unstyled_cons hnone, List.cons_append]

/-- White space that is taken off before styles are taken out is taken off after them as well. -/
theorem trimEnd_unstyled_trimEnd (text : List Char) :
    Text.trimEnd (unstyled (Text.trimEnd text)) = Text.trimEnd (unstyled text) := by
  obtain ⟨blank, hblank, htext⟩ := Text.exists_trimEnd text
  calc Text.trimEnd (unstyled (Text.trimEnd text))
      = Text.trimEnd (unstyled (Text.trimEnd text) ++ blank) :=
        (Text.trimEnd_append_of_blank hblank _).symm
    _ = Text.trimEnd (unstyled (Text.trimEnd text ++ blank)) := by rw [unstyled_append hblank]
    _ = Text.trimEnd (unstyled text) := by rw [← htext]

/-! ### Texts and what is left of them -/

/-- Whatever follows, the second text is left of the first when styles are taken out. -/
def Shows (styled bare : List Char) : Prop :=
  ∀ rest, unstyled (styled ++ rest) = bare ++ unstyled rest

namespace Shows

theorem nil : Shows [] [] := fun _ => rfl

theorem append {styled bare styled' bare' : List Char} (h : Shows styled bare)
    (h' : Shows styled' bare') : Shows (styled ++ styled') (bare ++ bare') := by
  intro rest
  rw [List.append_assoc, h, h', List.append_assoc]

theorem unstyled_eq {styled bare : List Char} (h : Shows styled bare) : unstyled styled = bare := by
  simpa using h []

theorem cons {c : Char} (hc : c ≠ '\x1b') {styled bare : List Char} (h : Shows styled bare) :
    Shows (c :: styled) (c :: bare) := by
  intro rest
  have hnone : pastStyle? (c :: (styled ++ rest)) = none := by
    cases styled ++ rest with
    | nil => rfl
    | cons d _ => exact if_neg fun hstart => hc hstart.1
  rw [List.cons_append, unstyled_cons hnone, h, List.cons_append]

theorem self {text : List Char} (h : '\x1b' ∉ text) : Shows text text := by
  induction text with
  | nil => exact nil
  | cons c text ih =>
      exact cons (List.ne_of_not_mem_cons h).symm (ih (List.not_mem_of_not_mem_cons h))

theorem flatMap {α : Type} {styled bare : α → List Char} {items : List α}
    (h : ∀ a ∈ items, Shows (styled a) (bare a)) :
    Shows (items.flatMap styled) (items.flatMap bare) := by
  induction items with
  | nil => exact nil
  | cons a rest ih =>
      obtain ⟨ha, hrest⟩ := List.forall_mem_cons.1 h
      rw [List.flatMap_cons, List.flatMap_cons]
      exact ha.append (ih hrest)

theorem opening (style : Style) : Shows style.opening [] := fun rest => by
  have hpast : pastStyle? (style.opening ++ rest) = some rest := by
    cases style <;> rfl
  rw [unstyled_of_pastStyle? hpast, List.nil_append]

theorem reset : Shows reset [] := fun _ => unstyled_of_pastStyle? rfl

end Shows

theorem reopen_of_not_mem (opening : List Char) {text : List Char} (h : '\x1b' ∉ text) :
    reopen opening text = text := by
  induction text with
  | nil => rfl
  | cons c rest ih =>
      have hc : c ≠ '\x1b' := (List.ne_of_not_mem_cons h).symm
      rw [reopen, ih (List.not_mem_of_not_mem_cons h)]
      rintro _ rfl
      exact absurd rfl hc

theorem Style.shows_paint (style : Style) {text : List Char} (h : '\x1b' ∉ text) :
    Shows (style.paint true text) (style.paint false text) := by
  have hpainted := ((Shows.opening style).append (Shows.self h)).append Shows.reset
  rw [List.nil_append, List.append_nil] at hpainted
  change Shows (style.opening ++ reopen style.opening text ++ Report.reset) text
  rwa [reopen_of_not_mem style.opening h]

/-! ### Outlines -/

def Uncontrolled (text : String) : Prop := '\x1b' ∉ text.toList

instance (text : String) : Decidable (Uncontrolled text) :=
  inferInstanceAs (Decidable ('\x1b' ∉ text.toList))

theorem shows_margin (depth : Nat) : Shows (margin depth) (margin depth) :=
  .self fun h => absurd (List.eq_of_mem_replicate h) (by decide)

theorem shows_placeholder (depth : Nat) {text : String} (h : Uncontrolled text) :
    Shows (placeholder true depth text) (placeholder false depth text) :=
  ((shows_margin depth).append (Style.dimmed.shows_paint h)).append (.self (by decide))

theorem shows_scalar {v : Value} (hv : v.IsScalar) (h : v.Spelled Uncontrolled Uncontrolled) :
    Shows (paintScalar true v) (paintScalar false v) := by
  cases h with
  | null => exact Style.dimmed.shows_paint (by decide)
  | bool b => exact Style.yellow.shows_paint (by cases b <;> decide)
  | num n => exact Style.cyan.shows_paint (n.numeric_text.not_mem (by decide))
  | str hs => exact Style.green.shows_paint hs
  | arr _ => exact hv.elim
  | obj _ _ => exact hv.elim

theorem shows_textBlock (depth : Nat) {text : List Char} (h : '\x1b' ∉ text) :
    Shows (textBlock true depth text) (textBlock false depth text) := by
  refine .flatMap fun line hline => ?_
  have hbare : '\x1b' ∉ line := fun hmem => h (Text.subset_of_mem_lines hline hmem)
  exact ((shows_margin depth).append (Style.green.shows_paint hbare)).append (.self (by decide))

theorem shows_line (depth : Nat) {v : Value} (hv : v.IsScalar)
    (h : v.Spelled Uncontrolled Uncontrolled) :
    Shows (margin depth ++ paintScalar true v ++ ['\n'])
      (margin depth ++ paintScalar false v ++ ['\n']) :=
  ((shows_margin depth).append (shows_scalar hv h)).append (.self (by decide))

section Entry

variable {label label' : List Char}

theorem shows_below (depth : Nat) (hlabel : Shows label label') {block block' : List Char}
    (h : Shows block block') :
    Shows (margin depth ++ label ++ '\n' :: block) (margin depth ++ label' ++ '\n' :: block') :=
  ((shows_margin depth).append hlabel).append (h.cons (by decide))

theorem shows_beside (depth : Nat) (hlabel : Shows label label') {v : Value} (hv : v.IsScalar)
    (h : v.Spelled Uncontrolled Uncontrolled) :
    Shows (margin depth ++ label ++ ' ' :: paintScalar true v ++ ['\n'])
      (margin depth ++ label' ++ ' ' :: paintScalar false v ++ ['\n']) :=
  (((shows_margin depth).append hlabel).append ((shows_scalar hv h).cons (by decide))).append
    (.self (by decide))

/-- If a value shows at every depth then it does so with a label. -/
theorem shows_outlineEntry {v : Value} (h : v.Spelled Uncontrolled Uncontrolled)
    (hvalue : ∀ depth, Shows (outlineValue true depth v) (outlineValue false depth v))
    (depth : Nat) (hlabel : Shows label label') :
    Shows (outlineEntry true depth label v) (outlineEntry false depth label' v) := by
  cases v with
  | null | bool b | num n => exact shows_beside depth hlabel trivial h
  | str s =>
      rw [outlineEntry, outlineEntry]
      split
      · cases h with
        | str hs => exact shows_below depth hlabel (shows_textBlock (depth + 1) hs)
      · exact shows_beside depth hlabel trivial h
  | arr items => exact shows_below depth hlabel (hvalue (depth + 1))
  | obj members => exact shows_below depth hlabel (hvalue (depth + 1))

end Entry

theorem outlineMembers_eq (color : Bool) (depth : Nat) (members : List (String × Value)) :
    outlineMembers color depth members = members.flatMap fun entry =>
      outlineEntry color depth (keyLabel color entry.1) entry.2 := by
  induction members with
  | nil => rfl
  | cons entry rest ih =>
      obtain ⟨key, v⟩ := entry
      rw [outlineMembers, ih, List.flatMap_cons]

theorem outlineItems_eq (color : Bool) (depth : Nat) (items : List Value) :
    outlineItems color depth items =
      items.flatMap (outlineEntry color depth (itemLabel color)) := by
  induction items with
  | nil => rfl
  | cons v rest ih => rw [outlineItems, ih, List.flatMap_cons]

/-- What is left of an outline in colours is the outline without them. -/
theorem shows_outlineValue {v : Value} (h : v.Spelled Uncontrolled Uncontrolled) (depth : Nat) :
    Shows (outlineValue true depth v) (outlineValue false depth v) := by
  induction h generalizing depth with
  | null => exact shows_line depth trivial .null
  | bool b => exact shows_line depth trivial (.bool b)
  | num n => exact shows_line depth trivial (.num n)
  | str hs => exact shows_line depth trivial (.str hs)
  | @arr items hitems ih =>
      rw [outlineValue, outlineValue]
      split
      · exact shows_placeholder depth (by decide)
      · rw [outlineItems_eq, outlineItems_eq]
        exact .flatMap fun v hv =>
          shows_outlineEntry (hitems v hv) (ih v hv) depth (Style.dimmed.shows_paint (by decide))
  | @obj members hkeys hmembers ih =>
      rw [outlineValue, outlineValue]
      split
      · exact shows_placeholder depth (by decide)
      · rw [outlineMembers_eq, outlineMembers_eq]
        exact .flatMap fun entry hentry => shows_outlineEntry (hmembers entry hentry)
          (ih entry hentry) depth (Style.bold.shows_paint (hkeys entry hentry))

/-- If no key and no string starts a control sequence then the outline in colours is, without its
control sequences and without the white space that is at its end then, the outline without
colours. -/
theorem trimEnd_unstyled_outline (v : Value) (h : v.Spelled Uncontrolled Uncontrolled) :
    Text.trimEnd (unstyled (outline true v).toList) = (outline false v).toList := by
  rw [outline, outline, String.toList_ofList, String.toList_ofList, trimEnd_unstyled_trimEnd,
    (shows_outlineValue h.sorted 0).unstyled_eq]

/-- A list that ends with a blank string, after a blank line and a container without parts. -/
def blankAtEnd : Value := .arr [.obj [], .str "one\n \n", .str " "]

/-- In colours a control sequence stands between the blanks and the end of the outline. -/
theorem trimEnd_unstyled_blankAtEnd :
    (outline true blankAtEnd).toList.getLast? = some 'm' ∧
      Text.trimEnd (unstyled (outline true blankAtEnd).toList) =
        "-\n  (empty)\n-\n  one\n   \n-".toList := by
  have hspelled : blankAtEnd.Spelled Uncontrolled Uncontrolled := by
    refine .arr ?_
    simp only [List.forall_mem_cons]
    exact ⟨.obj (List.forall_mem_nil _) (List.forall_mem_nil _), .str (by decide),
      .str (by decide), List.forall_mem_nil _⟩
  refine ⟨by decide, ?_⟩
  rw [trimEnd_unstyled_outline blankAtEnd hspelled]
  decide

end SchemaPages.Report
