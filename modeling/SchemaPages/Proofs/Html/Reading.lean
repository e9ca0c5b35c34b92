import SchemaPages.Page.Document
import SchemaPages.Proofs.Html.Inline

/-!
Reading markup back. `readText` is what is left of it once the tags are gone and the references
stand for their characters; `readLinks` is the list of the names that it links to. Neither knows
how the markup was made. On the markup of a tree they give the contents and the linked names of
the tree, because escaped text holds no angle bracket and every tag is closed before the next one
opens.
-/

namespace SchemaPages.Html

/-- Takes out the tags. The flag tells whether the text starts inside of one. -/
def visible : Bool → List Char → List Char
  | _, [] => []
  | false, c :: rest => if c = '<' then visible true rest else c :: visible false rest
  | true, c :: rest => visible (c != '>') rest

/-- Puts the characters in the place of their references. -/
def unescape : List Char → List Char
  | '&' :: 'l' :: 't' :: ';' :: rest => '<' :: unescape rest
  | '&' :: 'g' :: 't' :: ';' :: rest => '>' :: unescape rest
  | '&' :: 'q' :: 'u' :: 'o' :: 't' :: ';' :: rest => '"' :: unescape rest
  | '&' :: 'a' :: 'm' :: 'p' :: ';' :: rest => '&' :: unescape rest
  | '&' :: '#' :: 'x' :: '2' :: '7' :: ';' :: rest => '\'' :: unescape rest
  | '&' :: '#' :: 'x' :: '6' :: '0' :: ';' :: rest => '`' :: unescape rest
  | '&' :: '#' :: 'x' :: '3' :: 'D' :: ';' :: rest => '=' :: unescape rest
  | c :: rest => c :: unescape rest
  | [] => []

def readText (markup : String) : String :=
  String.ofList (unescape (visible false markup.toList))

/-- The places where the text goes on as given, each with all that follows. -/
def places (start : List Char) : List Char → List (List Char)
  | [] => []
  | c :: rest =>
    if start.isPrefixOf (c :: rest) then (c :: rest) :: places start rest else places start rest

/-- What the link to a type starts with. The address follows. -/
def linkStart : List Char := "<a class=\"support type\" href=".toList

/-- The text up to the end of a link, if no other tag comes before that. -/
def linkBody? (s : List Char) : Option String :=
  if "</a>".toList.isPrefixOf (s.dropWhile (· ≠ '<')) then
    some (String.ofList (unescape (s.takeWhile (· ≠ '<'))))
  else none

def linkName? (s : List Char) : Option String :=
  linkBody? ((s.dropWhile (· ≠ '>')).drop 1)

def linksIn (s : List Char) : List String := (places linkStart s).filterMap linkName?

/-- The names in the links to types, wherever they start. -/
def readLinks (markup : String) : List String := linksIn markup.toList

def itemCount (markup : String) : Nat := (places "<li>".toList markup.toList).length

/-! ### Escaped text -/

theorem not_special_of_mem_escapeChar {c d : Char} (h : d ∈ escapeChar c) :
    d ≠ '<' ∧ d ≠ '>' ∧ d ≠ '"' := by
  unfold escapeChar at h
  repeat' split at h
  all_goals
    simp only [List.mem_cons, List.not_mem_nil, or_false] at h
    grind

/-- Escaped text neither opens nor closes a tag, nor does it end the value of an attribute. -/
theorem not_special_of_mem_escape {s : String} {c : Char} (h : c ∈ (escape s).toList) :
    c ≠ '<' ∧ c ≠ '>' ∧ c ≠ '"' := by
  rw [toList_escape, List.mem_flatMap] at h
  obtain ⟨d, _, hd⟩ := h
  exact not_special_of_mem_escapeChar hd

theorem unescape_cons {c : Char} (h : c ≠ '&') (rest : List Char) :
    unescape (c :: rest) = c :: unescape rest := by
  rw [unescape.eq_def]
  split <;> simp_all

theorem unescape_escapeChar (c : Char) (rest : List Char) :
    unescape (escapeChar c ++ rest) = c :: unescape rest := by
  unfold escapeChar
  -- One case for every character that has a reference, and one for all others.
  split
  · subst c
    rfl
  split
  · subst c
    rfl
  split
  · subst c
    rfl
  split
  · subst c
    rfl
  split
  · subst c
    rfl
  split
  · subst c
    rfl
  split
  · subst c
    rfl
  · rename_i h _ _ _
    exact unescape_cons h rest

theorem unescape_escape (s : String) (rest : List Char) :
    unescape ((escape s).toList ++ rest) = s.toList ++ unescape rest := by
  rw [toList_escape]
  induction s.toList with
  | nil => rfl
  | cons c s ih =>
      rw [List.flatMap_cons, List.append_assoc, unescape_escapeChar, ih]
      rfl

theorem unescape_plain {s : List Char} (h : '&' ∉ s) (rest : List Char) :
    unescape (s ++ rest) = s ++ unescape rest := by
  induction s with
  | nil => rfl
  | cons c s ih =>
      rw [List.mem_cons, not_or] at h
      rw [List.cons_append, unescape_cons (Ne.symm h.1), ih h.2]
      rfl

/-! ### Text and tags

A tag is an opening bracket, what stands inside and a closing bracket. Everything that reads
markup from its start passes over what comes before the first bracket, and over a tag as a whole. -/

/-- The text is one tag with the given inside. -/
structure IsTag (s : String) (inside : List Char) : Prop where
  toList_eq : s.toList = '<' :: inside ++ ['>']
  not_open : '<' ∉ inside
  not_close : '>' ∉ inside

theorem not_bracket_of_mem_style (style : Style) :
    '<' ∉ style.text.toList ∧ '>' ∉ style.text.toList := by
  cases style <;> simp [Style.text]

theorem isTag_spanOpen (style : Style) :
    IsTag (spanOpen style.text) ("span class=\"" ++ style.text ++ "\"").toList := by
  obtain ⟨hopen, hclose⟩ := not_bracket_of_mem_style style
  refine ⟨?_, by simp [hopen], by simp [hclose]⟩
  unfold spanOpen
  simp

theorem isTag_spanClose : IsTag spanClose "/span".toList := by
  unfold spanClose
  exact ⟨by simp, by simp, by simp⟩

theorem isTag_linkOpen (address : String) :
    IsTag (linkOpen address)
      ("a class=\"support type\" href=\"" ++ escape address ++ "\"").toList := by
  have hopen : '<' ∉ (escape address).toList := fun h => (not_special_of_mem_escape h).1 rfl
  have hclose : '>' ∉ (escape address).toList := fun h => (not_special_of_mem_escape h).2.1 rfl
  refine ⟨?_, by simp [hopen], by simp [hclose]⟩
  unfold linkOpen
  simp

theorem isTag_linkClose : IsTag linkClose "/a".toList := by
  unfold linkClose
  exact ⟨by simp, by simp, by simp⟩

theorem isTag_itemOpen : IsTag "<li>" "li".toList :=
  ⟨by simp, by simp, by simp⟩

theorem isTag_itemClose : IsTag "</li>" "/li".toList :=
  ⟨by simp, by simp, by simp⟩

theorem isTag_codeOpen : IsTag "<code class=\"highlight\">" "code class=\"highlight\"".toList :=
  ⟨by simp, by simp, by simp⟩

theorem isTag_codeClose : IsTag "</code>" "/code".toList :=
  ⟨by simp, by simp, by simp⟩

theorem isTag_listOpen :
    IsTag "<ul class=\"code\" style=\"padding-left:28px\">"
      "ul class=\"code\" style=\"padding-left:28px\"".toList :=
  ⟨by simp, by simp, by simp⟩

theorem isTag_listClose : IsTag "</ul>" "/ul".toList :=
  ⟨by simp, by simp, by simp⟩

theorem visible_text {s : List Char} (h : '<' ∉ s) (rest : List Char) :
    visible false (s ++ rest) = s ++ visible false rest := by
  induction s with
  | nil => rfl
  | cons c s ih =>
      rw [List.mem_cons, not_or] at h
      rw [List.cons_append, visible, if_neg (Ne.symm h.1), ih h.2]
      rfl

theorem visible_tag {s : String} {inside : List Char} (h : IsTag s inside) (rest : List Char) :
    visible false (s.toList ++ rest) = visible false rest := by
  have hinside (inside : List Char) (hclose : '>' ∉ inside) :
      visible true (inside ++ '>' :: rest) = visible false rest := by
    induction inside with
    | nil => rfl
    | cons c inside ih =>
        rw [List.mem_cons, not_or] at hclose
        have hc : (c != '>') = true := by simpa using Ne.symm hclose.1
        rw [List.cons_append, visible, hc, ih hclose.2]
  rw [h.toList_eq]
  simpa [visible] using hinside inside h.not_close

theorem places_text {d : Char} {tail s : List Char} (h : '<' ∉ s) (rest : List Char) :
    places ('<' :: d :: tail) (s ++ rest) = places ('<' :: d :: tail) rest := by
  induction s with
  | nil => rfl
  | cons c s ih =>
      rw [List.mem_cons, not_or] at h
      have hstart : ('<' :: d :: tail).isPrefixOf (c :: (s ++ rest)) = false := by
        rw [List.isPrefixOf_cons_cons, beq_false_of_ne h.1, Bool.false_and]
      rw [List.cons_append, places, hstart, if_neg Bool.false_ne_true, ih h.2]

theorem places_tag {d : Char} {tail : List Char} {s : String} {inside : List Char}
    (h : IsTag s inside) (rest : List Char) :
    places ('<' :: d :: tail) (s.toList ++ rest) =
      if ('<' :: d :: tail).isPrefixOf (s.toList ++ rest) then
        (s.toList ++ rest) :: places ('<' :: d :: tail) rest
      else places ('<' :: d :: tail) rest := by
  have hclose : '<' ∉ inside ++ ['>'] := by simp [h.not_open]
  have hinside : places ('<' :: d :: tail) (inside ++ ['>'] ++ rest) =
      places ('<' :: d :: tail) rest := places_text hclose rest
  rw [h.toList_eq, List.cons_append, List.cons_append, places, hinside]

theorem places_other {d : Char} {tail : List Char} {s : String} {inside : List Char}
    (h : IsTag s inside) (hinside : (inside ++ ['>']).head? ≠ some d) (rest : List Char) :
    places ('<' :: d :: tail) (s.toList ++ rest) = places ('<' :: d :: tail) rest := by
  rw [places_tag h, if_neg]
  rw [h.toList_eq]
  cases hafter : inside ++ ['>'] with
  | nil => simp at hafter
  | cons c after =>
      have hc : (d == c) = false :=
        beq_false_of_ne fun heq => hinside (by rw [hafter, heq]; rfl)
      rw [List.cons_append, hafter]
      simp only [List.cons_append, List.isPrefixOf_cons_cons, hc, Bool.false_and, Bool.and_false,
        Bool.false_eq_true, not_false_iff]

theorem linkStart_eq : linkStart = '<' :: 'a' :: " class=\"support type\" href=".toList := by
  unfold linkStart
  simp

theorem dropWhile_tag {s : String} {inside : List Char} (h : IsTag s inside)
    (rest : List Char) : (s.toList ++ rest).dropWhile (· ≠ '>') = '>' :: rest := by
  have hbefore : ∀ c ∈ '<' :: inside, decide (c ≠ '>') = true := by
    intro c hc
    rcases List.mem_cons.1 hc with rfl | hc
    · decide
    · exact decide_eq_true fun heq => h.not_close (heq ▸ hc)
  rw [h.toList_eq, List.append_assoc, List.dropWhile_append_of_pos hbefore]
  rfl

theorem linkBody?_escape (name : String) (rest : List Char) :
    linkBody? ((escape name).toList ++ (linkClose.toList ++ rest)) = some name := by
  have hname : ∀ c ∈ (escape name).toList, decide (c ≠ '<') = true :=
    fun c hc => decide_eq_true (not_special_of_mem_escape hc).1
  have hclose : linkClose.toList ++ rest = '<' :: ("/a>".toList ++ rest) := by
    unfold linkClose
    simp
  have hunescape : unescape (escape name).toList = name.toList := by
    simpa [unescape] using unescape_escape name []
  unfold linkBody?
  rw [hclose, List.dropWhile_append_of_pos hname, List.takeWhile_append_of_pos hname,
    List.dropWhile_cons_of_neg (by decide), List.takeWhile_cons_of_neg (by decide),
    List.append_nil, hunescape, String.ofList_toList, if_pos]
  rw [← hclose]
  exact List.isPrefixOf_iff_prefix.2 (List.prefix_append ..)

theorem linkStart_isPrefixOf (address : String) (rest : List Char) :
    linkStart.isPrefixOf ((linkOpen address).toList ++ rest) = true := by
  have hquote : "<a class=\"support type\" href=\"".toList = linkStart ++ ['"'] := by
    unfold linkStart
    simp
  refine List.isPrefixOf_iff_prefix.2 ?_
  unfold linkOpen
  rw [String.toList_append, String.toList_append, hquote]
  simp only [List.append_assoc]
  exact List.prefix_append ..

theorem linkName?_link (address name : String) (rest : List Char) :
    linkName? ((linkOpen address).toList ++
      ((escape name).toList ++ (linkClose.toList ++ rest))) = some name := by
  rw [linkName?, dropWhile_tag (isTag_linkOpen address), List.drop_one, List.tail_cons,
    linkBody?_escape]

theorem linksIn_text {s : List Char} (h : '<' ∉ s) (rest : List Char) :
    linksIn (s ++ rest) = linksIn rest := by
  rw [linksIn, linkStart_eq, places_text h, ← linkStart_eq]
  rfl

theorem linksIn_other {s : String} {inside : List Char} (h : IsTag s inside)
    (hinside : (inside ++ ['>']).head? ≠ some 'a') (rest : List Char) :
    linksIn (s.toList ++ rest) = linksIn rest := by
  rw [linksIn, linkStart_eq, places_other h hinside, ← linkStart_eq]
  rfl

theorem linksIn_linkOpen (address name : String) (rest : List Char) :
    linksIn ((linkOpen address).toList ++
        ((escape name).toList ++ (linkClose.toList ++ rest))) =
      name :: linksIn ((escape name).toList ++ (linkClose.toList ++ rest)) := by
  have hstart := linkStart_isPrefixOf address
    ((escape name).toList ++ (linkClose.toList ++ rest))
  rw [linkStart_eq] at hstart
  rw [linksIn, linkStart_eq, places_tag (isTag_linkOpen address), if_pos hstart,
    List.filterMap_cons_some (linkName?_link address name rest), ← linkStart_eq]
  rfl

/-! ### The markup of trees -/

def Inline.untagged : Inline → List Char
  | .empty => []
  | .plain mark _ => mark.toList
  | .text words => (escape words).toList
  | .span _ body => body.untagged
  | .link _ name => (escape name).toList
  | .append first second => first.untagged ++ second.untagged

theorem visible_write (markup : Inline) (rest : List Char) :
    visible false (markup.write.toList ++ rest) = markup.untagged ++ visible false rest := by
  have hescape (words : String) : '<' ∉ (escape words).toList :=
    fun h => (not_special_of_mem_escape h).1 rfl
  -- The rest has to vary: within a span it is what follows the body, not what follows the span.
  induction markup generalizing rest with
  | empty => rfl
  | plain mark hmark => exact visible_text (fun h => (hmark _ h).1 rfl) rest
  | text words => exact visible_text (hescape words) rest
  | span style body ih =>
      simp only [Inline.write, String.toList_append, List.append_assoc]
      rw [visible_tag (isTag_spanOpen style), ih, visible_tag isTag_spanClose]
      rfl
  | link address name =>
      simp only [Inline.write, String.toList_append, List.append_assoc]
      rw [visible_tag (isTag_linkOpen address), visible_text (hescape name),
        visible_tag isTag_linkClose]
      rfl
  | append first second ih ih' =>
      simp only [Inline.write, String.toList_append, List.append_assoc]
      rw [ih, ih']
      simp only [Inline.untagged, List.append_assoc]

theorem unescape_untagged (markup : Inline) (rest : List Char) :
    unescape (markup.untagged ++ rest) = markup.content.toList ++ unescape rest := by
  induction markup generalizing rest with
  | empty => rfl
  | plain mark hmark => exact unescape_plain (fun h => (hmark _ h).2.2 rfl) rest
  | text words => exact unescape_escape words rest
  | span style body ih => exact ih rest
  | link address name => exact unescape_escape name rest
  | append first second ih ih' =>
      simp only [Inline.untagged, Inline.content, String.toList_append, List.append_assoc]
      rw [ih, ih']

/-- What a reader sees of the markup of a tree: its contents. -/
theorem readText_write (markup : Inline) : readText markup.write = markup.content := by
  have hvisible := visible_write markup []
  have hunescape := unescape_untagged markup []
  rw [visible, List.append_nil, List.append_nil] at hvisible
  rw [unescape, List.append_nil, List.append_nil] at hunescape
  rw [readText, hvisible, hunescape, String.ofList_toList]

theorem linksIn_write (markup : Inline) (rest : List Char) :
    linksIn (markup.write.toList ++ rest) = markup.linked ++ linksIn rest := by
  have hescape (words : String) : '<' ∉ (escape words).toList :=
    fun h => (not_special_of_mem_escape h).1 rfl
  induction markup generalizing rest with
  | empty => rfl
  | plain mark hmark => exact linksIn_text (fun h => (hmark _ h).1 rfl) rest
  | text words => exact linksIn_text (hescape words) rest
  | span style body ih =>
      simp only [Inline.write, String.toList_append, List.append_assoc]
      rw [linksIn_other (isTag_spanOpen style) (by simp), ih,
        linksIn_other isTag_spanClose (by simp)]
      rfl
  | link address name =>
      simp only [Inline.write, String.toList_append, List.append_assoc]
      rw [linksIn_linkOpen, linksIn_text (hescape name),
        linksIn_other isTag_linkClose (by simp)]
      rfl
  | append first second ih ih' =>
      simp only [Inline.write, String.toList_append, List.append_assoc]
      rw [ih, ih']
      simp only [Inline.linked, List.append_assoc]

/-! ### Lines -/

theorem toList_writeLine (line : Inline) :
    (writeLine line).toList =
      "<li>".toList ++ (line.write.toList ++ ("</li>".toList ++ ['\n'])) := by
  unfold writeLine
  simp

theorem unescape_visible_writeLine (line : Inline) (rest : List Char) :
    unescape (visible false ((writeLine line).toList ++ rest)) =
      (line.content ++ "\n").toList ++ unescape (visible false rest) := by
  have hbreak : visible false ('\n' :: rest) = '\n' :: visible false rest := rfl
  simp only [toList_writeLine, List.append_assoc]
  rw [visible_tag isTag_itemOpen, visible_write, visible_tag isTag_itemClose,
    List.singleton_append, hbreak, unescape_untagged, unescape_cons (by decide)]
  simp

/-- What a reader sees of lines: their contents, each ended by a line feed. -/
theorem readText_writeLines (lines : List Inline) :
    readText (writeLines lines) = String.join (lines.map fun line => line.content ++ "\n") := by
  have hlines : unescape (visible false (writeLines lines).toList) =
      (String.join (lines.map fun line => line.content ++ "\n")).toList := by
    induction lines with
    | nil => rfl
    | cons line lines ih =>
        rw [writeLines_cons, String.toList_append, unescape_visible_writeLine, ih, List.map_cons,
          String.join_cons]
        exact String.toList_append.symm
  rw [readText, hlines, String.ofList_toList]

-- A reference is read once, whatever its character makes of what follows.
example : readText "<li>a &amp;lt; <b>b</b></li>\n" = "a &lt; b\n" := by decide

theorem linksIn_writeLines (lines : List Inline) (rest : List Char) :
    linksIn ((writeLines lines).toList ++ rest) =
      lines.flatMap Inline.linked ++ linksIn rest := by
  induction lines with
  | nil => rfl
  | cons line lines ih =>
      have hbreak : '<' ∉ ['\n'] := by decide
      rw [writeLines_cons, String.toList_append, toList_writeLine]
      simp only [List.append_assoc]
      rw [linksIn_other isTag_itemOpen (by simp), linksIn_write,
        linksIn_other isTag_itemClose (by simp), linksIn_text hbreak, ih]
      simp only [List.flatMap_cons, List.append_assoc]

example :
    readLinks "<li><a class=\"support type\" href=\"./id.doc.html\">ID</a>!</li>" = ["ID"] := by
  cbv

/-! ### Documents -/

/-- A document has its fragment in a list, and that in an element for code. -/
theorem toList_wrap (title fragment : String) :
    (Page.Document.wrap title fragment).description.toList =
      "<code class=\"highlight\">".toList ++
        ("<ul class=\"code\" style=\"padding-left:28px\">".toList ++
          (fragment.toList ++ ("</ul>".toList ++ ("</code>".toList ++ [])))) := by
  change (Page.envelopeOpen ++ fragment ++ Page.envelopeClose).toList = _
  unfold Page.envelopeOpen Page.envelopeClose
  simp

/-- The links of a document are those of its lines: the envelope has none of its own. -/
theorem readLinks_wrap (title : String) (lines : List Inline) :
    readLinks (Page.Document.wrap title (writeLines lines)).description =
      lines.flatMap Inline.linked := by
  rw [readLinks, toList_wrap, linksIn_other isTag_codeOpen (by simp),
    linksIn_other isTag_listOpen (by simp), linksIn_writeLines,
    linksIn_other isTag_listClose (by simp), linksIn_other isTag_codeClose (by simp)]
  exact List.append_nil _

end SchemaPages.Html
