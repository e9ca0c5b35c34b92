import SchemaPages.Proofs.Json.Numerals
import SchemaPages.Proofs.Report.Paths
import SchemaPages.Report.Entities

/-!
Reports are told apart by their text. If no string of a report is broken then every line tells the
way to a scalar and its text, so all that a report tells at the end of any way can be read off the
lines. This is all of the report: every item of a list tells something, so that a list is as long as
there are items that tell something, and a part is absent where nothing is told of it.
-/

namespace SchemaPages.Report

open Json (Value)
open Page (Document)

/-! ### What a value tells -/

def bare? : Value → Option String
  | .arr _ | .obj _ => none
  | v => some (bareText v)

theorem bare?_eq_some_iff {v : Value} {text : String} :
    bare? v = some text ↔ v.IsScalar ∧ bareText v = text := by
  cases v <;> simp [bare?, Value.IsScalar]

def told (v : Value) (steps : List Step) : Option String := (follow steps v.sorted).bind bare?

theorem told_eq_some_iff {v : Value} {steps : List Step} {text : String} :
    told v steps = some text ↔
      ∃ leaf ∈ leaves v.sorted, leaf.steps = steps ∧ bareText leaf.value = text := by
  simp only [told, Option.bind_eq_some_iff, bare?_eq_some_iff, mem_leaves_iff v.inOrder_sorted]
  constructor
  · rintro ⟨w, hfollow, hscalar, htext⟩
    exact ⟨⟨steps, w⟩, ⟨hfollow, hscalar⟩, rfl, htext⟩
  · rintro ⟨leaf, ⟨hfollow, hscalar⟩, rfl, htext⟩
    exact ⟨leaf.value, hfollow, hscalar, htext⟩

/-- A report of plain keys and strings that are not broken. -/
def Unbroken (v : Value) : Prop := v.Spelled IsPlainKey OneLine

theorem oneLine_bareText {key : String → Prop} {v : Value} (h : v.Spelled key OneLine)
    (hv : v.IsScalar) : OneLine (bareText v) := by
  cases h with
  | null => decide
  | bool b => cases b <;> decide
  | num n => exact n.numeric_text.not_mem (by decide)
  | str hs => exact hs
  | arr _ => exact hv.elim
  | obj _ _ => exact hv.elim

namespace Unbroken

variable {v w : Value}

theorem of_mem_leaves (h : Unbroken v) {leaf : Leaf} (hleaf : leaf ∈ leaves v.sorted) :
    (∀ step ∈ leaf.steps, step.Spelled IsPlainKey) ∧ '\n' ∉ leaf.chars := by
  obtain ⟨hfollow, hscalar⟩ := (mem_leaves_iff v.inOrder_sorted).1 hleaf
  obtain ⟨hsteps, hvalue⟩ := spelled_follow (Value.Spelled.sorted h) hfollow
  exact ⟨hsteps, oneLine_bareText hvalue hscalar⟩

/-- A report has one line for each of its scalars. -/
theorem linesOf_flat (h : Unbroken v) (hv : ¬v.sorted.IsScalar) :
    linesOf (flat v) = (leaves v.sorted).map Leaf.line := by
  have hlabelled : v.Spelled IsLabel OneLine := h.imp (fun _ hkey => hkey.isLabel) fun _ hs => hs
  exact (writesLeaves_of_spelled hlabelled hv).one_each_iff.2
    fun leaf hleaf => (h.of_mem_leaves hleaf).2

theorem told_of_flat_eq (hv : Unbroken v) (hw : Unbroken w) (hvc : ¬v.sorted.IsScalar)
    (hwc : ¬w.sorted.IsScalar) (h : flat v = flat w) {steps : List Step} {text : String}
    (htold : told v steps = some text) : told w steps = some text := by
  have hlines : (leaves v.sorted).map Leaf.line = (leaves w.sorted).map Leaf.line := by
    rw [← hv.linesOf_flat hvc, ← hw.linesOf_flat hwc, h]
  obtain ⟨leaf, hleaf, rfl, rfl⟩ := told_eq_some_iff.1 htold
  obtain ⟨other, hother, hline⟩ := List.mem_map.1 (hlines ▸ List.mem_map_of_mem hleaf)
  obtain ⟨hsteps, htext⟩ := Leaf.line_inj (hw.of_mem_leaves hother).1 (hv.of_mem_leaves hleaf).1
    hline
  exact told_eq_some_iff.2 ⟨other, hother, hsteps, htext⟩

theorem told_eq (hv : Unbroken v) (hw : Unbroken w) (hvc : ¬v.sorted.IsScalar)
    (hwc : ¬w.sorted.IsScalar) (h : flat v = flat w) : told v = told w := by
  funext steps
  refine Option.ext fun text => ⟨?_, ?_⟩
  · exact hv.told_of_flat_eq hw hvc hwc h
  · exact hw.told_of_flat_eq hv hwc hvc h.symm

end Unbroken

/-! ### What containers tell -/

theorem told_item (items : List Value) (index : Nat) (steps : List Step) :
    told (.arr items) (.item index :: steps) = items[index]?.bind (told · steps) := by
  rw [told, follow_sorted_item, Option.bind_assoc]
  rfl

theorem told_member {members : List (String × Value)} (h : (members.map Prod.fst).Nodup)
    (key : String) (steps : List Step) :
    told (.obj members) (.member key :: steps) =
      (Keyed.get? key members).bind (told · steps) := by
  rw [told, follow_sorted_member h, Option.bind_assoc]
  rfl

/-- What is written can be told from what it tells. -/
def Tells {α : Type} (encode : α → Value) : Prop := Function.Injective fun a => told (encode a)

theorem tells_str : Tells Value.str := fun _ _ h => Option.some.inj (congrFun h [])

theorem tells_bool : Tells Value.bool := by
  intro b c h
  have htext := congrFun h []
  cases b <;> cases c
  all_goals first | rfl | exact absurd (Option.some.inj htext) (by decide)

/-- A list can be told from what it tells if every item tells something. -/
theorem tells_list {α : Type} {encode : α → Value} (h : Tells encode) (steps : List Step)
    (hsome : ∀ a, told (encode a) steps ≠ none) :
    Tells fun items : List α => .arr (items.map encode) := by
  intro items others heq
  refine List.ext_getElem? fun index => ?_
  have hitem (steps : List Step) : items[index]?.bind (fun a => told (encode a) steps) =
      others[index]?.bind fun a => told (encode a) steps := by
    have hsteps := congrFun heq (.item index :: steps)
    simp only [told_item, List.getElem?_map, Option.bind_map] at hsteps
    exact hsteps
  -- Where one list has ended nothing is told of an item, so the other has ended as well.
  cases hv : items[index]? with
  | none =>
      cases hw : others[index]? with
      | none => rfl
      | some b =>
          have hnone := hitem steps
          rw [hv, hw] at hnone
          exact absurd hnone.symm (hsome b)
  | some a =>
      cases hw : others[index]? with
      | none =>
          have hnone := hitem steps
          rw [hv, hw] at hnone
          exact absurd hnone (hsome a)
      | some b =>
          rw [hv, hw] at hitem
          exact congrArg some (h (funext hitem))

/-! ### Kinds of reports -/

/-- A kind of report that can be read off its text: the keys are plain, the strings are those that
are given, and what is written can be told from what it tells. -/
structure Readable {α : Type} (encode : α → Value) (strings : α → List String) : Prop where
  spelled : ∀ a (text : String → Prop), (∀ s ∈ strings a, text s) →
    (encode a).Spelled IsPlainKey text
  tells : Tells encode

theorem Readable.flat_inj {α : Type} {encode : α → Value} {strings : α → List String}
    (h : Readable encode strings) (hcontainer : ∀ a, ¬(encode a).sorted.IsScalar) {a b : α}
    (ha : ∀ s ∈ strings a, OneLine s) (hb : ∀ s ∈ strings b, OneLine s) :
    flat (encode a) = flat (encode b) ↔ a = b := by
  constructor
  · intro heq
    have hunbroken : Unbroken (encode a) := h.spelled a OneLine ha
    exact h.tells (hunbroken.told_eq (h.spelled b OneLine hb) (hcontainer a) (hcontainer b) heq)
  · rintro rfl
    rfl

theorem Readable.list {α : Type} {encode : α → Value} {strings : α → List String}
    (h : Readable encode strings) (steps : List Step)
    (hsome : ∀ a, told (encode a) steps ≠ none) :
    Readable (fun items : List α => .arr (items.map encode)) fun items =>
      items.flatMap strings where
  spelled items text htext := by
    refine .arr fun v hv => ?_
    obtain ⟨a, ha, rfl⟩ := List.mem_map.1 hv
    exact h.spelled a text fun s hs => htext s (List.mem_flatMap_of_mem ha hs)
  tells := tells_list h.tells steps hsome

theorem Readable.labelled {α : Type} {encode : α → Value} {strings : α → List String}
    (h : Readable encode strings) (a : α) : (encode a).Spelled IsLabel fun _ => True :=
  (h.spelled a (fun _ => True) fun _ _ => trivial).imp (fun _ hkey => hkey.isLabel) fun _ hs => hs

theorem readable_texts :
    Readable (fun texts : List String => .arr (texts.map Value.str)) fun texts => texts where
  spelled texts text h := by
    refine .arr fun v hv => ?_
    obtain ⟨s, hs, rfl⟩ := List.mem_map.1 hv
    exact .str (h s hs)
  tells := tells_list tells_str [] fun _ => Option.some_ne_none _

/-! ### Records -/

/-- The members have the given keys, some of which may be left out. -/
structure HasKeys (keys : List String) (members : List (String × Value)) : Prop where
  sublist : (members.map Prod.fst).Sublist keys
  nodup : keys.Nodup
  plain : ∀ key ∈ keys, IsPlainKey key

theorem sublist_optionalMember (members : List (String × Value)) (key : String)
    (text? : Option String) : ((members ++ optionalMember key text?).map Prod.fst).Sublist
      (members.map Prod.fst ++ [key]) := by
  rw [List.map_append]
  refine List.Sublist.append (List.Sublist.refl _) ?_
  cases text? with
  | none => exact List.nil_sublist _
  | some text => exact List.Sublist.refl _

namespace HasKeys

variable {keys : List String} {members others : List (String × Value)}

theorem nodup_keys (h : HasKeys keys members) : (members.map Prod.fst).Nodup :=
  h.nodup.sublist h.sublist

theorem spelled (h : HasKeys keys members) {text : String → Prop}
    (hvalues : ∀ v ∈ members.map Prod.snd, v.Spelled IsPlainKey text) :
    (Value.obj members).Spelled IsPlainKey text :=
  .obj (fun _ hentry => h.plain _ (h.sublist.subset (List.mem_map_of_mem hentry)))
    fun _ hentry => hvalues _ (List.mem_map_of_mem hentry)

theorem told_eq (h : HasKeys keys members) (h' : HasKeys keys others)
    (heq : told (.obj members) = told (.obj others)) (key : String) {v w : Value}
    (hv : Keyed.get? key members = some v) (hw : Keyed.get? key others = some w) :
    told v = told w := by
  funext steps
  have hsteps := congrFun heq (.member key :: steps)
  rwa [told_member h.nodup_keys, told_member h'.nodup_keys, hv, hw] at hsteps

theorem told_text (h : HasKeys keys members) {key : String} {text? : Option String}
    (hget : Keyed.get? key members = text?.map Value.str) :
    told (.obj members) [.member key] = text? := by
  rw [told_member h.nodup_keys, hget]
  cases text? <;> rfl

end HasKeys

theorem spelled_optionalMember {key : String} {text : String → Prop} {text? : Option String}
    (h : ∀ s ∈ text?.toList, text s) :
    ∀ v ∈ (optionalMember key text?).map Prod.snd, v.Spelled IsPlainKey text := by
  cases text? with
  | none => exact List.forall_mem_nil _
  | some s => exact List.forall_mem_singleton.2 (.str (h s (List.mem_singleton_self _)))

/-! ### The reports -/

def TypeEntry.strings (entry : TypeEntry) : List String :=
  [entry.name, entry.kind] ++ entry.root.toList

def EntityList.strings (list : EntityList) : List String :=
  list.types.flatMap TypeEntry.strings ++ list.directives

def RenderedEntity.strings (entity : RenderedEntity) : List String :=
  entity.name :: entity.documents.flatMap fun document => [document.title, document.description]

def AssetReport.strings (report : AssetReport) : List String :=
  report.headers ++ report.assets ++ report.notice.toList

theorem hasKeys_typeEntry (entry : TypeEntry) : HasKeys ["name", "kind", "renderable", "root"]
    ([("name", .str entry.name), ("kind", .str entry.kind),
      ("renderable", .bool entry.renderable)] ++
      optionalMember "root" entry.root) :=
  ⟨sublist_optionalMember _ _ _, by decide, by decide⟩

theorem told_root (entry : TypeEntry) :
    told entry.encode [.member "root"] = entry.root := by
  refine (hasKeys_typeEntry entry).told_text ?_
  cases entry.root <;> rfl

theorem readable_typeEntry : Readable TypeEntry.encode TypeEntry.strings where
  spelled entry text h := by
    obtain ⟨hbare, hroot⟩ := List.forall_mem_append.1 h
    simp only [List.forall_mem_cons] at hbare
    obtain ⟨hname, hkind, -⟩ := hbare
    refine (hasKeys_typeEntry entry).spelled ?_
    rw [List.map_append, List.forall_mem_append]
    refine ⟨?_, spelled_optionalMember hroot⟩
    simp only [List.map_cons, List.forall_mem_cons]
    exact ⟨.str hname, .str hkind, .bool _, List.forall_mem_nil _⟩
  tells := by
    intro a b h
    have hmember := (hasKeys_typeEntry a).told_eq (hasKeys_typeEntry b) h
    have hname : a.name = b.name := tells_str (hmember "name" rfl rfl)
    have hkind : a.kind = b.kind := tells_str (hmember "kind" rfl rfl)
    have hrenderable : a.renderable = b.renderable := tells_bool (hmember "renderable" rfl rfl)
    have hroot : a.root = b.root := by
      rw [← told_root, ← told_root]
      exact congrFun h _
    cases a
    cases b
    simp_all

theorem readable_types : Readable (fun types : List TypeEntry => .arr (types.map TypeEntry.encode))
    fun types => types.flatMap TypeEntry.strings :=
  readable_typeEntry.list [.member "name"] fun entry => by
    have hname : told entry.encode [.member "name"] = some entry.name :=
      (hasKeys_typeEntry entry).told_text rfl
    simp [hname]

theorem hasKeys_entityList (list : EntityList) : HasKeys ["types", "directives"]
    [("types", .arr (list.types.map TypeEntry.encode)),
      ("directives", .arr (list.directives.map Value.str))] :=
  ⟨List.Sublist.refl _, by decide, by decide⟩

theorem readable_entityList : Readable EntityList.encode EntityList.strings where
  spelled list text h := by
    obtain ⟨htypes, hdirectives⟩ := List.forall_mem_append.1 h
    refine (hasKeys_entityList list).spelled ?_
    simp only [List.map_cons, List.forall_mem_cons]
    exact ⟨readable_types.spelled list.types text htypes,
      readable_texts.spelled list.directives text hdirectives, List.forall_mem_nil _⟩
  tells := by
    intro a b h
    have hmember := (hasKeys_entityList a).told_eq (hasKeys_entityList b) h
    have htypes : a.types = b.types := readable_types.tells (hmember "types" rfl rfl)
    have hdirectives : a.directives = b.directives :=
      readable_texts.tells (hmember "directives" rfl rfl)
    cases a
    cases b
    simp_all

theorem hasKeys_document (document : Document) : HasKeys ["title", "description"]
    [("title", .str document.title), ("description", .str document.description)] :=
  ⟨List.Sublist.refl _, by decide, by decide⟩

theorem readable_document :
    Readable Document.encode fun document => [document.title, document.description] where
  spelled document text h := by
    simp only [List.forall_mem_cons] at h
    obtain ⟨htitle, hdescription, -⟩ := h
    refine (hasKeys_document document).spelled ?_
    simp only [List.map_cons, List.forall_mem_cons]
    exact ⟨.str htitle, .str hdescription, List.forall_mem_nil _⟩
  tells := by
    intro a b h
    have hmember := (hasKeys_document a).told_eq (hasKeys_document b) h
    have htitle : a.title = b.title := tells_str (hmember "title" rfl rfl)
    have hdescription : a.description = b.description :=
      tells_str (hmember "description" rfl rfl)
    cases a
    cases b
    simp_all

theorem readable_documents :
    Readable (fun documents : List Document => .arr (documents.map Document.encode))
      fun documents => documents.flatMap fun document => [document.title, document.description] :=
  readable_document.list [.member "title"] fun document => by
    have htitle : told document.encode [.member "title"] = some document.title :=
      (hasKeys_document document).told_text rfl
    simp [htitle]

theorem hasKeys_renderedEntity (entity : RenderedEntity) : HasKeys ["name", "documents"]
    [("name", .str entity.name),
      ("documents", .arr (entity.documents.map Document.encode))] :=
  ⟨List.Sublist.refl _, by decide, by decide⟩

theorem readable_renderedEntity : Readable RenderedEntity.encode RenderedEntity.strings where
  spelled entity text h := by
    obtain ⟨hname, hdocuments⟩ := List.forall_mem_cons.1 h
    refine (hasKeys_renderedEntity entity).spelled ?_
    simp only [List.map_cons, List.forall_mem_cons]
    exact ⟨.str hname, readable_documents.spelled entity.documents text hdocuments,
      List.forall_mem_nil _⟩
  tells := by
    intro a b h
    have hmember := (hasKeys_renderedEntity a).told_eq (hasKeys_renderedEntity b) h
    have hname : a.name = b.name := tells_str (hmember "name" rfl rfl)
    have hdocuments : a.documents = b.documents :=
      readable_documents.tells (hmember "documents" rfl rfl)
    cases a
    cases b
    simp_all

theorem readable_encodeRendered :
    Readable encodeRendered fun entities => entities.flatMap RenderedEntity.strings :=
  readable_renderedEntity.list [.member "name"] fun entity => by
    have hname : told entity.encode [.member "name"] = some entity.name :=
      (hasKeys_renderedEntity entity).told_text rfl
    simp [hname]

theorem hasKeys_assetReport (report : AssetReport) :
    HasKeys ["enabled", "headers", "assets", "notice"]
      ([("enabled", .bool report.enabled),
        ("headers", .arr (report.headers.map Value.str)),
        ("assets", .arr (report.assets.map Value.str))] ++
        optionalMember "notice" report.notice) :=
  ⟨sublist_optionalMember _ _ _, by decide, by decide⟩

theorem told_notice (report : AssetReport) :
    told report.encode [.member "notice"] = report.notice := by
  refine (hasKeys_assetReport report).told_text ?_
  cases report.notice <;> rfl

theorem readable_assetReport : Readable AssetReport.encode AssetReport.strings where
  spelled report text h := by
    obtain ⟨htexts, hnotice⟩ := List.forall_mem_append.1 h
    obtain ⟨hheaders, hassets⟩ := List.forall_mem_append.1 htexts
    refine (hasKeys_assetReport report).spelled ?_
    rw [List.map_append, List.forall_mem_append]
    refine ⟨?_, spelled_optionalMember hnotice⟩
    simp only [List.map_cons, List.forall_mem_cons]
    exact ⟨.bool _, readable_texts.spelled report.headers text hheaders,
      readable_texts.spelled report.assets text hassets, List.forall_mem_nil _⟩
  tells := by
    intro a b h
    have hmember := (hasKeys_assetReport a).told_eq (hasKeys_assetReport b) h
    have henabled : a.enabled = b.enabled := tells_bool (hmember "enabled" rfl rfl)
    have hheaders : a.headers = b.headers := readable_texts.tells (hmember "headers" rfl rfl)
    have hassets : a.assets = b.assets := readable_texts.tells (hmember "assets" rfl rfl)
    have hnotice : a.notice = b.notice := by
      rw [← told_notice, ← told_notice]
      exact congrFun h _
    cases a
    cases b
    simp_all

/-- Two reports of one kind, with no line feed in their strings, have the same text just if they are
the same report. -/
theorem flat_eq_iff :
    (∀ list other : EntityList, (∀ s ∈ list.strings ++ other.strings, OneLine s) →
      (flat list.encode = flat other.encode ↔ list = other)) ∧
    (∀ entities others : List RenderedEntity,
      (∀ s ∈ (entities ++ others).flatMap RenderedEntity.strings, OneLine s) →
        (flat (encodeRendered entities) = flat (encodeRendered others) ↔ entities = others)) ∧
    (∀ report other : AssetReport, (∀ s ∈ report.strings ++ other.strings, OneLine s) →
      (flat report.encode = flat other.encode ↔ report = other)) := by
  refine ⟨fun list other h => ?_, fun entities others h => ?_, fun report other h => ?_⟩
  · obtain ⟨hlist, hother⟩ := List.forall_mem_append.1 h
    exact readable_entityList.flat_inj (fun _ => id) hlist hother
  · rw [List.flatMap_append] at h
    obtain ⟨hentities, hothers⟩ := List.forall_mem_append.1 h
    exact readable_encodeRendered.flat_inj (fun _ => id) hentities hothers
  · obtain ⟨hreport, hother⟩ := List.forall_mem_append.1 h
    exact readable_assetReport.flat_inj (fun _ => id) hreport hother

/-- Strings that look like lines of other parts, empty strings and absent parts are told apart. -/
theorem flat_ne_lookalikes :
    flat (EntityList.encode ⟨[⟨"a", "SCALAR", true, none⟩], []⟩) ≠
        flat (EntityList.encode ⟨[], ["types[0].kind: SCALAR"]⟩) ∧
      flat (encodeRendered [⟨"a", []⟩, ⟨"b", []⟩]) ≠
        flat (encodeRendered [⟨"a: [1].name: b", []⟩]) ∧
      flat (AssetReport.encode ⟨true, [], [""], none⟩) ≠
        flat (AssetReport.encode ⟨true, [], [""], some ""⟩) := by
  obtain ⟨hlist, hrendered, hassets⟩ := flat_eq_iff
  refine ⟨?_, ?_, ?_⟩
  · rw [ne_eq, hlist _ _ (by decide)]
    decide
  · rw [ne_eq, hrendered _ _ (by decide)]
    decide
  · rw [ne_eq, hassets _ _ (by decide)]
    decide

end SchemaPages.Report
