import SchemaPages.Proofs.Files.Work

/-!
How a tree grows. A walk asks for directories only, and it ends where it ended before as long as
directories stay directories and nothing is taken away. Making directories does no more than to put
some on the way of a path, where nothing was; `Kept` and `MadeOnWay` say so for one location.
-/

namespace SchemaPages.Files

namespace Tree

variable {tree after : Tree} {location other next : Location} {name : String} {names : List String}
  {error : FileError} {path : Path}

@[simp] theorem node?_nil (tree : Tree) : tree.node? [] = some .directory :=
  if_pos List.nil_suffix

theorem node?_of_suffix (h : location <:+ tree.working) : tree.node? location = some .directory :=
  if_pos h

theorem lookup_filter_ne (entries : List (Location × Node)) (h : other ≠ location) :
    (entries.filter (·.1 ≠ location)).lookup other = entries.lookup other := by
  induction entries with
  | nil => rfl
  | cons entry entries ih =>
      obtain ⟨key, node⟩ := entry
      rw [List.filter_cons]
      split
      · rw [List.lookup_cons, List.lookup_cons, ih]
      · rename_i hkey
        have hother : (other == key) = false := by
          apply beq_false_of_ne
          intro heq
          simp [← heq, h] at hkey
        rw [List.lookup_cons, hother, ih]

theorem node?_put (h : tree.node? location ≠ some .directory) (node : Node) (other : Location) :
    (tree.put location node).node? other =
      if other = location then some node else tree.node? other := by
  by_cases hother : other <:+ tree.working
  · have hne : other ≠ location := by
      rintro rfl
      exact h (node?_of_suffix hother)
    rw [if_neg hne, node?_of_suffix hother]
    exact node?_of_suffix hother
  · rw [node?, node?, if_neg hother]
    refine (if_neg hother).trans ?_
    rw [put, List.lookup_cons]
    split
    · rename_i heq
      rw [if_pos (eq_of_beq heq)]
    · rename_i heq
      have hne : other ≠ location := ne_of_beq_false heq
      rw [if_neg hne, lookup_filter_ne _ hne]

/-! ### Steps -/

/-- The name is that of an entry, not one that stands for a directory nearby, and not too long. -/
structure IsEntryName (name : String) : Prop where
  ne_here : name ≠ "."
  ne_up : name ≠ ".."
  size_le : name.utf8ByteSize ≤ nameLimit

inductive StepsTo (tree : Tree) : Location → String → Location → Prop
  | here {location : Location} : tree.node? location = some .directory →
      StepsTo tree location "." location
  | up {location : Location} : tree.node? location = some .directory →
      StepsTo tree location ".." location.tail
  | down {location : Location} {name : String} : tree.node? location = some .directory →
      IsEntryName name → tree.node? (name :: location) ≠ none →
        StepsTo tree location name (name :: location)

/-- What a step ends with. -/
inductive StepEnds (tree : Tree) (location : Location) (name : String) :
    Except FileError Location → Prop
  | there {next : Location} :
      StepsTo tree location name next → StepEnds tree location name (.ok next)
  | gone : tree.node? location = none → StepEnds tree location name (.error .noEntry)
  | missing : tree.node? location = some .directory → IsEntryName name →
      tree.node? (name :: location) = none → StepEnds tree location name (.error .noEntry)
  | refused {error : FileError} :
      error ≠ .noEntry → StepEnds tree location name (.error error)

theorem stepEnds (tree : Tree) (location : Location) (name : String) :
    StepEnds tree location name (tree.step location name) := by
  simp only [step]
  split
  · exact .gone ‹_›
  · exact .refused nofun
  · rename_i hdirectory
    -- The cases are in the order in which a step looks at the name.
    split
    · subst name
      exact .there (.here hdirectory)
    · rename_i hhere
      split
      · subst name
        exact .there (.up hdirectory)
      · rename_i hup
        split
        · exact .refused nofun
        · rename_i hsize
          have hname : IsEntryName name := ⟨hhere, hup, Nat.not_lt.1 hsize⟩
          split
          · exact .missing hdirectory hname ‹_›
          · rename_i hnode
            exact .there (.down hdirectory hname (by simp [hnode]))

theorem step_eq_ok_iff : tree.step location name = .ok next ↔ StepsTo tree location name next := by
  constructor
  · intro h
    have hends := tree.stepEnds location name
    rw [h] at hends
    cases hends with
    | there hstep => exact hstep
  · intro h
    cases h with
    | here hdirectory => simp [step, hdirectory]
    | up hdirectory => simp [step, hdirectory]
    | down hdirectory hname hnode =>
        obtain ⟨node, hnode⟩ := Option.ne_none_iff_exists'.1 hnode
        simp [step, hdirectory, hnode, hname.ne_here, hname.ne_up, hname.size_le]

/-- From where something is a step fails for want of an entry only if the name is that of an entry
which is not there. -/
theorem step_eq_noEntry (hlocation : tree.node? location ≠ none)
    (h : tree.step location name = .error .noEntry) :
    tree.node? location = some .directory ∧ IsEntryName name ∧
      tree.node? (name :: location) = none := by
  have hends := tree.stepEnds location name
  rw [h] at hends
  cases hends with
  | gone hnone => exact absurd hnone hlocation
  | missing hdirectory hname habsent => exact ⟨hdirectory, hname, habsent⟩
  | refused herror => exact absurd rfl herror

/-! ### Walks -/

@[simp] theorem walk_nil (tree : Tree) (location : Location) :
    tree.walk location [] = .ok location := rfl

theorem walk_cons_eq_ok {last : Location} :
    tree.walk location (name :: names) = .ok last ↔
      ∃ next, StepsTo tree location name next ∧ tree.walk next names = .ok last := by
  rw [walk, List.foldlM_cons]
  constructor
  · intro h
    cases hstep : tree.step location name with
    | error error => rw [hstep] at h; cases h
    | ok next => rw [hstep] at h; exact ⟨next, step_eq_ok_iff.1 hstep, h⟩
  · rintro ⟨next, hstep, hwalk⟩
    rw [step_eq_ok_iff.2 hstep]
    exact hwalk

theorem walk_append_of_ok {rest : List String} (h : tree.walk location names = .ok next) :
    tree.walk location (names ++ rest) = tree.walk next rest := by
  rw [walk, walk, List.foldlM_append]
  change (tree.walk location names >>= fun next => tree.walk next rest) = _
  rw [h]
  rfl

theorem walk_singleton (tree : Tree) (location : Location) (name : String) :
    tree.walk location [name] = tree.step location name := by
  rw [walk, List.foldlM_cons]
  cases tree.step location name <;> rfl

/-- Every location above is a directory, and something is at the location itself. -/
def Anchored (tree : Tree) : Location → Prop
  | [] => True
  | last :: up =>
    tree.node? (last :: up) ≠ none ∧ tree.node? up = some .directory ∧ Anchored tree up

theorem Anchored.node?_ne_none (h : tree.Anchored location) : tree.node? location ≠ none := by
  cases location with
  | nil => simp
  | cons last up => exact h.1

theorem anchored_of_suffix (h : location <:+ tree.working) : tree.Anchored location := by
  induction location with
  | nil => exact trivial
  | cons last up ih =>
      have hup : up <:+ tree.working := (List.suffix_cons last up).trans h
      exact ⟨by simp [node?_of_suffix h], node?_of_suffix hup, ih hup⟩

theorem anchored_start (tree : Tree) (path : Path) : tree.Anchored (tree.start path) := by
  rw [start]
  split
  · exact trivial
  · exact anchored_of_suffix (List.suffix_refl _)

theorem StepsTo.anchored (h : StepsTo tree location name next)
    (hlocation : tree.Anchored location) : tree.Anchored next := by
  cases h with
  | here _ => exact hlocation
  | up _ =>
      cases location with
      | nil => exact trivial
      | cons last up => exact hlocation.2.2
  | down hdirectory _ hnode => exact ⟨hnode, hdirectory, hlocation⟩

theorem walk_anchored (h : tree.walk location names = .ok next)
    (hlocation : tree.Anchored location) : tree.Anchored next := by
  induction names generalizing location with
  | nil => cases h; exact hlocation
  | cons name names ih =>
      obtain ⟨middle, hstep, hrest⟩ := walk_cons_eq_ok.1 h
      exact ih hrest (hstep.anchored hlocation)

/-! ### Targets -/

/-- What a path leads to whose last name need not be there: its other names lead to a directory. -/
inductive Leads (tree : Tree) (start : Location) (names : List String) (name : String) :
    Target → Prop
  | there {directory found : Location} : tree.walk start names = .ok directory →
      StepsTo tree directory name found → Leads tree start names name (.there found)
  | free {directory : Location} : tree.walk start names = .ok directory →
      tree.node? directory = some .directory → IsEntryName name →
        tree.node? (name :: directory) = none →
        Leads tree start names name (.free (name :: directory))

theorem leads_of_target {target : Target} (hnames : path.names = names ++ [name])
    (h : tree.target path = .ok target) : Leads tree (tree.start path) names name target := by
  have hreverse : path.names.reverse = name :: names.reverse := by
    rw [hnames, List.reverse_append]
    rfl
  rw [Tree.target] at h
  split at h
  · cases h
  · simp only [hreverse, List.reverse_reverse] at h
    cases hwalk : tree.walk (tree.start path) names with
    | error error => rw [hwalk] at h; cases h
    | ok directory =>
        simp only [hwalk] at h
        cases hstep : tree.step directory name with
        | ok found =>
            rw [hstep] at h
            obtain rfl := Except.ok.inj h
            exact .there hwalk (step_eq_ok_iff.1 hstep)
        | error error =>
            rw [hstep] at h
            cases error with
            | noEntry =>
                obtain rfl := Except.ok.inj h
                have hanchored := walk_anchored hwalk (tree.anchored_start path)
                obtain ⟨hdirectory, hname, habsent⟩ :=
                  step_eq_noEntry hanchored.node?_ne_none hstep
                exact .free hwalk hdirectory hname habsent
            | _ => cases h

theorem refusal?_of_target {target : Target} (h : tree.target path = .ok target) :
    path.refusal? = none := by
  rw [Tree.target] at h
  split at h
  · cases h
  · assumption

theorem exists_concat_of_target (h : tree.target path = .ok (.free location)) :
    ∃ names name, path.names = names ++ [name] := by
  rw [Tree.target] at h
  split at h
  · cases h
  · cases hreverse : path.names.reverse with
    | nil => rw [hreverse] at h; cases h
    | cons name up => exact ⟨up.reverse, name, List.reverse_eq_cons_iff.1 hreverse⟩

/-! ### What stays -/

/-- What is there stays there, directories stay directories, and the working directory stays where
it is. -/
structure Keeps (tree after : Tree) : Prop where
  working : after.working = tree.working
  present : ∀ location, tree.node? location ≠ none → after.node? location ≠ none
  directory : ∀ location, tree.node? location = some .directory →
    after.node? location = some .directory

namespace Keeps

theorem refl (tree : Tree) : Keeps tree tree := ⟨rfl, fun _ h => h, fun _ h => h⟩

theorem start_eq (h : Keeps tree after) (path : Path) : after.start path = tree.start path := by
  rw [start, h.working, start]

theorem stepsTo (h : Keeps tree after) (hstep : StepsTo tree location name next) :
    StepsTo after location name next := by
  cases hstep with
  | here hdirectory => exact .here (h.directory _ hdirectory)
  | up hdirectory => exact .up (h.directory _ hdirectory)
  | down hdirectory hname hnode =>
      exact .down (h.directory _ hdirectory) hname (h.present _ hnode)

theorem walk (h : Keeps tree after) (hwalk : tree.walk location names = .ok next) :
    after.walk location names = .ok next := by
  induction names generalizing location with
  | nil => exact hwalk
  | cons name names ih =>
      obtain ⟨middle, hstep, hrest⟩ := walk_cons_eq_ok.1 hwalk
      exact walk_cons_eq_ok.2 ⟨middle, h.stepsTo hstep, ih hrest⟩

end Keeps

/-- Putting a node where there is no directory takes nothing away. -/
theorem keeps_put (h : tree.node? location ≠ some .directory) (node : Node) :
    Keeps tree (tree.put location node) where
  working := rfl
  present other hother := by
    rw [node?_put h]
    split
    · simp
    · exact hother
  directory other hother := by
    rw [node?_put h]
    split
    · subst other
      exact absurd hother h
    · exact hother

/-! ### What is new -/

def Kept (tree after : Tree) (location : Location) : Prop :=
  after.node? location = tree.node? location

/-- A walk along some of the names, from the first one on, leads to the location. -/
def OnWay (tree : Tree) (start : Location) (names : List String) (location : Location) : Prop :=
  ∃ passed, passed <+: names ∧ tree.walk start passed = .ok location

/-- Where nothing was there is a directory now, and the way along the names leads to it. -/
structure MadeOnWay (start : Location) (names : List String) (tree after : Tree)
    (location : Location) : Prop where
  absent : tree.node? location = none
  directory : after.node? location = some .directory
  onWay : OnWay after start names location

/-- All that is new are directories on the way. -/
structure Grows (start : Location) (names : List String) (tree after : Tree) : Prop where
  working : after.working = tree.working
  kept_or_made : ∀ location,
    Kept tree after location ∨ MadeOnWay start names tree after location

variable {start : Location}

theorem OnWay.mono {others : List String} (h : OnWay tree start names location)
    (hkeeps : Keeps tree after) (hnames : names <+: others) :
    OnWay after start others location := by
  obtain ⟨passed, hpassed, hwalk⟩ := h
  exact ⟨passed, hpassed.trans hnames, hkeeps.walk hwalk⟩

namespace Grows

variable {middle : Tree}

theorem refl (start : Location) (names : List String) (tree : Tree) :
    Grows start names tree tree := ⟨rfl, fun _ => .inl rfl⟩

theorem keeps (h : Grows start names tree after) : Keeps tree after where
  working := h.working
  present location hlocation := by
    rcases h.kept_or_made location with hkept | hmade
    · rw [hkept]
      exact hlocation
    · exact absurd hmade.absent hlocation
  directory location hlocation := by
    rcases h.kept_or_made location with hkept | hmade
    · rw [hkept]
      exact hlocation
    · exact hmade.directory

theorem mono {others : List String} (h : Grows start names tree after)
    (hnames : names <+: others) : Grows start others tree after where
  working := h.working
  kept_or_made location := (h.kept_or_made location).imp_right fun hmade =>
    { hmade with onWay := hmade.onWay.mono (.refl after) hnames }

theorem trans (h : Grows start names tree middle) (h' : Grows start names middle after) :
    Grows start names tree after where
  working := h'.working.trans h.working
  kept_or_made location := by
    rcases h'.kept_or_made location with hkept | hmade
    · rcases h.kept_or_made location with hkept' | hmade'
      · exact .inl (hkept.trans hkept')
      · refine .inr ⟨hmade'.absent, hkept.trans hmade'.directory, ?_⟩
        exact hmade'.onWay.mono h'.keeps (List.prefix_refl names)
    · -- What was made in the second part was not there after the first.
      have hkept : Kept tree middle location := by
        rcases h.kept_or_made location with hkept | hmade'
        · exact hkept
        · exact absurd (hmade'.directory.symm.trans hmade.absent) (by simp)
      exact .inr ⟨hkept ▸ hmade.absent, hmade.directory, hmade.onWay⟩

end Grows

/-- A new directory at the end of the way. -/
theorem grows_put (hwalk : tree.walk start names = .ok location)
    (hlocation : tree.node? location = some .directory) (hname : IsEntryName name)
    (habsent : tree.node? (name :: location) = none) :
    Grows start (names ++ [name]) tree (tree.put (name :: location) .directory) := by
  have hfree : tree.node? (name :: location) ≠ some .directory := by simp [habsent]
  have hkeeps := keeps_put hfree .directory
  have hnew : (tree.put (name :: location) .directory).node? (name :: location) =
      some .directory := by
    rw [node?_put hfree, if_pos rfl]
  refine ⟨rfl, fun other => ?_⟩
  by_cases hother : other = name :: location
  · subst hother
    refine .inr ⟨habsent, hnew, names ++ [name], List.prefix_refl _, ?_⟩
    rw [walk_append_of_ok (hkeeps.walk hwalk), walk_singleton]
    exact step_eq_ok_iff.2 (.down (hkeeps.directory _ hlocation) hname (by simp [hnew]))
  · left
    rw [Kept, node?_put hfree, if_neg hother]

theorem grows_makeDirectory (h : tree.makeDirectory path = .ok after) :
    Grows (tree.start path) path.names tree after := by
  rw [makeDirectory] at h
  split at h
  · cases h
  · cases h
  · rename_i htarget
    obtain rfl := Except.ok.inj h
    obtain ⟨names, name, hnames⟩ := exists_concat_of_target htarget
    rw [hnames]
    cases leads_of_target hnames htarget with
    | free hwalk hdirectory hname habsent => exact grows_put hwalk hdirectory hname habsent

end Tree

end SchemaPages.Files
