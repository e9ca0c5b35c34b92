import SchemaPages.Proofs.Files.Growth

/-!
Writing a file into a directory that is made first. Making the directory adds directories on its
way, whether it succeeds or not; writing changes what stands at the one location that the path of
the file leads to, and nothing if it fails.
-/

namespace SchemaPages.Files

/-! ### Paths into a directory -/

namespace Path

/-- A name that can stand in a path. -/
structure IsPart (name : String) : Prop where
  ne_empty : name.toList ≠ []
  no_slash : '/' ∉ name.toList

variable {name : String} {path other : Path}

/-- What stands before the name is the directory and a slash, if the directory is not empty. -/
theorem join_cases (directory : Path) (name : String) :
    directory = "" ∧ directory.join name = name ∨
      ∃ before, (directory.toList = before ++ ['/'] ∨ directory.toList = before ∧ before ≠ []) ∧
        (directory.join name).toList = before ++ '/' :: name.toList := by
  by_cases hempty : directory = ""
  · exact .inl ⟨hempty, by simp [join, hempty]⟩
  · by_cases hslash : directory.endsInSlash = true
    · have hlast : directory.toList.getLast? = some '/' := by simpa [endsInSlash] using hslash
      obtain ⟨before, hbefore⟩ := List.getLast?_eq_some_iff.1 hlast
      refine .inr ⟨before, .inl hbefore, ?_⟩
      rw [join, if_pos (by simp [hslash]), String.toList_append, hbefore]
      simp
    · refine .inr ⟨directory.toList, .inr ⟨rfl, by simpa using hempty⟩, ?_⟩
      rw [join, if_neg (by simp [hempty, hslash])]
      simp

def namesIn (s : List Char) : List String :=
  ((Text.cut '/' s).filter (!·.isEmpty)).map String.ofList

theorem namesIn_append (s t : List Char) : namesIn (s ++ '/' :: t) = namesIn s ++ namesIn t := by
  rw [namesIn, Text.cut_append, List.filter_append, List.map_append]
  rfl

theorem namesIn_part (h : IsPart name) : namesIn name.toList = [name] := by
  rw [namesIn, Text.cut_of_not_mem h.no_slash]
  simp [h.ne_empty]

theorem names_join (directory : Path) (h : IsPart name) :
    (directory.join name).names = directory.names ++ [name] := by
  change namesIn _ = namesIn directory.toList ++ _
  rcases join_cases directory name with ⟨hempty, hjoin⟩ | ⟨before, hdirectory, hjoin⟩
  · rw [hjoin, hempty, namesIn_part h]
    rfl
  · have hbefore : namesIn directory.toList = namesIn before := by
      rcases hdirectory with hdirectory | ⟨hdirectory, -⟩
      · rw [hdirectory, namesIn_append]
        exact List.append_nil _
      · rw [hdirectory]
    rw [hjoin, namesIn_append, namesIn_part h, hbefore]

theorem endsInSlash_join (directory : Path) (h : IsPart name) :
    (directory.join name).endsInSlash = false := by
  have hlast : ∀ before : List Char, (before ++ name.toList).getLast? ≠ some '/' := by
    intro before hlast
    rw [List.getLast?_append, Option.or_of_isSome (by simp [h.ne_empty])] at hlast
    exact h.no_slash (List.mem_of_getLast? hlast)
  rw [endsInSlash, beq_eq_false_iff_ne]
  rcases join_cases directory name with ⟨-, hjoin⟩ | ⟨before, -, hjoin⟩
  · rw [hjoin]
    exact hlast []
  · rw [hjoin, List.append_cons]
    exact hlast _

/-! ### Paths above a path -/

theorem isPart_of_mem_names (h : name ∈ path.names) : IsPart name := by
  obtain ⟨part, hpart, rfl⟩ := List.mem_map.1 h
  obtain ⟨hcut, hne⟩ := List.mem_filter.1 hpart
  rw [← String.toList_ofList (l := part)] at hne hcut
  exact ⟨by simpa using hne, Text.not_mem_of_mem_cut hcut⟩

theorem toList_ofNames (absolute : Bool) (names : List String) :
    (ofNames absolute names).toList =
      (if absolute then ['/'] else []) ++ ['/'].intercalate (names.map String.toList) := by
  rw [ofNames, String.toList_append, String.toList_intercalate]
  cases absolute <;> rfl

theorem namesIn_intercalate {names : List String} (h : ∀ name ∈ names, IsPart name) :
    namesIn (['/'].intercalate (names.map String.toList)) = names := by
  induction names with
  | nil => rfl
  | cons name rest ih =>
      obtain ⟨hname, hrest⟩ := List.forall_mem_cons.1 h
      cases rest with
      | nil => simpa using namesIn_part hname
      | cons other rest =>
          have hjoined : ['/'].intercalate ((name :: other :: rest).map String.toList) =
              name.toList ++ '/' :: ['/'].intercalate ((other :: rest).map String.toList) := by
            simp [List.intercalate_cons_cons]
          rw [hjoined, namesIn_append, namesIn_part hname, ih hrest]
          rfl

theorem names_ofNames (absolute : Bool) {names : List String} (h : ∀ name ∈ names, IsPart name) :
    (ofNames absolute names).names = names := by
  change namesIn _ = _
  rw [toList_ofNames]
  cases absolute with
  | false => exact namesIn_intercalate h
  | true => exact (namesIn_append [] _).trans (namesIn_intercalate h)

theorem isAbsolute_ofNames (absolute : Bool) {names : List String}
    (h : ∀ name ∈ names, IsPart name) : (ofNames absolute names).isAbsolute = absolute := by
  rw [isAbsolute, toList_ofNames]
  cases absolute with
  | true => rfl
  | false =>
      cases names with
      | nil => rfl
      | cons name rest =>
          obtain ⟨hname, -⟩ := List.forall_mem_cons.1 h
          have hhead : name.toList.head? ≠ some '/' := fun hhead =>
            hname.no_slash (List.mem_of_head? hhead)
          cases rest with
          | nil => simpa using hhead
          | cons other rest =>
              rw [List.map_cons, List.map_cons, List.intercalate_cons_cons, List.append_assoc]
              simpa [List.head?_append, Option.or_of_isSome, hname.ne_empty] using hhead

theorem suffix_of_mem_shortened {names rest : List String} (h : rest ∈ shortened names) :
    rest <:+ names := by
  induction names with
  | nil => cases h
  | cons name up ih =>
      rw [shortened] at h
      split at h
      · exact (ih h).trans (List.suffix_cons name up)
      · rcases List.mem_cons.1 h with rfl | h
        · exact List.suffix_refl _
        · exact (ih h).trans (List.suffix_cons name up)

/-- The names of a path above are the first of those of the path. -/
theorem names_of_mem_above (h : other ∈ path.above) :
    other.names <+: path.names ∧ other.isAbsolute = path.isAbsolute := by
  obtain ⟨rest, hrest, rfl⟩ := List.mem_map.1 h
  have hsuffix := suffix_of_mem_shortened (List.mem_of_mem_tail hrest)
  have hnames : rest.reverse <+: path.names := by
    rw [← List.reverse_suffix, List.reverse_reverse]
    exact hsuffix
  have hparts : ∀ name ∈ rest.reverse, IsPart name := fun name hname =>
    isPart_of_mem_names (hnames.subset hname)
  exact ⟨by rwa [names_ofNames _ hparts], isAbsolute_ofNames _ hparts⟩

end Path

theorem Tree.start_congr {path other : Path} (tree : Tree)
    (h : other.isAbsolute = path.isAbsolute) : tree.start other = tree.start path := by
  rw [start, h, start]

/-! ### Making directories -/

namespace Work

open Files.Tree (Grows)

variable {tree : Tree}

theorem gives_makeDirectory (tree : Tree) (path : Path) :
    ∃ result after, Gives (makeDirectory path) tree result after ∧
      Grows (tree.start path) path.names tree after := by
  cases hmake : tree.makeDirectory path with
  | ok after => exact ⟨.ok (), after, gives_change hmake, Tree.grows_makeDirectory hmake⟩
  | error error => exact ⟨.error error, tree, gives_change_error hmake, .refl _ _ _⟩

theorem gives_ensureDirectory (tree : Tree) (path : Path) :
    ∃ result after, Gives (Storage.ensureDirectory path) tree result after ∧
      Grows (tree.start path) path.names tree after := by
  obtain ⟨result, after, hmake, hgrows⟩ := gives_makeDirectory tree path
  cases result with
  | ok _ => exact ⟨.ok (), after, hmake.tryCatch_ok _, hgrows⟩
  | error error =>
      -- Looking whether the directory is there changes nothing.
      refine ⟨if error = .alreadyExists ∧ after.isDirectory path then .ok () else .error error,
        after, hmake.tryCatch_error (Gives.get_bind.2 ?_), hgrows⟩
      change Gives (if error = .alreadyExists ∧ after.isDirectory path then _ else _) after _ after
      split <;> rfl

/-- Whatever could be made of the directories stays. -/
theorem gives_ensureDirectories {start : Location} {names : List String} (tree : Tree)
    (paths : List Path) (h : ∀ path ∈ paths, tree.start path = start ∧ path.names <+: names) :
    ∃ result after, Gives (Storage.ensureDirectories paths) tree result after ∧
      Grows start names tree after := by
  induction paths generalizing tree with
  | nil => exact ⟨.ok (), tree, rfl, .refl _ _ _⟩
  | cons path above ih =>
      obtain ⟨⟨hstart, hnames⟩, habove⟩ := List.forall_mem_cons.1 h
      obtain ⟨result, middle, hfirst, hgrows⟩ := gives_ensureDirectory tree path
      replace hgrows := (hstart ▸ hgrows).mono hnames
      cases result with
      | ok _ => exact ⟨.ok (), middle, hfirst.tryCatch_ok _, hgrows⟩
      | error error =>
          by_cases hentry : error = .noEntry
          · obtain ⟨result, after, hothers, hgrows'⟩ := ih middle fun other hother =>
              ⟨(hgrows.keeps.start_eq other).trans (habove other hother).1, (habove other hother).2⟩
            replace hgrows' := hgrows.trans hgrows'
            cases result with
            | error error =>
                refine ⟨.error error, after, hfirst.tryCatch_error ?_, hgrows'⟩
                rw [if_pos hentry]
                exact hothers.bind_error
            | ok _ =>
                obtain ⟨result, last, hlast, hgrows''⟩ := gives_ensureDirectory after path
                rw [hgrows'.keeps.start_eq, hstart] at hgrows''
                refine ⟨result, last, hfirst.tryCatch_error ?_,
                  hgrows'.trans (hgrows''.mono hnames)⟩
                rw [if_pos hentry]
                exact hothers.bind_ok hlast
          · refine ⟨.error error, middle, hfirst.tryCatch_error ?_, hgrows⟩
            rw [if_neg hentry]
            exact .throw error

/-- Whether it succeeds or not, making a directory only adds directories on the way. -/
theorem gives_createDirectory (tree : Tree) (path : Path) :
    ∃ result after, Gives (createDirectory path) tree result after ∧
      Grows (tree.start path) path.names tree after := by
  rw [createDirectory, Storage.createDirectory]
  split
  · exact ⟨.ok (), tree, rfl, .refl _ _ _⟩
  · refine gives_ensureDirectories tree _ (List.forall_mem_cons.2 ⟨⟨rfl, List.prefix_refl _⟩, ?_⟩)
    intro other hother
    obtain ⟨hnames, habsolute⟩ := Path.names_of_mem_above hother
    exact ⟨tree.start_congr habsolute, hnames⟩

-- A dot at the end needs the directory that is to be made.
example : result {} (createDirectory "site/.") = .error .noEntry := rfl

end Work

/-! ### Writing a file -/

theorem Tree.writeFile_eq_ok {tree after : Tree} {path : Path} {names : List String}
    {name : String} {content : ByteArray} (hnames : path.names = names ++ [name])
    (hname : IsEntryName name) (h : tree.writeFile path content = .ok after) :
    path.refusal? = none ∧ ∃ location, tree.walk (tree.start path) names = .ok location ∧
      tree.node? location = some .directory ∧ tree.node? (name :: location) ≠ some .directory ∧
        after = tree.put (name :: location) (.file content) := by
  rw [writeFile] at h
  cases htarget : tree.target path with
  | error error => rw [htarget] at h; cases h
  | ok target =>
      rw [htarget] at h
      refine ⟨refusal?_of_target htarget, ?_⟩
      cases leads_of_target hnames htarget with
      | there hwalk hstep =>
          cases hstep with
          | here _ => exact absurd rfl hname.ne_here
          | up _ => exact absurd rfl hname.ne_up
          | down hdirectory _ _ =>
              simp only at h
              split at h
              · rename_i hfile
                split at h
                · cases h
                · exact ⟨_, hwalk, hdirectory, by simp [hfile], (Except.ok.inj h).symm⟩
              · cases h
      | free hwalk hdirectory _ habsent =>
          simp only at h
          split at h
          · cases h
          · exact ⟨_, hwalk, hdirectory, by simp [habsent], (Except.ok.inj h).symm⟩

/-! ### Both together -/

/-- The file holds the content, and besides it nothing is new but directories on the way to the
one that it is in. -/
structure Stored (directory : Path) (name : String) (content : ByteArray) (tree after : Tree) :
    Prop where
  readBytes_eq : after.readBytes (directory.join name) = .ok content
  others : ∃ location, after.find (directory.join name) = .ok location ∧
    after.node? location = some (.file content) ∧
    ∀ other, other ≠ location → Tree.Kept tree after other ∨
      Tree.MadeOnWay (tree.start directory) directory.names tree after other

section

variable {directory : Path} {name : String} (hpart : Path.IsPart name)
  (hname : Tree.IsEntryName name)
include hpart hname

theorem stored_of_writeFile {content : ByteArray} {tree made after : Tree}
    (hgrows : Tree.Grows (tree.start directory) directory.names tree made)
    (hwrite : made.writeFile (directory.join name) content = .ok after) :
    Stored directory name content tree after := by
  have hnames := Path.names_join directory hpart
  obtain ⟨hrefusal, location, hwalk, hdirectory, hfile, rfl⟩ :=
    Tree.writeFile_eq_ok hnames hname hwrite
  have hkeeps := Tree.keeps_put hfile (.file content)
  have hnode : (made.put (name :: location) (.file content)).node? (name :: location) =
      some (.file content) := by
    rw [Tree.node?_put hfile, if_pos rfl]
  have hfind : (made.put (name :: location) (.file content)).find (directory.join name) =
      .ok (name :: location) := by
    rw [Tree.find, hrefusal]
    simp only
    rw [hkeeps.start_eq, hnames, Tree.walk_append_of_ok (hkeeps.walk hwalk), Tree.walk_singleton]
    exact Tree.step_eq_ok_iff.2 (.down (hkeeps.directory _ hdirectory) hname (by simp [hnode]))
  refine ⟨Tree.readBytes_of_find (Path.endsInSlash_join directory hpart) hfind hnode,
    name :: location, hfind, hnode, fun other hother => ?_⟩
  have hput : (made.put (name :: location) (.file content)).node? other = made.node? other := by
    rw [Tree.node?_put hfile, if_neg hother]
  refine (hgrows.kept_or_made other).imp (fun hkept => hput.trans hkept) fun hmade => ?_
  exact ⟨hmade.absent, hput.trans hmade.directory, hmade.onWay.mono hkeeps (List.prefix_refl _)⟩

/-- Making a directory and writing a file into it either stores the file, or no file is touched and
all that is new are directories on the way. -/
theorem gives_store (tree : Tree) (content : ByteArray) :
    ∃ result after,
      Work.Gives (do
        Work.createDirectory directory
        Work.write (directory.join name) content) tree result after ∧
      match result with
      | .ok () => Stored directory name content tree after
      | .error _ => Tree.Grows (tree.start directory) directory.names tree after := by
  obtain ⟨created, made, hcreate, hgrows⟩ := Work.gives_createDirectory tree directory
  cases created with
  | error error => exact ⟨.error error, made, hcreate.bind_error, hgrows⟩
  | ok _ =>
      cases hwrite : made.writeFile (directory.join name) content with
      | error error =>
          exact ⟨.error error, made, hcreate.bind_ok (Work.gives_change_error hwrite), hgrows⟩
      | ok after =>
          exact ⟨.ok (), after, hcreate.bind_ok (Work.gives_change hwrite),
            stored_of_writeFile hpart hname hgrows hwrite⟩

end

end SchemaPages.Files
