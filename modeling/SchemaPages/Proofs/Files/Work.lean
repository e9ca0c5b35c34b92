import SchemaPages.Files.Storage

/-!
What work on a tree comes to. `Gives` says with which result an action ends and which tree it
leaves; there is a rule for every way of putting actions together.
-/

namespace SchemaPages.Files

/-! ### Reading -/

namespace Tree

variable {tree : Tree} {path : Path} {location : Location}

theorem readBytes_of_find {content : ByteArray} (hslash : path.endsInSlash = false)
    (hfind : tree.find path = .ok location) (hnode : tree.node? location = some (.file content)) :
    tree.readBytes path = .ok content := by
  rw [readBytes, hfind]
  simp only [hnode]
  rw [hslash, if_neg Bool.false_ne_true]

end Tree

/-! ### Actions -/

namespace Work

variable {ε δ α β : Type} {tree after last : Tree} {action : Work ε α} {next : α → Work ε β}

/-- The action, begun with a tree, ends with the result and leaves the tree `after`. -/
def Gives (action : Work ε α) (tree : Tree) (result : Except ε α) (after : Tree) : Prop :=
  action.run.run tree = (result, after)

def result (tree : Tree) (action : Work ε α) : Except ε α := (action.run.run tree).1

theorem exists_gives (action : Work ε α) (tree : Tree) :
    ∃ after, Gives action tree (result tree action) after :=
  ⟨_, rfl⟩

namespace Gives

theorem result_eq {found : Except ε α} (h : Gives action tree found after) :
    result tree action = found :=
  congrArg Prod.fst h

theorem ofExcept (found : Except ε α) :
    Gives (MonadExcept.ofExcept found : Work ε α) tree found tree := by
  cases found <;> rfl

theorem get_bind {next : Tree → Work ε β} {found : Except ε β} :
    Gives (MonadState.get >>= next) tree found last ↔ Gives (next tree) tree found last := Iff.rfl

theorem set (after : Tree) :
    Gives (MonadStateOf.set after : Work ε PUnit) tree (.ok ()) after := rfl

theorem throw (error : ε) : Gives (MonadExcept.throw error : Work ε α) tree (.error error) tree :=
  rfl

theorem bind_ok {a : α} {found : Except ε β} (h : Gives action tree (.ok a) after)
    (hnext : Gives (next a) after found last) : Gives (action >>= next) tree found last := by
  rw [Gives, ExceptT.run_bind, StateT.run_bind, h]
  exact hnext

theorem bind_error {error : ε} (h : Gives action tree (.error error) after) :
    Gives (action >>= next) tree (.error error) after := by
  rw [Gives, ExceptT.run_bind, StateT.run_bind, h]
  rfl

theorem run_tryCatch (action : Work ε α) (handler : ε → Work ε α) :
    (tryCatch action handler).run = action.run >>= fun result =>
      match result with
      | .ok a => pure (.ok a)
      | .error error => (handler error).run := rfl

theorem tryCatch_ok {a : α} (h : Gives action tree (.ok a) after) (handler : ε → Work ε α) :
    Gives (tryCatch action handler) tree (.ok a) after := by
  rw [Gives, run_tryCatch, StateT.run_bind, h]
  rfl

theorem tryCatch_error {error : ε} {found : Except ε α} {handler : ε → Work ε α}
    (h : Gives action tree (.error error) after)
    (hhandler : Gives (handler error) after found last) :
    Gives (tryCatch action handler) tree found last := by
  rw [Gives, run_tryCatch, StateT.run_bind, h]
  exact hhandler

theorem map {found : Except ε α} (f : α → β) (h : Gives action tree found after) :
    Gives (f <$> action) tree (f <$> found) after := by
  rw [Gives, ExceptT.run_map, StateT.run_map, h]
  rfl

theorem adapt {found : Except ε α} (f : ε → δ) (h : Gives action tree found after) :
    Gives (ExceptT.adapt f action) tree (found.mapError f) after := by
  have hrun : (ExceptT.adapt f action).run.run tree =
      ((action.run.run tree).1.mapError f, (action.run.run tree).2) := rfl
  rw [Gives, hrun, h]

end Gives

theorem gives_change {f : Tree → Except FileError Tree} {tree after : Tree}
    (h : f tree = .ok after) : Gives (change f) tree (.ok ()) after := by
  refine Gives.get_bind.2 ?_
  rw [h]
  exact .set after

theorem gives_change_error {f : Tree → Except FileError Tree} {tree : Tree} {error : FileError}
    (h : f tree = .error error) : Gives (change f) tree (.error error) tree := by
  refine Gives.get_bind.2 ?_
  rw [h]
  exact .throw error

end Work

end SchemaPages.Files
