import Foreign.View.Basic
import Foreign.Memory.Store

/-!
The end of views. Dropping a view that owns its block releases the block; dropping any other view does
nothing. A view can give up its block before it is dropped, and the block then is never released.
-/

namespace Foreign.View

/-- The store once the view is gone. -/
def drop (view : View) (store : Store) : Store :=
  if view.isOwner then store.release view.address else store

/-- The view without its block, if it owns one. -/
def leaked (view : View) : View :=
  if view.isOwner then { view with backing := .borrowed } else view

@[simp] theorem isOwner_leaked (view : View) : view.leaked.isOwner = false := by
  by_cases owner : view.isOwner = true
  · rw [leaked, if_pos owner]
    rfl
  · rw [leaked, if_neg owner]
    exact eq_false_of_ne_true owner

@[simp] theorem drop_leaked (view : View) (store : Store) : view.leaked.drop store = store := by
  simp [drop]

@[simp] theorem isOwner_borrow (view : View) : view.borrow.isOwner = false := by
  cases h : view.backing <;> simp [borrow, isOwner, Backing.share, h]

end Foreign.View
