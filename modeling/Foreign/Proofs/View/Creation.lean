import Foreign.Proofs.View.Instance

/-!
Views as they come into being: of an address, of a buffer, or of memory that is allocated for them. No new
view counts a reference, and the buffer of a new view ends before the address space does.
-/

namespace Foreign.View

/-- The views that are not made of other views. -/
inductive Created : View → Prop
  | wrap (address : Word) (element : CType) : Created (wrap address element)
  | null (element : CType) : Created (null element)
  | ofBuffer {extent : Buffer} (element : CType) (ends : extent.Ends) : Created (ofBuffer extent element)
  | malloc {allocator : Allocator} {store after : Store} {size : Word} {element : CType} {view : View}
      (made : malloc allocator store size element = .ok (view, after)) : Created view
  | calloc {allocator : Allocator} {store after : Store} {count size : Word} {element : CType}
      {view : View} (made : calloc allocator store count size element = .ok (view, after)) : Created view
  | buffer {store after : Store} {size : Word} {element : CType} {view : View}
      (made : buffer store size element = .ok (view, after)) : Created view
  | newStruct {store after : Store} {layout : Layout} {view : View}
      (made : newStruct store layout = .ok (view, after)) : Created view
  | ofBytes {store after : Store} {bytes : List UInt8} {element : CType} {view : View}
      (made : ofBytes store bytes element = .ok (view, after)) : Created view
  | ofScalars {store after : Store} {kind : ScalarKind} {values : List (BitVec kind.width)} {view : View}
      (made : ofScalars store kind values = .ok (view, after)) : Created view
  | ofViews {store after : Store} {views : List View} {view : View}
      (made : ofViews store views = .ok (view, after)) : Created view
  | ofText {store after : Store} {text : String} {view : View}
      (made : ofText store text = .ok (view, after)) : Created view

/-- A new view, apart from where it lies: it counts no reference, and if it has a buffer it is of its start. -/
structure Fresh (view : View) : Prop where
  direct : view.levels = 0
  start : ∀ extent, view.backing = .buffer extent → extent.Ends ∧ view.address = extent.start

variable {view : View} {store after : Store} {element : CType}

theorem fresh_ofBuffer {extent : Buffer} (element : CType) (ends : extent.Ends) :
    Fresh (ofBuffer extent element) where
  direct := rfl
  start := by
    rintro _ ⟨⟩
    exact ⟨ends, rfl⟩

theorem fresh_of_buffer {size : Word} (made : View.buffer store size element = .ok (view, after)) :
    view.Fresh := by
  obtain ⟨extent, allocated, rfl⟩ := buffer_eq_ok_iff.mp made
  exact fresh_ofBuffer element (Store.ends_of_allocate allocated)

theorem fresh_of_ofBytes {bytes : List UInt8}
    (made : View.ofBytes store bytes element = .ok (view, after)) : view.Fresh := by
  rw [View.ofBytes] at made
  cases allocated : View.buffer store (UInt64.ofNat bytes.length) element with
  | error cause => rw [allocated] at made; cases made
  | ok new =>
      rw [allocated] at made
      cases made
      exact fresh_of_buffer allocated

theorem fresh_of_owner {allocator : Allocator} {room size : Word}
    (made : View.owner allocator store room size element = .ok (view, after)) : view.Fresh := by
  rw [View.owner] at made
  split at made
  · cases made
    exact ⟨rfl, fun _ backed => (nomatch backed)⟩
  · cases made

theorem Created.fresh (created : Created view) : view.Fresh := by
  cases created with
  | wrap address element => exact ⟨rfl, fun _ backed => (nomatch backed)⟩
  | null element => exact ⟨rfl, fun _ backed => (nomatch backed)⟩
  | ofBuffer element ends => exact fresh_ofBuffer element ends
  | malloc made => exact fresh_of_owner made
  | calloc made =>
      rw [View.calloc] at made
      split at made
      · exact fresh_of_owner made
      · cases made
  | buffer made => exact fresh_of_buffer made
  | newStruct made => exact fresh_of_buffer made
  | ofBytes made => exact fresh_of_ofBytes made
  | ofScalars made =>
      rw [View.ofScalars] at made
      split at made
      · cases made
      · exact fresh_of_ofBytes made
  | @ofViews _ _ views _ made =>
      cases views with
      | nil => cases made
      | cons first rest => exact fresh_of_ofBytes made
  | ofText made => exact fresh_of_ofBytes made

end Foreign.View
