import Foreign.View.Create

/-!
Zero-terminated text behind a view.
-/

namespace Foreign.View

/-- The bytes before the first zero byte, if there is one. -/
def untilZero : List UInt8 → Option (List UInt8)
  | [] => none
  | byte :: rest => if byte = 0 then some [] else (untilZero rest).map (byte :: ·)

/-- The text at the view's address. A null view has none, nor has a buffer without a zero byte from
there to its end. -/
def readText (view : View) (store : Store) : Outcome (Option String) :=
  if view.isNull then .ok none
  else match view.backing with
    | .buffer extent => do
      view.check store view.address 1
      let size := (extent.stop - view.address).toNat
      return (untilZero (store.memory.read view.address size)).map Utf8.decode
    | _ =>
      match store.blockAt? view.address with
      | some block =>
        let size := (block.extent.stop - view.address).toNat
        match untilZero (store.memory.read view.address size) with
        | some bytes => .ok (some (Utf8.decode bytes))
        | none => .error .undefined
      | none => .error .undefined

end Foreign.View
