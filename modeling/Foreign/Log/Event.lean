import Foreign.Log.Level
import Foreign.Failure

/-!
What the library reports while it works. An event is its cause; severity, target and wording follow
from that. A traced value is a value together with the events of finding it.
-/

namespace Foreign

inductive Event where
  | layoutComputed (name : String) (size align : Word)
  | allocated (size : Word)
  | nativeCall (argumentCount : Nat)
  | nativeReturn
  | callbackEntered (argumentCount : Nat)
  | callbackMismatch (signature : Signature) (found : String)
  | callbackPanicked (signature : Signature)
  | interfaceKept (own requested : Signature)
  | libraryLoaded (name : String)
  | symbolResolved (symbol : String)
  | symbolMissing (symbol : String)

namespace Event

inductive Detail where
  | number (n : Nat)
  | text (text : String)
  deriving DecidableEq, Repr

def level : Event → Log.Level
  | callbackPanicked .. => .error
  | layoutComputed .. | symbolResolved .. => .debug
  | allocated .. | nativeCall .. | nativeReturn | callbackEntered .. => .trace
  | callbackMismatch .. | interfaceKept .. | symbolMissing .. => .warn
  | libraryLoaded .. => .info

def target : Event → String
  | layoutComputed .. => "abicall::layout"
  | allocated .. => "abicall::memory"
  | nativeCall .. | nativeReturn => "abicall::ffi"
  | callbackEntered .. | callbackMismatch .. | callbackPanicked .. | interfaceKept .. =>
    "abicall::callback"
  | libraryLoaded .. | symbolResolved .. | symbolMissing .. => "abicall::linker"

def message : Event → String
  | layoutComputed .. => "struct layout computed"
  | allocated .. => "allocated native memory"
  | nativeCall .. => "native call"
  | nativeReturn => "native call returned"
  | callbackEntered .. => "callback invoked"
  | callbackMismatch .. => "callback returned mismatched value; returning zero"
  | callbackPanicked .. => "managed callback panicked; aborting"
  | interfaceKept .. => "native function keeps its own interface"
  | libraryLoaded .. => "library loaded"
  | symbolResolved .. => "symbol resolved"
  | symbolMissing .. => "symbol not found"

/-- Named details, apart from machine addresses and the paths of libraries. -/
def details : Event → List (String × Detail)
  | layoutComputed name size align =>
    [("name", .text name), ("size", .number size.toNat), ("align", .number align.toNat)]
  | allocated size => [("size", .number size.toNat)]
  | nativeCall count | callbackEntered count => [("arg_count", .number count)]
  | callbackMismatch signature found =>
    [("signature", .text signature.text), ("found", .text found)]
  | callbackPanicked signature => [("signature", .text signature.text)]
  | interfaceKept own requested => [("own", .text own.text), ("requested", .text requested.text)]
  | symbolResolved symbol | symbolMissing symbol => [("symbol", .text symbol)]
  | nativeReturn | libraryLoaded .. => []

end Event

structure Traced (α : Type) where
  value : α
  events : List Event

namespace Traced

instance : Monad Traced where
  pure value := ⟨value, []⟩
  bind traced f :=
    let next := f traced.value
    ⟨next.value, traced.events ++ next.events⟩

def record (event : Event) : Traced Unit := ⟨(), [event]⟩

end Traced

/-- An outcome that was reached with events, whether or not it is a success. -/
abbrev TracedOutcome := ExceptT Failure Traced

namespace TracedOutcome

def ofOutcome (outcome : Outcome α) : TracedOutcome α := ⟨outcome, []⟩

end TracedOutcome
end Foreign
