import Foreign.Proofs.Memory.Numbers
import Foreign.Proofs.View.Confinement
import Foreign.View.Create
import Foreign.View.Ownership

/-!
Heap blocks are released exactly once. A view keeps its block alive by a mark of its own, which no view made
from it inherits, so the marks and the blocks that are neither released nor given up stay in step whatever
is done to views, and in whatever order. An allocator may hand an address out again, but not while a block
that starts there is live.
-/

namespace Foreign

/-- A view, and the number of the block that it was made from, at first or over other views. -/
structure Tracked where
  view : View
  origin : Option Nat

/-- What there is and what became of it. Views are numbered in the order in which they were made, and gone
where there is `none`. `leaked` has the blocks that were given up, and `freed` has for each release the
block that was live at the address to release. -/
structure Ledger where
  store : Store
  views : List (Option Tracked)
  leaked : List (Option Nat)
  freed : List (Option Nat)

/-- What can be done, views being told by their numbers. Memory may change at any time. -/
inductive Action
  | malloc (size : Word) (element : CType)
  | calloc (count size : Word) (element : CType)
  | clone (view : Nat)
  | offset (view : Nat) (n : Int64)
  | cast (view : Nat) (element : CType)
  | reference (view : Nat)
  | field (view : Nat) (name : String)
  | read (view : Nat) (index : Word)
  | leak (view : Nat)
  | drop (view : Nat)
  | change (memory : Memory)

namespace Ledger

def empty : Ledger := ⟨.empty, [], [], []⟩

def view? (ledger : Ledger) (number : Nat) : Option Tracked :=
  ledger.views[number]?.join

def keep (ledger : Ledger) (view : View) (origin : Option Nat) : Ledger :=
  { ledger with views := ledger.views ++ [some ⟨view, origin⟩] }

def allocated (ledger : Ledger) : View.Allocated → Ledger
  | .ok (view, store) => { ledger with store }.keep view (some ledger.store.blocks.length)
  | .error _ => ledger

/-- Keep what is made of a view, if anything is. -/
def derived (ledger : Ledger) (number : Nat) (derive : View → Option View) : Ledger :=
  match ledger.view? number with
  | some tracked =>
    match derive tracked.view with
    | some view => ledger.keep view tracked.origin
    | none => ledger
  | none => ledger

/-- Drop a view that has become `view`. -/
def finish (ledger : Ledger) (number : Nat) (view : View) : Ledger :=
  { ledger with
    store := view.drop ledger.store
    views := ledger.views.set number none
    freed := if view.isOwner then ledger.store.liveAt? view.address :: ledger.freed else ledger.freed }

def leak (ledger : Ledger) (number : Nat) (tracked : Tracked) : Ledger :=
  { ledger.finish number tracked.view.leaked with
    leaked := if tracked.view.isOwner then tracked.origin :: ledger.leaked else ledger.leaked }

def step (allocator : View.Allocator) (ledger : Ledger) : Action → Ledger
  | .malloc size element => ledger.allocated (View.malloc allocator ledger.store size element)
  | .calloc count size element => ledger.allocated (View.calloc allocator ledger.store count size element)
  | .clone number => ledger.derived number fun view => some view.borrow
  | .offset number n => ledger.derived number fun view => some (view.offset n)
  | .cast number element => ledger.derived number fun view => some (view.cast element)
  | .reference number => ledger.derived number fun view => some view.reference
  | .field number name => ledger.derived number fun view => (view.field name).toOption
  | .read number index =>
    ledger.derived number fun view =>
      match view.read ledger.store index with
      | .ok (.pointer target) => some target
      | .ok (.struct target) => some target
      | _ => none
  | .leak number =>
    match ledger.view? number with
    | some tracked => ledger.leak number tracked
    | none => ledger
  | .drop number =>
    match ledger.view? number with
    | some tracked => ledger.finish number tracked.view
    | none => ledger
  | .change memory => { ledger with store := { ledger.store with memory } }

/-- The ledger after actions, the newest of them first. What an allocator does may depend on all that was
done before. -/
def run (allocator : List Action → View.Allocator) : List Action → Ledger
  | [] => empty
  | action :: earlier => (run allocator earlier).step (allocator earlier) action

end Ledger

/-- An allocator that does not put a new block where a live one starts. -/
def View.Allocator.Avoids (allocator : View.Allocator) (store : Store) : Prop :=
  ∀ room start, allocator store room = some start →
    ∀ block ∈ store.blocks, block.live = true → block.extent.start ≠ start

namespace View

theorem isOwner_of_share {view next : View} (shared : next.backing = view.backing.share) :
    next.isOwner = false := by
  rw [isOwner, shared]
  cases view.backing <;> rfl

/-- What is read is never an owner, wherever it leads. -/
theorem isOwner_of_read {view next : View} {store : Store} {index : Word} {value : Value}
    (read : view.read store index = .ok value) (leads : value = .pointer next ∨ value = .struct next) :
    next.isOwner = false := by
  obtain rfl | rfl := leads
  · obtain ⟨-, heq⟩ | ⟨-, -, heq⟩ := read_eq_ok_iff.mp read
    · cases heq
      exact isOwner_of_share rfl
    · obtain ⟨pointee, -, rfl⟩ := valueAt_eq_pointer_iff.mp heq.symm
      rfl
  · obtain ⟨_, _, rfl⟩ := derive_of_read_struct read
    exact isOwner_of_share rfl

end View
namespace Ledger

variable {ledger next : Ledger} {allocator : View.Allocator} {action : Action} {tracked : Tracked}
  {view : View} {origin : Option Nat} {number other i : Nat}

/-- What one action can come to. -/
inductive Stepped (ledger : Ledger) : Action → Ledger → Prop
  | same {action : Action} : Stepped ledger action ledger
  | allocated {action : Action} {start size : Word} {element : CType}
      (fresh : ∀ i, ¬ ledger.store.Lives i start) :
      Stepped ledger action ({ ledger with store := (ledger.store.place start size).2 }.keep
        ⟨start, element, 0, .heap⟩ (some ledger.store.blocks.length))
  | derived {action : Action} {view : View} {origin : Option Nat} (borrows : view.isOwner = false) :
      Stepped ledger action (ledger.keep view origin)
  | leaked {number : Nat} {tracked : Tracked} (found : ledger.view? number = some tracked) :
      Stepped ledger (.leak number) (ledger.leak number tracked)
  | dropped {number : Nat} {tracked : Tracked} (found : ledger.view? number = some tracked) :
      Stepped ledger (.drop number) (ledger.finish number tracked.view)
  | changed (memory : Memory) :
      Stepped ledger (.change memory) { ledger with store := { ledger.store with memory } }

theorem stepped_derived {derive : View → Option View}
    (borrows : ∀ view made, derive view = some made → made.isOwner = false) :
    Stepped ledger action (ledger.derived number derive) := by
  rw [derived]
  split
  · rename_i tracked found
    cases made : derive tracked.view with
    | none => exact .same
    | some view => exact .derived (borrows _ view made)
  · exact .same

theorem stepped_owner {room size : Word} {element : CType}
    (avoids : allocator.Avoids ledger.store) :
    Stepped ledger action (ledger.allocated (View.owner allocator ledger.store room size element)) := by
  rw [View.owner]
  cases found : allocator ledger.store room with
  | none => exact .same
  | some start =>
      refine .allocated fun i lives => ?_
      obtain ⟨block, mem, live, same⟩ := lives.mem
      exact avoids room start found block mem live same

theorem stepped (avoids : allocator.Avoids ledger.store)
    (action : Action) : Stepped ledger action (ledger.step allocator action) := by
  cases action with
  | malloc size element => exact stepped_owner avoids
  | calloc count size element =>
      rw [step, View.calloc]
      split
      · exact stepped_owner avoids
      · exact .same
  | clone number =>
      rw [step]
      refine stepped_derived fun view made heq => ?_
      cases heq
      exact view.isOwner_borrow
  | offset number n | cast number element | reference number =>
      rw [step]
      refine stepped_derived fun view made heq => ?_
      cases heq
      exact View.isOwner_of_share rfl
  | field number name =>
      rw [step]
      refine stepped_derived fun view made heq => ?_
      cases found : view.field name with
      | error failure => rw [found] at heq; cases heq
      | ok next =>
          rw [found] at heq
          cases heq
          obtain ⟨_, _, rfl⟩ := View.derive_of_field found
          exact View.isOwner_of_share rfl
  | read number index =>
      rw [step]
      refine stepped_derived fun view made heq => ?_
      split at heq
      · cases heq
        exact View.isOwner_of_read ‹_› (.inl rfl)
      · cases heq
        exact View.isOwner_of_read ‹_› (.inr rfl)
      · cases heq
  | leak number =>
      rw [step]
      split
      · exact .leaked ‹_›
      · exact .same
  | drop number =>
      rw [step]
      split
      · exact .dropped ‹_›
      · exact .same
  | change memory => exact .changed memory

def Owns (ledger : Ledger) (number i : Nat) : Prop :=
  ∃ tracked, ledger.view? number = some tracked ∧ tracked.view.isOwner = true ∧ tracked.origin = some i

/-- The marks of the views and the blocks are in step. -/
structure Sound (ledger : Ledger) : Prop where
  owned : ∀ i start, ledger.store.Lives i start → some i ∉ ledger.leaked → ∃! number, ledger.Owns number i
  owner : ∀ number tracked, ledger.view? number = some tracked → tracked.view.isOwner = true →
    ∃ i, tracked.origin = some i ∧ ledger.store.Lives i tracked.view.address ∧ some i ∉ ledger.leaked
  leaked : ∀ entry ∈ ledger.leaked, ∃ i start, entry = some i ∧ ledger.store.Lives i start
  freed : ∀ entry, entry ∈ ledger.freed ↔ ∃ i, entry = some i ∧ ledger.store.Dead i
  once : ledger.freed.Nodup
  apart : ∀ i j start, ledger.store.Lives i start → ledger.store.Lives j start → i = j

theorem sound_empty : empty.Sound where
  owned := by rintro i start ⟨size, found⟩; cases found
  owner := by intro number tracked found; cases found
  leaked := by intro entry mem; cases mem
  freed entry := by
    refine ⟨fun mem => (nomatch mem), ?_⟩
    rintro ⟨i, -, extent, found⟩
    cases found
  once := .nil
  apart := by rintro i j start ⟨size, found⟩; cases found

def gone (ledger : Ledger) (number : Nat) : Ledger :=
  { ledger with views := ledger.views.set number none }

theorem lt_length_of_view? (found : ledger.view? number = some tracked) :
    number < ledger.views.length := by
  rw [view?, Option.join_eq_some_iff] at found
  exact (List.getElem?_eq_some_iff.mp found).1

theorem view?_keep : (ledger.keep view origin).view? number = some tracked ↔
    number = ledger.views.length ∧ tracked = ⟨view, origin⟩ ∨ ledger.view? number = some tracked := by
  have unknown : ledger.view? ledger.views.length ≠ some tracked :=
    fun found => Nat.lt_irrefl _ (lt_length_of_view? found)
  rw [view?, keep, getElem?_append_last]
  by_cases newest : number = ledger.views.length
  · simp [newest, unknown, eq_comm]
  · simp [newest, view?]

theorem view?_gone : (ledger.gone number).view? other = some tracked ↔
    other ≠ number ∧ ledger.view? other = some tracked := by
  rw [view?, gone, view?, List.getElem?_set]
  by_cases same : number = other
  · rw [if_pos same]
    split <;> simp [same]
  · rw [if_neg same]
    simp [Ne.symm same]

theorem owns_gone : (ledger.gone number).Owns other i ↔ other ≠ number ∧ ledger.Owns other i := by
  simp only [Owns, view?_gone, and_assoc, exists_and_left]

theorem existsUnique_owns_gone (others : ¬ ledger.Owns number i)
    (owned : ∃! other, ledger.Owns other i) : ∃! other, (ledger.gone number).Owns other i := by
  obtain ⟨other, owns, unique⟩ := owned
  refine ⟨other, owns_gone.mpr ⟨?_, owns⟩, fun w kept => unique w (owns_gone.mp kept).2⟩
  rintro rfl
  exact others owns

theorem owns_keep : (ledger.keep view origin).Owns number i ↔
    number = ledger.views.length ∧ view.isOwner = true ∧ origin = some i ∨ ledger.Owns number i := by
  simp only [Owns, view?_keep]
  constructor
  · rintro ⟨tracked, ⟨hnumber, rfl⟩ | found, isOwner, made⟩
    · exact .inl ⟨hnumber, isOwner, made⟩
    · exact .inr ⟨tracked, found, isOwner, made⟩
  · rintro (⟨hnumber, isOwner, made⟩ | ⟨tracked, found, isOwner, made⟩)
    · exact ⟨_, .inl ⟨hnumber, rfl⟩, isOwner, made⟩
    · exact ⟨tracked, .inr found, isOwner, made⟩

theorem Owns.block_unique {j : Nat} (owns : ledger.Owns number i) (owns' : ledger.Owns number j) :
    i = j := by
  obtain ⟨tracked, found, -, made⟩ := owns
  obtain ⟨tracked', found', -, made'⟩ := owns'
  rw [found] at found'
  cases found'
  rw [made] at made'
  exact Option.some.inj made'

theorem Sound.lives_of_owns (sound : ledger.Sound) (owns : ledger.Owns number i) :
    ∃ start, ledger.store.Lives i start ∧ some i ∉ ledger.leaked := by
  obtain ⟨tracked, found, isOwner, made⟩ := owns
  obtain ⟨j, made', lives⟩ := sound.owner number tracked found isOwner
  rw [made'] at made
  cases made
  exact ⟨_, lives⟩

theorem Sound.owner_unique (sound : ledger.Sound) (owns : ledger.Owns number i)
    (owns' : ledger.Owns other i) : number = other := by
  obtain ⟨start, lives, kept⟩ := sound.lives_of_owns owns
  exact (sound.owned i start lives kept).unique owns owns'

theorem Sound.keep (sound : ledger.Sound) (borrows : view.isOwner = false) :
    (ledger.keep view origin).Sound where
  owned i start lives kept := by
    simpa [owns_keep, borrows] using sound.owned i start lives kept
  owner w tracked found isOwner := by
    obtain ⟨-, rfl⟩ | found := view?_keep.mp found
    · rw [borrows] at isOwner
      cases isOwner
    · exact sound.owner w tracked found isOwner
  leaked := sound.leaked
  freed := sound.freed
  once := sound.once
  apart := sound.apart

theorem Sound.allocate (sound : ledger.Sound) {start size : Word} {element : CType}
    (fresh : ∀ i, ¬ ledger.store.Lives i start) :
    Sound ({ ledger with store := (ledger.store.place start size).2 }.keep
      ⟨start, element, 0, .heap⟩ (some ledger.store.blocks.length)) := by
  constructor
  case owned =>
    intro i other lives kept
    obtain ⟨rfl, -⟩ | lives := Store.lives_place.mp lives
    · refine ⟨ledger.views.length, owns_keep.mpr (.inl ⟨rfl, rfl, rfl⟩), fun w owns => ?_⟩
      obtain ⟨rfl, -⟩ | owns := owns_keep.mp owns
      · rfl
      · obtain ⟨other, lives, -⟩ := sound.lives_of_owns owns
        exact absurd lives.lt_length (Nat.lt_irrefl _)
    · obtain ⟨w, owns, unique⟩ := sound.owned i other lives kept
      refine ⟨w, owns_keep.mpr (.inr owns), fun w' owns' => ?_⟩
      obtain ⟨-, -, newest⟩ | owns' := owns_keep.mp owns'
      · cases newest
        exact absurd lives.lt_length (Nat.lt_irrefl _)
      · exact unique w' owns'
  case owner =>
    intro w tracked found isOwner
    obtain ⟨-, rfl⟩ | found := view?_keep.mp found
    · refine ⟨_, rfl, Store.lives_place.mpr (.inl ⟨rfl, rfl⟩), fun mem => ?_⟩
      obtain ⟨i, other, heq, lives⟩ := sound.leaked _ mem
      cases heq
      exact absurd lives.lt_length (Nat.lt_irrefl _)
    · obtain ⟨i, made, lives, kept⟩ := sound.owner w tracked found isOwner
      exact ⟨i, made, Store.lives_place.mpr (.inr lives), kept⟩
  case leaked =>
    intro entry mem
    obtain ⟨i, other, rfl, lives⟩ := sound.leaked entry mem
    exact ⟨i, other, rfl, Store.lives_place.mpr (.inr lives)⟩
  case freed =>
    intro entry
    exact (sound.freed entry).trans
      (exists_congr fun i => and_congr_right fun _ => Store.dead_place.symm)
  case once => exact sound.once
  case apart =>
    intro i j other lives lives'
    obtain ⟨hi, rfl⟩ | older := Store.lives_place.mp lives
    · obtain ⟨hj, -⟩ | older' := Store.lives_place.mp lives'
      · exact hi.trans hj.symm
      · exact absurd older' (fresh j)
    · obtain ⟨-, rfl⟩ | older' := Store.lives_place.mp lives'
      · exact absurd older (fresh i)
      · exact sound.apart i j other older older'

theorem Sound.gone (sound : ledger.Sound) (found : ledger.view? number = some tracked)
    (borrows : tracked.view.isOwner = false) : (ledger.gone number).Sound := by
  have others : ∀ i, ¬ ledger.Owns number i := by
    rintro i ⟨other, found', isOwner, -⟩
    rw [found] at found'
    cases found'
    rw [borrows] at isOwner
    cases isOwner
  constructor
  case owned =>
    intro i start lives kept
    exact existsUnique_owns_gone (others i) (sound.owned i start lives kept)
  case owner =>
    intro w other found' isOwner
    exact sound.owner w other (view?_gone.mp found').2 isOwner
  case leaked => exact sound.leaked
  case freed => exact sound.freed
  case once => exact sound.once
  case apart => exact sound.apart

theorem Sound.leak (sound : ledger.Sound) (found : ledger.view? number = some tracked)
    (isOwner : tracked.view.isOwner = true) (made : tracked.origin = some i) :
    Sound { ledger.gone number with leaked := some i :: ledger.leaked } := by
  have owns : ledger.Owns number i := ⟨tracked, found, isOwner, made⟩
  constructor
  case owned =>
    intro j start lives kept
    obtain ⟨hne, kept⟩ := not_or.mp (mt List.mem_cons.mpr kept)
    refine existsUnique_owns_gone (fun owns' => ?_) (sound.owned j start lives kept)
    exact hne (congrArg some (owns'.block_unique owns))
  case owner =>
    intro w other found' isOwner'
    obtain ⟨hne, found'⟩ := view?_gone.mp found'
    obtain ⟨j, made', lives, kept⟩ := sound.owner w other found' isOwner'
    refine ⟨j, made', lives, ?_⟩
    rw [List.mem_cons, not_or]
    refine ⟨?_, kept⟩
    rintro heq
    cases heq
    exact hne (sound.owner_unique ⟨other, found', isOwner', made'⟩ owns)
  case leaked =>
    obtain ⟨start, lives, -⟩ := sound.lives_of_owns owns
    exact List.forall_mem_cons.mpr ⟨⟨i, start, rfl, lives⟩, sound.leaked⟩
  case freed => exact sound.freed
  case once => exact sound.once
  case apart => exact sound.apart

theorem Sound.release (sound : ledger.Sound) (found : ledger.view? number = some tracked)
    (isOwner : tracked.view.isOwner = true) (made : tracked.origin = some i) :
    Sound { ledger.gone number with
      store := ledger.store.release tracked.view.address
      freed := some i :: ledger.freed } := by
  have owns : ledger.Owns number i := ⟨tracked, found, isOwner, made⟩
  obtain ⟨j, heq, lives, kept⟩ := sound.owner number tracked found isOwner
  obtain rfl : j = i := Option.some.inj (heq.symm.trans made)
  constructor
  case owned =>
    intro k start remains kept'
    obtain ⟨lives', hne⟩ := Store.lives_release.mp remains
    refine existsUnique_owns_gone (fun owns' => ?_) (sound.owned k start lives' kept')
    cases owns'.block_unique owns
    exact hne (lives'.start_unique lives)
  case owner =>
    intro w other remains isOwner'
    obtain ⟨hne, found'⟩ := view?_gone.mp remains
    obtain ⟨k, made', lives', kept'⟩ := sound.owner w other found' isOwner'
    refine ⟨k, made', Store.lives_release.mpr ⟨lives', fun same => ?_⟩, kept'⟩
    -- two owners at one address would own one block
    cases sound.apart k j _ (same ▸ lives') lives
    exact hne (sound.owner_unique ⟨other, found', isOwner', made'⟩ owns)
  case leaked =>
    intro entry mem
    obtain ⟨k, start, rfl, lives'⟩ := sound.leaked entry mem
    refine ⟨k, start, rfl, Store.lives_release.mpr ⟨lives', ?_⟩⟩
    rintro rfl
    cases sound.apart k j _ lives' lives
    exact kept mem
  case freed =>
    intro entry
    rw [List.mem_cons, sound.freed]
    constructor
    · rintro (rfl | ⟨k, rfl, dead⟩)
      · exact ⟨j, rfl, Store.dead_release.mpr (.inr lives)⟩
      · exact ⟨k, rfl, Store.dead_release.mpr (.inl dead)⟩
    · rintro ⟨k, rfl, dead⟩
      obtain dead | lives' := Store.dead_release.mp dead
      · exact .inr ⟨k, rfl, dead⟩
      · exact .inl (congrArg some (sound.apart k j _ lives' lives))
  case once =>
    refine List.nodup_cons.mpr ⟨fun mem => ?_, sound.once⟩
    obtain ⟨j, heq, dead⟩ := (sound.freed _).mp mem
    cases heq
    exact lives.not_dead dead
  case apart =>
    intro j k start lives' lives''
    exact sound.apart j k start (Store.lives_release.mp lives').1 (Store.lives_release.mp lives'').1

theorem finish_of_borrows (borrows : view.isOwner = false) :
    ledger.finish number view = ledger.gone number := by
  simp [finish, View.drop, borrows, gone]

theorem leak_of_borrows (borrows : tracked.view.isOwner = false) :
    ledger.leak number tracked = ledger.gone number := by
  simp [leak, finish_of_borrows, borrows, gone]

theorem leak_of_owner (isOwner : tracked.view.isOwner = true) :
    ledger.leak number tracked =
      { ledger.gone number with leaked := tracked.origin :: ledger.leaked } := by
  simp [leak, finish_of_borrows, isOwner]

theorem Sound.finish_of_owner (sound : ledger.Sound) (found : ledger.view? number = some tracked)
    (isOwner : tracked.view.isOwner = true) (made : tracked.origin = some i) :
    ledger.finish number tracked.view =
      { ledger.gone number with
        store := ledger.store.release tracked.view.address
        freed := some i :: ledger.freed } := by
  obtain ⟨j, heq, lives, -⟩ := sound.owner number tracked found isOwner
  obtain rfl : j = i := Option.some.inj (heq.symm.trans made)
  have live := lives.liveAt? fun k lives' => sound.apart k j _ lives' lives
  simp only [finish, View.drop, isOwner, live, if_true]
  rfl

theorem Sound.step (sound : ledger.Sound) (stepped : Stepped ledger action next) : next.Sound := by
  cases stepped with
  | same => exact sound
  | allocated fresh => exact sound.allocate fresh
  | derived borrows => exact sound.keep borrows
  | @leaked number tracked found =>
      cases isOwner : tracked.view.isOwner with
      | true =>
          obtain ⟨i, made, -⟩ := sound.owner number tracked found isOwner
          rw [leak_of_owner isOwner, made]
          exact sound.leak found isOwner made
      | false =>
          rw [leak_of_borrows isOwner]
          exact sound.gone found isOwner
  | @dropped number tracked found =>
      cases isOwner : tracked.view.isOwner with
      | true =>
          obtain ⟨i, made, -⟩ := sound.owner number tracked found isOwner
          rw [sound.finish_of_owner found isOwner made]
          exact sound.release found isOwner made
      | false =>
          rw [finish_of_borrows isOwner]
          exact sound.gone found isOwner
  | changed memory =>
      exact ⟨sound.owned, sound.owner, sound.leaked, sound.freed, sound.once, sound.apart⟩

/-- Dropping an owner releases its block and no other, and nothing else releases any. -/
structure Releases (allocator : View.Allocator) (ledger : Ledger) : Prop where
  owner : ∀ number tracked, ledger.view? number = some tracked → tracked.view.isOwner = true →
    ∃ i, tracked.origin = some i ∧
      (ledger.step allocator (.drop number)).freed = some i :: ledger.freed ∧
      ∀ j, (ledger.step allocator (.drop number)).store.block? j =
        if j = i then (ledger.store.block? j).map fun block => { block with live := false }
        else ledger.store.block? j
  others : ∀ action, (∀ number tracked, action = .drop number → ledger.view? number = some tracked →
      tracked.view.isOwner = false) →
    (ledger.step allocator action).freed = ledger.freed ∧
      ∀ i block, ledger.store.block? i = some block →
        (ledger.step allocator action).store.block? i = some block

theorem Sound.releases (sound : ledger.Sound) (avoids : allocator.Avoids ledger.store) :
    Releases allocator ledger := by
  constructor
  case owner =>
    intro number tracked found isOwner
    obtain ⟨i, made, lives, -⟩ := sound.owner number tracked found isOwner
    have dropped : ledger.step allocator (.drop number) = ledger.finish number tracked.view := by
      rw [Ledger.step, found]
    rw [dropped, sound.finish_of_owner found isOwner made]
    exact ⟨i, made, rfl,
      Store.block?_release_alone lives fun k lives' => sound.apart k i _ lives' lives⟩
  case others =>
    intro action borrows
    have stepped := stepped avoids action
    generalize ledger.step allocator action = next at stepped
    cases stepped with
    | same | derived _ | changed _ => exact ⟨rfl, fun i block found => found⟩
    | allocated _ =>
        refine ⟨rfl, fun i block found => (ledger.store.block?_place _ _ i).trans ?_⟩
        have older : i < ledger.store.blocks.length := by
          simpa using (List.getElem?_eq_some_iff.mp found).1
        rw [if_neg (Nat.ne_of_lt older), found]
    | leaked _ => simp [Ledger.leak, finish]
    | @dropped number tracked found =>
        rw [finish_of_borrows (borrows number tracked rfl found)]
        exact ⟨rfl, fun i block found => found⟩

theorem leaked_of_stepped (stepped : Stepped ledger action next) {entry : Option Nat}
    (mem : entry ∈ ledger.leaked) : entry ∈ next.leaked := by
  cases stepped with
  | same | allocated _ | derived _ | dropped _ | changed _ => exact mem
  | @leaked number tracked _ =>
      rw [leak]
      split
      · exact List.mem_cons_of_mem _ mem
      · exact mem

section

variable {allocator : List Action → View.Allocator}

theorem sound_run (avoids : ∀ earlier, (allocator earlier).Avoids (run allocator earlier).store)
    (actions : List Action) : (run allocator actions).Sound := by
  induction actions with
  | nil => exact sound_empty
  | cons action earlier ih => exact ih.step (stepped (avoids earlier) action)

theorem leaked_run (avoids : ∀ earlier, (allocator earlier).Avoids (run allocator earlier).store)
    (later : List Action) {actions : List Action} {entry : Option Nat}
    (mem : entry ∈ (run allocator actions).leaked) :
    entry ∈ (run allocator (later ++ actions)).leaked := by
  induction later with
  | nil => exact mem
  | cons action between ih => exact leaked_of_stepped (stepped (avoids (between ++ actions)) action) ih

/-- Whatever is done to views, each heap block that was neither released nor given up has one owner, an
owner's block is live, what was released was live and is released once, and what was given up is never
released. -/
theorem released_once
    (avoids : ∀ earlier, (allocator earlier).Avoids (run allocator earlier).store)
    (actions : List Action) :
    (run allocator actions).Sound ∧ (run allocator actions).Releases (allocator actions) ∧
      ∀ later i, some i ∈ (run allocator actions).leaked →
        ∃ start, (run allocator (later ++ actions)).store.Lives i start := by
  have sound := sound_run avoids actions
  refine ⟨sound, sound.releases (avoids actions), fun later i mem => ?_⟩
  obtain ⟨j, start, heq, lives⟩ :=
    (sound_run avoids (later ++ actions)).leaked _ (leaked_run avoids later mem)
  cases heq
  exact ⟨start, lives⟩

end

-- An allocator of growing addresses keeps blocks apart, whatever it handed out and had back before.

theorem toNat_le_room {count size total : Word} (product : count.mul? size = some total) :
    total.toNat ≤ (max 1 count * max 1 size).toNat := by
  obtain ⟨lt, rfl⟩ := Word.mul?_eq_some_iff.mp product
  have least : ∀ {n : Word}, n.toNat ≠ 0 → max 1 n = n := by
    intro n positive
    rw [← UInt64.toNat_inj, Word.toNat_max]
    exact Nat.max_eq_right (Nat.pos_of_ne_zero positive)
  by_cases empty : count.toNat * size.toNat = 0
  · rw [Word.toNat_mul_of_lt lt, empty]
    exact Nat.zero_le _
  · obtain ⟨hcount, hsize⟩ := not_or.mp (mt Nat.mul_eq_zero.mpr empty)
    exact Nat.le_of_eq (by rw [least hcount, least hsize])

theorem reached_owner (reached : ledger.store.Reached) {room size : Word} {element : CType}
    (covers : size.toNat ≤ room.toNat) :
    (ledger.allocated (View.owner Store.nextStart? ledger.store room size element)).store.Reached := by
  rw [View.owner]
  cases found : ledger.store.nextStart? room with
  | none => exact reached
  | some start =>
      obtain ⟨fits, rfl⟩ := Store.nextStart?_eq_some_iff.mp found
      have room' := Nat.le_trans (Nat.add_le_add_left covers _) fits
      exact reached.allocate (Store.allocate_eq_some_iff.mpr ⟨room', rfl, rfl⟩)

theorem store_derived (derive : View → Option View) :
    (ledger.derived number derive).store = ledger.store := by
  rw [derived]
  split
  · split <;> rfl
  · rfl

theorem reached_run (actions : List Action) :
    (run (fun _ => Store.nextStart?) actions).store.Reached := by
  induction actions with
  | nil => exact .empty
  | cons action earlier ih =>
      rw [run]
      generalize run (fun _ => Store.nextStart?) earlier = ledger at ih
      cases action with
      | malloc size element =>
          refine reached_owner ih ?_
          rw [Word.toNat_max]
          exact Nat.le_max_right _ _
      | calloc count size element =>
          rw [step, View.calloc]
          split
          · exact reached_owner ih (toNat_le_room ‹_›)
          · exact ih
      | clone _ | offset _ _ | cast _ _ | reference _ | field _ _ | read _ _ =>
          rw [step, store_derived]
          exact ih
      | leak number =>
          rw [step]
          split
          · simpa [leak, finish] using ih
          · exact ih
      | drop number =>
          rw [step]
          split
          · rw [finish, View.drop]
            split
            · exact ih.release _
            · exact ih
          · exact ih
      | change memory => exact ih.memory memory

theorem avoids_nextStart? (actions : List Action) :
    View.Allocator.Avoids Store.nextStart? (run (fun _ => Store.nextStart?) actions).store := by
  intro room start found block mem _ same
  obtain ⟨fits, rfl⟩ := Store.nextStart?_eq_some_iff.mp found
  have behind := (reached_run actions).ordered.lt_nextAddress mem
  have limit : Store.addressLimit < 2 ^ 64 := by decide
  rw [Buffer.finish, same, Word.toNat_ofNat_of_lt (by omega)] at behind
  omega

/-- An allocator that has two places and uses them again. -/
def sampleAllocator : View.Allocator := fun store _ =>
  [4096, 8192].find? fun start => store.blocks.all fun block => !(block.live && block.extent.start == start)

theorem avoids_sampleAllocator (store : Store) : sampleAllocator.Avoids store := by
  intro room start found block mem live same
  rw [sampleAllocator] at found
  have free := List.find?_some found
  have other := List.all_eq_true.mp free block mem
  simp [live, same] at other

/-- The second block is where the first was. It is given up, so it is still live at the end. -/
def sampleActions : List Action :=
  [.drop 4, .malloc 8 .double, .drop 3, .leak 2, .offset 2 1, .calloc 2 8 .double, .drop 0, .drop 1, .clone 0,
    .malloc 16 .double]

theorem released_once_sample :
    (run (fun _ => sampleAllocator) sampleActions).Sound ∧
      (run (fun _ => sampleAllocator) sampleActions).freed = [some 2, some 0] ∧
      (run (fun _ => sampleAllocator) sampleActions).leaked = [some 1] ∧
      (run (fun _ => sampleAllocator) sampleActions).store.Lives 1 4096 :=
  ⟨(released_once (fun _ => avoids_sampleAllocator _) sampleActions).1, rfl, rfl, 16, rfl⟩

end Ledger
end Foreign
