import Foreign.Log.Directive
import Foreign.Log.FilterLibrary

/-!
Filters: lists of directives, the newest first. Of the directives whose target begins an event's target
the most specific decides, and of equally specific ones the newest. Whether an event is in a span that a
directive is about only shows when it happens; so with such directives everything up to the most verbose
level of any directive may be let through.
-/

namespace Foreign.Log

structure Filter where
  /-- The directives about events as such. -/
  events : List Directive
  /-- The directives about events in certain spans. -/
  spans : List Directive

namespace Filter

/-- Add a directive to a filter that is in use: about spans only if it is not about events. -/
def add (filter : Filter) (directive : Directive) : Filter :=
  if directive.isAboutEvents then { filter with events := directive :: filter.events }
  else { filter with spans := directive :: filter.spans }

/-- A filter of directives that are given together. One that is about a field of any span, whatever its
value, is about events as well. -/
def ofDirectives (directives : List Directive) : Filter :=
  let newestFirst := directives.reverse
  ⟨newestFirst.filter Directive.isAboutEvents, newestFirst.filter Directive.isAboutSpans⟩

/-- Whether a directive decides before another one for a target that both are about: its target is longer,
or equal and it has a field, or has one with a later name. -/
def isMoreSpecific (a b : Directive) : Bool :=
  b.target.length < a.target.length ||
    a.target.length == b.target.length &&
      match a.field, b.field with
      | some _, none => true
      | some a, some b => b.name < a.name
      | none, _ => false

/-- The directive that decides about events of a target outside of spans. -/
def directiveFor? (filter : Filter) (target : String) : Option Directive :=
  (filter.events.filter fun directive => target.startsWith directive.target).foldl
    (fun best directive =>
      match best with
      | some found => if isMoreSpecific directive found then some directive else best
      | none => some directive) none

/-- The most verbose level of any directive; a span's fields get their values late, so that a directive
that asks for one may need all of them. -/
def ceiling (filter : Filter) : Verbosity :=
  if filter.spans.any fun directive => directive.field.any (·.pattern.isSome) then some .trace
  else ((filter.events ++ filter.spans).map (·.verbosity)).foldl Verbosity.most none

/-- The most verbose level at which events of a target may be let through. -/
def verbosity (filter : Filter) (target : String) : Verbosity :=
  if filter.spans.isEmpty then (filter.directiveFor? target).bind (·.verbosity)
  else filter.ceiling

/-- The filter of a list of directives, all of which must be valid; none may stand between commas. -/
def ofText (text : String) : Directive.Reading Filter := do
  let segments := (text.splitOn ",").filter fun segment => !segment.isEmpty
  return ofDirectives (← segments.mapM Directive.ofText)

/-- The variable that, when it holds valid directives, takes the place of the level. -/
def environmentKey : String := "RUST_LOG"

def ofEnvironment (environment : Environment) : Outcome (Option Filter) :=
  match (environment.lookup environmentKey).map ofText with
  | some (.ok filter) => .ok (some filter)
  | some (.error (.badEdge bad)) => .error (.fault (.badEdge bad))
  | some (.error .malformed) | none => .ok none

/-- The library of filters that the logger uses. -/
abbrev library : FilterLibrary where
  Directive := Directive
  Filter := Filter
  directive? text := (Directive.ofText text).toOption
  ofDirectives := ofDirectives
  add := add
  ofEnvironment := ofEnvironment
  verbosity := verbosity

end Filter
end Foreign.Log
