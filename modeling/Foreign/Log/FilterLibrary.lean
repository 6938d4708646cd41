import Foreign.Failure
import Foreign.Log.Setup
import Foreign.Text.Blank

/-!
What the logger asks of a library of filters, and the filter that it builds with one: a base, which the
environment may give, and on top of it the directives of the setup one by one.
-/

namespace Foreign.Log

structure FilterLibrary where
  Directive : Type
  Filter : Type
  /-- The directive that a text is, if it is a valid one. -/
  directive? : String → Option Directive
  /-- The filter of directives that are given together. -/
  ofDirectives : List Directive → Filter
  /-- Add a directive to a filter that is in use. -/
  add : Filter → Directive → Filter
  /-- The filter that the environment asks for, if what it asks for is valid. -/
  ofEnvironment : Environment → Outcome (Option Filter)
  /-- The most verbose level at which events of a target may be let through. -/
  verbosity : Filter → String → Verbosity

namespace FilterLibrary

variable (library : FilterLibrary)

/-- The filter for events of the program's own targets up to a level. -/
def ofLevel (level : Level) : library.Filter :=
  library.ofDirectives (library.directive? s!"abicall={level.name}").toList

/-- Add the directive of a segment; one that is not valid is passed over. -/
def addSegment (filter : library.Filter) (segment : String) : library.Filter :=
  match library.directive? (Text.trimBlanks segment) with
  | some directive => library.add filter directive
  | none => filter

/-- Add the directives between the commas of a text. Segments of nothing but blanks are no directives. -/
def extend (filter : library.Filter) (text : String) : library.Filter :=
  let segments := (text.splitOn ",").filter fun segment => !(Text.trimBlanks segment).isEmpty
  segments.foldl library.addSegment filter

def build (setup : Setup) (environment : Environment) : Outcome library.Filter := do
  let base := (← library.ofEnvironment environment).getD (library.ofLevel setup.level)
  return setup.filter.elim base (library.extend base)

end FilterLibrary
end Foreign.Log
