/-!
Severity of log events, and the text forms of it. Names are matched without regard to case. Only ASCII
letters are folded: the one other character that lowers to an ASCII letter is the Kelvin sign, and no
name here has a `k`.
-/

namespace Foreign.Log

inductive Level where
  | error
  | warn
  | info
  | debug
  | trace
  deriving DecidableEq, Repr, Inhabited

namespace Level

def name : Level → String
  | error => "error"
  | warn => "warn"
  | info => "info"
  | debug => "debug"
  | trace => "trace"

/-- More verbose levels have larger ranks. -/
def rank : Level → Nat
  | error => 1
  | warn => 2
  | info => 3
  | debug => 4
  | trace => 5

def all : List Level := [error, warn, info, debug, trace]

end Level

/-- The most verbose level let through; `none` lets nothing through. -/
abbrev Verbosity := Option Level

/-- The value whose name is `text`, in any case. -/
def named? (names : List (String × α)) (text : String) : Option α :=
  names.lookup text.toLower

def Level.ofName? (text : String) : Option Level :=
  named? (Level.all.map fun level => (level.name, level)) text

inductive Format where
  | pretty
  | compact
  | json
  deriving DecidableEq, Repr, Inhabited

namespace Format

def name : Format → String
  | pretty => "pretty"
  | compact => "compact"
  | json => "json"

def all : List Format := [pretty, compact, json]

def ofName? (text : String) : Option Format :=
  named? (all.map fun format => (format.name, format)) text

end Format
end Foreign.Log
