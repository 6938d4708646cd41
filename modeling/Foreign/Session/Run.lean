import Foreign.Session.Calls
import Foreign.Session.Libraries
import Foreign.Session.Views

/-!
Taking the steps of a session one after the other. A step that fails names nothing and leaves memory as it
was; what was reported before it failed stays reported.
-/

namespace Foreign

def Step.attempt : Step → Attempt Answer
  | .create name source => Attempt.create name source
  | .derive name derivation => Attempt.derive name derivation
  | .contains size distance count => Attempt.contains size distance count
  | .drop view => Attempt.drop view
  | .leak view => Attempt.leak view
  | .info view => return .info (← Attempt.view view)
  | .read view index name => Attempt.read view index name
  | .write view index value => Attempt.write view index value
  | .readScalar view kind index => Attempt.readScalar view kind index
  | .writeScalar view index scalar => Attempt.writeScalar view index scalar
  | .readText view => Attempt.readText view
  | .addressScalar view kind => Attempt.addressScalar view kind
  | .bytes view => Attempt.bytes view
  | .compare view other => Attempt.compare view other
  | .inspect value types other => Attempt.inspect value types other
  | .callback name parameters result body => Attempt.callback name parameters result body
  | .function name parameters result code => Attempt.pointer name parameters result code
  | .rewrap name given parameters result => Attempt.rewrap name given parameters result
  | .call target arguments bound name => Attempt.call target arguments bound name
  | .openProgram name => Attempt.openProgram name
  | .openLibrary name path searchPaths => Attempt.openLibrary name path searchPaths
  | .symbol library name => Attempt.symbol library name
  | .bind library declarations linker => Attempt.bind library declarations linker
  | .bindAvailable library declarations => Attempt.bindAvailable library declarations
  | .link path declarations linker => Attempt.link path declarations linker

namespace Session

def take (session : Session) (step : Step) : Except Refusal Answer × Session :=
  step.attempt.run.run session

/-- Take steps in order. With each answer comes the session after its step, in which the answer's
addresses have their words. -/
def takeAll (session : Session) : List Step → List (Except Refusal Answer × Session)
  | [] => []
  | step :: rest =>
    let (answer, session) := session.take step
    (answer, session) :: session.takeAll rest

end Session
end Foreign
