import Admission.Client.Run
import Admission.Http.Api

/-!
# The client against a control plane at hand

A message may be answered by a control plane in the same place, without a network in between.
-/

namespace Admission.Client

open Admission.Http Admission.Time

/-- The reply of a control plane to a message, with a generated id at hand. -/
def deliver (config : Config) (now : Instant) (fresh : String) (m : Message) :
    StateM Plane (Option Reply) := fun p =>
  match m.request? with
  | none => (none, p)
  | some r =>
    let (response, p') := answer config now fresh r p
    (some (.ofResponse response), p')

end Admission.Client
