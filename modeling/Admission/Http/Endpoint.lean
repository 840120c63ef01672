import Admission.Http.Request
import Admission.Text.Percent

/-!
# Endpoints

Five paths are served, two of which end in an id.  An id is one segment of a path, at least a byte
long; it is matched as it stands and its percent-coding is undone once.
-/

namespace Admission.Http

open Admission.Text

/-- What a path leads to; an id is kept as it stands in the path. -/
inductive Endpoint where
  | health
  | jobs
  | job (segment : List UInt8)
  | sessions
  | session (segment : List UInt8)
  deriving DecidableEq, Repr

/-- The parts of a path between slashes. -/
def segments : List UInt8 → List (List UInt8)
  | [] => [[]]
  | b :: bs =>
    if b = 0x2F then [] :: segments bs
    else
      match segments bs with
      | [] => [[b]]
      | s :: ss => (b :: s) :: ss

namespace Endpoint

/-- The endpoint at a path. -/
def ofPath? (path : List UInt8) : Option Endpoint :=
  match segments path with
  | [[], name] =>
    if name = utf8 "healthz" then some .health
    else if name = utf8 "jobs" then some .jobs
    else if name = utf8 "sessions" then some .sessions
    else none
  | [[], name, b :: bs] =>
    if name = utf8 "jobs" then some (.job (b :: bs))
    else if name = utf8 "sessions" then some (.session (b :: bs))
    else none
  | _ => none

/-- Whether the gate stands before the endpoint. -/
def isGated : Endpoint → Bool
  | .health => false
  | _ => true

/-- The methods that the endpoint takes. -/
def methods : Endpoint → List String
  | .health => ["GET", "HEAD"]
  | .jobs => ["POST"]
  | .job _ => ["GET", "HEAD"]
  | .sessions => ["POST"]
  | .session _ => ["GET", "HEAD"]

/-- The methods that the endpoint takes, as one text. -/
def allowed (e : Endpoint) : String := ",".intercalate e.methods

end Endpoint

/-- The id that a segment stands for, if that is a text. -/
def segmentId? (segment : List UInt8) : Option String := text? (percentDecode segment)

end Admission.Http
