import ImageCatalog.Failure
import ImageCatalog.Timeline

/-!
# Probes

A probe asks whether the artifact at an address is there, by a request for its head. The request
has a time limit, and is given up when the work is interrupted.
-/

namespace ImageCatalog

/-- How a request is answered. -/
inductive HeadResponse where
  /-- With a status. -/
  | status (code : Nat)
  /-- Not at all, since it could not be sent. -/
  | broken (reason : String)
  /-- Not at all, since nobody answers. -/
  | silence

namespace Source

/-- How long a probe may take, unless something else is configured. -/
def defaultProbeTimeout : Duration := .ofSeconds 30

/-- The outcome of a probe: whether the artifact is there. -/
def probe (url : String) (limit : Duration) (timeline : Timeline) :
    HeadResponse → Except Failure Bool
  | response =>
    if timeline.interrupted then .error (.cancelled ("probe " ++ url))
    else
      match response with
      | .status code => .ok (200 ≤ code && code < 300)
      | .broken reason => .error (.probeFailed url reason)
      | .silence =>
        match (timeline.pass limit).interrupted with
        | true => .error (.cancelled ("probe " ++ url))
        | false => .error (.timeout ("probe " ++ url) limit)

end Source

end ImageCatalog
