import ClusterDriver.Registry.WaitGraph
import ClusterDriver.Error
/-!
# Sessions over a detector

Single hooks of a detector, called for numbered threads. What a hook hands out is a guard, kept
under a number until it is dropped, on whichever thread.
-/
namespace ClusterDriver.Scenario

inductive Guard where
  | wait
  | build (name : String)
  deriving DecidableEq, Repr

inductive DetectorCommand where
  | tryLock (thread : Nat) (name : String)
  | acquire (thread : Nat) (name : String)
  | drop (thread guard : Nat)
  | stack (thread : Nat)
  | enabled

structure DetectorSession where
  detector : Detector Nat String
  /-- The guards handed out, in order; none where a guard was dropped. -/
  guards : List (Option Guard) := []

namespace DetectorSession

def keep (s : DetectorSession) (guard : Guard) (detector : Detector Nat String) :
    Json × DetectorSession :=
  (.object [("guard", .nat s.guards.length)], { detector, guards := s.guards ++ [some guard] })

/-- Dropping a guard acts for the thread that drops it. -/
def release (d : Detector Nat String) (thread : Nat) : Guard → Detector Nat String
  | .wait => d.stopWaiting thread
  | .build name => d.leave thread name

def step (s : DetectorSession) : DetectorCommand → Json × DetectorSession
  | .tryLock thread name =>
    match s.detector.request thread name with
    | .error chain => ((AccessError.cycle chain).toJson, s)
    | .ok detector => s.keep .wait detector
  | .acquire thread name => s.keep (.build name) (s.detector.enter thread name)
  | .drop thread guard =>
    match s.guards[guard]?.join with
    | none => (.bool false, s)
    | some held =>
      (.bool true,
        { detector := release s.detector thread held, guards := s.guards.set guard none })
  | .stack thread => (.texts (s.detector.stack thread), s)
  | .enabled => (.bool s.detector.isEnabled, s)

def run (s : DetectorSession) : List DetectorCommand → List Json
  | [] => []
  | command :: rest =>
    let (reply, s) := s.step command
    reply :: s.run rest

end DetectorSession
end ClusterDriver.Scenario
