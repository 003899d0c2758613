import FilecoinRosetta.Duration
import FilecoinRosetta.Node.Call

/-!
# Nodes

A node answers calls, each in its own time. What it answers may depend on everything
it was asked before, so a node that changes its mind is a node like any other. A
limit on the time of every call turns a node into one that gives up on slow answers.
-/

namespace FilecoinRosetta

namespace Node

/-- Why a call has no answer. -/
inductive Failure where
  /-- The answer did not come within the limit. -/
  | timedOut (method : String) (limit : Duration)
  /-- The node refused the call. -/
  | refused (code : Int) (message : String)
  /-- The answer is not of the form it should have. -/
  | unreadable
  /-- The node could not be reached. -/
  | unreachable
  /-- Anything else, as the causes from the outermost to the innermost. -/
  | other (causes : List String)
  deriving DecidableEq, Repr

namespace Failure

/-- Whether the limit passed. -/
def isTimeout : Failure → Bool
  | timedOut _ _ => true
  | _ => false

/-- The wording of a failure with all its causes. -/
def message : Failure → String
  | timedOut method limit => method ++ " timed out after " ++ limit.text
  | refused code message => message ++ " (code " ++ toString code ++ ")"
  | unreadable => "the node's answer is not of the expected form"
  | unreachable => "the node is unreachable"
  | other causes => ": ".intercalate causes

end Failure

/-- What a node goes through, seen from outside. -/
inductive Event where
  | asked (call : Call)
  /-- Time that passed between calls. -/
  | waited (span : Duration)
  deriving DecidableEq

/-- The call of an event. -/
def Event.call? : Event → Option Call
  | asked call => some call
  | waited _ => none

end Node

/-- A node, by its answer to a call after everything that happened before,
the latest event first. -/
structure Node where
  answer : (past : List Node.Event) → (call : Node.Call) → Except Node.Failure call.Answer

/-- A node whose answers take time. -/
structure TimedNode extends Node where
  /-- How long an answer takes. -/
  delay : (past : List Node.Event) → (call : Node.Call) → Duration

/-- The node that gives up on every answer which takes longer than a limit. -/
def TimedNode.bounded (limit : Duration) (node : TimedNode) : Node where
  answer past call :=
    if limit.millis < (node.delay past call).millis then .error (.timedOut call.method limit)
    else node.answer past call

end FilecoinRosetta
