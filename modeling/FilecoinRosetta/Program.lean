import FilecoinRosetta.AddressCache
import FilecoinRosetta.Node.Basic

/-!
# Programs over a node

Everything that needs a node is written as a program: a tree of the calls it makes,
of what it recalls and learns about addresses, and of the time it lets pass. Running
a program on a node yields its result and the session after it. One step of a
program is one atomic access to what programs share.
-/

namespace FilecoinRosetta

/-- A program with a result. -/
inductive Program (α : Type) where
  /-- The end. -/
  | done (result : α)
  /-- A call, and what follows its answer. -/
  | ask (call : Node.Call) (next : Except Node.Failure call.Answer → Program α)
  /-- A look at what is known about an address. -/
  | consult (name : String) (next : AddressCache.Entry → Program α)
  /-- A fact learned about an address. -/
  | learn (name : String) (fact : AddressCache.Fact) (next : Program α)
  /-- Time that passes. -/
  | wait (span : Duration) (next : Program α)

/-- What lasts from one program to the next. -/
structure Session where
  /-- What is known about addresses. -/
  cache : AddressCache
  /-- What the node went through, the latest event first. -/
  past : List Node.Event
  deriving DecidableEq

/-- The session before any program. -/
def Session.fresh : Session := ⟨.empty, []⟩

/-- The calls made so far, the first one first. -/
def Session.calls (session : Session) : List Node.Call :=
  (session.past.filterMap Node.Event.call?).reverse

namespace Program

variable {α β : Type}

/-- One program, and another one that depends on its result. -/
def bind : Program α → (α → Program β) → Program β
  | done result, next => next result
  | ask call rest, next => ask call fun answer => (rest answer).bind next
  | consult name rest, next => consult name fun entry => (rest entry).bind next
  | learn name fact rest, next => learn name fact (rest.bind next)
  | wait span rest, next => wait span (rest.bind next)

instance : Monad Program where
  pure := done
  bind := bind

/-- Run a program on a node. -/
def run (node : Node) : Program α → Session → α × Session
  | done result, session => (result, session)
  | ask call next, session =>
      (next (node.answer session.past call)).run node
        { session with past := .asked call :: session.past }
  | consult name next, session => (next (session.cache.entry name)).run node session
  | learn name fact next, session =>
      next.run node { session with cache := session.cache.learn name fact }
  | wait span next, session =>
      next.run node { session with past := .waited span :: session.past }

/-- Running one program after another hands on the session: the second one finds the
cache and the past as the first one left them. -/
theorem run_bind (node : Node) (first : Program α) (next : α → Program β) (session : Session) :
    (first.bind next).run node session =
      (next (first.run node session).1).run node (first.run node session).2 := by
  induction first generalizing session with
  | done result => rfl
  | ask call rest ih => exact ih _ _
  | consult name rest ih => exact ih _ _
  | learn name fact rest ih => exact ih _
  | wait span rest ih => exact ih _

/-- Nothing follows from ending with the result, the one half of
the laws for sequences. -/
theorem bind_done (program : Program α) : program.bind done = program := by
  induction program with
  | done result => rfl
  | ask call rest ih => exact congrArg (ask call) (funext ih)
  | consult name rest ih => exact congrArg (consult name) (funext ih)
  | learn name fact rest ih => exact congrArg (learn name fact) ih
  | wait span rest ih => exact congrArg (wait span) ih

/-- The grouping of three programs does not matter, the other half of
the laws for sequences. -/
theorem bind_assoc {γ : Type} (first : Program α) (second : α → Program β) (third : β → Program γ) :
    (first.bind second).bind third = first.bind fun result => (second result).bind third := by
  induction first with
  | done result => rfl
  | ask call rest ih => exact congrArg (ask call) (funext ih)
  | consult name rest ih => exact congrArg (consult name) (funext ih)
  | learn name fact rest ih => exact congrArg (learn name fact) ih
  | wait span rest ih => exact congrArg (wait span) ih

instance : LawfulMonad Program :=
  LawfulMonad.mk' Program bind_done (fun _ _ => rfl) bind_assoc

/-- Make a call. -/
def call (call : Node.Call) : Program (Except Node.Failure call.Answer) :=
  ask call done

/-- Look up what is known about an address. -/
def entry (name : String) : Program AddressCache.Entry :=
  consult name done

/-- Keep a fact about an address. -/
def keep (name : String) (fact : AddressCache.Fact) : Program Unit :=
  learn name fact (done ())

/-- Let time pass. -/
def pause (span : Duration) : Program Unit :=
  wait span (done ())

end Program

end FilecoinRosetta
