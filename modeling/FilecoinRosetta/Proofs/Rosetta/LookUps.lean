import FilecoinRosetta.Proofs.Rosetta.CallSites

/-!
# Endpoints look addresses up and nothing else

What is known about addresses is shared by all endpoints, and each of
them reads and changes it by look-ups only. So a cache that is coherent
stays so, whatever is requested.
-/

namespace FilecoinRosetta.Directory.Uses

open Program Rosetta Rosetta.Service

/-- Every endpoint looks addresses up and changes nothing else that is known of
them, whatever the body is and whatever the node answers. -/
theorem answer (service : Service) (route : Route) (body : Bytes) :
    service.directory.Uses (service.answer route body).run := by
  have course :
      Course (.anything service.directory.LooksUp) _ _ _ (service.answer route body).run :=
    Course.answer service route body fun _ _ _ ofLookUps => ofLookUps
  exact course.uses_directory

/-- The answer to a request has addresses looked up, and touches the cache
in no other way. -/
theorem serve (service : Service) (anyOrigin : Bool) (request : HttpRequest) :
    service.directory.Uses (service.serve anyOrigin request) := by
  have respond (route : Route) (body : Bytes) :
      service.directory.Uses (service.respond route body) := by
    refine (answer service route body).seq ?_
    intro found
    cases found with
    | ok json => exact result _
    | error cause => exact result _
  have dispatch : service.directory.Uses (service.dispatch request) := by
    unfold Service.dispatch
    split
    · exact result _
    · split
      · exact result _
      · split
        · exact result _
        · exact respond _ _
  unfold Service.serve
  dsimp only
  split
  · exact result _
  · refine dispatch.seq ?_
    intro found
    exact result _

end FilecoinRosetta.Directory.Uses

/-! ## Requests one after another -/

namespace FilecoinRosetta.Rosetta.Service

/-- The answers to requests one after another. -/
def serveAll (service : Service) (anyOrigin : Bool) : List HttpRequest → Program (List HttpResponse)
  | [] => return []
  | request :: rest => do
      let response ← service.serve anyOrigin request
      let later ← service.serveAll anyOrigin rest
      return response :: later

/-- What a service that was just started has been through, once
it has answered requests. -/
def sessionAfter (service : Service) (anyOrigin : Bool) (node : Node)
    (requests : List HttpRequest) :
    Session :=
  ((service.serveAll anyOrigin requests).run node .fresh).2

/-- Requests one after another take look-ups only, by induction on the requests. -/
theorem serveAll_uses (service : Service) (anyOrigin : Bool) (requests : List HttpRequest) :
    service.directory.Uses (service.serveAll anyOrigin requests) := by
  induction requests with
  | nil => exact .result []
  | cons request rest ih =>
    refine (Directory.Uses.serve service anyOrigin request).seq ?_
    intro response
    refine ih.seq ?_
    intro later
    exact .result _

/-- Every cache that requests lead to is coherent, starting from the empty one. -/
theorem sessionAfter_coherent (service : Service) (anyOrigin : Bool) (node : Node)
    (answers : Node.Answers) (requests : List HttpRequest) :
    service.directory.Coherent node answers (service.sessionAfter anyOrigin node requests).cache :=
  (service.serveAll_uses anyOrigin requests).coherent .fresh Directory.coherent_empty

end FilecoinRosetta.Rosetta.Service
