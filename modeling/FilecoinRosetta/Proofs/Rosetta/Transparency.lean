import FilecoinRosetta.Proofs.Directory.Transparency
import FilecoinRosetta.Proofs.Rosetta.LookUps

/-!
# The cache cannot be seen in answers

On a node whose answers depend on nothing but the call, a service that has answered
requests before answers like one that was just started. It only makes fewer calls:
those of the fresh service, in the same order, with some left out.
-/

namespace FilecoinRosetta.Rosetta.Service

/-- The cache is transparent. On a node with constant answers and after any
requests, the answer to a request is the one of a service just started, and the
calls made for it are those that one makes, with some left out. What is known is
stored under exactly one address and is what the answers give for it. -/
theorem serve_transparent (service : Service) (anyOrigin : Bool) (answers : Node.Answers)
    (earlier : List HttpRequest) (request : HttpRequest) :
    let node := Node.constant answers
    let before := service.sessionAfter anyOrigin node earlier
    let after := (service.serve anyOrigin request).run node before
    let alone := (service.serve anyOrigin request).run node .fresh
    after.1 = alone.1 ∧
      (∃ made, after.2.calls = before.calls ++ made ∧ made.Sublist alone.2.calls) ∧
      ∀ name, after.2.cache.entry name ≠ .unknown →
        ∃ address : Address, address.text service.directory.network = name ∧
          (∀ other : Address, other.text service.directory.network = name → other = address) ∧
          service.directory.Agrees answers address (after.2.cache.entry name) := by
  intro node before after alone
  have coherent := service.sessionAfter_coherent anyOrigin node answers earlier
  have ahead : service.directory.Ahead answers before.cache Session.fresh.cache :=
    ⟨coherent, Directory.coherent_empty, fun _ fact known => by cases fact <;> nomatch known⟩
  have follows := (Directory.Uses.serve service anyOrigin request).transparent before .fresh ahead
  refine ⟨follows.same, ?_, ?_⟩
  · obtain ⟨made, seen, madePast, seenPast, part⟩ := follows.fewer
    refine ⟨(made.filterMap Node.Event.call?).reverse, ?_, ?_⟩
    · unfold Session.calls
      rw [madePast, List.filterMap_append, List.reverse_append]
    · unfold Session.calls
      rw [seenPast, List.filterMap_append, List.reverse_append]
      exact (part.filterMap _).reverse
  · intro name known
    obtain ⟨address, rfl⟩ := follows.ahead.rich.named name known
    refine ⟨address, rfl, ?_, ?_⟩
    · intro other same
      exact Address.display_injective _ _ _ same
    · exact follows.ahead.rich.agrees address (Node.constant_steady answers address).honest

end FilecoinRosetta.Rosetta.Service
