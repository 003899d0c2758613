import FilecoinRosetta.CommandLine
import FilecoinRosetta.Proofs.Internet.SocketAddress
import FilecoinRosetta.Proofs.Program.Outcome

/-!
# Addresses of a command line

The one address that a command line can set is read from an argument, so it is
an address that can be.
-/

namespace FilecoinRosetta

namespace CommandLine

open FilecoinRosetta.Configuration (Options)

/-- Options whose address to listen on, if any, is one that can be. -/
def RealListen (options : Options) : Prop :=
  ∀ address, options.listen = some address → address.Real

/-- Checking the value of an option sets no impossible address. -/
theorem settle_real {options settled : Options} {pending : Option Pending}
    (real : RealListen options) (isSettled : settle options pending = .ok settled) :
    RealListen settled := by
  unfold settle at isSettled
  split at isSettled
  · obtain rfl := Except.ok.inj isSettled
    exact real
  · contradiction
  · obtain ⟨_, -, same⟩ := bind_ok_iff.mp isSettled
    obtain rfl := Except.ok.inj same
    exact real
  · obtain ⟨_, -, same⟩ := bind_ok_iff.mp isSettled
    obtain rfl := Except.ok.inj same
    exact real
  · rename_i value
    obtain ⟨listen, isListen, same⟩ := bind_ok_iff.mp isSettled
    obtain rfl := Except.ok.inj same
    rintro address (isAddress : listen = some address)
    subst isAddress
    unfold setOnce at isListen
    split at isListen
    · contradiction
    · unfold readListen at isListen
      split at isListen
      · rename_i isRead
        obtain rfl := Option.some.inj (Except.ok.inj isListen)
        exact Internet.SocketAddress.parse_real isRead
      · contradiction
  · obtain ⟨_, -, same⟩ := bind_ok_iff.mp isSettled
    obtain rfl := Except.ok.inj same
    exact real

/-- A refusal is none of the results, so arguments that are read were not
refused on the way. -/
theorem refuse_ne_ok {α : Type} {options : Options} {pending : Option Pending}
    {error : UsageError} {result : α} :
    refuse options pending error ≠ .ok result := by
  intro accepted
  unfold refuse at accepted
  split at accepted
  · obtain ⟨_, -, same⟩ := bind_ok_iff.mp accepted
    contradiction
  · obtain ⟨_, -, same⟩ := bind_ok_iff.mp accepted
    contradiction
  · contradiction

/-- Arguments set no impossible address, by induction on what is left of them. -/
theorem readArguments_real {options : Options} {pending : Option Pending}
    {arguments : List String} {request : Request} (real : RealListen options)
    (read : readArguments options pending arguments = .ok request) :
    RealListen request.options := by
  fun_induction readArguments options pending arguments with
  | case1 =>
    obtain ⟨settled, isSettled, same⟩ := bind_ok_iff.mp read
    obtain rfl := Except.ok.inj same
    exact settle_real real isSettled
  | case2 =>
    obtain ⟨settled, isSettled, same⟩ := bind_ok_iff.mp read
    obtain rfl := Except.ok.inj same
    exact settle_real real isSettled
  | case3 => contradiction
  | case4 options pending argument rest name option isOption isLong ih =>
    obtain ⟨settled, isSettled, later⟩ := bind_ok_iff.mp read
    exact ih settled (settle_real real isSettled) later
  | case5 options pending argument rest name option value isOption isLong ih =>
    obtain ⟨before, isBefore, more⟩ := bind_ok_iff.mp read
    obtain ⟨settled, isSettled, later⟩ := bind_ok_iff.mp more
    exact ih settled (settle_real (settle_real real isBefore) isSettled) later
  | case6 => exact absurd read refuse_ne_ok
  | case7 => exact absurd read refuse_ne_ok
  | case8 options argument rest isWord option ih => exact ih real read
  | case9 =>
    obtain ⟨_, -, more⟩ := bind_ok_iff.mp read
    obtain ⟨settled, isSettled, same⟩ := bind_ok_iff.mp more
    obtain rfl := Except.ok.inj same
    exact settle_real real isSettled
  | case10 => contradiction

/-- A command line sets no impossible address: what it says of one was
read from a text. -/
theorem parse_real {arguments : List String} {request : Request}
    (read : parse arguments = .ok request) :
    RealListen request.options :=
  readArguments_real (fun _ isAddress => absurd isAddress (by simp [Options.none])) read

end CommandLine

end FilecoinRosetta
