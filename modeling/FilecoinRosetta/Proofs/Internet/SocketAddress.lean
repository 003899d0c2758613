import FilecoinRosetta.Internet.SocketAddress
import FilecoinRosetta.Proofs.Internet.Ipv6

/-!
# Addresses to listen on read back

An address that was read from some text is read again from its own, scope and port
included. What the environment may change of it is the port alone.
-/

namespace FilecoinRosetta.Internet.SocketAddress

open Text Text.Integer

/-- An address that can be. -/
def Real : SocketAddress → Prop
  | v4 _ _ => True
  | v6 address _ _ => address.Real

/-- Another port does not make an address impossible, so a port can be set on top of
an address that was read. -/
theorem Real.withPort {address : SocketAddress} (real : address.Real) (port : UInt16) :
    (address.withPort port).Real := by
  cases address with
  | v4 => trivial
  | v6 => exact real

/-- An address that is read can be one, of either kind. -/
theorem parse_real {text : String} {address : SocketAddress} (read : parse? text = some address) :
    address.Real := by
  rw [parse?] at read
  split at read
  · obtain ⟨⟨inner, scope⟩, isInside, more⟩ := Option.bind_eq_some_iff.mp read
    obtain ⟨port, -, whole⟩ := Option.bind_eq_some_iff.mp more
    obtain rfl := Option.some.inj whole
    rw [bracketed?] at isInside
    split at isInside
    · obtain ⟨found, isFound, same⟩ := Option.map_eq_some_iff.mp isInside
      obtain ⟨rfl, -⟩ := Prod.mk.inj same
      exact Ipv6.parse_real isFound
    · obtain ⟨found, isFound, further⟩ := Option.bind_eq_some_iff.mp isInside
      obtain ⟨_, -, same⟩ := Option.bind_eq_some_iff.mp further
      obtain ⟨rfl, -⟩ := Prod.mk.inj (Option.some.inj same)
      exact Ipv6.parse_real isFound
    · contradiction
  · obtain ⟨inner, -, more⟩ := Option.bind_eq_some_iff.mp read
    obtain ⟨port, -, whole⟩ := Option.bind_eq_some_iff.mp more
    obtain rfl := Option.some.inj whole
    trivial

/-! ## Texts read -/

/-- The digits of a number are read as the number, if it is below the bound. -/
theorem number_digits {bound number : Nat} (bounded : number < bound) :
    number? bound (Nat.toDigits 10 number) = some number := by
  simp [number?, natural_digits, bounded]

/-- A port is read behind its colon, as one number that fits sixteen bits. -/
theorem port_digits (port : UInt16) : port? (':' :: Nat.toDigits 10 port.toNat) = some port := by
  rw [port?, number_digits port.toNat_lt, Option.map_some, UInt16.ofNat_toNat]

/-- What stands in brackets. -/
def insideText (address : Ipv6) (scope : UInt32) : List Char :=
  address.mixedText.toList ++ if scope = 0 then [] else '%' :: Nat.toDigits 10 scope.toNat

/-- What stands in brackets is read as the address and its scope. -/
theorem bracketed_insideText (address : Ipv6) (real : address.Real) (scope : UInt32) :
    bracketed? (insideText address scope) = some (address, scope) := by
  have free : '%' ∉ address.mixedText.toList :=
    address.mixedText_free (by decide) (by decide) (by decide)
  have digitsFree : '%' ∉ Nat.toDigits 10 scope.toNat := by
    intro isSign
    exact absurd (decimal_digits _ '%' isSign) (by decide)
  have read := Ipv6.parse_mixedText address real
  by_cases unscoped : scope = 0
  · rw [insideText, if_pos unscoped, List.append_nil, bracketed?, segments_free free, unscoped]
    simp only [read, Option.map_some]
  · rw [insideText, if_neg unscoped, bracketed?, segments_append free, segments_free digitsFree]
    simp only [read, number_digits scope.toNat_lt, Option.bind_eq_bind, Option.bind_some,
      UInt32.ofNat_toNat]

/-- What stands in brackets does not end them, so the address and its scope are
read as they stand. -/
theorem insideText_free (address : Ipv6) (scope : UInt32) : ']' ∉ insideText address scope := by
  have free : ']' ∉ address.mixedText.toList :=
    address.mixedText_free (by decide) (by decide) (by decide)
  have digitsFree : ']' ∉ Nat.toDigits 10 scope.toNat := by
    intro isSign
    exact absurd (decimal_digits _ ']' isSign) (by decide)
  rw [insideText]
  split_ifs
  · simpa using free
  · simpa using And.intro free digitsFree

/-- The text of an address is read as the address, with its port and, for the
longer kind, its scope. -/
theorem parse_text (address : SocketAddress) (real : address.Real) :
    parse? address.text = some address := by
  cases address with
  | v4 address port =>
    have digits : (toString port.toNat).toList = Nat.toDigits 10 port.toNat := Nat.toList_repr
    have signs : (text (.v4 address port)).toList =
        address.text.toList ++ ':' :: Nat.toDigits 10 port.toNat := by
      rw [text, String.toList_append, String.toList_append, digits, List.append_assoc]
      rfl
    have free : ':' ∉ address.text.toList := by
      intro isSign
      exact absurd (address.text_signs ':' isSign) (by decide)
    rw [parse?, signs]
    split
    · -- An address in brackets is none of this kind.
      rename_i rest same
      have noBracket : '[' ∉ address.text.toList := by
        intro isSign
        exact absurd (address.text_signs '[' isSign) (by decide)
      cases front : address.text.toList with
      | nil => simp [front] at same
      | cons first later =>
        rw [front] at same noBracket
        exact absurd ((List.cons.inj same).1 ▸ List.mem_cons_self) noBracket
    · rw [takeWhile_separator free, dropWhile_separator free, address.parse_text, port_digits]
      rfl
  | v6 address scope port =>
    have signs : (text (.v6 address scope port)).toList =
        '[' :: (insideText address scope ++ ']' :: ':' :: Nat.toDigits 10 port.toNat) := by
      simp only [text, insideText, String.toList_append, apply_ite String.toList, toString,
        Nat.toList_repr]
      simp
    have free := insideText_free address scope
    rw [parse?, signs]
    simp only [takeWhile_separator free, dropWhile_separator free,
      bracketed_insideText address real scope, List.drop_one, List.tail_cons, port_digits,
      Option.bind_eq_bind, Option.bind_some]

end FilecoinRosetta.Internet.SocketAddress
