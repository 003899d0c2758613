import FilecoinRosetta.Cid

/-!
# What is remembered about addresses

The code of an actor and the canonical form of its address never change once the
chain has assigned them, so both are kept for good, each when it is learned. Entries
go by the displayed address.
-/

namespace FilecoinRosetta

namespace AddressCache

/-- What is known about one address. -/
structure Entry where
  /-- The code of its actor. -/
  code : Option Cid
  /-- Its canonical form. -/
  canonical : Option String
  deriving DecidableEq

/-- The entry of an address nothing is known about. -/
def Entry.unknown : Entry := ⟨none, none⟩

/-- One thing to be learned about an address. -/
inductive Fact where
  /-- The code of its actor. -/
  | code (code : Cid)
  /-- Its canonical form. -/
  | canonical (text : String)
  deriving DecidableEq

/-- Put a fact into an entry. -/
def Entry.learn (entry : Entry) : Fact → Entry
  | .code code => { entry with code := some code }
  | .canonical text => { entry with canonical := some text }

end AddressCache

/-- What is known about all addresses. -/
structure AddressCache where
  /-- The entries by displayed address. -/
  entries : List (String × AddressCache.Entry)
  deriving DecidableEq

namespace AddressCache

/-- The cache that knows nothing. -/
def empty : AddressCache := ⟨[]⟩

/-- What is known about an address. -/
def entry (cache : AddressCache) (name : String) : Entry :=
  (cache.entries.lookup name).getD Entry.unknown

/-- Put a fact into the entry of a name, which is appended if there is none yet. -/
def update (name : String) (fact : Fact) : List (String × Entry) → List (String × Entry)
  | [] => [(name, Entry.unknown.learn fact)]
  | (other, entry) :: rest =>
      if name = other then (other, entry.learn fact) :: rest
      else (other, entry) :: update name fact rest

/-- Learn a fact about an address. -/
def learn (cache : AddressCache) (name : String) (fact : Fact) : AddressCache :=
  ⟨update name fact cache.entries⟩

/-- The entry of a name after a fact was put into it or into another one. -/
theorem lookup_update (name other : String) (fact : Fact) (entries : List (String × Entry)) :
    ((update name fact entries).lookup other).getD Entry.unknown =
      if other = name then ((entries.lookup name).getD Entry.unknown).learn fact
      else (entries.lookup other).getD Entry.unknown := by
  induction entries with
  | nil =>
      by_cases same : other = name
      · simp [update, same]
      · have differs : (other == name) = false := by simpa using same
        simp [update, List.lookup_cons, same, differs]
  | cons head rest ih =>
      obtain ⟨known, entry⟩ := head
      by_cases hit : name = known
      · subst hit
        by_cases same : other = name
        · simp [update, same]
        · have differs : (other == name) = false := by simpa using same
          simp [update, List.lookup_cons, same, differs]
      · by_cases here : other = known
        · subst here
          have differs : ¬ other = name := fun same => hit same.symm
          simp [update, hit, differs]
        · have skipped : (other == known) = false := by simpa using here
          have passed : (name == known) = false := by simpa using hit
          simpa [update, List.lookup_cons, hit, skipped, passed] using ih

/-- Learning changes the entry it is about and no other, so what is said of one
address never touches another. -/
theorem entry_learn (cache : AddressCache) (name other : String) (fact : Fact) :
    (cache.learn name fact).entry other =
      if other = name then (cache.entry name).learn fact else cache.entry other :=
  lookup_update name other fact cache.entries

end AddressCache

end FilecoinRosetta
