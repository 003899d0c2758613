import FilecoinRosetta.Lotus.Endpoint
import Mathlib.Data.List.Infix
import Mathlib.Data.List.TakeWhile

/-!
# Endpoints derived again

The path of a node's URL falls into what stands in front of its ending, the ending,
and slashes behind it. No ending is hidden in another, so there is one way to cut a
path, and both endpoints keep what stands in front. Either of them therefore stands
for the same endpoints again.
-/

namespace FilecoinRosetta

/-- A URL that is read back from its text as it is. -/
def Url.Stable (url : Url) : Prop :=
  Url.parse? url.text = some url

namespace Lotus.Endpoint

/-! ## Paths -/

/-- What a path that says where a node is ends with. -/
def endings : List String := ["/rpc", "/rpc/v0", "/rpc/v1", "/rpc/v2"]

/-- A path that ends as it should, apart from slashes at its end, and what stands in
front of the ending. -/
def EndsBehind (base : List Char) (path : String) : Prop :=
  ∃ ending ∈ endings, ∃ slashes, path.toList = base ++ ending.toList ++ List.replicate slashes '/'

/-- Slashes at the end are taken away, and nothing else. -/
theorem trimSlashes_append {text : List Char} (ends : text.getLast? ≠ some '/') (slashes : Nat) :
    trimSlashes (text ++ List.replicate slashes '/') = text := by
  have areSlashes : ∀ sign ∈ List.replicate slashes '/', (sign == '/') = true := by
    intro sign member
    exact beq_iff_eq.mpr (List.eq_of_mem_replicate member)
  have kept : text.reverse.dropWhile (· == '/') = text.reverse := by
    rw [← List.head?_reverse] at ends
    cases reversed : text.reverse with
    | nil => rfl
    | cons last rest =>
      have noSlash : last ≠ '/' := by simpa [reversed] using ends
      rw [List.dropWhile_cons_of_neg (by simpa using noSlash)]
  rw [trimSlashes, List.reverse_append, List.reverse_replicate,
    List.dropWhile_append_of_pos areSlashes, kept, List.reverse_reverse]

/-- What is taken away are slashes, so nothing else of a path is lost. -/
theorem trimSlashes_slashes (path : List Char) :
    ∃ slashes, path = trimSlashes path ++ List.replicate slashes '/' := by
  refine ⟨(path.reverse.takeWhile (· == '/')).length, ?_⟩
  have areSlashes : path.reverse.takeWhile (· == '/') =
      List.replicate (path.reverse.takeWhile (· == '/')).length '/' := by
    apply List.eq_replicate_of_mem
    intro sign member
    simpa using List.mem_takeWhile_imp member
  rw [trimSlashes, ← List.reverse_replicate, ← areSlashes, ← List.reverse_append,
    List.takeWhile_append_dropWhile, List.reverse_reverse]

/-- No ending ends with a slash, so it makes no difference whether slashes are taken
away before or after it. -/
theorem endings_last (base : List Char) :
    ∀ ending ∈ endings, (base ++ ending.toList).getLast? ≠ some '/' := by
  intro ending isEnding
  have last : ∀ ending ∈ endings, ending.toList.getLast? ≠ none ∧
      ending.toList.getLast? ≠ some '/' := by decide
  obtain ⟨sign, isLast⟩ := Option.ne_none_iff_exists'.mp (last ending isEnding).1
  have noSlash := (last ending isEnding).2
  rw [List.getLast?_append, isLast, Option.some_or]
  rwa [isLast] at noSlash

/-- No ending is hidden in another, so at most one of them can be taken away. -/
theorem endings_apart {base : List Char} {ending other : String} (isEnding : ending ∈ endings)
    (isOther : other ∈ endings) (ends : other.toList <:+ base ++ ending.toList) :
    other = ending := by
  have apart : ∀ one ∈ endings, ∀ two ∈ endings, one.toList <:+ two.toList → one = two := by decide
  have itself : ending.toList <:+ base ++ ending.toList := List.suffix_append base ending.toList
  rcases Nat.le_total other.toList.length ending.toList.length with shorter | longer
  · exact apart other isOther ending isEnding (List.suffix_of_suffix_length_le ends itself shorter)
  · exact (apart ending isEnding other isOther
      (List.suffix_of_suffix_length_le itself ends longer)).symm

/-- What stands in front of an ending is the base, and only a text with
the ending has one. -/
theorem stripEnding_iff {ending : String} {text base : List Char} :
    stripEnding? ending text = some base ↔ text = base ++ ending.toList := by
  rw [stripEnding?]
  constructor
  · intro stripped
    split at stripped
    · rename_i ends
      obtain ⟨front, rfl⟩ := List.isSuffixOf_iff_suffix.mp ends
      obtain rfl : front = base := by simpa using stripped
      rfl
    · contradiction
  · rintro rfl
    have ends : ending.toList.isSuffixOf (base ++ ending.toList) = true :=
      List.isSuffixOf_iff_suffix.mpr (List.suffix_append base ending.toList)
    simp [ends]

/-- No other ending can be taken away from what one of them was put behind. -/
theorem stripEnding_other (base : List Char) {ending other : String} (isEnding : ending ∈ endings)
    (isOther : other ∈ endings) (different : other ≠ ending) :
    stripEnding? other (base ++ ending.toList) = none := by
  rw [Option.eq_none_iff_forall_ne_some]
  intro front stripped
  exact different (endings_apart isEnding isOther ⟨front, (stripEnding_iff.mp stripped).symm⟩)

/-- The common path is what stands in front of the ending, and `/rpc`. -/
theorem commonPath_iff {path : String} {common : List Char} :
    commonPath? path = some common ↔ ∃ base, EndsBehind base path ∧
      common = base ++ "/rpc".toList := by
  constructor
  · intro isCommon
    obtain ⟨slashes, trimmed⟩ := trimSlashes_slashes path.toList
    rw [commonPath?] at isCommon
    generalize trimSlashes path.toList = front at trimmed isCommon
    split at isCommon
    · rename_i ends
      obtain ⟨base, rfl⟩ := List.isSuffixOf_iff_suffix.mp ends
      exact ⟨base, ⟨"/rpc", by decide, slashes, trimmed⟩, (Option.some.inj isCommon).symm⟩
    · obtain ⟨ending, isVersion, found⟩ := List.exists_of_findSome?_eq_some isCommon
      obtain ⟨base, stripped, rfl⟩ := Option.map_eq_some_iff.mp found
      obtain rfl := stripEnding_iff.mp stripped
      exact ⟨base, ⟨ending, List.mem_cons_of_mem "/rpc" isVersion, slashes, trimmed⟩, rfl⟩
  · rintro ⟨base, ⟨ending, isEnding, slashes, cut⟩, rfl⟩
    have trimmed : trimSlashes path.toList = base ++ ending.toList := by
      rw [cut, trimSlashes_append (endings_last base ending isEnding)]
    have itself : stripEnding? ending (base ++ ending.toList) = some base := stripEnding_iff.mpr rfl
    rw [commonPath?, trimmed]
    split
    · rename_i ends
      obtain rfl : "/rpc" = ending :=
        endings_apart isEnding (by decide) (List.isSuffixOf_iff_suffix.mp ends)
      rfl
    · rename_i noEnd
      have longer : ending ≠ "/rpc" := by
        rintro rfl
        exact noEnd (List.isSuffixOf_iff_suffix.mpr (List.suffix_append _ _))
      obtain rfl | rfl | rfl : ending = "/rpc/v0" ∨ ending = "/rpc/v1" ∨ ending = "/rpc/v2" := by
        simpa [endings, longer] using isEnding
      · simp only [List.findSome?_cons, itself, Option.map_some]
      · have before := stripEnding_other base isEnding (by decide : "/rpc/v0" ∈ endings) (by decide)
        simp only [List.findSome?_cons, before, itself, Option.map_none, Option.map_some]
      · have first := stripEnding_other base isEnding (by decide : "/rpc/v0" ∈ endings) (by decide)
        have second := stripEnding_other base isEnding (by decide : "/rpc/v1" ∈ endings) (by decide)
        simp only [List.findSome?_cons, first, second, itself, Option.map_none, Option.map_some]

/-! ## URLs -/

/-- The URL with a version behind what stands in front of the ending of its path. -/
def versionAt (url : Url) (base : List Char) (version : String) : Url :=
  url.withPath (String.ofList (base ++ version.toList))

/-- What stands in front of the ending of an endpoint's path stays what it was. -/
theorem versionAt_ends (url : Url) (base : List Char) {version : String}
    (isEnding : version ∈ endings) :
    EndsBehind base (versionAt url base version).path :=
  ⟨version, isEnding, 0, by simp [versionAt, Url.withPath]⟩

/-- A URL stands for the endpoint whose URLs differ from it in the ending alone. -/
theorem ofUrl_eq {url : Url} {base : List Char} (ends : EndsBehind base url.path)
    (token : Option String) :
    ofUrl url token = .ok ⟨versionAt url base "/rpc/v1", versionAt url base "/rpc/v2",
      token.filter fun text => text != ""⟩ := by
  have common : commonPath? url.path = some (base ++ "/rpc".toList) :=
    commonPath_iff.mpr ⟨base, ends, rfl⟩
  have joined (version : String) : versioned url (base ++ "/rpc".toList) version =
      versionAt url base ("/rpc" ++ version) := by
    simp only [versioned, versionAt, String.toList_append, List.append_assoc]
  rw [ofUrl, common]
  simp only [joined]
  rfl

/-- A text stands for an endpoint if it is a URL whose path ends as it should. -/
theorem ofText_ok_iff {source : String} {token : Option String} {endpoint : Endpoint} :
    ofText source token = .ok endpoint ↔
      ∃ url base, Url.parse? source = some url ∧ EndsBehind base url.path ∧
        endpoint = ⟨versionAt url base "/rpc/v1", versionAt url base "/rpc/v2",
          token.filter fun text => text != ""⟩ := by
  rw [ofText]
  constructor
  · intro accepted
    split at accepted
    · contradiction
    · rename_i url isUrl
      cases isCommon : commonPath? url.path with
      | none =>
        rw [ofUrl, isCommon] at accepted
        contradiction
      | some common =>
        obtain ⟨base, ends, -⟩ := commonPath_iff.mp isCommon
        rw [ofUrl_eq ends] at accepted
        exact ⟨url, base, isUrl, ends, (Except.ok.inj accepted).symm⟩
  · rintro ⟨url, base, isUrl, ends, rfl⟩
    simp only [isUrl, ofUrl_eq ends]

/-! ## Endpoints derived again -/

/-- A URL that is read back and ends as it should stands for the endpoint that it
is a part of. -/
theorem ofText_versionAt {url : Url} {base : List Char} {version : String}
    (isEnding : version ∈ endings) (stable : (versionAt url base version).Stable)
    (token : Option String) :
    ofText (versionAt url base version).text token =
      .ok ⟨versionAt url base "/rpc/v1", versionAt url base "/rpc/v2",
        token.filter fun text => text != ""⟩ :=
  ofText_ok_iff.mpr ⟨versionAt url base version, base, stable,
    versionAt_ends url base isEnding, rfl⟩

/-- A text stands for an endpoint exactly if it is a URL whose path, without
    slashes at its end, ends as it should. Both URLs of the endpoint differ from it
    in the ending of the path alone. Where such a URL is read back from its text as
    it is, either of them stands for the same endpoint again, and the display form
    for the same URLs. -/
theorem endpoint_stable (source : String) (token : Option String) :
    ((∃ endpoint, ofText source token = .ok endpoint) ↔
      ∃ url base, Url.parse? source = some url ∧ EndsBehind base url.path) ∧
    ∀ endpoint, ofText source token = .ok endpoint →
      (∃ url base, Url.parse? source = some url ∧ EndsBehind base url.path ∧
        endpoint.v1 = url.withPath (String.ofList (base ++ "/rpc/v1".toList)) ∧
        endpoint.v2 = url.withPath (String.ofList (base ++ "/rpc/v2".toList))) ∧
      (endpoint.v1.Stable → ofText endpoint.v1.text token = .ok endpoint ∧
        ∃ shown, ofText endpoint.text none = .ok shown ∧ shown.v1 = endpoint.v1 ∧
          shown.v2 = endpoint.v2) ∧
      (endpoint.v2.Stable → ofText endpoint.v2.text token = .ok endpoint) := by
  constructor
  · constructor
    · rintro ⟨endpoint, accepted⟩
      obtain ⟨url, base, isUrl, ends, -⟩ := ofText_ok_iff.mp accepted
      exact ⟨url, base, isUrl, ends⟩
    · rintro ⟨url, base, isUrl, ends⟩
      exact ⟨_, ofText_ok_iff.mpr ⟨url, base, isUrl, ends, rfl⟩⟩
  · intro endpoint accepted
    obtain ⟨url, base, isUrl, ends, rfl⟩ := ofText_ok_iff.mp accepted
    refine ⟨⟨url, base, isUrl, ends, rfl, rfl⟩, fun stable => ⟨?_, ?_⟩, fun stable => ?_⟩
    · exact ofText_versionAt (by decide) stable token
    · exact ⟨_, ofText_versionAt (by decide) stable none, rfl, rfl⟩
    · exact ofText_versionAt (by decide) stable token

/-- A path with several endings keeps all but the last. -/
theorem node_stable :
    ∃ endpoint, ofText "https://node/api/rpc/v2/rpc/v0//" (some "secret") = .ok endpoint ∧
      endpoint.v1.text = "https://node/api/rpc/v2/rpc/v1" ∧
      ofText "https://node/api/rpc/v2/rpc/v1" (some "secret") = .ok endpoint ∧
      ofText "https://node/api/rpc/v2/rpc/v2" (some "secret") = .ok endpoint := by
  let node (version : String) : Url :=
    ⟨"https", some ⟨none, "node", none⟩, "/api/rpc/v2/rpc" ++ version, none, none⟩
  have accepted : ofText "https://node/api/rpc/v2/rpc/v0//" (some "secret") =
      .ok ⟨node "/v1", node "/v2", some "secret"⟩ := by decide +kernel
  have first : (node "/v1").Stable := by
    unfold Url.Stable
    decide +kernel
  have second : (node "/v2").Stable := by
    unfold Url.Stable
    decide +kernel
  obtain ⟨-, fromFirst, fromSecond⟩ := (endpoint_stable _ _).2 _ accepted
  exact ⟨_, accepted, by decide +kernel, (fromFirst first).1, fromSecond second⟩

end Lotus.Endpoint

end FilecoinRosetta
