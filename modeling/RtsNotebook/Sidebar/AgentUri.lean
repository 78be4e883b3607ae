import RtsNotebook.Js.Uri

/-!
# The resource URI of an agent row

The tree gives every agent a URI, and the decoration provider reads the ids
back out of it.  In between, the class of the URI decodes the path.
-/

namespace RtsNotebook.Sidebar

open RtsNotebook.Js

def AGENT_RESOURCE_SCHEME : JsString :=
  js "llmnb-agent"

def slash : UInt16 :=
  unit '/'

/-- `agentResourceUriString` -/
def agentResourceUriString (zoneId agentId : JsString) : Option JsString := do
  let zone ← encodeURIComponent zoneId
  let agent ← encodeURIComponent agentId
  pure (AGENT_RESOURCE_SCHEME ++ js ":///" ++ zone ++ js "/" ++ agent)

/-- `parseAgentResourceUriPath` -/
def parseAgentResourceUriPath : JsString → Option (JsString × JsString)
  | [] => none
  | first :: rest =>
      if first = slash then
        match rest.splitOn slash with
        | [rawZone, rawAgent] =>
            if rawZone = [] ∨ rawAgent = [] then
              none
            else do
              let zoneId ← decodeURIComponent rawZone
              let agentId ← decodeURIComponent rawAgent
              pure (zoneId, agentId)
        | _ => none
      else
        none

/-- A `vscode.Uri`, with the components that are read. -/
structure Uri where
  scheme : JsString
  path : JsString

/-- The code units that end a scheme. -/
def schemeEnds : JsString :=
  js ":/?#"

/-- The code units that end a path. -/
def pathEnds : JsString :=
  js "?#"

/-- `vscode.Uri.parse`, which splits a text into its components and stores the
path decoded; without an authority it may reject a path of two slashes. -/
structure UriClass where
  parse : JsString → Option Uri
  splits : ∀ {scheme path decoded : JsString},
    (∀ codeUnit ∈ scheme, codeUnit ∉ schemeEnds) →
    (∀ codeUnit ∈ path, codeUnit ∉ pathEnds) →
    decodeURIComponent (slash :: path) = some decoded →
    parse (scheme ++ js "://" ++ slash :: path) = some ⟨scheme, decoded⟩ ∨
      js "//" <+: decoded ∧
        parse (scheme ++ js "://" ++ slash :: path) = none

/-- The ids that `provideFileDecoration` reads from a URI. -/
def decoratedIds (uri : Uri) : Option (JsString × JsString) :=
  if uri.scheme ≠ AGENT_RESOURCE_SCHEME then
    none
  else
    parseAgentResourceUriPath uri.path

/-- The ids that come back from the URI of an agent. -/
def idsOfUri (uriClass : UriClass) (zoneId agentId : JsString) :
    Option (JsString × JsString) := do
  let text ← agentResourceUriString zoneId agentId
  let uri ← uriClass.parse text
  decoratedIds uri

/-- A well-formed string that is not empty. -/
structure Identifier where
  text : JsString
  wellFormed : isWellFormed text = true
  nonempty : text ≠ []

/-! ### The path -/

def writtenSlash : Written :=
  .plain '/' (by decide) (by decide)

/-- The encoded path of two ids, behind its first slash. -/
def writtenPath (zone agent : List Char) : List Written :=
  zone.map writeComponent ++ writtenSlash :: agent.map writeComponent

theorem agentResourceUriString_units (zone agent : List Char) :
    agentResourceUriString (units zone) (units agent) =
      some (AGENT_RESOURCE_SCHEME ++ js "://" ++
        slash :: (writtenPath zone agent).flatMap Written.text) := by
  have scheme : js ":///" = js "://" ++ [slash] := by decide
  rw [agentResourceUriString, encodeURIComponent_units,
    encodeURIComponent_units, writtenPath, List.flatMap_append,
    List.flatMap_cons, scheme]
  simp only [Option.bind_eq_bind, Option.bind_some, Option.pure_def,
    List.append_assoc, List.singleton_append]
  rfl

theorem decoded_writtenPath (zone agent : List Char) :
    decodeURIComponent
        (slash :: (writtenPath zone agent).flatMap Written.text) =
      some (slash :: (units zone ++ slash :: units agent)) := by
  have decoded := Written.decodeURIComponent_written
    (writtenSlash :: writtenPath zone agent)
  have behind : (writtenPath zone agent).map Written.character =
      zone ++ '/' :: agent := by
    rw [writtenPath, List.map_append, List.map_cons,
      characters_writeComponent, characters_writeComponent]
    rfl
  rw [List.map_cons, behind, units_cons, units_append, units_cons] at decoded
  exact decoded

theorem digit_notEnd :
    ∀ value < 16, upperHexDigit value ∉ pathEnds := by
  decide

theorem unreserved_notEnd :
    ∀ character ∈ unreserved, unit character ∉ pathEnds :=
  List.all_iff_forall_prop.mp (by decide)

/-- Neither a query nor a fragment begins in an encoded component. -/
theorem writeComponent_notEnd (character : Char) :
    ∀ codeUnit ∈ (writeComponent character).text, codeUnit ∉ pathEnds := by
  intro codeUnit isMember
  rw [writeComponent] at isMember
  split at isMember
  · rename_i isLeft
    rw [List.mem_singleton.mp isMember]
    exact unreserved_notEnd character isLeft
  · obtain ⟨octet, _, isMember⟩ := List.mem_flatMap.mp isMember
    have below : octet.toNat < 256 := octet.toNat_lt
    rcases List.mem_cons.mp isMember with rfl | isMember
    · decide
    · rcases List.mem_cons.mp isMember with rfl | isMember
      · exact digit_notEnd _ (by omega)
      · rw [List.mem_singleton.mp isMember]
        exact digit_notEnd _ (by omega)

theorem writtenPath_notEnd (zone agent : List Char) :
    ∀ codeUnit ∈ (writtenPath zone agent).flatMap Written.text,
      codeUnit ∉ pathEnds := by
  intro codeUnit isMember
  obtain ⟨written, isWritten, isMember⟩ := List.mem_flatMap.mp isMember
  have ofComponent {characters : List Char}
      (isWritten : written ∈ characters.map writeComponent) :
      codeUnit ∉ pathEnds := by
    obtain ⟨character, _, rfl⟩ := List.mem_map.mp isWritten
    exact writeComponent_notEnd character codeUnit isMember
  rcases List.mem_append.mp isWritten with inZone | inAgent
  · exact ofComponent inZone
  · rcases List.mem_cons.mp inAgent with rfl | inAgent
    · rw [List.mem_singleton.mp isMember]
      decide
    · exact ofComponent inAgent

/-! ### The ids that come back -/

section

variable {zoneId agentId : JsString}

/-- Two segments are left exactly where no id holds a slash. -/
theorem splitOn_pair (noneInZone : slash ∉ zoneId)
    (noneInAgent : slash ∉ agentId) :
    (zoneId ++ slash :: agentId).splitOn slash = [zoneId, agentId] := by
  rw [List.splitOn_append_cons_self_of_not_mem noneInZone,
    List.splitOn_eq_singleton noneInAgent]

theorem length_splitOn_of_mem {text : JsString} (isMember : slash ∈ text) :
    2 ≤ (text.splitOn slash).length := by
  obtain ⟨before, behind, rfl⟩ := List.append_of_mem isMember
  have first := List.length_pos_iff.mpr (List.splitOn_ne_nil slash before)
  have second := List.length_pos_iff.mpr (List.splitOn_ne_nil slash behind)
  rw [List.splitOn_append_cons_self, List.length_append]
  omega

theorem length_splitOn_pair (inOne : slash ∈ zoneId ∨ slash ∈ agentId) :
    2 < ((zoneId ++ slash :: agentId).splitOn slash).length := by
  have first := List.length_pos_iff.mpr (List.splitOn_ne_nil slash zoneId)
  have second := List.length_pos_iff.mpr (List.splitOn_ne_nil slash agentId)
  rw [List.splitOn_append_cons_self, List.length_append]
  rcases inOne with inZone | inAgent
  · have more := length_splitOn_of_mem inZone
    omega
  · have more := length_splitOn_of_mem inAgent
    omega

theorem parse_withSlash (inOne : slash ∈ zoneId ∨ slash ∈ agentId) :
    parseAgentResourceUriPath (slash :: (zoneId ++ slash :: agentId)) =
      none := by
  have more := length_splitOn_pair inOne
  rw [parseAgentResourceUriPath, if_pos rfl]
  split
  · rename_i rawZone rawAgent pair
    rw [pair] at more
    exact absurd more (by simp)
  · rfl

theorem parse_withoutSlash (noneInZone : slash ∉ zoneId)
    (noneInAgent : slash ∉ agentId) (zoneNonempty : zoneId ≠ [])
    (agentNonempty : agentId ≠ []) :
    parseAgentResourceUriPath (slash :: (zoneId ++ slash :: agentId)) =
      (decodeURIComponent zoneId).bind fun zone =>
        (decodeURIComponent agentId).bind fun agent =>
          some (zone, agent) := by
  have bothNonempty : ¬ (zoneId = [] ∨ agentId = []) :=
    not_or.mpr ⟨zoneNonempty, agentNonempty⟩
  rw [parseAgentResourceUriPath, if_pos rfl,
    splitOn_pair noneInZone noneInAgent]
  dsimp only
  rw [if_neg bothNonempty]
  rfl

end

/-- What comes back is read from the ids as they were, or the class rejects a
zone that begins with a slash. -/
theorem idsOfUri_eq (uriClass : UriClass) (zone agent : Identifier) :
    idsOfUri uriClass zone.text agent.text =
        parseAgentResourceUriPath
          (slash :: (zone.text ++ slash :: agent.text)) ∨
      slash ∈ zone.text ∧ idsOfUri uriClass zone.text agent.text = none := by
  have zoneUnits := units_scalars zone.wellFormed
  have agentUnits := units_scalars agent.wellFormed
  have text := agentResourceUriString_units (scalars zone.text)
    (scalars agent.text)
  have decoded := decoded_writtenPath (scalars zone.text) (scalars agent.text)
  rw [zoneUnits, agentUnits] at text decoded
  have schemePlain : ∀ codeUnit ∈ AGENT_RESOURCE_SCHEME,
      codeUnit ∉ schemeEnds := List.all_iff_forall_prop.mp (by decide)
  rw [idsOfUri, text, Option.bind_eq_bind, Option.bind_some]
  rcases uriClass.splits schemePlain (writtenPath_notEnd _ _) decoded with
    parsed | ⟨twoSlashes, rejected⟩
  · left
    rw [parsed, Option.bind_eq_bind, Option.bind_some, decoratedIds,
      if_neg (not_not_intro rfl)]
  · right
    rw [rejected]
    refine ⟨?_, rfl⟩
    cases zoneText : zone.text with
    | nil => exact absurd zoneText zone.nonempty
    | cons first rest =>
        rw [zoneText] at twoSlashes
        have behindFirst := (List.cons_prefix_cons.mp twoSlashes).2
        have isSlash : slash = first := (List.cons_prefix_cons.mp behindFirst).1
        rw [isSlash]
        exact List.mem_cons_self

/-! ### The round trip -/

/-- An id that holds neither a slash nor a percent sign. -/
def Plain (id : Identifier) : Prop :=
  slash ∉ id.text ∧ percentMark ∉ id.text

/-- Decoding an id gives it back exactly where it has no escape. -/
theorem decodeURIComponent_eq_self {text : JsString} :
    decodeURIComponent text = some text ↔ percentMark ∉ text := by
  constructor
  · intro same isMember
    exact absurd ((length_decodeURIComponent same).2 isMember)
      (Nat.lt_irrefl _)
  · exact decodeURIComponent_plain

/-- The ids of an agent come back from its URI if and only if both are plain:
they are decoded once with the path and once more by the parser. -/
theorem agentUri_roundTrips_iff (uriClass : UriClass)
    (zone agent : Identifier) :
    idsOfUri uriClass zone.text agent.text = some (zone.text, agent.text) ↔
      Plain zone ∧ Plain agent := by
  have read := idsOfUri_eq uriClass zone agent
  by_cases inOne : slash ∈ zone.text ∨ slash ∈ agent.text
  · have nothing : idsOfUri uriClass zone.text agent.text = none := by
      rcases read with parsed | ⟨_, rejected⟩
      · rw [parsed, parse_withSlash inOne]
      · exact rejected
    rw [nothing]
    constructor
    · intro same
      cases same
    · rintro ⟨zonePlain, agentPlain⟩
      rcases inOne with inZone | inAgent
      · exact absurd inZone zonePlain.1
      · exact absurd inAgent agentPlain.1
  · obtain ⟨noneInZone, noneInAgent⟩ := not_or.mp inOne
    have parsed : idsOfUri uriClass zone.text agent.text =
        (decodeURIComponent zone.text).bind fun zoneId =>
          (decodeURIComponent agent.text).bind fun agentId =>
            some (zoneId, agentId) := by
      rcases read with parsed | ⟨inZone, _⟩
      · rw [parsed, parse_withoutSlash noneInZone noneInAgent zone.nonempty
          agent.nonempty]
      · exact absurd inZone noneInZone
    rw [parsed]
    constructor
    · intro same
      obtain ⟨zoneId, zoneDecoded, same⟩ := Option.bind_eq_some_iff.mp same
      obtain ⟨agentId, agentDecoded, same⟩ := Option.bind_eq_some_iff.mp same
      cases same
      exact ⟨⟨noneInZone, decodeURIComponent_eq_self.mp zoneDecoded⟩,
        noneInAgent, decodeURIComponent_eq_self.mp agentDecoded⟩
    · rintro ⟨⟨_, zonePlain⟩, _, agentPlain⟩
      rw [decodeURIComponent_plain zonePlain,
        decodeURIComponent_plain agentPlain]
      rfl

/-! ### A class of URIs -/

/-- The components of a text: scheme, authority and path. -/
def splitUri (text : JsString) : Option Uri :=
  let scheme := text.takeWhile fun codeUnit => codeUnit ∉ schemeEnds
  if js "://" <+: text.drop scheme.length then
    let afterAuthority := (text.drop (scheme.length + 3)).dropWhile
      fun codeUnit => codeUnit ∉ slash :: pathEnds
    (decodeURIComponent
      (afterAuthority.takeWhile fun codeUnit => codeUnit ∉ pathEnds)).map
        fun path => ⟨scheme, path⟩
  else
    none

/-- The class that splits a text and does nothing else. -/
def splittingUris : UriClass where
  parse := splitUri
  splits := by
    intro scheme path decoded schemePlain pathPlain isDecoded
    have schemeEq : (scheme ++ js "://" ++ slash :: path).takeWhile
        (fun codeUnit => codeUnit ∉ schemeEnds) = scheme := by
      rw [List.append_assoc, List.takeWhile_append_of_pos]
      · exact List.append_nil scheme
      · intro codeUnit isMember
        exact decide_eq_true (schemePlain codeUnit isMember)
    have marked : js "://" <+:
        (scheme ++ js "://" ++ slash :: path).drop scheme.length := by
      rw [List.append_assoc, List.drop_left]
      exact List.prefix_append _ _
    have behind : (scheme ++ js "://" ++ slash :: path).drop
        (scheme.length + 3) = slash :: path := by
      rw [← List.drop_drop, List.append_assoc, List.drop_left]
      rfl
    have pathEq : (slash :: path).takeWhile
        (fun codeUnit => codeUnit ∉ pathEnds) = slash :: path := by
      have plain : ∀ codeUnit ∈ slash :: path,
          decide (codeUnit ∉ pathEnds) = true := by
        intro codeUnit isMember
        rcases List.mem_cons.mp isMember with rfl | isMember
        · decide
        · exact decide_eq_true (pathPlain codeUnit isMember)
      rw [← List.append_nil (slash :: path),
        List.takeWhile_append_of_pos plain]
      rfl
    have noAuthority : (slash :: path).dropWhile
        (fun codeUnit => codeUnit ∉ slash :: pathEnds) = slash :: path := rfl
    left
    rw [splitUri, schemeEq, if_pos marked, behind, noAuthority]
    dsimp only
    rw [pathEq, isDecoded]
    rfl

def zoneOne : Identifier where
  text := js "z1"
  wellFormed := by decide
  nonempty := by decide

/-- The id `a/b` does not come back, and neither does `100%`. -/
theorem slashAndPercent_lost :
    idsOfUri splittingUris (js "z1") (js "a/b") = none ∧
      idsOfUri splittingUris (js "z1") (js "100%") = none := by
  let withSlash : Identifier := ⟨js "a/b", by decide, by decide⟩
  let withPercent : Identifier := ⟨js "100%", by decide, by decide⟩
  constructor
  · rcases idsOfUri_eq splittingUris zoneOne withSlash with
      parsed | ⟨_, rejected⟩
    · exact parsed.trans (parse_withSlash (Or.inr (by decide)))
    · exact rejected
  · rcases idsOfUri_eq splittingUris zoneOne withPercent with
      parsed | ⟨_, rejected⟩
    · refine parsed.trans ?_
      rw [parse_withoutSlash (by decide) (by decide) zoneOne.nonempty
        withPercent.nonempty]
      have malformed : decodeURIComponent withPercent.text = none := by
        rw [decodeURIComponent]
        rfl
      rw [malformed]
      cases decodeURIComponent zoneOne.text with
      | none => rfl
      | some zoneId => rfl
    · exact rejected

end RtsNotebook.Sidebar
