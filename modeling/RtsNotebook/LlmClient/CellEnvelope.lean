import RtsNotebook.Python.Value

/-!
# The envelope of a cell

`_derive_cell_envelope`.  `parse_cell` belongs to another package and the tail
of a section identifier is random; both are parameters.
-/

namespace RtsNotebook.LlmClient

open RtsNotebook.Python

/-- The code that the executor calls and that is not part of this source. -/
structure Surroundings where
  /-- `parse_cell(text).args`, `none` where it raises. -/
  parseCellArgs : PyJson → Option (List (PyString × PyJson))
  /-- `uuid4().hex[:6]`, for the cell at a position of the walk. -/
  uuidTail : Nat → PyString

/-- `re.sub(r"[^a-z0-9]+", "_", text)` -/
def slugify (text : PyString) : PyString :=
  match text with
  | [] => []
  | codePoint :: rest =>
      if keeps codePoint then
        codePoint :: slugify rest
      else
        -- A run of other characters gives one underscore, at its last.
        match rest with
        | next :: _ =>
            if keeps next then 0x5F :: slugify rest else slugify rest
        | [] => [0x5F]
where
  keeps (codePoint : Nat) : Bool :=
    0x61 ≤ codePoint ∧ codePoint ≤ 0x7A ∨ 0x30 ≤ codePoint ∧ codePoint ≤ 0x39

/-- `_mint_section_id_from_title` -/
def mintSectionIdFromTitle (uuidTail title : PyString) : PyString :=
  let slug := (stripChar 0x5F (slugify (lower title))).take 24
  py "sec_" ++ (if slug = [] then [] else slug ++ py "_") ++ uuidTail

/-- The first line of the body that is neither blank nor a directive. -/
def taskOf (lines : List PyString) : PyString :=
  ((lines.map strip).find? fun stripped =>
    stripped ≠ [] && !(py "@@").isPrefixOf stripped).getD []

/-- The body of an `@@agent` cell, without its directive line. -/
def agentBody (text : PyString) : PyString :=
  let lines := splitLines text
  let bodyLines :=
    match lines with
    | first :: rest =>
        if (py "@@agent").isPrefixOf (strip first) then rest else lines
    | [] => lines
  let body := strip (joinLines bodyLines)
  if body = [] then strip text else body

/-- An `operator.action` envelope of a cell. -/
def operatorAction (requestId : PyString)
    (payload : List (PyString × PyJson)) : PyJson :=
  .dict
    [(py "type", .str (py "operator.action")),
      (py "request_id", .str requestId),
      (py "payload", .dict payload)]

def spawnEnvelope (requestId cellId : PyString) (agentId : PyJson)
    (task : PyString) : PyJson :=
  operatorAction requestId
    [(py "action_type", .str (py "agent_spawn")),
      (py "parameters", .dict
        [(py "agent_id", agentId), (py "task", .str task),
          (py "cell_id", .str cellId)]),
      (py "originating_cell_id", .str cellId)]

def continueEnvelope (requestId cellId : PyString) (agentId : PyJson)
    (body : PyString) : PyJson :=
  operatorAction requestId
    [(py "action_type", .str (py "agent_continue")),
      (py "intent_kind", .str (py "send_user_turn")),
      (py "parameters", .dict
        [(py "agent_id", agentId), (py "text", .str body),
          (py "cell_id", .str cellId)]),
      (py "originating_cell_id", .str cellId)]

def sectionEnvelope (requestId cellId : PyString) (ordinal : Nat)
    (sectionId title : PyString) : PyJson :=
  operatorAction requestId
    [(py "action_type", .str (py "zone_mutate")),
      (py "intent_kind", .str (py "apply_overlay_commit")),
      (py "parameters", .dict
        [(py "operations", .list
            [.dict
              [(py "kind", .str (py "create_section")),
                (py "section_id", .str sectionId),
                (py "title", .str title)]]),
          (py "message", .str (py "@@section " ++ title))]),
      (py "intent_id", .str
        (py "sec-cell-" ++ sectionId.take 12 ++ py "-" ++ natText ordinal)),
      (py "originating_cell_id", .str cellId)]

/-- `request_id = f"{session_id}:{ordinal}"` -/
def requestIdOf (sessionId : PyString) (ordinal : Nat) : PyString :=
  sessionId ++ py ":" ++ natText ordinal

/-- `_derive_cell_envelope`; `none` stands for the `None` of a cell without an
envelope. -/
def deriveCellEnvelope (surroundings : Surroundings) (cellId : PyString)
    (record : List (PyString × PyJson)) (sessionId : PyString)
    (ordinal : Nat) : Except Stop (Option PyJson) :=
  let text := (getD record (py "text") (.str [])).orElse (.str [])
  let agentId := get record (py "bound_agent_id")
  let requestId := requestIdOf sessionId ordinal
  match (get record (py "kind")).orElse (.str []) with
  | .str kindText =>
      let kind := lower kindText
      if kind = py "spawn" then
        match text with
        | .str body =>
            .ok (some (spawnEnvelope requestId cellId agentId
              (taskOf (splitLines body))))
        | _ => .error .raised
      else if kind = py "agent" ∧ agentId.truthy then
        match text with
        | .str body =>
            .ok (some (continueEnvelope requestId cellId agentId
              (agentBody body)))
        | _ => .error .raised
      else if kind = py "section" then
        match surroundings.parseCellArgs text with
        | none => .ok none
        | some args =>
            let title :=
              (get args (py "title")).orElse (get args (py "section_name"))
            match title with
            | .str titleText =>
                if strip titleText = [] then
                  .ok none
                else
                  let sectionId :=
                    match get args (py "section_id") with
                    | .str (first :: rest) => first :: rest
                    | _ =>
                        mintSectionIdFromTitle
                          (surroundings.uuidTail ordinal) titleText
                  .ok (some (sectionEnvelope requestId cellId ordinal
                    sectionId titleText))
            | _ => .ok none
      else
        .ok none
  -- `.lower()` on something that is no string.
  | _ => .error .raised

end RtsNotebook.LlmClient
