import RtsNotebook.Messaging.Metadata

/-!
# Deciding what a notebook hydrates

The synchronous part of `MetadataLoader.onDidOpenNotebook`: the checks on the
persisted metadata and the hydrate envelope they let through.  A conversion
that throws rejects the promise of the asynchronous method, which activation
ignores; here the whole decision is then `none`.
-/

namespace RtsNotebook.Notebook.MetadataLoader

open RtsNotebook.Js RtsNotebook.Messaging

/-- `NOTEBOOK_TYPE` -/
def NOTEBOOK_TYPE : JsString := js "llmnb"

/-- The fields of `vscode.NotebookDocument` that the loader reads. -/
structure NotebookDocument where
  uri : JsString
  notebookType : JsString
  metadata : Option Json

/-- A field that looks like a secret, with the rule it matches. -/
structure ForbiddenSecretMatch where
  path : JsString
  pattern : JsString
  deriving DecidableEq, Repr

/-- One code unit of `toLowerCase`, exact as far as the result holds ASCII
letters: beside the capitals, only the Kelvin sign and the dotted capital I
have such letters in their lower case. -/
def lowerUnit (codeUnit : UInt16) : JsString :=
  if unit 'A' ≤ codeUnit ∧ codeUnit ≤ unit 'Z' then
    [codeUnit + 32]
  else if codeUnit = 0x212A then
    js "k"
  else if codeUnit = 0x0130 then
    [unit 'i', 0x0307]
  else
    [codeUnit]

/-- `name.toLowerCase()`, as far as the rules look at it. -/
def toLowerCase (name : JsString) : JsString :=
  name.flatMap lowerUnit

/-- One rule of `FORBIDDEN_FIELD_PATTERNS`. -/
inductive ForbiddenRule where
  | suffix (ending : JsString)
  | exact (name : JsString)

def ForbiddenRule.holds (rule : ForbiddenRule) (name : JsString) : Bool :=
  match rule with
  | suffix ending => ending.isSuffixOf name
  | exact expected => name = expected

def ForbiddenRule.description : ForbiddenRule → JsString
  | suffix ending => js "*" ++ ending
  | exact name => name

/-- `FORBIDDEN_FIELD_PATTERNS`, in the order in which they are tried. -/
def FORBIDDEN_FIELD_PATTERNS : List ForbiddenRule :=
  [.suffix (js "_key"), .suffix (js "_token"), .suffix (js "_password"),
    .suffix (js "_secret"), .exact (js "api_key"),
    .exact (js "authorization"), .exact (js "bearer"), .exact (js "cookie")]

/-- The description of the first rule that a field name matches. -/
def forbiddenPattern? (name : JsString) : Option JsString :=
  (FORBIDDEN_FIELD_PATTERNS.find? fun rule =>
    rule.holds (toLowerCase name)).map ForbiddenRule.description

mutual

/-- `scanForbiddenSecrets` -/
def scanForbiddenSecrets (path : JsString) :
    Json → List ForbiddenSecretMatch
  | .array items => scanItems path 0 items
  | .object members => scanMembers path members
  | _ => []

def scanItems (path : JsString) (index : Nat) :
    List Json → List ForbiddenSecretMatch
  | [] => []
  | item :: rest =>
      scanForbiddenSecrets (path ++ js "[" ++ natDigits index ++ js "]")
          item ++
        scanItems path (index + 1) rest

def scanMembers (path : JsString) :
    List (JsString × Json) → List ForbiddenSecretMatch
  | [] => []
  | (key, value) :: rest =>
      ((forbiddenPattern? key).toList.map fun pattern =>
          { path := path ++ js "." ++ key, pattern := pattern }) ++
        scanForbiddenSecrets (path ++ js "." ++ key) value ++
        scanMembers path rest

end

/-- `readPersistedVersion` -/
def readPersistedVersion (rts : Json) : JsNumber :=
  match rts.member? (js "snapshot_version") with
  | some (.number (.finite version)) => .finite version
  | _ => .ofNat 0 (Or.inr rfl)

/-- The hydrate envelope of a snapshot. -/
def hydrateEnvelope (rts : Json) : Json :=
  .object
    [(js "type", .string (js "notebook.metadata")),
      (js "payload", .object
        [(js "mode", .string (js "hydrate")),
          (js "snapshot_version", .number (readPersistedVersion rts)),
          (js "snapshot", rts),
          (js "trigger", .string (js "open"))])]

/-- What `shipHydrate` finds before it ships: `HydrateLoadOutcome`, with the
envelope in place of `shipped`. -/
inductive HydrateDecision where
  | skippedNoMetadata
  | rejectedSchemaMismatch (observedSchemaMajor : JsString)
  | rejectedForbiddenSecret (forbiddenMatches : List ForbiddenSecretMatch)
  | ship (envelope : Json)

/-- The checks of `onDidOpenNotebook` and `shipHydrate`. -/
def decideHydrate (nb : NotebookDocument) : Option HydrateDecision :=
  if nb.notebookType ≠ NOTEBOOK_TYPE then
    some .skippedNoMetadata
  else
    match nb.metadata.bind fun metadata => metadata.member? (js "rts") with
    | none => some .skippedNoMetadata
    | some rts =>
        if !isObject rts then
          some .skippedNoMetadata
        else
          (schemaMajor? rts).map fun observedMajor =>
            if observedMajor ≠ RFC005_SCHEMA_MAJOR then
              .rejectedSchemaMismatch observedMajor
            else
              let forbidden :=
                match rts.member? (js "config") with
                | none => []
                | some config =>
                    scanForbiddenSecrets (js "metadata.rts.config") config
              if forbidden ≠ [] then
                .rejectedForbiddenSecret forbidden
              else
                .ship (hydrateEnvelope rts)

/-- The envelope of a notebook that passes the checks. -/
def hydrate? (nb : NotebookDocument) : Option Json :=
  match decideHydrate nb with
  | some (.ship envelope) => some envelope
  | _ => none

end RtsNotebook.Notebook.MetadataLoader
