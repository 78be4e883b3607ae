import RtsNotebook.Messaging.RunMime

/-!
# The schema version of a metadata snapshot

The test that the loader makes before it ships a snapshot and the applier
before it applies one.
-/

namespace RtsNotebook.Messaging

open RtsNotebook.Js

/-- `RFC005_SCHEMA_MAJOR` -/
def RFC005_SCHEMA_MAJOR : JsString := js "1"

/-- `String(snapshot.schema_version ?? '').split('.')[0]` -/
def schemaMajor? (snapshot : Json) : Option JsString :=
  let text :=
    match snapshot.member? (js "schema_version") with
    | none => some []
    | some .null => some []
    | some version => version.toText?
  text.map fun characters => characters.takeWhile (· ≠ unit '.')

end RtsNotebook.Messaging
