import RtsNotebook.Js.Value

/-!
# Blob references

`BlobResolver`: what becomes of a string of the form `$blob:sha256:<hex>`, and
of a parsed JSON value that holds such strings.  The entries of the table may
have any shape.
-/

namespace RtsNotebook.Llmnb

open RtsNotebook.Js

/-- The table of blobs and the hash function; `some none` is the `undefined`
that `sha256` gives where there is no `node:crypto`. -/
structure BlobTable where
  entry? : JsString → Option Json
  sha256? : Option Json → Option (Option JsString)

def BLOB_PREFIX : JsString := js "$blob:sha256:"

namespace BlobTable

/-- `BlobResolver.resolveString` -/
def resolveString? (blobs : BlobTable) (value : JsString) :
    Option JsValue :=
  if !BLOB_PREFIX.isPrefixOf value then
    some (.string value)
  else
    let fullKey := value.drop (js "$blob:").length
    match (blobs.entry? fullKey).filter Json.truthy with
    | none => some (.string (js "[unresolved blob: " ++ fullKey ++ js "]"))
    | some entry =>
        let encoding := entry.member? (js "encoding")
        if encoding.bind Json.asString? ≠ some (js "utf-8") then
          match encoding with
          | none =>
              some (.string (js "[unsupported blob encoding: undefined]"))
          | some other =>
              other.toText?.map fun text =>
                .string (js "[unsupported blob encoding: " ++ text ++ js "]")
        else
          let expected := fullKey.drop (js "sha256:").length
          let data := entry.member? (js "data")
          match blobs.sha256? data with
          | none => none
          | some computed =>
              if computed.any (· ≠ expected) then
                some (.string (js "[corrupt blob: " ++ fullKey ++ js "]"))
              else
                some (data.elim .undefined .ofJson)

mutual

/-- `BlobResolver.resolve` -/
def resolve? (blobs : BlobTable) : Json → Option JsValue
  | .string value => blobs.resolveString? value
  | .array items =>
      (resolveItems? blobs items).map fun resolved => .array resolved []
  | .object members => resolveMembers? blobs (.object []) members
  | value => some (.ofJson value)

def resolveItems? (blobs : BlobTable) : List Json → Option (List JsValue)
  | [] => some []
  | item :: rest => do
      let resolved ← resolve? blobs item
      let resolvedRest ← resolveItems? blobs rest
      pure (resolved :: resolvedRest)

def resolveMembers? (blobs : BlobTable) (copy : JsValue) :
    List (JsString × Json) → Option JsValue
  | [] => some copy
  | (key, value) :: rest =>
      match resolve? blobs value with
      | none => none
      | some resolved =>
          resolveMembers? blobs (copy.copyMember key resolved) rest

end

end BlobTable

end RtsNotebook.Llmnb
