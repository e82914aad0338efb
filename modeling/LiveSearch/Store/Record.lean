import LiveSearch.Json.Printer

/-!
# Records and their keys

A record is a JSON value.  It is listed under its key: the text of its key field, or of the value
itself if it is no object.
-/

namespace LiveSearch

/-- The text of a key: strings stand for themselves and numbers for their text. -/
def Json.keyText? : Json → Option String
  | .string text => some text
  | .number value => some (String.ofList value.write)
  | _ => none

/-- The key under which a record is listed. -/
def keyOf? (field : String) (record : Json) : Option String :=
  match record with
  | .object fields => (Json.lookup field fields).bind Json.keyText?
  | other => other.keyText?

end LiveSearch
