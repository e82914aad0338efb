import LiveSearch.Json.Token

/-!
# Reading JSON

The reader takes one token at a time.  Its state is the list of containers that are still open,
innermost first, and what may come next.  A container opens only below the depth limit, so the
state never grows beyond it.  Of two fields of one name the later one counts.
-/

namespace LiveSearch

namespace Json

/-- A container that is still open; items are kept latest first. -/
inductive Frame
  | array (items : List Json)
  | object (fields : List (String × Json)) (pending : String)

/-- What may come next. -/
inductive Expected
  /-- A value. -/
  | value
  /-- The first item of an array, or its end. -/
  | firstItem
  /-- The first name of an object, or its end. -/
  | firstName
  /-- A name of an object. -/
  | name
  /-- The colon after a name. -/
  | colon
  /-- A comma or the end of the innermost container. -/
  | comma
  /-- Nothing: this value is the whole text. -/
  | nothing (result : Json)

/-- The state of the reader between two tokens. -/
structure Reader where
  frames : List Frame
  expected : Expected

namespace Reader

/-- The state before the first token. -/
def start : Reader := ⟨[], .value⟩

/-- Put a complete value where it belongs. -/
def complete (value : Json) : List Frame → Reader
  | [] => ⟨[], .nothing value⟩
  | .array items :: outer => ⟨.array (value :: items) :: outer, .comma⟩
  | .object fields name :: outer => ⟨.object (insertField name value fields) name :: outer, .comma⟩

/-- Open a container, unless `limit` containers are open already. -/
def openFrame (limit : Nat) (frames : List Frame) (frame : Frame) (expected : Expected) :
    Option Reader :=
  if frames.length < limit then some ⟨frame :: frames, expected⟩ else none

/-- Begin a value. -/
def begin (limit : Nat) (frames : List Frame) : Token → Option Reader
  | .text value => some (complete (.string value) frames)
  | .scalar value => some (complete value frames)
  | .openArray => openFrame limit frames (.array []) .firstItem
  | .openObject => openFrame limit frames (.object [] "") .firstName
  | _ => none

/-- Close the innermost container. -/
def close : List Frame → Token → Option Reader
  | .array items :: outer, .closeArray => some (complete (.array items.reverse) outer)
  | .object fields _ :: outer, .closeObject => some (complete (.object fields) outer)
  | _, _ => none

/-- Take the name of a field. -/
def takeName : List Frame → Token → Option Reader
  | .object fields _ :: outer, .text name => some ⟨.object fields name :: outer, .colon⟩
  | _, _ => none

/-- Take one token. -/
def step (limit : Nat) (reader : Reader) (token : Token) : Option Reader :=
  match reader.expected with
  | .value => begin limit reader.frames token
  | .firstItem => (close reader.frames token).or (begin limit reader.frames token)
  | .firstName => (close reader.frames token).or (takeName reader.frames token)
  | .name => takeName reader.frames token
  | .colon => match token with
    | .colon => some ⟨reader.frames, .value⟩
    | _ => none
  | .comma => match token, reader.frames with
    | .comma, .array _ :: _ => some ⟨reader.frames, .value⟩
    | .comma, .object _ _ :: _ => some ⟨reader.frames, .name⟩
    | _, _ => close reader.frames token
  | .nothing _ => none

/-- The value of a complete reading. -/
def result? (reader : Reader) : Option Json :=
  match reader.expected with
  | .nothing value => some value
  | _ => none

end Reader

/-- The greatest number of arrays and objects around a value. -/
def depthLimit : Nat := 127

/-- The value that a text spells, with at most `limit` containers inside one another. -/
def parseWithin? (limit : Nat) (text : List Char) : Option Json := do
  let tokens ← tokens? text
  let reader ← tokens.foldlM (Reader.step limit) .start
  reader.result?

/-- The value that a text spells. -/
def parse? (text : String) : Option Json := parseWithin? depthLimit text.toList

end Json

end LiveSearch
