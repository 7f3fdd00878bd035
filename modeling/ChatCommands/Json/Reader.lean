import ChatCommands.Json.Token

/-!
# Reading JSON

The value of a text is put together token by token. The reader holds the arrays and objects that
are open, the innermost first, and knows what may come next. At the first token that may not come
next, or where the tokens end too early, `broken` is entered in the innermost open place and
everything is closed.
-/

namespace ChatCommands

/-- The value of a document, and whether nothing but blanks follows it. -/
structure JsonDocument where
  value : Json
  ends : Bool

namespace JsonReader

inductive Frame where
  | array (items : List Json)
  | object (members : List (Option String × Json))
  /-- An object whose next member has this key. -/
  | member (members : List (Option String × Json)) (key : Option String)

inductive Expectation where
  | value
  /-- The end of the array or object just opened, or its first part. -/
  | firstPart
  | key
  | colon
  | separator

inductive Progress where
  | goOn (expected : Expectation) (frames : List Frame)
  | complete (value : Json)
  | stuck

def Frame.closeWith (value : Json) : Frame → Json
  | array items => .array (items.reverse ++ [value])
  | object members => .object (members.reverse ++ [(none, value)])
  | member members key => .object (members.reverse ++ [(key, value)])

/-- Everything open closed, with `broken` in the innermost place. -/
def breakOff (frames : List Frame) : Json :=
  frames.foldl (fun value frame => frame.closeWith value) .broken

def enter (value : Json) : List Frame → Progress
  | [] => .complete value
  | .array items :: outer => .goOn .separator (.array (value :: items) :: outer)
  | .object members :: outer => .goOn .separator (.object ((none, value) :: members) :: outer)
  | .member members key :: outer => .goOn .separator (.object ((key, value) :: members) :: outer)

def beginValue (token : JsonToken) (frames : List Frame) : Progress :=
  match token with
  | .scalar value => enter value frames
  | .openBracket => .goOn .firstPart (.array [] :: frames)
  | .openBrace => .goOn .firstPart (.object [] :: frames)
  | _ => .stuck

def beginMember (token : JsonToken) (members : List (Option String × Json)) (outer : List Frame) :
    Progress :=
  match token with
  | .scalar (.text key) => .goOn .colon (.member members (some key) :: outer)
  | .scalar .halfPair => .goOn .colon (.member members none :: outer)
  | _ => .stuck

def step (expected : Expectation) (token : JsonToken) (frames : List Frame) : Progress :=
  match expected, token, frames with
  | .value, _, _ => beginValue token frames
  | .firstPart, .closeBracket, .array _ :: outer => enter (.array []) outer
  | .firstPart, _, .array _ :: _ => beginValue token frames
  | .firstPart, .closeBrace, .object _ :: outer => enter (.object []) outer
  | .firstPart, _, .object members :: outer => beginMember token members outer
  | .key, _, .object members :: outer => beginMember token members outer
  | .colon, .colon, _ => .goOn .value frames
  | .separator, .comma, .array _ :: _ => .goOn .value frames
  | .separator, .comma, .object _ :: _ => .goOn .key frames
  | .separator, .closeBracket, .array items :: outer => enter (.array items.reverse) outer
  | .separator, .closeBrace, .object members :: outer => enter (.object members.reverse) outer
  | _, _, _ => .stuck

def read (expected : Expectation) (frames : List Frame) : List JsonToken → JsonDocument
  | [] => { value := breakOff frames, ends := false }
  | token :: tokens =>
    match step expected token frames with
    | .goOn expected frames => read expected frames tokens
    | .complete value => { value, ends := tokens.isEmpty }
    | .stuck => { value := breakOff frames, ends := false }

end JsonReader

def JsonDocument.ofText (text : String) : JsonDocument :=
  JsonReader.read .value [] (JsonToken.scan text)

end ChatCommands
