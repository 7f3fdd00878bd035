import ChatCommands.Yaml.Names
import ChatCommands.Yaml.Token.Lexer

/-!
# YAML documents

The value of a text is put together token by token. The reader holds the collections that are open,
the innermost first, and knows what is due next. Much may be left out: the value of a key, the key
of a value, the item of a list entry. An empty scalar stands in for it. A text holds one document;
a text with no document in it holds an empty one.
-/

namespace ChatCommands

structure YamlDocument where
  root : Yaml
  names : YamlNames

inductive MappingStyle where
  | block
  | flow
  /-- A sole member as an item of a flow list. -/
  | pair
  deriving DecidableEq

inductive MemberPart where
  | nothing
  | keyMark
  /-- No mark; if a key comes, it has no value. -/
  | noMark
  | key (key : Yaml)
  | colon (key : Yaml)

inductive YamlFrame where
  | blockList (items : List Yaml)
  /-- A block list at the column of the key it belongs to. It ends without a token. -/
  | flushList (items : List Yaml)
  | flowList (items : List Yaml)
  | mapping (style : MappingStyle) (members : List (Yaml × Yaml)) (part : MemberPart)
  /-- The collection inside has a name, and this number among the named values. -/
  | named (number : Nat)

inductive YamlDue where
  | document
  /-- The start of the document, which must be marked as directives came before; the flag tells
  whether one for the version did. -/
  | marked (version : Bool)
  /-- A value, of which a name and a tag may have been read. -/
  | value (anchor : Option String) (tag : Option String)
  | item
  | member
  /-- Whatever may follow the last part of the innermost collection. -/
  | more
  | finish (value : Yaml)

structure YamlReader where
  due : YamlDue := .document
  frames : List YamlFrame := []
  handles : List (String × String) := []
  names : YamlNames := {}

namespace YamlReader

/-! ## Finished values -/

def put (v : Yaml) : YamlFrame → YamlFrame
  | .blockList items => .blockList (v :: items)
  | .flushList items => .flushList (v :: items)
  | .flowList items => .flowList (v :: items)
  | .mapping style members part =>
    match part with
    | .colon key => .mapping style ((key, v) :: members) .nothing
    | .noMark => .mapping style ((v, .empty) :: members) .nothing
    | _ => .mapping style members (.key v)
  | .named number => .named number

def enter (v : Yaml) (x : YamlReader) : List YamlFrame → YamlReader
  | [] => { x with due := .finish v, frames := [] }
  | .named number :: frames => enter v { x with names := x.names.finish number v } frames
  | frame :: frames => { x with due := .more, frames := put v frame :: frames }

def begin (anchor : Option String) (x : YamlReader) : YamlReader :=
  match anchor with
  | some name =>
    { x with names := x.names.give name, frames := .named x.names.count :: x.frames }
  | none => x

def enterWhole (anchor : Option String) (v : Yaml) (x : YamlReader) : YamlReader :=
  let x := begin anchor x
  enter v x x.frames

def openFrame (anchor : Option String) (frame : YamlFrame) (due : YamlDue) (x : YamlReader) :
    YamlReader :=
  let x := begin anchor x
  { x with due, frames := frame :: x.frames }

/-! ## Between the parts of collections -/

/-- A list without a mark for its end is over unless the token begins an entry. -/
def endFlushList (token : YamlToken) (x : YamlReader) : YamlReader :=
  match x.frames with
  | .flushList items :: frames =>
    if token = .entry then x else enter (.list items.reverse) x frames
  | _ => x

/-- A key is without a value unless the token is a colon. -/
def endKey (token : YamlToken) (x : YamlReader) : YamlReader :=
  match x.frames with
  | .mapping style members (.key key) :: frames =>
    if token = .value then x
    else { x with frames := .mapping style ((key, .empty) :: members) .nothing :: frames }
  | _ => x

def endPair (x : YamlReader) : YamlReader :=
  match x.frames with
  | .mapping .pair members .nothing :: frames => enter (.mapping members.reverse) x frames
  | _ => x

def stepMore (token : YamlToken) (x : YamlReader) : Option YamlReader :=
  let x := endPair (endKey token (endFlushList token x))
  let goOn := fun due frames => some { x with due, frames }
  match token, x.frames with
  | .entry, .blockList _ :: _ | .entry, .flushList _ :: _ => goOn (.value none none) x.frames
  | .key, .mapping .block members .nothing :: frames =>
    goOn (.value none none) (.mapping .block members .keyMark :: frames)
  | .value, .mapping style members (.key key) :: frames =>
    goOn (.value none none) (.mapping style members (.colon key) :: frames)
  | .comma, .flowList _ :: _ => goOn .item x.frames
  | .comma, .mapping .flow _ .nothing :: _ => goOn .member x.frames
  | .blockEnd, .blockList items :: frames | .closeBracket, .flowList items :: frames =>
    some (enter (.list items.reverse) x frames)
  | .blockEnd, .mapping .block members .nothing :: frames
  | .closeBrace, .mapping .flow members .nothing :: frames =>
    some (enter (.mapping members.reverse) x frames)
  | _, _ => none

/-! ## Values -/

def beginsValue : YamlToken → Bool
  | .anchor _ | .reference _ | .tag _ | .scalar .. => true
  | .blockList | .blockMapping | .openBracket | .openBrace => true
  | _ => false

def allowsFlushList : List YamlFrame → Bool
  | .mapping .block _ .keyMark :: _ | .mapping .block _ (.colon _) :: _ => true
  | _ => false

def isPairKey : List YamlFrame → Bool
  | .mapping .pair _ .keyMark :: _ => true
  | _ => false

def replacesPairKey (token : YamlToken) : Bool :=
  token = .value || token = .comma || token = .closeBracket

/-- The key of a pair is only left out for a token that takes its place. -/
def stepNothing (anchor tag : Option String) (token : YamlToken) (x : YamlReader) :
    Option YamlReader :=
  let x' := enterWhole anchor (.scalar .plain tag "") x
  if anchor.isNone && tag.isNone && isPairKey x.frames then
    if replacesPairKey token then some x' else none
  else
    match x'.due, token with
    | .finish _, .documentEnd => some x'
    | .finish _, _ => none
    | _, _ => stepMore token x'

def stepValue (anchor tag : Option String) (token : YamlToken) (x : YamlReader) :
    Option YamlReader :=
  let goOn := fun anchor tag => some { x with due := .value anchor tag }
  match token with
  | .anchor name => if anchor.isSome then none else goOn (some name) tag
  | .tag t =>
    if tag.isSome then none else (t.inFull? x.handles).bind fun tag => goOn anchor (some tag)
  | .reference name =>
    if anchor.isSome || tag.isSome then none
    else (x.names.place? name).map fun place => enterWhole none (.reference place) x
  | .scalar style text => some (enterWhole anchor (.scalar style tag text) x)
  | .blockList => some (openFrame anchor (.blockList []) .more x)
  | .blockMapping => some (openFrame anchor (.mapping .block [] .nothing) .more x)
  | .openBracket => some (openFrame anchor (.flowList []) .item x)
  | .openBrace => some (openFrame anchor (.mapping .flow [] .nothing) .member x)
  | .entry =>
    if allowsFlushList x.frames then some (openFrame anchor (.flushList []) (.value none none) x)
    else stepNothing anchor tag token x
  | _ => stepNothing anchor tag token x

def stepItem (token : YamlToken) (x : YamlReader) : Option YamlReader :=
  if token = .closeBracket then stepMore token x
  else if token = .key then some (openFrame none (.mapping .pair [] .keyMark) (.value none none) x)
  else if beginsValue token then stepValue none none token x
  else none

def stepMember (token : YamlToken) (x : YamlReader) : Option YamlReader :=
  match x.frames with
  | .mapping .flow members .nothing :: frames =>
    let withPart := fun part => { x with frames := .mapping .flow members part :: frames }
    if token = .closeBrace then stepMore token x
    else if token = .key then some { withPart .keyMark with due := .value none none }
    else if beginsValue token then stepValue none none token (withPart .noMark)
    else none
  | _ => none

/-! ## Documents -/

/-- Neither a version nor what a handle stands for is told twice. -/
def stepMarked (version : Bool) (token : YamlToken) (x : YamlReader) : Option YamlReader :=
  match token with
  | .directive .version => if version then none else some { x with due := .marked true }
  | .directive (.handle handle meaning) =>
    if (Assoc.get? handle x.handles).isSome then none
    else some { x with due := .marked version, handles := (handle, meaning) :: x.handles }
  | .documentStart => some { x with due := .value none none }
  | _ => none

def step (token : YamlToken) (x : YamlReader) : Option YamlReader :=
  match x.due with
  | .document => if beginsValue token then stepValue none none token x else stepMarked false token x
  | .marked version => stepMarked version token x
  | .value anchor tag => stepValue anchor tag token x
  | .item => stepItem token x
  | .member => stepMember token x
  | .more => stepMore token x
  | .finish _ => if token = .documentEnd then some x else none

def atEnd? (x : YamlReader) : Option YamlDocument :=
  match x.due, x.frames with
  | .document, _ => some { root := .empty, names := x.names }
  | .value _ tag, [] => some { root := .scalar .plain tag "", names := x.names }
  | .finish v, _ => some { root := v, names := x.names }
  | _, _ => none

def read? (x : YamlReader) : List YamlToken → Option YamlDocument
  | [] => x.atEnd?
  | token :: tokens => (x.step token).bind (·.read? tokens)

end YamlReader

def YamlDocument.ofText? (text : String) : Option YamlDocument := do
  if !text.toList.all Yaml.isPrintable then none
  let tokens ← ({} : Lexer).tokens? (Yaml.unifyBreaks text.toList)
  ({} : YamlReader).read? tokens

end ChatCommands
