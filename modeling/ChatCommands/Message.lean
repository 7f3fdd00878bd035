import ChatCommands.Text.Alphanumeric
import ChatCommands.Text.Blank
import ChatCommands.Text.Lowercase

/-!
# Chat messages and replies

A message carries who wrote it, where, and with which standing in the channel. The logins it
mentions are read off its content: every blank-separated word that starts with `@` names one.
-/

namespace ChatCommands

structure Message where
  platform : String
  channel : String
  /-- Stable id of the chatter, by which groups and usage histories go. -/
  userId : String
  username : String
  content : String
  /-- Lowercase logins mentioned in the content, without the `@`. -/
  mentions : List String
  badges : List String := []
  isMod : Bool := false
  isSubscriber : Bool := false
  deriving DecidableEq

structure Reply where
  platform : String
  channel : String
  text : String
  deriving DecidableEq

namespace Message

def endsLogin (c : Char) : Bool :=
  Text.isAlphanumeric c || c == '_'

/-- What follows the `@` is taken up to its last alphanumeric character or underscore, and must not
be empty then. -/
def mentionOf? : List Char → Option String
  | '@' :: rest =>
    let login := (rest.reverse.dropWhile fun c => !endsLogin c).reverse
    if login.isEmpty then none else some (Text.lower (String.ofList login))
  | _ => none

def mentionsIn (content : String) : List String :=
  (Text.words content).filterMap mentionOf?

def ofContent (platform channel userId username content : String) : Message :=
  { platform, channel, userId, username, content, mentions := mentionsIn content }

/-- The owner of the channel bears the badge `broadcaster`. -/
def isBroadcaster (m : Message) : Bool :=
  m.badges.contains "broadcaster"

def reply (m : Message) (text : String) : Reply :=
  { platform := m.platform, channel := m.channel, text }

end Message

end ChatCommands
