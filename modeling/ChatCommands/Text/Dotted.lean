import ChatCommands.Text.Pieces

/-!
# Dotted paths

Commands, rules and limits are addressed by dotted paths such as `mods.tts.add`. Empty pieces
between the dots do not count: `.a..b` and `a.b` name the same node, and a path of dots only names
the root.
-/

namespace ChatCommands.Dotted

def split (path : String) : List String :=
  Text.pieces '.' path

def segments (path : String) : List String :=
  (split path).filter (· ≠ "")

def join (segments : List String) : String :=
  ".".intercalate segments

def below (group suffix : String) : String :=
  group ++ "." ++ suffix

end ChatCommands.Dotted
