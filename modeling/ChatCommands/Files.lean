import ChatCommands.Policy.Document
import ChatCommands.Settings.Document
import ChatCommands.Yaml.Format

/-!
# Settings and policies from files

The settings file and the snapshot file are YAML in UTF-8, and both may be missing. Overrides apply
to whatever the settings file says; settings that cannot be loaded leave the default ones in place,
without overrides.
-/

namespace ChatCommands

inductive FileFault where
  | notText
  | malformed (fault : Fault)
  deriving DecidableEq

def readFile {α : Type} (decoder : Format Yaml → Decoder Yaml α) (bytes : ByteArray) :
    Except FileFault α :=
  match String.fromUTF8? bytes with
  | none => .error .notText
  | some text =>
    match YamlDocument.readText decoder text with
    | .ok a => .ok a
    | .error fault => .error (.malformed fault)

namespace Settings

def fileName : String := "engine.yaml"

def ofFile : Option ByteArray → Except FileFault Settings
  | none => .ok {}
  | some bytes => readFile Settings.decoder bytes

def load (file : Option ByteArray) (environment : String → Option String) :
    Except FileFault Settings :=
  (ofFile file).map fun s => (s.override environment).withPrefix

/-- The settings in force after loading. -/
def inForce : Except FileFault Settings → Settings
  | .ok s => s
  | .error _ => {}

end Settings

namespace PolicySnapshot

def fileName : String := "policies.yaml"

def load : Option ByteArray → Except FileFault (Option PolicySnapshot)
  | none => .ok none
  | some bytes => some <$> readFile PolicySnapshot.decoder bytes

end PolicySnapshot

end ChatCommands
