import ChatCommands.StringSet
import ChatCommands.Text.Lowercase

/-!
# Sets of names

Names of voices, groups of literals and permission suffixes are compared without regard to case:
every name is stored, and looked up, in its lowercase form.
-/

namespace ChatCommands

structure NameSet where
  stored : StringSet
  deriving DecidableEq

namespace NameSet

def empty : NameSet := ⟨StringSet.empty⟩

instance : EmptyCollection NameSet := ⟨empty⟩
instance : Inhabited NameSet := ⟨empty⟩

def contains (s : NameSet) (name : String) : Bool :=
  decide (Text.lower name ∈ s.stored)

def insert (s : NameSet) (name : String) : NameSet :=
  ⟨s.stored.insert (Text.lower name)⟩

def erase (s : NameSet) (name : String) : NameSet :=
  ⟨s.stored.erase (Text.lower name)⟩

def ofList (names : List String) : NameSet :=
  names.foldl insert empty

def union (s t : NameSet) : NameSet :=
  ⟨s.stored.union t.stored⟩

def names (s : NameSet) : List String :=
  s.stored.members

def isEmpty (s : NameSet) : Bool :=
  s.stored.isEmpty

end NameSet

end ChatCommands
