import ChatCommands.Assoc
import ChatCommands.StringSet
import ChatCommands.Text.Lowercase

/-!
# Groups of chatters

Chatters belong to groups, by which permission rules and usage limits are addressed. Group names are
kept in lowercase. Every chatter belongs to the group `everyone`, entered or not.
-/

namespace ChatCommands

def everyone : String := "everyone"

structure Groups where
  members : List (String × String) := []
  priorities : List (String × Int) := []
  deriving DecidableEq

namespace Groups

/-- The chatter was added to the group and not taken out since. -/
def hasMember (g : Groups) (group chatter : String) : Bool :=
  g.members.contains (Text.lower group, chatter)

def addMember (g : Groups) (group chatter : String) : Groups :=
  if g.hasMember group chatter then g
  else { g with members := g.members ++ [(Text.lower group, chatter)] }

def removeMember (g : Groups) (group chatter : String) : Groups :=
  { g with members := g.members.filter (· ≠ (Text.lower group, chatter)) }

def setPriority (g : Groups) (group : String) (priority : Int) : Groups :=
  { g with priorities := Assoc.put (Text.lower group) priority g.priorities }

def groupsOf (g : Groups) (chatter : String) : StringSet :=
  (StringSet.ofList ((g.members.filter (·.2 = chatter)).map Prod.fst)).insert everyone

def greatest (sofar : Option Int) (priority : Int) : Option Int :=
  some (match sofar with
    | some other => max other priority
    | none => priority)

/-- The highest priority that any of these groups was given, 0 if none was given any. -/
def priorityOf (g : Groups) (groups : StringSet) : Int :=
  ((groups.members.filterMap (Assoc.get? · g.priorities)).foldl greatest none).getD 0

theorem mem_groupsOf {g : Groups} {chatter group : String} :
    group ∈ g.groupsOf chatter ↔ group = everyone ∨ (group, chatter) ∈ g.members := by
  simp only [groupsOf, StringSet.mem_insert, StringSet.mem_ofList, List.mem_map, List.mem_filter,
    decide_eq_true_eq]
  constructor
  · rintro (h | ⟨⟨group', chatter'⟩, ⟨hm, rfl⟩, rfl⟩)
    · exact .inl h
    · exact .inr hm
  · rintro (h | h)
    · exact .inl h
    · exact .inr ⟨_, ⟨h, rfl⟩, rfl⟩

end Groups

end ChatCommands
