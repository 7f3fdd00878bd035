import ChatCommands.Outcome.Document
import ChatCommands.Policy.Document
import ChatCommands.Proofs.Record.AnyOrder
import ChatCommands.Settings.Document

/-!
# Documents are read back

Policy events, snapshots, settings and outcomes are written as JSON and read from it. A record may have
its members in any order, and so may the records in it. An event has the member that tells its kind among
those of the record that it carries.

* `PolicyEvent.Fits`: counts and windows have at most 64 bits.

**Theorem (`readText_write_of_permuted`).** Whatever is written is read back from its text, and so it is
with the members of all objects in any order.
-/

namespace ChatCommands

/-! ## Entries and snapshots -/

namespace PermissionEntry

theorem readsBack_allow (rule : Verdict) :
    Json.ReadsBack (Json.format.optional Json.format.switch).read
      (match rule.toSwitch with
        | some allow => .bool allow
        | none => .null) rule.toSwitch := by
  cases rule <;> exact Json.readsBack_of_parts?_eq_none rfl rfl

@[simp] theorem isStorable_toJson (e : PermissionEntry) (depth : Nat) :
    e.toJson.isStorable (depth + 1) = true := by
  obtain ⟨groupId, path, rule⟩ := e
  cases rule <;> rfl

@[simp] theorem isWritable_toJson (e : PermissionEntry) : e.toJson.isWritable = true := by
  obtain ⟨groupId, path, rule⟩ := e
  cases rule <;> rfl

theorem readsBack_toJson (e : PermissionEntry) :
    Json.ReadsBack (decoder Json.format).read e.toJson e := by
  have hshows : Field.Shows (fields Json.format) _ _ :=
    .cons (Json.readsBack_text e.groupId) <| .cons (Json.readsBack_text e.path) <|
      .cons (readsBack_allow e.rule) .nil
  refine hshows.readsBack (by decide) (by simp) ?_
  obtain ⟨groupId, path, rule⟩ := e
  cases rule <;> rfl

end PermissionEntry

namespace GroupEntry

@[simp] theorem isStorable_toJson (e : GroupEntry) (depth : Nat) :
    e.toJson.isStorable (depth + 1) = true :=
  rfl

@[simp] theorem isWritable_toJson (e : GroupEntry) : e.toJson.isWritable = true :=
  rfl

theorem readsBack_toJson (e : GroupEntry) : Json.ReadsBack (decoder Json.format).read e.toJson e := by
  have hshows : Field.Shows (fields Json.format) _ _ :=
    .cons (Json.readsBack_text e.id) <| .cons (Json.readsBack_text e.name) .nil
  exact hshows.readsBack (by decide) (by simp) rfl

end GroupEntry

namespace UsageEntry

/-- The numbers have at most 64 bits. -/
def Fits (e : UsageEntry) : Prop :=
  e.count < Nat.pow 2 64 ∧ e.windowMillis < Nat.pow 2 64

@[simp] theorem isStorable_toJson (e : UsageEntry) (depth : Nat) :
    e.toJson.isStorable (depth + 1) = true :=
  rfl

@[simp] theorem isWritable_toJson_iff {e : UsageEntry} : e.toJson.isWritable = true ↔ e.Fits := by
  simp [toJson, members, Json.ofMembers, Json.isWritable, Json.allMembersWritable, Fits]

theorem readsBack_toJson (e : UsageEntry) : Json.ReadsBack (decoder Json.format).read e.toJson e := by
  have hshows : Field.Shows (fields Json.format) _ _ :=
    .cons (Json.readsBack_text e.groupId) <| .cons (Json.readsBack_text e.path) <|
      .cons (Json.readsBack_natural e.count) <| .cons (Json.readsBack_natural e.windowMillis) .nil
  exact hshows.readsBack (by decide) (by simp) rfl

end UsageEntry

namespace PolicySnapshot

def Fits (s : PolicySnapshot) : Prop :=
  ∀ e ∈ s.policies, e.Fits

theorem isWritable_toJson_iff {s : PolicySnapshot} : s.toJson.isWritable = true ↔ s.Fits := by
  simp [toJson, members, Json.ofMembers, Json.isWritable, Json.allMembersWritable,
    Json.allWritable_iff, Fits]

theorem readsBack_toJson (s : PolicySnapshot) :
    Json.ReadsBack (decoder Json.format).read s.toJson s := by
  have hshows : Field.Shows (fields Json.format) _ _ :=
    .cons (Json.readsBack_listOf fun e (_ : e ∈ s.permissions) => e.readsBack_toJson) <|
      .cons (Json.readsBack_listOf fun e (_ : e ∈ s.groups) => e.readsBack_toJson) <|
        .cons (Json.readsBack_listOf fun e (_ : e ∈ s.policies) => e.readsBack_toJson) .nil
  exact hshows.readsBack (by decide) (by simp) rfl

end PolicySnapshot

/-! ## Events -/

namespace PolicyEvent

/-- The member is not the one that tells the kind, and can be set aside until that is known. -/
def SetAside (m : Option String × Json) : Prop :=
  m.1.isSome = true ∧ m.1 ≠ some kindField ∧ m.2.isStorable maxDepth = true

/-- Members that are set aside are kept in order. -/
theorem separate_append {before : List (Option String × Json)} (h : ∀ m ∈ before, SetAside m)
    (kind : Option String) (others rest : List (Option String × Json)) :
    separate kind others (before ++ rest) = separate kind (before.reverse ++ others) rest := by
  induction before generalizing others with
  | nil => rfl
  | cons m before ih =>
    obtain ⟨⟨hkey, hne, hstorable⟩, hbefore⟩ := List.forall_mem_cons.1 h
    obtain ⟨key, v⟩ := m
    obtain ⟨key, rfl⟩ := Option.isSome_iff_exists.1 hkey
    have hne : key ≠ kindField := fun heq => hne (congrArg some heq)
    rw [List.cons_append, separate, if_neg hne, if_pos hstorable, ih hbefore, List.reverse_cons,
      List.append_assoc]
    rfl

/-- The kind is found wherever it stands. -/
theorem separate_of_kind {kind : String} (hkind : readKind (.text kind) = .ok kind)
    {before after : List (Option String × Json)} (h : ∀ m ∈ before ++ after, SetAside m) :
    separate none [] (before ++ (some kindField, .text kind) :: after) =
      .ok (kind, before ++ after) := by
  have hbefore := fun m hm => h m (List.mem_append_left after hm)
  have hafter := fun m hm => h m (List.mem_append_right before hm)
  have hend := separate_append hafter (some kind) before.reverse []
  rw [List.append_nil] at hend
  rw [separate_append hbefore, List.append_nil, separate, if_pos rfl, hkind]
  simp only [Option.isSome_none, Bool.false_eq_true, if_false]
  rw [hend, separate, List.reverse_append, List.reverse_reverse, List.reverse_reverse]

/-- **An event is read back** if the record is that it carries, wherever its kind stands. -/
theorem readsBack_of_kind {kind : String} (hkind : readKind (.text kind) = .ok kind)
    {members : List (String × Json)}
    (hmembers : ∀ m ∈ members, m.1 ≠ kindField ∧ m.2.isStorable maxDepth = true)
    {event : PolicyEvent} (h : Json.ReadsBack (ofKind kind) (.ofMembers members) event) :
    Json.ReadsBack read (.ofMembers ((kindField, .text kind) :: members)) event := by
  intro w hw
  obtain ⟨moved, members', rfl, hmoved, horder⟩ := hw.exists_members
  rcases hmoved with _ | ⟨hfirst, hrest⟩
  rcases hfirst with ⟨_, htext⟩
  obtain rfl := htext.eq_of_parts?_eq_none rfl
  obtain ⟨before, after, rfl⟩ := List.append_of_mem (horder.mem_iff.1 List.mem_cons_self)
  have hothers := (horder.trans List.perm_middle).cons_inv
  have haside : ∀ m ∈ before ++ after, SetAside m := fun m hm => by
    refine Json.Permuted.forall_of_forall₂ hrest (fun a ha b hb => ?_) m (hothers.mem_iff.2 hm)
    obtain ⟨⟨key, v⟩, hmem, rfl⟩ := List.mem_map.1 ha
    rcases hb with ⟨_, hv⟩
    obtain ⟨hne, hstorable⟩ := hmembers _ hmem
    exact ⟨rfl, fun heq => hne (Option.some.inj heq), hv.isStorable hstorable⟩
  show (separate none [] _ >>= fun separated => ofKind separated.1 (.object separated.2)) = _
  rw [separate_of_kind hkind haside]
  exact h _ (.object hrest hothers)

/-- The numbers in the event have at most 64 bits. -/
def Fits : PolicyEvent → Prop
  | fullSnapshot s => s.Fits
  | singlePolicyUpdate e => e.Fits

theorem isWritable_toJson_iff {event : PolicyEvent} :
    event.toJson.isWritable = true ↔ event.Fits := by
  cases event with
  | fullSnapshot s => exact PolicySnapshot.isWritable_toJson_iff
  | singlePolicyUpdate e => exact UsageEntry.isWritable_toJson_iff

theorem readsBack_toJson (event : PolicyEvent) : Json.ReadsBack read event.toJson event := by
  cases event with
  | fullSnapshot s =>
    refine readsBack_of_kind (by decide) ?_ fun w hw => ?_
    · simp [PolicySnapshot.members, kindField, maxDepth, Json.isStorable, Json.allStorable_iff]
    · show fullSnapshot <$> (PolicySnapshot.decoder Json.format).read w = _
      rw [s.readsBack_toJson w hw]
      rfl
  | singlePolicyUpdate e =>
    refine readsBack_of_kind (by decide) ?_ fun w hw => ?_
    · simp [UsageEntry.members, kindField, Json.isStorable]
    · show singlePolicyUpdate <$> (UsageEntry.decoder Json.format).read w = _
      rw [e.readsBack_toJson w hw]
      rfl

end PolicyEvent

/-! ## Settings and outcomes -/

namespace Settings

theorem readsBack_texts (items : List String) :
    Json.ReadsBack (Json.format.listOf Json.format.text).read (texts items) items :=
  Json.readsBack_listOf fun s _ => Json.readsBack_text s

theorem isWritable_toJson (s : Settings) : s.toJson.isWritable = true := by
  simp [toJson, texts, Json.ofMembers, Json.isWritable, Json.allMembersWritable,
    Json.allWritable_iff]

theorem readsBack_toJson (s : Settings) : Json.ReadsBack (decoder Json.format).read s.toJson s := by
  have hshows : Field.Shows (fields Json.format) _ _ :=
    .cons (Json.readsBack_text s.commandPrefix) <| .cons (readsBack_texts s.ownerIds) <|
      .cons (Json.readsBack_switch s.enforceLimits) <|
        .cons (Json.readsBack_text s.consoleChatter) <| .cons (readsBack_texts s.voices) .nil
  exact hshows.readsBack (by decide) (by simp) rfl

end Settings

theorem Outcome.readsBack_toJson (o : Outcome) : Json.ReadsBack read o.toJson o := by
  refine Json.readsBack_of_parts?_eq_none rfl ?_
  cases o <;> rfl

/-! ## Texts -/

/-- **Whatever is written is read back from its text**, also if the members of any objects in it are put
in another order. -/
theorem readText_write_of_permuted :
    (∀ event : PolicyEvent, event.Fits → ∀ w, event.toJson.Permuted w →
      Json.readText PolicyEvent.read w.write = .ok event) ∧
    (∀ s : PolicySnapshot, s.Fits → ∀ w, s.toJson.Permuted w →
      Json.readText (PolicySnapshot.decoder Json.format).read w.write = .ok s) ∧
    (∀ s : Settings, ∀ w, s.toJson.Permuted w →
      Json.readText (Settings.decoder Json.format).read w.write = .ok s) ∧
    ∀ o : Outcome, ∀ w, o.toJson.Permuted w → Json.readText Outcome.read w.write = .ok o := by
  refine ⟨fun event h w hw => ?_, fun s h w hw => ?_, fun s w hw => ?_, fun o w hw => ?_⟩
  · exact event.readsBack_toJson.readText (PolicyEvent.isWritable_toJson_iff.2 h) hw
  · exact s.readsBack_toJson.readText (PolicySnapshot.isWritable_toJson_iff.2 h) hw
  · exact s.readsBack_toJson.readText s.isWritable_toJson hw
  · exact o.readsBack_toJson.readText rfl hw

namespace Sample

/-- A snapshot with a rule that is unset and the greatest count there is. -/
def quoting : PolicyEvent :=
  .fullSnapshot
    { permissions := [⟨"g1", "say \"hi\"", .unset⟩]
      policies := [⟨"g1", "tts", Nat.pow 2 64 - 1, 0⟩] }

/-- The snapshot with all members in reverse. -/
def reversed : Json :=
  .ofMembers [("policies", .array [.ofMembers [("window_millis", .natural 0),
      ("count", .natural 18446744073709551615), ("path", .text "tts"), ("group_id", .text "g1")]]),
    ("groups", .array []),
    ("permissions", .array [.ofMembers [("allow", .null), ("path", .text "say \"hi\""),
      ("group_id", .text "g1")]]),
    ("type", .text "full_snapshot")]

theorem permuted_reversed : quoting.toJson.Permuted reversed := by
  have hrule : List.Forall₂ Json.Permuted [PermissionEntry.toJson ⟨"g1", "say \"hi\"", .unset⟩] _ :=
    .cons (.of_perm (List.reverse_perm _).symm) .nil
  have hlimit : List.Forall₂ Json.Permuted [UsageEntry.toJson ⟨"g1", "tts", Nat.pow 2 64 - 1, 0⟩] _ :=
    .cons (.of_perm (List.reverse_perm _).symm) .nil
  exact .object (.cons (.mk _ (.same _)) (.cons (.mk _ (.array hrule)) (.cons (.mk _ (.same _))
    (.cons (.mk _ (.array hlimit)) .nil)))) (List.reverse_perm _).symm

theorem readText_write_reversed : quoting.Fits ∧ quoting.toJson.Permuted reversed ∧
    Json.readText PolicyEvent.read reversed.write = .ok quoting := by
  have hfits : quoting.Fits := by
    intro e he
    obtain rfl := List.mem_singleton.1 he
    exact ⟨by decide, by decide⟩
  exact ⟨hfits, permuted_reversed,
    readText_write_of_permuted.1 quoting hfits reversed permuted_reversed⟩

end Sample

end ChatCommands
