import Mathlib.Data.List.Nodup
import Mathlib.Data.Option.Basic
import ChatCommands.Proofs.Json.Permuted

/-!
# Records with their members in any order

A record is read one member at a time, each of which enters one field. Members that enter different
fields do so independently of each other, so their order does not matter.

* `Json.ReadsBack`: a value is read as something, whatever the order of members in it.
* `Field.Shows`: the members that fields are written as, one for each, and what these enter.

**Theorem (`Field.Shows.readsBack`).** A record is read back from such members, in any order.
-/

namespace ChatCommands

/-! ## Values that are read back -/

namespace Json

variable {α : Type}

/-- The value is read as `a`, and so it is with its members, at any depth, in another order. -/
def ReadsBack (read : Json → Read α) (v : Json) (a : α) : Prop :=
  ∀ w, v.Permuted w → read w = .ok a

theorem readsBack_of_parts?_eq_none {read : Json → Read α} {v : Json} {a : α}
    (hv : v.parts? = none) (h : read v = .ok a) : ReadsBack read v a :=
  fun _ hw => hw.eq_of_parts?_eq_none hv ▸ h

/-- What is read back from a value is read back from its text. -/
theorem ReadsBack.readText {read : Json → Read α} {v w : Json} {a : α} (h : ReadsBack read v a)
    (hv : v.isWritable = true) (hw : v.Permuted w) : Json.readText read w.write = .ok a :=
  readText_write (hw.isWritable hv) (h w hw)

theorem readsBack_text (s : String) : ReadsBack format.text.read (.text s) s :=
  readsBack_of_parts?_eq_none rfl rfl

theorem readsBack_switch (on : Bool) : ReadsBack format.switch.read (.bool on) on :=
  readsBack_of_parts?_eq_none rfl rfl

theorem readsBack_natural (n : Nat) : ReadsBack format.natural.read (.natural n) n :=
  readsBack_of_parts?_eq_none rfl rfl

theorem mapM_of_permuted {read : Json → Read α} {toJson : α → Json} {as : List α}
    (h : ∀ a ∈ as, ReadsBack read (toJson a) a) {items : List Json}
    (hitems : List.Forall₂ Permuted (as.map toJson) items) : items.mapM read = .ok as := by
  induction as generalizing items with
  | nil =>
    cases hitems
    rfl
  | cons a as ih =>
    rcases hitems with _ | ⟨hitem, hitems⟩
    obtain ⟨ha, has⟩ := List.forall_mem_cons.1 h
    rw [List.mapM_cons, ha _ hitem, ih has hitems]
    rfl

/-- A list is read back if its items are. -/
theorem readsBack_listOf {d : Decoder Json α} {toJson : α → Json} {as : List α}
    (h : ∀ a ∈ as, ReadsBack d.read (toJson a) a) :
    ReadsBack (format.listOf d).read (.array (as.map toJson)) as := by
  intro w hw
  obtain ⟨items, rfl, hitems⟩ := hw.exists_items
  exact mapM_of_permuted h hitems

end Json

/-! ## Fields in any order -/

namespace Field

variable {R : Type}

/-- The members show the fields, one each and in their order. The updates are what these enter. -/
inductive Shows : List (Field Json R) → List (String × Json) → List (R → R) → Prop
  | nil : Shows [] [] []
  | cons {α : Type} {d : Decoder Json α} {name : String} {required : Bool} {enter : R → α → R}
      {v : Json} {a : α} {fields : List (Field Json R)} {members : List (String × Json)}
      {updates : List (R → R)} (h : Json.ReadsBack d.read v a) (hrest : Shows fields members updates) :
      Shows (.of name required d enter :: fields) ((name, v) :: members)
        ((fun record => enter record a) :: updates)

/-- The member is one of the fields, and reading it is this update. -/
def Enters (fields : List (Field Json R)) (m : Option String × Json) (update : R → R) : Prop :=
  ∃ field ∈ fields, m.1 = some field.name ∧ ∀ record, field.read record m.2 = .ok (update record)

theorem Enters.of_subset {fields fields' : List (Field Json R)} (hsub : fields ⊆ fields')
    {m : Option String × Json} {update : R → R} (h : Enters fields m update) :
    Enters fields' m update := by
  obtain ⟨field, hmem, hread⟩ := h
  exact ⟨field, hsub hmem, hread⟩

section
variable {fields : List (Field Json R)} {members : List (String × Json)} {updates : List (R → R)}
  {moved : List (Option String × Json)}

/-- Members enter the fields that they show also if their values are permuted. -/
theorem Shows.enters (h : Shows fields members updates)
    (hmoved : List.Forall₂ Json.PermutedMember (members.map fun (key, v) => (some key, v)) moved) :
    List.Forall₂ (Enters fields) moved updates := by
  induction h generalizing moved with
  | nil =>
    cases hmoved
    exact .nil
  | @cons α d name required enter v a fields members updates h _ ih =>
    rcases hmoved with _ | ⟨⟨_, hv⟩, hmoved⟩
    refine .cons ⟨_, List.mem_cons_self, rfl, fun record => ?_⟩ ?_
    · show enter record <$> d.read _ = _
      rw [h _ hv]
      rfl
    · exact (ih hmoved).imp fun _ _ => .of_subset (List.subset_cons_self _ _)

theorem Shows.keys_eq (h : Shows fields members updates)
    (hmoved : List.Forall₂ Json.PermutedMember (members.map fun (key, v) => (some key, v)) moved) :
    moved.map Prod.fst = (fields.map Field.name).map some := by
  induction h generalizing moved with
  | nil =>
    cases hmoved
    rfl
  | cons _ _ ih =>
    rcases hmoved with _ | ⟨⟨_, _⟩, hmoved⟩
    exact congrArg _ (ih hmoved)

end

theorem find?_name_eq_some {fields : List (Field Json R)} (hnames : (fields.map Field.name).Nodup)
    {field : Field Json R} (h : field ∈ fields) :
    fields.find? (·.name == field.name) = some field := by
  induction fields with
  | nil => cases h
  | cons first fields ih =>
    obtain ⟨hfirst, hnames⟩ := List.nodup_cons.1 hnames
    rcases List.mem_cons.1 h with rfl | h
    · exact List.find?_cons_of_pos (beq_self_eq_true field.name)
    · have hne : first.name ≠ field.name := fun heq => hfirst (heq ▸ List.mem_map_of_mem h)
      rw [List.find?_cons_of_neg (by simpa using hne)]
      exact ih hnames h

/-- **Named fields are entered in the order of the members.** -/
theorem readNamed_eq {fields : List (Field Json R)} (hnames : (fields.map Field.name).Nodup)
    {members : List (Option String × Json)} {updates : List (R → R)}
    (h : List.Forall₂ (Enters fields) members updates) (hkeys : (members.map Prod.fst).Nodup)
    {seen : List String} (hseen : ∀ key ∈ seen, some key ∉ members.map Prod.fst) (record : R) :
    ∃ seen', readNamed Json.format fields seen record members =
        .ok (updates.foldl (fun record update => update record) record, seen') ∧
      ∀ key, key ∈ seen ∨ some key ∈ members.map Prod.fst → key ∈ seen' := by
  induction h generalizing seen record with
  | nil => exact ⟨seen, rfl, fun key hkey => hkey.resolve_right List.not_mem_nil⟩
  | @cons m update members updates henters _ ih =>
    obtain ⟨key, v⟩ := m
    obtain ⟨field, hmem, rfl, hread⟩ := henters
    obtain ⟨hnew, hkeys⟩ := List.nodup_cons.1 hkeys
    have hunseen : seen.contains field.name = false := by
      have hout : field.name ∉ seen := fun hin => hseen _ hin List.mem_cons_self
      simpa using hout
    have hseen' : ∀ key ∈ field.name :: seen, some key ∉ members.map Prod.fst :=
      List.forall_mem_cons.2 ⟨hnew, fun key hkey hin => hseen key hkey (List.mem_cons_of_mem _ hin)⟩
    obtain ⟨seen', hrest, hall⟩ := ih hkeys hseen' (update record)
    refine ⟨seen', ?_, fun key hkey => hall key ?_⟩
    · rw [readNamed, find?_name_eq_some hnames hmem]
      simp only [hunseen, hread record, if_neg Bool.false_ne_true]
      exact hrest
    · rw [List.map_cons, List.mem_cons] at hkey
      rcases hkey with hkey | hkey | hkey
      · exact .inl (List.mem_cons_of_mem _ hkey)
      · exact .inl (List.mem_cons.2 (.inl (Option.some.inj hkey)))
      · exact .inr hkey

/-- **A record is read back from the members that show its fields**, in any order. -/
theorem Shows.readsBack {fields : List (Field Json R)} {members : List (String × Json)}
    {updates : List (R → R)} (h : Shows fields members updates)
    (hnames : (fields.map Field.name).Nodup)
    (hcomm : ∀ f ∈ updates, ∀ g ∈ updates, ∀ record, g (f record) = f (g record)) {blank r : R}
    (hr : updates.foldl (fun record update => update record) blank = r) :
    Json.ReadsBack (recordOf Json.format fields blank).read (.ofMembers members) r := by
  intro w hw
  obtain ⟨moved, members', rfl, hmoved, horder⟩ := hw.exists_members
  have hkeys : (members'.map Prod.fst).Nodup := by
    rw [← (horder.map Prod.fst).nodup_iff, h.keys_eq hmoved]
    exact hnames.map (Option.some_injective _)
  -- The updates are put in the order of the members, which does not change what they do.
  obtain ⟨updates', henters, hperm⟩ := List.perm_comp_forall₂ horder.symm (h.enters hmoved)
  obtain ⟨seen, hread, hall⟩ := readNamed_eq hnames henters hkeys
    (fun _ hkey => absurd hkey List.not_mem_nil) blank
  have hfold : updates'.foldl (fun record update => update record) blank = r :=
    (hperm.symm.foldl_eq' hcomm blank).symm.trans hr
  have hpresent : fields.find? (fun field => field.required && !seen.contains field.name) = none := by
    refine List.find?_eq_none.2 fun field hfield => ?_
    have hseen : field.name ∈ seen := by
      refine hall _ (.inr ((horder.map Prod.fst).mem_iff.1 ?_))
      rw [h.keys_eq hmoved]
      exact List.mem_map_of_mem (List.mem_map_of_mem hfield)
    simp [hseen]
  have hparts : Json.format.parts? (.object members') = some (.named members') := rfl
  show readRecord Json.format fields blank (.object members') = .ok r
  rw [readRecord, hparts]
  simp only [hread, hpresent, hfold]

end Field

end ChatCommands
