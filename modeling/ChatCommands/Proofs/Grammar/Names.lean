import ChatCommands.Proofs.Grammar.Fallback
import ChatCommands.Proofs.Grammar.Order
import ChatCommands.Proofs.Grammar.Replay
import ChatCommands.Proofs.Text.Capitals

/-!
# Commands by their declared names

A literal is kept in lowercase, and whoever uses it writes it as it was declared. Equality up to ASCII case
has to bridge the two, and does so only for capitals from `A` to `Z`.

* `Declares`: a step declared a literal, in some spelling, for a node below another.
* `Names`: a chain of literals as they were declared, one below the other.
* `Finds`: some tokens select a node.
* `Declares.next?_eq`: a token spelled as its literal was declared leads to the node of the literal if it
  has no capital outside ASCII, and leads nowhere otherwise.

**Theorem (`finds_iff_plainCase`).** Spelled as they were declared, the literals find the node that they
name exactly if none of them has a capital outside ASCII (`Text.PlainCase`).
-/

namespace ChatCommands

open Text

variable {C : Type}

/-! ## Declared literals -/

namespace Grammar

/-- A step declared the literal, in this spelling, for a node below another one, and the grammar has
grown into `g` since. -/
inductive Declares (g : Grammar C) : NodeId → String → NodeId → Prop
  | start {b b' : Builder C} {name : String} (hb : Builder.LeadsTo {} b)
      (hstep : b.startCommand name = (b', none)) (hlater : b'.grammar.GrowsInto g) :
      Declares g root name b'.cursor
  | keyword {b b' : Builder C} {literal : String} (hb : Builder.LeadsTo {} b)
      (hstep : b.addKeyword literal = .ok b') (hlater : b'.grammar.GrowsInto g) :
      Declares g b.cursor literal b'.cursor
  | synonym {b b' : Builder C} {name target : String} {child : NodeId}
      (hb : Builder.LeadsTo {} b) (hstep : b.addAlias name target = .ok b')
      (htarget : b.grammar.Has b.cursor (.edge (lower target) child))
      (hlater : b'.grammar.GrowsInto g) : Declares g b.cursor name child

/-- The literals, each declared below the node of the one before, lead from one node to another. -/
inductive Names (g : Grammar C) : NodeId → List String → NodeId → Prop
  | here (id : NodeId) : Names g id [] id
  | child {id next last : NodeId} {l : String} {ls : List String} : g.Declares id l next →
      Names g next ls last → Names g id (l :: ls) last

/-- The tokens select the node: its canonical path and its command, if it carries one. -/
structure Finds (g : Grammar C) (accepts : Slot → String → Bool) (tokens : List String)
    (id : NodeId) : Prop where
  path : ∃ p, g.HasPath id p ∧ (g.select accepts tokens).path = Dotted.join p
  command (c : C) : (g.node id).command = some c → (g.select accepts tokens).command = some c

theorem Grown.growsInto {g g' : Grammar C} (h : g.Grown) (hgrow : g.GrowsInto g') : g'.Grown :=
  (HasPath.root.growsInto h hgrow).1

end Grammar

namespace Builder

theorem LeadsTo.sound {b : Builder C} (h : LeadsTo {} b) : b.Sound :=
  (h.extends sound_start).1

/-- A keyword that was added stands below the cursor, on the edge of its lowercase literal. -/
theorem Sound.has_addKeyword {b b' : Builder C} (h : b.Sound) {literal : String}
    (hb : b.addKeyword literal = .ok b') :
    b'.grammar.Has b.cursor (.edge (lower literal) b'.cursor) := by
  obtain ⟨-, ⟨id, hid, rfl⟩ | ⟨hkind, -, rfl⟩⟩ := addKeyword_cases hb
  · exact hid
  · exact (Grammar.adds_keyword h.cursor_lt _ _ hkind _ _).2 (.inr ⟨rfl, rfl⟩)

/-- An alias that was added stands below the cursor, and leads to the node of its target. -/
theorem Sound.has_addAlias {b b' : Builder C} (h : b.Sound) {name target : String}
    {child : NodeId} (hb : b.addAlias name target = .ok b')
    (htarget : b.grammar.Has b.cursor (.edge (lower target) child)) :
    b'.grammar.Has b.cursor (.edge (lower name) child) := by
  obtain ⟨-, es, id, hkeywords, -, hid, rfl⟩ := addAlias_cases hb
  obtain rfl : child = id :=
    h.grown.turns_unique (t := .keyword (lower target)) htarget
      ((Grammar.has_edge_iff hkeywords).2 hid)
  exact (Grammar.adds_synonym h.cursor_lt hkeywords _ _ _ _).2 (.inr ⟨rfl, rfl⟩)

end Builder

namespace Grammar

section
variable {g : Grammar C} {id next last : NodeId} {l : String} {ls : List String}

/-- **A declared literal keeps its edge**, whatever was declared later. -/
theorem Declares.has_edge (h : g.Declares id l next) :
    g.Grown ∧ g.Has id (.edge (lower l) next) := by
  cases h with
  | @start b b' name hb hstep hlater =>
    unfold Builder.startCommand at hstep
    split_ifs at hstep with hempty
    · cases hstep
    · have hkeyword : b.reset.addKeyword l = .ok b' := by
        have hok := Builder.eq_ok_of_attempt (congrArg Prod.snd hstep)
        rwa [hstep] at hok
      have hsound := hb.sound.reset
      exact ⟨((hsound.moves_addKeyword hkeyword).extends hsound).1.grown.growsInto hlater,
        hlater.has (hsound.has_addKeyword hkeyword)⟩
  | keyword hb hstep hlater =>
    exact ⟨((hb.sound.moves_addKeyword hstep).extends hb.sound).1.grown.growsInto hlater,
      hlater.has (hb.sound.has_addKeyword hstep)⟩
  | synonym hb hstep htarget hlater =>
    exact ⟨((Builder.moves_addAlias hstep).extends hb.sound).1.grown.growsInto hlater,
      hlater.has (hb.sound.has_addAlias hstep htarget)⟩

/-- **A literal leads to its node in the spelling it was declared in**, unless it has a capital outside
ASCII: then it leads nowhere. -/
theorem Declares.next?_eq (h : g.Declares id l next) (accepts : Slot → String → Bool) :
    g.next? accepts id l = if PlainCase l then some next else none := by
  obtain ⟨hg, hhas⟩ := h.has_edge
  obtain ⟨es, hbranches, hedge⟩ := exists_keywords_of_has hhas
  have hkept := (hg.orderlyEdges hbranches).kept
  split_ifs with hplain
  · refine hg.leads_iff.1 (.keyword hbranches hedge ?_ rfl)
    exact (sameUpToAsciiCase_iff_eq_lower (lower_lower l)).2 ⟨hplain, rfl⟩
  · cases hnext : g.next? accepts id l with
    | none => rfl
    | some other =>
      cases hg.leads_iff.2 hnext with
      | keyword hbranches' hedge' hliteral =>
        obtain rfl := Branches.keywords.inj (hbranches.symm.trans hbranches')
        exact absurd (plainCase_of_sameUpToAsciiCase (hkept _ hedge').lower_eq hliteral) hplain
      | parameter hbranches' => cases hbranches.symm.trans hbranches'

/-! ## Walking by declared literals -/

/-- Literals without capitals outside ASCII lead the whole way. -/
theorem Names.walkFrom_of_plainCase (h : g.Names id ls last) (accepts : Slot → String → Bool)
    (hplain : ∀ l ∈ ls, PlainCase l) :
    (g.walkFrom accepts id ls).stuck = false ∧
      (g.walkFrom accepts id ls).entered.getLastD id = last := by
  induction h with
  | here => exact ⟨rfl, rfl⟩
  | child hdeclares _ ih =>
    obtain ⟨hl, hls⟩ := List.forall_mem_cons.1 hplain
    obtain ⟨hstuck, hlast⟩ := ih hls
    rw [walkFrom_cons_of_next?_eq_some ((hdeclares.next?_eq accepts).trans (if_pos hl))]
    refine ⟨hstuck, ?_⟩
    rwa [Walk.via, List.getLastD_cons]

/-- The walk stops short where there is such a capital. -/
theorem Names.length_walkFrom_lt (h : g.Names id ls last) (accepts : Slot → String → Bool)
    (hplain : ¬ ∀ l ∈ ls, PlainCase l) : (g.walkFrom accepts id ls).length < ls.length := by
  induction h with
  | here => exact absurd (fun l hl => nomatch hl) hplain
  | @child id next last l ls hdeclares _ ih =>
    by_cases hl : PlainCase l
    · have hls : ¬ ∀ l ∈ ls, PlainCase l := fun hls => hplain (List.forall_mem_cons.2 ⟨hl, hls⟩)
      rw [walkFrom_cons_of_next?_eq_some ((hdeclares.next?_eq accepts).trans (if_pos hl)),
        length_via, List.length_cons]
      exact Nat.succ_lt_succ (ih hls)
    · have hnext := (hdeclares.next?_eq accepts).trans (if_neg hl)
      obtain ⟨hentered, hstuck⟩ := walkFrom_cons_of_next?_eq_none hnext ls
      -- No parameter stands beside the keyword that could have taken the word.
      have hfree : (g.walkFrom accepts id (l :: ls)).stuck = false := by
        rw [Bool.eq_false_iff]
        intro h
        obtain ⟨child, hbranches, -⟩ := hstuck.1 h
        obtain ⟨es, hkeywords, -⟩ := exists_keywords_of_has hdeclares.has_edge.2
        cases hbranches.symm.trans hkeywords
      rw [Walk.length, hentered, hfree]
      exact Nat.succ_pos _

/-- The path of a node has a segment for each of the literals that name it. -/
theorem Names.exists_hasPath (h : g.Names id ls last) {p : List String} (hp : g.HasPath id p) :
    ∃ q, g.HasPath last q ∧ q.length = p.length + ls.length := by
  induction h generalizing p with
  | here => exact ⟨p, hp, rfl⟩
  | child hdeclares _ ih =>
    have hchild := Branches.mem_targets_of_mem_edges hdeclares.has_edge.2
    obtain ⟨q, hq, hlength⟩ := ih (hp.child hchild)
    refine ⟨q, hq, ?_⟩
    rw [hlength, List.length_append, List.length_singleton, List.length_cons]
    omega

/-- Literals of plain case lead to their node, and the walk ends there. -/
theorem Names.exists_entered (h : g.Names root (l :: ls) id) (accepts : Slot → String → Bool)
    (hplain : ∀ word ∈ l :: ls, PlainCase word) :
    (g.walk accepts (l :: ls)).stuck = false ∧
      ∃ before, (g.walk accepts (l :: ls)).entered = before ++ [id] := by
  obtain ⟨hstuck, hlast⟩ := h.walkFrom_of_plainCase accepts hplain
  refine ⟨hstuck, ?_⟩
  rcases List.eq_nil_or_concat (g.walk accepts (l :: ls)).entered with
    hnil | ⟨before, last, hentered⟩
  · cases h with
    | child hdeclares =>
      have hnext := (hdeclares.next?_eq accepts).trans (if_pos (hplain l List.mem_cons_self))
      rw [walk, walkFrom_cons_of_next?_eq_some hnext] at hnil
      cases hnil
  · rw [List.concat_eq_append] at hentered
    rw [show (g.walkFrom accepts root (l :: ls)).entered = before ++ [last] from hentered,
      List.getLastD_concat] at hlast
    exact ⟨before, hlast ▸ hentered⟩

/-- **A node answers to the name it was declared by**, exactly if the name has no capital outside
ASCII. The grammar may have grown since. -/
theorem finds_iff_plainCase (h : g.Names root (l :: ls) id) (accepts : Slot → String → Bool) :
    g.Finds accepts (l :: ls) id ↔ ∀ word ∈ l :: ls, PlainCase word := by
  have hg : g.Grown := by
    cases h with
    | child hdeclares => exact hdeclares.has_edge.1
  constructor
  · rintro ⟨⟨p, hp, hpath⟩, -⟩
    refine Decidable.byContradiction fun hplain => ?_
    -- The walk is too short for the path of the node.
    obtain ⟨q, hq, hlength⟩ := h.exists_hasPath .root
    obtain ⟨id', hp'⟩ := hg.exists_hasPath_segmentsOf accepts (l :: ls)
    obtain rfl := hg.join_injective hp' hp hpath
    rw [hg.hasPath_unique hq hp', length_segmentsOf, List.length_nil, Nat.zero_add] at hlength
    exact Nat.ne_of_lt (h.length_walkFrom_lt accepts hplain) hlength
  · intro hplain
    obtain ⟨hstuck, before, hentered⟩ := h.exists_entered accepts hplain
    refine ⟨⟨_, g.hasPath_of_walk accepts _ hentered, ?_⟩, fun c hc => ?_⟩
    · show Dotted.join (g.segmentsOf (g.walk accepts (l :: ls))) = _
      rw [segmentsOf, hstuck, hentered, if_neg Bool.false_ne_true, List.append_nil]
    · rw [command_select_of_entered hentered (hc ▸ Option.some_ne_none c), hc]

end

end Grammar

/-! ## Samples -/

namespace Sample

open Grammar Builder

/-- A command below which another one is declared. -/
def listing : Builder String := (BuildStep.runAll [.start "Voice"] {}).1

def listed : Builder String := (listing.attempt (·.addKeyword "List")).1

/-- The upper command gets another name. -/
def translated : Builder String := (listed.reset.attempt (·.addAlias "Stimmen" "Voice")).1

/-- Then the lower one gets something to do, and the grammar goes on. -/
def extended : Builder String :=
  (BuildStep.runAll [.start "Voice", .keyword "List", .command "list", .start "Chat"] translated).1

theorem names_extended : extended.grammar.Names root ["Stimmen", "List"] 2 := by
  have hlisting : LeadsTo {} listing := (LeadsTo.refl {}).runAll _
  have hlisted : LeadsTo {} listed := hlisting.step (.keyword "List")
  have hbefore : listed.grammar.GrowsInto translated.grammar :=
    (((LeadsTo.refl _).step (.synonym "Stimmen" "Voice")).extends hlisted.sound.reset).2
  have htranslated : translated.Sound := (hlisted.reset.step (.synonym "Stimmen" "Voice")).sound
  have hlater : translated.grammar.GrowsInto extended.grammar :=
    (((LeadsTo.refl translated).runAll _).extends htranslated).2
  have hkeyword : listing.addKeyword "List" = .ok listed := eq_ok_of_attempt (by decide +kernel)
  have halias : listed.reset.addAlias "Stimmen" "Voice" = .ok translated :=
    eq_ok_of_attempt (by decide +kernel)
  have htarget : (⟨lower "Voice", 1⟩ : Edge) ∈ (listed.grammar.node root).branches.edges := by
    decide +kernel
  have hvoice : extended.grammar.Declares root "Stimmen" 1 :=
    .synonym hlisted.reset halias htarget hlater
  have hlist : extended.grammar.Declares listing.cursor "List" listed.cursor :=
    .keyword hlisting hkeyword (hbefore.trans hlater)
  exact .child hvoice (.child hlist (.here 2))

theorem finds_extended :
    extended.grammar.Names root ["Stimmen", "List"] 2 ∧
      (∀ word ∈ ["Stimmen", "List"], PlainCase word) ∧
      extended.grammar.Finds plainly ["Stimmen", "List"] 2 := by
  have hplain : ∀ word ∈ ["Stimmen", "List"], PlainCase word := by decide +kernel
  exact ⟨names_extended, hplain, (finds_iff_plainCase names_extended plainly).2 hplain⟩

/-- A name with a capital that is lowercased when it is declared, and not when it is used. -/
def summery : Builder String := (BuildStep.runAll [.start "Été", .command "summer"] {}).1

theorem names_summery : summery.grammar.Names root ["Été"] 1 := by
  have hstart : ({} : Builder String).startCommand "Été" = ((startCommand {} "Été").1, none) :=
    Prod.ext rfl (by decide +kernel)
  have hstarted : (startCommand ({} : Builder String) "Été").1.Sound :=
    ((LeadsTo.refl {}).step (.start "Été")).sound
  have hlater : (startCommand {} "Été").1.grammar.GrowsInto summery.grammar :=
    (((LeadsTo.refl _).step (.command "summer")).extends hstarted).2
  exact .child (.start (.refl {}) hstart hlater) (.here 1)

/-- **The command does not answer to the name it was declared by**, only to its lowercase form. -/
theorem not_finds_summery :
    summery.grammar.Names root ["Été"] 1 ∧
      (summery.grammar.select plainly ["été"]).command = some "summer" ∧
      (summery.grammar.select plainly ["Été"]).path = "" ∧
      ¬ summery.grammar.Finds plainly ["Été"] 1 := by
  have hcommand : (summery.grammar.node 1).command = some "summer" := by decide +kernel
  have hselect : (summery.grammar.select plainly ["Été"]).command = none := by decide +kernel
  refine ⟨names_summery, by decide +kernel, by decide +kernel, fun hfinds => ?_⟩
  cases hselect.symm.trans (hfinds.command "summer" hcommand)

end Sample

end ChatCommands
