import ChatCommands.Json.Format
import ChatCommands.Proofs.Json.Scanning

/-!
# Reading what was written

The reader takes the tokens of a text one at a time and holds what is open in frames. What was written
for a value is read as that value, in whatever frames it stands and whatever comes after it.

* `JsonReader.Rereads`: that, of one value.
* `Json.byParts`: induction on values by their items and members.

**Theorem (`JsonDocument.ofText_write`).** The text of a writable value is a document of that value.
-/

namespace ChatCommands

namespace Json

/-! ## Values by their parts -/

/-- What holds of values without parts, and of arrays and objects if it holds of their parts, holds of
all values. -/
@[elab_as_elim]
theorem byParts {P : Json → Prop} (v : Json) (scalar : ∀ v : Json, v.parts? = none → P v)
    (array : ∀ items, (∀ v ∈ items, P v) → P (.array items))
    (object : ∀ members, (∀ m ∈ members, P m.2) → P (.object members)) : P v := by
  refine Json.rec (motive_1 := P) (motive_2 := fun vs => ∀ v ∈ vs, P v)
    (motive_3 := fun ms => ∀ m ∈ ms, P m.2) (motive_4 := fun m => P m.2) (scalar _ rfl)
    (fun _ => scalar _ rfl) (fun _ => scalar _ rfl) (fun _ => scalar _ rfl) (fun _ => scalar _ rfl)
    (scalar _ rfl) array object (scalar _ rfl) ?_ ?_ ?_ ?_ ?_ v
  · exact fun _ h => nomatch h
  · exact fun v vs hv hvs => List.forall_mem_cons.2 ⟨hv, hvs⟩
  · exact fun _ h => nomatch h
  · exact fun m ms hm hms => List.forall_mem_cons.2 ⟨hm, hms⟩
  · exact fun _ v hv => hv

theorem allWritable_iff {vs : List Json} :
    allWritable vs = true ↔ ∀ v ∈ vs, v.isWritable = true := by
  induction vs with
  | nil => simp [allWritable]
  | cons v vs ih => rw [allWritable, Bool.and_eq_true, ih, List.forall_mem_cons]

theorem allMembersWritable_iff {ms : List (Option String × Json)} :
    allMembersWritable ms = true ↔ ∀ m ∈ ms, m.1.isSome = true ∧ m.2.isWritable = true := by
  induction ms with
  | nil => simp [allMembersWritable]
  | cons m ms ih =>
    rw [allMembersWritable, Bool.and_eq_true, Bool.and_eq_true, ih, List.forall_mem_cons]

theorem separated_cons_cons (part next : List Char) (parts : List (List Char)) :
    separated (part :: next :: parts) = part ++ ',' :: separated (next :: parts) := by
  rw [separated, List.intercalate_cons_cons, List.append_assoc, List.singleton_append]
  rfl

end Json

namespace JsonReader

open JsonToken.Scanner (EndsWord idle endsWord_cons tokens_quote)

/-! ## Entering values -/

/-- Reads on after a value has been completed. -/
def readAfter (value : Json) (frames : List Frame) (tokens : List JsonToken) : JsonDocument :=
  match enter value frames with
  | .goOn expected frames => read expected frames tokens
  | .complete value => { value, ends := tokens.isEmpty }
  | .stuck => { value := breakOff frames, ends := false }

theorem read_of_step_eq_enter {expected : Expectation} {token : JsonToken} {frames : List Frame}
    {value : Json} {outer : List Frame} (h : step expected token frames = enter value outer)
    (tokens : List JsonToken) :
    read expected frames (token :: tokens) = readAfter value outer tokens := by
  rw [read, readAfter, h]
  rcases outer with _ | ⟨_ | _ | _, outer⟩ <;> rfl

/-- A value may come next. -/
def Due (expected : Expectation) (frames : List Frame) : Prop :=
  ∀ token, token ≠ .closeBracket → step expected token frames = beginValue token frames

theorem due_value (frames : List Frame) : Due .value frames :=
  fun _ _ => rfl

theorem due_firstPart (items : List Json) (outer : List Frame) :
    Due .firstPart (.array items :: outer) := by
  intro token hne
  cases token with
  | closeBracket => exact absurd rfl hne
  | _ => rfl

/-- The key of a member may come next. -/
def DueKey (expected : Expectation) : Prop :=
  ∀ key members outer, step expected (.scalar (.text key)) (.object members :: outer) =
    .goOn .colon (.member members (some key) :: outer)

theorem dueKey_key : DueKey .key :=
  fun _ _ _ => rfl

theorem dueKey_firstPart : DueKey .firstPart :=
  fun _ _ _ => rfl

/-- What was written for the value is read as the value wherever one may come. -/
def Rereads (v : Json) : Prop :=
  ∀ expected frames rest, Due expected frames → EndsWord rest →
    read expected frames (idle.tokens (v.chars ++ rest)) = readAfter v frames (idle.tokens rest)

/-! ## Values without parts -/

theorem rereads_of_tokens {v : Json}
    (h : ∀ rest, EndsWord rest → idle.tokens (v.chars ++ rest) = .scalar v :: idle.tokens rest) :
    Rereads v := by
  intro expected frames rest hdue hrest
  rw [h rest hrest]
  exact read_of_step_eq_enter (hdue (.scalar v) JsonToken.noConfusion) _

theorem rereads_word {v : Json} (hne : v.chars ≠ [])
    (hchars : v.chars.all JsonToken.isWordChar = true)
    (hword : JsonToken.ofWord v.chars = .scalar v) : Rereads v := by
  refine rereads_of_tokens fun rest hrest => ?_
  rw [JsonToken.Scanner.tokens_idle_word hne (List.all_eq_true.1 hchars) hrest, hword]

theorem rereads_scalar {v : Json} (hparts : v.parts? = none) (h : v.isWritable = true) :
    Rereads v := by
  cases v with
  | null => exact rereads_word (List.cons_ne_nil _ _) rfl rfl
  | bool value =>
    cases value with
    | true => exact rereads_word (List.cons_ne_nil _ _) rfl rfl
    | false => exact rereads_word (List.cons_ne_nil _ _) rfl rfl
  | natural n =>
    have hn : n < Nat.pow 2 64 := of_decide_eq_true h
    refine rereads_word Nat.toDigits_ne_nil (List.all_eq_true.2 fun c hc => ?_)
      (JsonToken.ofWord_toDigits hn)
    have hdigit := Nat.isDigit_of_mem_toDigits (by decide) (by decide) hc
    simp [JsonToken.isWordChar, Char.isAlphanum, hdigit]
  | text s => exact rereads_of_tokens fun rest _ => tokens_quote s rest
  | array items => cases hparts
  | object members => cases hparts
  | number finite => cases h
  | halfPair => cases h
  | broken => cases h

/-! ## Arrays and objects -/

theorem read_openBracket {expected : Expectation} {frames : List Frame} (hdue : Due expected frames)
    (tokens : List JsonToken) : read expected frames (.openBracket :: tokens) =
      read .firstPart (.array [] :: frames) tokens := by
  rw [read, hdue .openBracket nofun]
  rfl

theorem read_openBrace {expected : Expectation} {frames : List Frame} (hdue : Due expected frames)
    (tokens : List JsonToken) : read expected frames (.openBrace :: tokens) =
      read .firstPart (.object [] :: frames) tokens := by
  rw [read, hdue .openBrace nofun]
  rfl

/-- The rest of an array is read, from an item on. -/
theorem read_items {v : Json} (hv : Rereads v) {vs : List Json} (h : ∀ w ∈ vs, Rereads w)
    {expected : Expectation} {done : List Json} {outer : List Frame}
    (hdue : Due expected (.array done :: outer)) (rest : List Char) :
    read expected (.array done :: outer)
        (idle.tokens (Json.separated (Json.charsOfItems (v :: vs)) ++ ']' :: rest)) =
      readAfter (.array (done.reverse ++ v :: vs)) outer (idle.tokens rest) := by
  induction vs generalizing v expected done with
  | nil =>
    have hend : read .separator (.array (v :: done) :: outer) (.closeBracket :: idle.tokens rest) =
        readAfter (.array (v :: done).reverse) outer (idle.tokens rest) :=
      read_of_step_eq_enter rfl _
    rw [Json.charsOfItems, Json.charsOfItems, Json.separated, List.intercalate_singleton,
      hv _ _ _ hdue (endsWord_cons rfl rest)]
    rwa [List.reverse_cons] at hend
  | cons w ws ih =>
    obtain ⟨hw, hws⟩ := List.forall_mem_cons.1 h
    have hrest := ih hw hws (due_value (.array (v :: done) :: outer))
    rw [Json.charsOfItems, Json.charsOfItems, Json.separated_cons_cons, List.append_assoc,
      List.cons_append, hv _ _ _ hdue (endsWord_cons rfl _), ← Json.charsOfItems]
    rwa [List.reverse_cons, List.append_assoc] at hrest

theorem read_member {v : Json} (hv : Rereads v) {expected : Expectation} (hdue : DueKey expected)
    (key : String) (done : List (Option String × Json)) (outer : List Frame) {rest : List Char}
    (hrest : EndsWord rest) :
    read expected (.object done :: outer)
        (idle.tokens (Json.quote key ++ ':' :: v.chars ++ rest)) =
      read .separator (.object ((some key, v) :: done) :: outer) (idle.tokens rest) := by
  rw [List.append_assoc, tokens_quote, read, hdue]
  exact hv .value (.member done (some key) :: outer) rest (due_value _) hrest

/-- The rest of an object is read, from a member on. -/
theorem read_members (key : String) {v : Json} (hv : Rereads v)
    {ms : List (Option String × Json)} (h : ∀ m ∈ ms, m.1.isSome = true ∧ Rereads m.2)
    {expected : Expectation} (hdue : DueKey expected) (done : List (Option String × Json))
    (outer : List Frame) (rest : List Char) :
    read expected (.object done :: outer)
        (idle.tokens (Json.separated (Json.charsOfMembers ((some key, v) :: ms)) ++ '\x7d' :: rest)) =
      readAfter (.object (done.reverse ++ (some key, v) :: ms)) outer (idle.tokens rest) := by
  induction ms generalizing key v expected done with
  | nil =>
    have hend : read .separator (.object ((some key, v) :: done) :: outer)
        (.closeBrace :: idle.tokens rest) =
          readAfter (.object ((some key, v) :: done).reverse) outer (idle.tokens rest) :=
      read_of_step_eq_enter rfl _
    rw [Json.charsOfMembers, Json.charsOfMembers, Json.separated, List.intercalate_singleton,
      Option.map_some, Option.getD_some, read_member hv hdue _ _ _ (endsWord_cons rfl rest)]
    rwa [List.reverse_cons] at hend
  | cons m ms ih =>
    obtain ⟨⟨hkey, hm⟩, hms⟩ := List.forall_mem_cons.1 h
    obtain ⟨next, w⟩ := m
    obtain ⟨next, rfl⟩ := Option.isSome_iff_exists.1 hkey
    have hrest := ih next hm hms dueKey_key ((some key, v) :: done)
    rw [Json.charsOfMembers, Json.charsOfMembers, Json.separated_cons_cons, List.append_assoc,
      List.cons_append, Option.map_some, Option.getD_some,
      read_member hv hdue _ _ _ (endsWord_cons rfl _), ← Json.charsOfMembers]
    rwa [List.reverse_cons, List.append_assoc] at hrest

/-- **What was written for a value is read as the value.** -/
theorem rereads_of_isWritable {v : Json} (h : v.isWritable = true) : Rereads v := by
  induction v using Json.byParts with
  | scalar v hparts => exact rereads_scalar hparts h
  | array items ih =>
    intro expected frames rest hdue _
    have hitems : ∀ v ∈ items, Rereads v := fun v hv =>
      ih v hv (Json.allWritable_iff.1 h v hv)
    rw [Json.chars, List.cons_append, List.append_assoc]
    refine (read_openBracket hdue _).trans ?_
    cases items with
    | nil => exact read_of_step_eq_enter rfl _
    | cons v vs =>
      obtain ⟨hv, hvs⟩ := List.forall_mem_cons.1 hitems
      exact read_items hv hvs (due_firstPart [] frames) rest
  | object members ih =>
    intro expected frames rest hdue _
    have hmembers : ∀ m ∈ members, m.1.isSome = true ∧ Rereads m.2 := fun m hm =>
      have hm' := Json.allMembersWritable_iff.1 h m hm
      ⟨hm'.1, ih m hm hm'.2⟩
    rw [Json.chars, List.cons_append, List.append_assoc]
    refine (read_openBrace hdue _).trans ?_
    cases members with
    | nil => exact read_of_step_eq_enter rfl _
    | cons m ms =>
      obtain ⟨⟨hkey, hm⟩, hms⟩ := List.forall_mem_cons.1 hmembers
      obtain ⟨key, v⟩ := m
      obtain ⟨key, rfl⟩ := Option.isSome_iff_exists.1 hkey
      exact read_members key hm hms dueKey_firstPart [] frames rest

end JsonReader

/-! ## Documents -/

/-- **The text of a writable value is a document of that value.** -/
theorem JsonDocument.ofText_write {v : Json} (h : v.isWritable = true) :
    ofText v.write = { value := v, ends := true } := by
  have hread := JsonReader.rereads_of_isWritable h .value [] [] (JsonReader.due_value [])
    fun _ hc => nomatch hc
  rw [List.append_nil] at hread
  rw [ofText, JsonToken.scan, Json.write, String.toList_ofList, hread]
  rfl

/-- Quotes and control characters are escaped, everything else stands for itself. -/
example : Json.write (.ofMembers [("a\"b", .array [.natural 10, .null, .text "\n/é\x1F"])]) =
    "\x7b\"a\\\"b\":[10,null,\"\\n/é\\u001f\"]\x7d" := by
  rfl

/-- What a value is read as, its text is read as. -/
theorem Json.readText_write {α : Type} {read : Json → Read α} {v : Json}
    (h : v.isWritable = true) {a : α} (hread : read v = .ok a) : readText read v.write = .ok a := by
  rw [readText, JsonDocument.ofText_write h]
  simp only [hread, if_true]

end ChatCommands
