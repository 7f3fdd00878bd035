import Mathlib.Data.List.DropRight
import Mathlib.Data.List.Sort
import ChatCommands.Proofs.Text.Lowercase
import ChatCommands.Proofs.Tokens.Pieces
import ChatCommands.Slot

/-!
# Mentions as arguments

A message is read twice: its arguments are the tokens after the command prefix, in which quotes group, and
its mentions are the words between blanks that begin with `@`, in which quotes are characters like others.
A token that is a login after `@` holds no blank, so what stands in the line for it is one word
(`StandsFor.mem_words`). That word mentions the login unless a quote stands before the end of the login.

* `Slot.IsLogin`: what a login looks like.
* `Message.Names`: a word mentions a login, up to ASCII case.
* `Tokens.StandsFor`: what is written in a line for one of its tokens, quotes included.

**Theorem (`reads_typed_mention`).** The word for a token `@login` after the first one mentions the login
exactly if it begins with `@login`, and then mention slots accept the token, with its `@` and without.
-/

namespace ChatCommands

/-! ## Words of a text -/

namespace Text

/-- A blank ends the words on both of its sides. -/
theorem wordsFrom_append_blank {sep : Char} (hsep : isBlank sep = true) (front back : List Char)
    (current : List Char) :
    wordsFrom current (front ++ sep :: back) = wordsFrom current front ++ wordsFrom [] back := by
  induction front generalizing current with
  | nil =>
    cases current <;> simp [wordsFrom, hsep]
  | cons c front ih =>
    rw [List.cons_append, wordsFrom, wordsFrom, ih, ih]
    split_ifs <;> rfl

/-- Characters that are no blanks go to the word that was begun. -/
theorem wordsFrom_append_of_free {word : List Char} (hfree : ∀ c ∈ word, isBlank c = false)
    (current back : List Char) :
    wordsFrom current (word ++ back) = wordsFrom (word.reverse ++ current) back := by
  induction word generalizing current with
  | nil => rfl
  | cons c word ih =>
    rw [List.cons_append, wordsFrom, if_neg (by simp [hfree c List.mem_cons_self]),
      ih fun d hd => hfree d (List.mem_cons_of_mem _ hd)]
    simp

/-- **What stands between two blanks is a word**, or between a blank and the end of the text. -/
theorem mem_wordsFrom {front word back : List Char} {sep : Char} (hsep : isBlank sep = true)
    (hne : word ≠ []) (hfree : ∀ c ∈ word, isBlank c = false)
    (hback : back = [] ∨ ∃ sep' rest, back = sep' :: rest ∧ isBlank sep' = true) :
    word ∈ wordsFrom [] (front ++ sep :: (word ++ back)) := by
  rw [wordsFrom_append_blank hsep, wordsFrom_append_of_free hfree, List.append_nil]
  have hempty : word.reverse.isEmpty = false := by simpa using hne
  refine List.mem_append_right _ ?_
  rcases hback with rfl | ⟨sep', rest, rfl, hsep'⟩
  · simp [wordsFrom, hempty]
  · simp [wordsFrom, hsep', hempty]

end Text

/-! ## Logins -/

namespace Slot

/-- The text is a login without `@`. -/
structure IsLogin (login : String) : Prop where
  pos : 1 ≤ login.toList.length
  length_le : login.toList.length ≤ 25
  chars : ∀ c ∈ login.toList, isLoginChar c = true

theorem toNat_of_isLoginChar {c : Char} (h : isLoginChar c = true) :
    0x30 ≤ c.toNat ∧ c.toNat ≤ 0x39 ∨ 0x41 ≤ c.toNat ∧ c.toNat ≤ 0x5A ∨ c.toNat = 0x5F ∨
      0x61 ≤ c.toNat ∧ c.toNat ≤ 0x7A := by
  have hclasses : (decide ('A'.val ≤ c.val ∧ c.val ≤ 'Z'.val) ||
      (decide ('a'.val ≤ c.val) && decide (c.val ≤ 'z'.val)) ||
      (decide ('0'.val ≤ c.val) && decide (c.val ≤ '9'.val)) || c == '_') = true := h
  simp only [Bool.or_eq_true, Bool.and_eq_true, decide_eq_true_eq, beq_iff_eq,
    UInt32.le_iff_toNat_le] at hclasses
  rcases hclasses with ((h | h) | h) | rfl
  · exact .inr (.inl h)
  · exact .inr (.inr (.inr h))
  · exact .inl h
  · exact .inr (.inr (.inl rfl))

theorem isBlank_of_isLoginChar {c : Char} (h : isLoginChar c = true) : Text.isBlank c = false := by
  have hrange := toNat_of_isLoginChar h
  rw [Bool.eq_false_iff, Text.isBlank, Ne, Text.Span.anyContains_iff]
  simp only [Text.blankSpans, List.mem_cons, List.not_mem_nil, or_false, exists_eq_or_imp,
    exists_eq_left]
  omega

/-- The characters of logins may end a login in a text. -/
theorem endsLogin_of_isLoginChar {c : Char} (h : isLoginChar c = true) :
    Message.endsLogin c = true := by
  rw [Message.endsLogin, Text.isAlphanumeric, Bool.or_eq_true, Bool.or_eq_true,
    Text.Span.anyContains_iff, Text.Span.anyContains_iff]
  rcases toNat_of_isLoginChar h with hdigit | hupper | hunderscore | hlower
  · exact .inl (.inr ⟨⟨0x30, 0x39⟩, .head _, hdigit⟩)
  · exact .inl (.inl ⟨⟨0x41, 0x5A⟩, .head _, hupper⟩)
  · exact .inr (beq_iff_eq.2 (Char.toNat_inj.1 hunderscore))
  · exact .inl (.inl ⟨⟨0x61, 0x7A⟩, .tail _ (.head _), hlower⟩)

theorem endsLogin_quote : Message.endsLogin '"' = false := by
  decide +kernel

namespace IsLogin

variable {login : String}

theorem ne_nil (h : IsLogin login) : login.toList ≠ [] :=
  List.length_pos_iff.1 h.pos

theorem quote_not_mem (h : IsLogin login) : '"' ∉ login.toList := by
  intro hmem
  cases h.chars _ hmem

theorem fits (h : IsLogin login) : (1 ≤ login.toList.length && login.toList.length ≤ 25 &&
    login.toList.all isLoginChar) = true := by
  rw [Bool.and_eq_true, Bool.and_eq_true, decide_eq_true_eq, decide_eq_true_eq, List.all_eq_true]
  exact ⟨⟨h.pos, h.length_le⟩, h.chars⟩

theorem loginOf?_self (h : IsLogin login) : loginOf? login = some login := by
  unfold loginOf?
  split
  next rest heq =>
    have hat : isLoginChar '@' = true := h.chars '@' (heq ▸ List.mem_cons_self)
    cases hat
  next => rw [if_pos h.fits, String.ofList_toList]

theorem loginOf?_at (h : IsLogin login) : loginOf? ("@" ++ login) = some login := by
  have hword : ("@" ++ login).toList = '@' :: login.toList := String.toList_append
  rw [loginOf?, hword]
  exact (if_pos h.fits).trans (congrArg some String.ofList_toList)

/-- A login stands for itself with its `@` and without. -/
theorem loginOf?_of_mem (h : IsLogin login) {word : String} (hword : word ∈ ["@" ++ login, login]) :
    loginOf? word = some login := by
  rcases List.mem_pair.1 hword with rfl | rfl
  · exact h.loginOf?_at
  · exact h.loginOf?_self

end IsLogin

end Slot

/-! ## Words that mention a login -/

namespace Message

/-- The word mentions the login, up to ASCII case. -/
def Names (word : List Char) (login : String) : Prop :=
  ∃ name ∈ mentionOf? word, Text.sameUpToAsciiCase name (Text.lower login) = true

/-- What is left of a word after its `@` is a login, if there is anything left. -/
theorem mentionOf?_eq_some_iff {word : List Char} {name : String} :
    mentionOf? word = some name ↔ ∃ rest, word = '@' :: rest ∧
      rest.rdropWhile (fun c => !endsLogin c) ≠ [] ∧
      name = Text.lower (String.ofList (rest.rdropWhile fun c => !endsLogin c)) := by
  constructor
  · intro h
    unfold mentionOf? at h
    split at h
    · next rest =>
      dsimp only at h
      split_ifs at h with hempty
      refine ⟨rest, rfl, ?_, (Option.some.inj h).symm⟩
      simpa [List.rdropWhile] using hempty
    · cases h
  · rintro ⟨rest, rfl, hne, rfl⟩
    have hempty : (rest.rdropWhile fun c => !endsLogin c).isEmpty = false := by simpa using hne
    rw [List.rdropWhile] at hempty ⊢
    simp [mentionOf?, hempty]

theorem filter_quote_eq_self {cs : List Char} (h : '"' ∉ cs) : cs.filter (· ≠ '"') = cs := by
  rw [List.filter_eq_self]
  intro c hc
  simpa using fun heq : c = '"' => h (heq ▸ hc)

/-- Lowercasing neither removes nor brings in quotes, so what is the same as a login holds none. -/
theorem quote_not_mem_of_same {name login : String} (hlogin : Slot.IsLogin login)
    (h : Text.sameUpToAsciiCase (Text.lower name) (Text.lower login) = true) :
    '"' ∉ name.toList := by
  intro hmem
  rw [Text.sameUpToAsciiCase_iff, Text.foldAscii_lower, Text.foldAscii_lower] at h
  have hstays : '"' ∈ (Text.lower name).toList := Text.mem_lower Text.isCapital_quote hmem
  rw [h] at hstays
  exact Text.not_mem_lower Text.introducesNone_quote hlogin.quote_not_mem hstays

/-- A login keeps its end, and loses the quotes after it. -/
theorem rdropWhile_login {login : String} (hlogin : Slot.IsLogin login) {quotes : List Char}
    (hquotes : ∀ c ∈ quotes, c = '"') :
    (login.toList ++ quotes).rdropWhile (fun c => !endsLogin c) = login.toList := by
  have hdropped : ∀ c ∈ quotes.reverse, (!endsLogin c) = true := by
    intro c hc
    rw [hquotes c (List.mem_reverse.1 hc), Slot.endsLogin_quote]
    rfl
  have hkept : login.toList.rdropWhile (fun c => !endsLogin c) = login.toList := by
    rw [List.rdropWhile_eq_self_iff]
    intro hne
    simp [Slot.endsLogin_of_isLoginChar (hlogin.chars _ (List.getLast_mem hne))]
  rw [List.rdropWhile, List.reverse_append, List.dropWhile_append_of_pos hdropped]
  exact hkept

section
variable {login : String} {word : List Char} (hlogin : Slot.IsLogin login)
  (hword : word.filter (· ≠ '"') = '@' :: login.toList)
include hlogin hword

/-- A mention that holds no quote is all of the login. -/
theorem isPrefix_of_names (h : Names word login) : ('@' :: login.toList) <+: word := by
  obtain ⟨name, hname, hsame⟩ := h
  obtain ⟨rest, rfl, -, rfl⟩ := mentionOf?_eq_some_iff.1 hname
  have hrest : rest.filter (· ≠ '"') = login.toList := by simpa using hword
  have hsplit : rest.rdropWhile (fun c => !endsLogin c) ++ rest.rtakeWhile (fun c => !endsLogin c) =
      rest := List.rdropWhile_append_rtakeWhile
  have htail : ∀ c ∈ rest.rtakeWhile fun c => !endsLogin c, endsLogin c = false := by
    intro c hc
    simpa using List.mem_rtakeWhile_imp hc
  generalize rest.rdropWhile (fun c => !endsLogin c) = front at hsplit hsame
  generalize rest.rtakeWhile (fun c => !endsLogin c) = tail at hsplit htail
  subst hsplit
  have hquote : '"' ∉ front := by
    have hname := quote_not_mem_of_same hlogin hsame
    rwa [String.toList_ofList] at hname
  rw [List.filter_append, filter_quote_eq_self hquote] at hrest
  -- What was cut off holds no character of a login, so all of the login is in front of it.
  have hnil : tail.filter (· ≠ '"') = [] := by
    rw [List.eq_nil_iff_forall_not_mem]
    intro c hc
    have hchar : c ∈ login.toList := hrest ▸ List.mem_append_right _ hc
    have hends := Slot.endsLogin_of_isLoginChar (hlogin.chars c hchar)
    rw [htail c (List.mem_of_mem_filter hc)] at hends
    cases hends
  rw [hnil, List.append_nil] at hrest
  rw [hrest]
  exact ⟨tail, rfl⟩

/-- **A word that is a login after `@`, but for quotes, mentions the login exactly if no quote stands
before the end of the login.** -/
theorem names_iff : Names word login ↔ ('@' :: login.toList) <+: word := by
  refine ⟨isPrefix_of_names hlogin hword, ?_⟩
  rintro ⟨quotes, rfl⟩
  have hfree : '"' ∉ '@' :: login.toList := by
    simpa using hlogin.quote_not_mem
  have hquotes : ∀ c ∈ quotes, c = '"' := by
    rw [List.filter_append, filter_quote_eq_self hfree] at hword
    have hnil := List.append_right_eq_self.1 hword
    rw [List.filter_eq_nil_iff] at hnil
    simpa using hnil
  have hkept := rdropWhile_login hlogin hquotes
  refine ⟨Text.lower login, mentionOf?_eq_some_iff.2 ⟨login.toList ++ quotes, rfl, ?_, ?_⟩,
    Text.sameUpToAsciiCase_refl _⟩
  · rw [hkept]
    exact hlogin.ne_nil
  · rw [hkept, String.ofList_toList]

end

end Message

/-! ## Slots for mentions -/

namespace Slot

/-- **A mention slot accepts a login exactly if some word of the content mentions it**, with its `@` and
without. -/
theorem accepts_iff_names {word login : String} (hword : loginOf? word = some login)
    (registries : Registries) (platform channel userId username content : String) {s : Slot}
    (hs : s.kind = .mention) :
    s.accepts registries (some (Message.ofContent platform channel userId username content)) word =
      true ↔ ∃ w ∈ Text.words content, Message.Names w login := by
  rw [accepts, hs]
  simp only [Option.any_some, mentions, hword, Message.ofContent, Message.mentionsIn,
    List.any_eq_true, List.mem_filterMap]
  constructor
  · rintro ⟨name, ⟨w, hw, hname⟩, hsame⟩
    exact ⟨w, hw, name, hname, hsame⟩
  · rintro ⟨w, hw, name, hname, hsame⟩
    exact ⟨name, ⟨w, hw, hname⟩, hsame⟩

end Slot

/-! ## What is written for a token -/

namespace Tokens

section
variable {line : List Char} {n : Nat} {ps qs : List (Nat × Nat)}

theorem PiecesFrom.sorted_first (h : PiecesFrom line n ps) :
    ps.Pairwise fun p q => p.1 < q.1 := by
  refine h.sorted.imp_of_mem ?_
  rintro ⟨first, stop⟩ q hp - hlt
  exact ((h.mem_iff first stop).1 hp).2.nonempty.trans hlt

/-- The pieces of a line are one list. -/
theorem PiecesFrom.unique (h : PiecesFrom line n ps) (h' : PiecesFrom line n qs) : ps = qs := by
  have hirrefl : Std.Irrefl fun p q : Nat × Nat => p.1 < q.1 := ⟨fun p => lt_irrefl p.1⟩
  have hantisymm : Std.Antisymm fun p q : Nat × Nat => p.1 < q.1 :=
    ⟨fun _ _ hlt hgt => absurd hlt hgt.asymm⟩
  refine h.sorted_first.eq_of_mem_iff h'.sorted_first ?_
  rintro ⟨first, stop⟩
  rw [h.mem_iff, h'.mem_iff]

theorem isBlank_of_separatesAt {cs : List Char} {i : Nat} (h : separatesAt cs i = true) :
    ∃ c, cs[i]? = some c ∧ Text.isBlank c = true := by
  rw [separatesAt, Bool.and_eq_true] at h
  exact (Option.any_eq_true _ _).1 h.1

/-- A piece that is not at the front of the line stands between two blanks, or between a blank and the end
of the line. -/
theorem IsPiece.exists_sides {first stop : Nat} (h : IsPiece line first stop) (hfirst : 0 < first) :
    ∃ front sep back, line = front ++ sep :: ((line.take stop).drop first ++ back) ∧
      Text.isBlank sep = true ∧
      (back = [] ∨ ∃ sep' rest, back = sep' :: rest ∧ Text.isBlank sep' = true) := by
  have hlt := h.nonempty
  have hle := h.stop_le
  obtain ⟨sep, hat, hsep⟩ := isBlank_of_separatesAt (h.before.resolve_left (by omega))
  have hline : line =
      line.take (first - 1) ++ sep :: ((line.take stop).drop first ++ line.drop stop) := by
    have hrest : line.drop first = (line.take stop).drop first ++ line.drop stop := by
      rw [← List.drop_append_of_le_length (by simp; omega), List.take_append_drop]
    obtain ⟨hin, rfl⟩ := List.getElem?_eq_some_iff.1 hat
    have hcons := List.drop_eq_getElem_cons hin
    rw [Nat.sub_add_cancel hfirst, hrest] at hcons
    rw [← hcons, List.take_append_drop]
  refine ⟨_, sep, line.drop stop, hline, hsep, ?_⟩
  rcases h.after with rfl | hafter
  · exact .inl List.drop_length
  · obtain ⟨sep', hat', hsep'⟩ := isBlank_of_separatesAt hafter
    obtain ⟨hin, rfl⟩ := List.getElem?_eq_some_iff.1 hat'
    exact .inr ⟨_, _, List.drop_eq_getElem_cons hin, hsep'⟩

end

/-- What stands in the line for the token number `i`, with its quotes. -/
def StandsFor (line : String) (i : Nat) (written : List Char) : Prop :=
  ∃ ps first stop, PiecesFrom line.toList 0 ps ∧ ps[i]? = some (first, stop) ∧
    written = (line.toList.take stop).drop first

section
variable {line : String} {i : Nat} {written : List Char}

/-- Every token is written in one way, and is that without its quotes. -/
theorem exists_standsFor {token : String} (h : (tokenize line)[i]? = some token) :
    ∃ written, (∀ other, StandsFor line i other ↔ other = written) ∧
      written.filter (· ≠ '"') = token.toList := by
  have hstart : At ([] ++ line.toList) [] none 0 := .between (.inl rfl)
  obtain ⟨ps, hps, hscan⟩ := exists_piecesFrom hstart
  have htokens : tokenize line = ps.map fun p => unquoted line.toList p.1 p.2 := hscan
  rw [htokens, List.getElem?_map, Option.map_eq_some_iff] at h
  obtain ⟨⟨first, stop⟩, hpiece, rfl⟩ := h
  refine ⟨(line.toList.take stop).drop first, ?_, String.toList_ofList.symm⟩
  intro other
  constructor
  · rintro ⟨qs, first', stop', hqs, hpiece', rfl⟩
    rw [hqs.unique hps, hpiece, Option.some.injEq, Prod.mk.injEq] at hpiece'
    rw [hpiece'.1, hpiece'.2]
  · rintro rfl
    exact ⟨ps, first, stop, hps, hpiece, rfl⟩

/-- What is written for a token after the first one stands between blanks. -/
theorem StandsFor.exists_sides (h : StandsFor line i written) (hi : 0 < i) :
    ∃ front sep back, line.toList = front ++ sep :: (written ++ back) ∧ Text.isBlank sep = true ∧
      (back = [] ∨ ∃ sep' rest, back = sep' :: rest ∧ Text.isBlank sep' = true) := by
  obtain ⟨ps, first, stop, hps, hat, rfl⟩ := h
  obtain ⟨hlt, hpiece⟩ := List.getElem?_eq_some_iff.1 hat
  have hfirst : 0 < first := by
    have hsorted := List.pairwise_iff_getElem.1 hps.sorted_first 0 i (by omega) hlt hi
    rw [hpiece] at hsorted
    exact Nat.zero_lt_of_lt hsorted
  have hmem : (first, stop) ∈ ps := hpiece ▸ List.getElem_mem hlt
  exact ((hps.mem_iff first stop).1 hmem).2.exists_sides hfirst

end

end Tokens

/-! ## Mentions that are typed as arguments -/

/-- What is written for a token that is a login after `@` counts as a mention as far as quotes let it. -/
structure TypedMention (m : Message) (written : List Char) (login : String) : Prop where
  /-- Blanks end what is written for the token, so it is a word of the content. -/
  mem_words : written ∈ Text.words m.content
  names_iff : Message.Names written login ↔ ('@' :: login.toList) <+: written
  accepts_iff : ∀ registries (s : Slot), s.kind = .mention → ∀ word ∈ ["@" ++ login, login],
    (s.accepts registries (some m) word = true ↔
      ∃ w ∈ Text.words m.content, Message.Names w login)
  /-- With no quote before the end of the login, the token is accepted, and the login alone. -/
  accepted : ('@' :: login.toList) <+: written → ∀ registries (s : Slot), s.kind = .mention →
    ∀ word ∈ ["@" ++ login, login], s.accepts registries (some m) word = true

/-- What is written for a token after the first one, if it holds no blank, is a word of the content. -/
theorem Tokens.StandsFor.mem_words {line : String} {i : Nat} {written : List Char}
    (h : StandsFor line i written) (hi : 0 < i) (hne : written ≠ [])
    (hfree : ∀ c ∈ written, Text.isBlank c = false) (commandPrefix : String) :
    written ∈ Text.words (commandPrefix ++ line) := by
  obtain ⟨front, sep, back, hline, hsep, hback⟩ := h.exists_sides hi
  rw [Text.words, String.toList_append, hline, ← List.append_assoc]
  exact Text.mem_wordsFrom hsep hne hfree hback

/-- **A mention typed as an argument is a word of the content that mentions the login, unless a quote
stands before its end**, and then mention slots accept it. -/
theorem reads_typed_mention {commandPrefix arguments login : String} {i : Nat} (hi : 0 < i)
    (hlogin : Slot.IsLogin login) (htoken : (tokenize arguments)[i]? = some ("@" ++ login))
    (platform channel userId username : String) :
    ∃ written, (∀ other, Tokens.StandsFor arguments i other ↔ other = written) ∧
      TypedMention (Message.ofContent platform channel userId username (commandPrefix ++ arguments))
        written login := by
  obtain ⟨written, hstands, hwritten⟩ := Tokens.exists_standsFor htoken
  have hword : written.filter (· ≠ '"') = '@' :: login.toList := by
    rw [hwritten, String.toList_append]
    rfl
  have hmem : written ∈ Text.words (commandPrefix ++ arguments) := by
    refine ((hstands written).2 rfl).mem_words hi ?_ ?_ commandPrefix
    · rintro rfl
      cases hword
    · intro c hc
      by_cases hquote : c = '"'
      · rw [hquote]
        decide +kernel
      have hkept : c ∈ '@' :: login.toList := hword ▸ List.mem_filter.2 ⟨hc, by simpa using hquote⟩
      rcases List.mem_cons.1 hkept with rfl | hchar
      · decide +kernel
      · exact Slot.isBlank_of_isLoginChar (hlogin.chars c hchar)
  have hnames := Message.names_iff hlogin hword
  refine ⟨written, hstands, hmem, hnames, ?_, ?_⟩
  · intro registries s hs word hspelled
    exact Slot.accepts_iff_names (hlogin.loginOf?_of_mem hspelled) registries _ _ _ _ _ hs
  · intro hbegins registries s hs word hspelled
    rw [Slot.accepts_iff_names (hlogin.loginOf?_of_mem hspelled) registries _ _ _ _ _ hs]
    exact ⟨written, hmem, hnames.2 hbegins⟩

namespace Sample

/-- Arguments with a mention, after which a quote is opened and closed. -/
def mentioning : String := "greet @Bob_1\"\" now"

theorem isLogin_bob : Slot.IsLogin "Bob_1" where
  pos := by decide
  length_le := by decide
  chars := List.all_eq_true.1 (by decide +kernel)

theorem typedMention_bob :
    Slot.IsLogin "Bob_1" ∧ (tokenize mentioning)[1]? = some ("@" ++ "Bob_1") ∧
      ∃ written, (∀ other, Tokens.StandsFor mentioning 1 other ↔ other = written) ∧
        TypedMention (Message.ofContent "twitch" "chan" "7" "alice" ("!" ++ mentioning)) written
          "Bob_1" := by
  have htoken : (tokenize mentioning)[1]? = some ("@" ++ "Bob_1") := by decide +kernel
  exact ⟨isLogin_bob, htoken,
    reads_typed_mention Nat.zero_lt_one isLogin_bob htoken "twitch" "chan" "7" "alice"⟩

/-- **A mention between quotes is no word that begins with `@`**, and no mention slot accepts it. -/
theorem quoted_mention_refused :
    ∃ content, content = "!" ++ "greet \"@Bob_1\"" ∧ Slot.IsLogin "Bob_1" ∧
      (tokenize "greet \"@Bob_1\"")[1]? = some ("@" ++ "Bob_1") ∧
      ∀ registries (s : Slot), s.kind = .mention → ∀ word ∈ ["@" ++ "Bob_1", "Bob_1"],
        s.accepts registries (some (Message.ofContent "twitch" "chan" "7" "alice" content)) word =
          false := by
  refine ⟨_, rfl, isLogin_bob, by decide +kernel, ?_⟩
  intro registries s hs word hword
  simp only [Slot.accepts, hs, Option.any_some]
  revert word
  decide +kernel

end Sample

end ChatCommands
