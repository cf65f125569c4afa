import Skirmish.Proofs.PlayerName
import Skirmish.Proofs.Text.Word
import Skirmish.Proofs.View.Sending

/-!
# Every name can be typed

An action is typed as a word for it, whitespace, and the name of its target. `isValid` excludes
whitespace from names, so the name is a word of its own for `route`, whatever the whitespace around
it. Only the first word is put into lower case, so the name arrives as it was typed.

Results:

* `Action.ofCommand?_of_mem`, `Action.plain_of_mem`: the words for each action;
* `View.routeCommand_of_act`: the command of such a word and a living name;
* `View.Types.words`: the words that `route` splits the line into;
* `View.route_eq_send_of_types`: such a line sends the action on that name.
-/

namespace Skirmish

/-- The words that `parse_action` takes for an action. -/
def Action.words : Action → List String
  | .heal => [".1", ".heal"]
  | .healRandom => [".2", ".healrng"]
  | .attack => [".3", ".atk"]
  | .attackRandom => [".4", ".atkrng"]

theorem Action.ofCommand?_of_mem {action : Action} :
    ∀ word ∈ action.words, Action.ofCommand? word = some action := by
  cases action <;> decide

/-- No word for an action is one of the commands of every phase. -/
theorem Action.special_of_mem {action : Action} :
    ∀ word ∈ action.words,
      word ∉ [".whoami", ".help", ".quit", ".stats", ".localstats"] := by
  cases action <;> decide

theorem Action.plain_of_mem {action : Action} :
    ∀ word ∈ action.words, word.toList.head? = some '.' ∧
      ∀ c ∈ word.toList, c.toNat < 0x80 ∧ Text.isBlank c = false := by
  intro word known
  have period : word.toList.head? = some '.' := by
    revert word
    cases action <;> decide
  have plain : (word.toList.all fun c => c.toNat < 0x80 ∧ Text.isBlank c = false) = true := by
    revert word
    cases action <;> decide
  exact ⟨period, fun c hc => of_decide_eq_true (List.all_eq_true.mp plain c hc)⟩

namespace View

/-- The lines by which an action on `name` can be typed: a word for the action in any ASCII case,
and `name`, with whitespace between and, if any, before. Behind `name` anything may follow after
whitespace. -/
inductive Types (action : Action) (name : String) : String → Prop
  | intro {before typed gap after word : String} (known : word ∈ action.words)
      (spelled : typed.toList.map Char.toLower = word.toList)
      (indented : ∀ b ∈ before.toList, Text.isBlank b = true)
      (apart : gap ≠ "") (separated : ∀ b ∈ gap.toList, Text.isBlank b = true)
      (ended : ∀ b ∈ after.toList.head?, Text.isBlank b = true) :
      Types action name (before ++ typed ++ gap ++ name ++ after)

variable {v : View} {action : Action} {name line word : String}

/-- In `main` with the turn, the command of such a word and a living name sends the action. -/
theorem routeCommand_of_act (known : word ∈ action.words) (some_ : name ≠ "")
    (started : v.inProgress = true) (main : v.game = .main) (turn : v.myTurn = true)
    (lives : v.living? name ≠ none) :
    v.routeCommand word name = .ok (.send (.act action name), v.endTurn) := by
  have act : v.routeMain word name = .ok (.send (.act action name), v.endTurn) := by
    simp [routeMain, Action.ofCommand?_of_mem word known, turn, some_, lives]
  have other := Action.special_of_mem word known
  simp only [List.mem_cons, not_or] at other
  obtain ⟨whoami, help, quit, stats, localStats, -⟩ := other
  rw [routeCommand, if_neg whoami, if_neg help, if_neg quit, if_pos started, routeGame,
    if_neg stats, if_neg localStats, main]
  exact act

/-! ## The words of a line -/

/-- Such a word in any case consists of ASCII characters that are no whitespace. -/
theorem plain_of_spelled {typed : String} (known : word ∈ action.words)
    (spelled : typed.toList.map Char.toLower = word.toList) :
    ∀ c ∈ typed.toList, c.toNat < 0x80 ∧ Text.isBlank c = false := by
  intro c hc
  have there : c.toLower ∈ word.toList := spelled ▸ List.mem_map_of_mem hc
  obtain ⟨ascii, plain⟩ := (Action.plain_of_mem word known).2 _ there
  refine ⟨Text.toNat_lt_of_toLower ascii, Bool.eq_false_iff.mpr fun blank => ?_⟩
  rw [Text.toLower_of_isBlank blank, blank] at plain
  cases plain

/-- Trimmed, the line splits into a word for the action, in any case, and then `name`. -/
theorem Types.words (types : Types action name line) (valid : PlayerName.isValid name = true) :
    ∃ first rest word, Text.trim line.toList = first ++ rest ∧ first ≠ [] ∧
      Text.splitWord (first ++ rest) = (first, rest) ∧
      Text.lowercase first = word.toList ∧ word ∈ action.words ∧
      (Text.splitWord rest).1 = name.toList := by
  obtain ⟨known, spelled, indented, apart, separated, ended⟩ := types
  rename_i before typed gap after word
  have plain := plain_of_spelled known spelled
  have whole := PlayerName.isBlank_eq_false valid
  have named : name.toList ≠ [] := by simpa using PlayerName.ne_empty valid
  have typed_ : typed.toList ≠ [] := by
    intro none
    have period := (Action.plain_of_mem word known).1
    rw [← spelled, none] at period
    cases period
  have gap_ : gap.toList ≠ [] := by simpa using apart
  refine ⟨typed.toList, gap.toList ++ (name.toList ++ Text.trimEnd after.toList), word,
    ?_, typed_, ?_, ?_, known, ?_⟩
  · have line : (before ++ typed ++ gap ++ name ++ after).toList =
        before.toList ++ ((typed.toList ++ (gap.toList ++ name.toList)) ++ after.toList) := by
      simp
    have some_ : typed.toList ++ (gap.toList ++ name.toList) ≠ [] := by simp [typed_]
    rw [line, Text.trim_append indented some_]
    · simp
    · rw [List.head_append_of_ne_nil typed_]
      exact (plain _ (List.head_mem typed_)).2
    · rw [List.getLast_append_of_ne_nil _ (by simp [named]), List.getLast_append_of_ne_nil _ named]
      exact whole _ (List.getLast_mem named)
  · refine Text.splitWord_append (fun c hc => (plain c hc).2) typed_ fun b hb => ?_
    rw [List.head?_append, List.head?_eq_some_head gap_] at hb
    cases hb
    exact separated _ (List.head_mem gap_)
  · rw [Text.lowercase_of_ascii fun c hc => (plain c hc).1, spelled]
  · rw [Text.splitWord_of_blank separated,
      Text.splitWord_append whole named fun b hb => ended b (Text.mem_head?_of_trimEnd hb)]

/-- In `main` with the turn, a line that `Types` an action on a valid name of a living row routes to
that action on that name, and ends the turn. -/
theorem route_eq_send_of_types (types : Types action name line)
    (valid : PlayerName.isValid name = true)
    (started : v.inProgress = true) (main : v.game = .main) (turn : v.myTurn = true)
    (lives : ∃ p ∈ v.roster, p.name = name ∧ p.isAlive = true) :
    v.route line = .ok (.send (.act action name), { v with myTurn := false }) := by
  obtain ⟨first, rest, word, text, some_, split, lower, known, named⟩ := types.words valid
  have found : v.living? name ≠ none :=
    Option.isSome_iff_ne_none.mp (living?_isSome_iff.mpr lives)
  have period := (Action.plain_of_mem word known).1
  have acts := routeCommand_of_act known (PlayerName.ne_empty valid) started main turn found
  obtain ⟨c, more, rfl⟩ := List.exists_cons_of_ne_nil some_
  rw [List.cons_append] at text split
  simp only [route, text, split, lower, named, period, String.ofList_toList, if_pos]
  exact acts

/-- A view in `main` with the turn. -/
def fighting : View :=
  { me := ⟨"A", 100, true, .wizard⟩
    roster :=
      [⟨"A", 100, true, .wizard⟩, ⟨".ATK", 0, true, .warrior⟩, ⟨"ΣÉ.2İ", 7, true, .assassin⟩]
    connection := .inProgress
    game := .main
    myTurn := true }

/-- The word in capitals, whitespace beyond ASCII, and another word behind the name. -/
def shouted : String :=
  "\u3000\t" ++ ".AtKrNG" ++ "\u00A0\u2003" ++ "ΣÉ.2İ" ++ "\u0085me"

/-- `shouted` routes to the action, with the name in its own case. -/
theorem route_eq_send_of_types_shouted :
    Types .attackRandom "ΣÉ.2İ" shouted ∧ PlayerName.isValid "ΣÉ.2İ" = true ∧
      (fighting.inProgress = true ∧ fighting.game = .main ∧ fighting.myTurn = true) ∧
      (∃ p ∈ fighting.roster, p.name = "ΣÉ.2İ" ∧ p.isAlive = true) ∧
      fighting.route shouted =
        .ok (.send (.act .attackRandom "ΣÉ.2İ"), { fighting with myTurn := false }) := by
  have known : ".atkrng" ∈ Action.words .attackRandom := by decide
  have indented : "\u3000\t".toList.all Text.isBlank = true := by decide +kernel
  have separated : "\u00A0\u2003".toList.all Text.isBlank = true := by decide +kernel
  have next : "\u0085me".toList.head? = some '\u0085' := by decide +kernel
  have ended : ∀ b ∈ "\u0085me".toList.head?, Text.isBlank b = true := by
    rw [next]
    rintro _ ⟨⟩
    decide
  have types : Types .attackRandom "ΣÉ.2İ" shouted :=
    .intro known (by decide +kernel) (List.all_eq_true.mp indented) (by decide)
      (List.all_eq_true.mp separated) ended
  have valid : PlayerName.isValid "ΣÉ.2İ" = true := by decide +kernel
  have lives : ∃ p ∈ fighting.roster, p.name = "ΣÉ.2İ" ∧ p.isAlive = true :=
    ⟨⟨"ΣÉ.2İ", 7, true, .assassin⟩, by decide +kernel, by decide +kernel⟩
  exact ⟨types, valid, ⟨rfl, rfl, rfl⟩, lives, route_eq_send_of_types types valid rfl rfl rfl lives⟩

end View

end Skirmish
