import Skirmish.Proofs.PlayerName
import Skirmish.Proofs.Session.Bystanders
import Skirmish.Proofs.Text.Word

/-!
# Who has said a line

`chat` broadcasts `name ++ ": " ++ text`. A name that `PlayerName.isValid` accepts may hold brackets
and colons but no whitespace, so the first word of the line is `name ++ ":"` whatever the text, and
both name and text can be read off the line (`Text.splitWord_line`).

`Rules.serverTag` is `[Server] `. Its first word has no colon at the end, so no chat line starts
with it.

Results:

* `Text.splitWord_line`: the first word of a chat line;
* `line_ne_serverTag`, `line_inj`: chat lines differ from server lines and from each other;
* `says_iff`: when a `chat` is broadcast, and as which line;
* `says_injective`: the line tells the sender and the text.
-/

namespace Skirmish

/-! ## The first word of a line -/

namespace Text

/-- The first word of a chat line is the name with the colon. -/
theorem splitWord_line {name : String} (valid : PlayerName.isValid name = true) (text : String) :
    splitWord (name ++ ": " ++ text).toList = (name.toList ++ [':'], ' ' :: text.toList) := by
  have whole : ∀ c ∈ name.toList ++ [':'], isBlank c = false := by
    intro c hc
    rcases List.mem_append.mp hc with inside | colon
    · exact PlayerName.isBlank_eq_false valid c inside
    · rw [List.mem_singleton.mp colon]
      decide
  have line : (name ++ ": " ++ text).toList = (name.toList ++ [':']) ++ ' ' :: text.toList := by
    simp
  rw [line, splitWord_append whole (by simp) (by simp [isBlank])]

theorem splitWord_serverTag (text : String) :
    splitWord (Rules.serverTag ++ text).toList = ("[Server]".toList, ' ' :: text.toList) := by
  have line : (Rules.serverTag ++ text).toList = "[Server]".toList ++ ' ' :: text.toList := by
    rw [String.toList_append]
    rfl
  have plain : "[Server]".toList.all (!isBlank ·) = true := rfl
  have whole : ∀ c ∈ "[Server]".toList, isBlank c = false := fun c hc => by
    simpa using List.all_eq_true.mp plain c hc
  rw [line, splitWord_append whole (by simp) (by simp [isBlank])]

end Text

/-- No chat line of a valid name starts with `Rules.serverTag`. -/
theorem line_ne_serverTag {name : String} (valid : PlayerName.isValid name = true)
    (text rest : String) : name ++ ": " ++ text ≠ Rules.serverTag ++ rest := by
  intro same
  have words := congrArg (fun line => (Text.splitWord line.toList).1) same
  simp only [Text.splitWord_line valid, Text.splitWord_serverTag] at words
  have last : (name.toList ++ [':']).getLast? = some ':' := List.getLast?_concat
  rw [words] at last
  cases last

/-- Chat lines of valid names are equal only if names and texts are. -/
theorem line_inj {name other text more : String} (valid : PlayerName.isValid name = true)
    (otherValid : PlayerName.isValid other = true)
    (same : name ++ ": " ++ text = other ++ ": " ++ more) : name = other ∧ text = more := by
  have split := congrArg (fun line => Text.splitWord line.toList) same
  simp only [Text.splitWord_line valid, Text.splitWord_line otherValid, Prod.mk.injEq] at split
  obtain ⟨words, rests⟩ := split
  exact ⟨String.toList_inj.mp (List.append_cancel_right words),
    String.toList_inj.mp (List.cons.inj rests).2⟩

namespace Session

variable {δ : Type} [Dice δ] {s : Session δ} {id : PlayerId} {text line : String}

/-! ## What players say -/

/-- `handle` of the `chat` of `text` by `id` broadcasts `line`. -/
def Says (s : Session δ) (id : PlayerId) (text line : String) : Prop :=
  .broadcast (.chat line) ∈ (s.handle id (.chat text)).2

theorem says_iff :
    s.Says id text line ↔ ∃ p, s.roster.get? id = some p ∧ Text.isBlankText text = false ∧
      line = p.name ++ ": " ++ text := by
  unfold Says
  cases found : s.roster.get? id with
  | none =>
    rw [handle_of_stranger found (by simp)]
    simp
  | some p =>
    have granted : s.request id (.chat text) = .ok _ := chat_eq_ok_iff.mpr ⟨p, found, rfl⟩
    rw [handle_of_ok granted]
    cases Text.isBlankText text <;> simp

/-- A `chat` of `text` by `i` is broadcast iff `i` has a player and the text is not blank. No
broadcast line starts with `Rules.serverTag`, and two broadcasts of one line have the same sender
and the same text. -/
theorem says_injective (s : Session δ) :
    (∀ i text, (∃ line, s.Says i text line) ↔
      (∃ p, s.roster.get? i = some p) ∧ Text.isBlankText text = false) ∧
    (∀ i text line, s.Says i text line → ∀ rest, line ≠ Rules.serverTag ++ rest) ∧
    ∀ i text j other line, s.Says i text line → s.Says j other line → i = j ∧ text = other := by
  simp only [says_iff]
  refine ⟨fun i text => ?_, ?_, ?_⟩
  · constructor
    · rintro ⟨line, p, found, spoken, -⟩
      exact ⟨⟨p, found⟩, spoken⟩
    · rintro ⟨⟨p, found⟩, spoken⟩
      exact ⟨_, p, found, spoken, rfl⟩
  · rintro i text line ⟨p, found, -, rfl⟩ rest
    exact line_ne_serverTag (s.roster.names_valid p (Roster.mem_of_get? found)) text rest
  · rintro i text j other line ⟨p, foundP, -, rfl⟩ ⟨q, foundQ, -, same⟩
    obtain ⟨hp, rfl⟩ := Roster.get?_eq_some_iff.mp foundP
    obtain ⟨hq, rfl⟩ := Roster.get?_eq_some_iff.mp foundQ
    obtain ⟨names, texts⟩ :=
      line_inj (s.roster.names_valid p hp) (s.roster.names_valid q hq) same
    exact ⟨congrArg Player.id (Roster.eq_of_name_eq hp hq names), texts⟩

/-- A lobby with players called `[Server]` and `[Server]:`. -/
def masquerade : Session Script :=
  ((Session.new 3 ⟨[]⟩).run
    [.opened, .handle ⟨1⟩ (.intro "[Server]" true), .handle ⟨2⟩ (.intro "[Server]:" true)]).1

/-- The line `[Server]: B wins!` of player 1 does not start with `Rules.serverTag`, and only player
1 can cause it. -/
theorem says_injective_masquerade :
    masquerade.Says ⟨1⟩ "B wins!" "[Server]: B wins!" ∧
      (∀ rest, "[Server]: B wins!" ≠ Rules.serverTag ++ rest) ∧
      ∀ j other, masquerade.Says j other "[Server]: B wins!" → (⟨1⟩ : PlayerId) = j := by
  have said : masquerade.Says ⟨1⟩ "B wins!" "[Server]: B wins!" := by
    unfold Says
    decide +kernel
  obtain ⟨-, apart, own⟩ := says_injective masquerade
  exact ⟨said, apart _ _ _ said, fun j other again => (own _ _ _ _ _ said again).1⟩

end Session

end Skirmish
