import Skirmish.Launch
import Skirmish.Proofs.PlayerName
import Skirmish.Proofs.Session.Overlong

/-!
# The name a client starts under

`valid_name` of the client checks a name before it starts, given or typed, and `prompt_name` asks
until one passes (`PlayerName.isEntered`). `validate_name` of the roster checks it again in
`register` (`PlayerName.isValid`), and also refuses control characters. So a name with a control
character that is no whitespace starts a client that is then turned away.

Results:

* `isEntered_of_askName`, `isEntered_of_chooseName`: a client starts under a name that `isEntered`;
* `Session.register_eq_invalidName_iff`: when an `intro` is refused as `invalidName`;
* `turnedAway_iff_control`: the names on which the two checks differ.
-/

namespace Skirmish

/-! ## The server -/

theorem Roster.register_eq_invalidName_iff {r : Roster} {id : PlayerId} {name : String}
    {ready : Bool} :
    r.register id name ready = .error (.invalidName name) ↔
      r.get? id = none ∧ r.isFull = false ∧ PlayerName.isValid name = false := by
  constructor
  · intro refused
    rcases register_error_cases refused with ⟨why, -⟩ | ⟨why, -⟩ | ⟨-, facts⟩ | ⟨why, -⟩
    · cases why
    · cases why
    · exact facts
    · cases why
  · rintro ⟨missing, room, invalid⟩
    have unknown : r.byId[id]? = none := by
      by_contra slot
      have known := get?_isSome_of_slot? slot
      rw [missing] at known
      cases known
    rw [register, dif_pos unknown, dif_pos room, dif_neg (Bool.eq_false_iff.mp invalid)]

theorem Session.register_eq_invalidName_iff {δ : Type} {s : Session δ} {id : PlayerId}
    {name : String} {ready : Bool} :
    s.register id name ready = .error (.roster (.invalidName name)) ↔
      s.connection ≠ .inProgress ∧ s.roster.get? id = none ∧ s.roster.isFull = false ∧
        PlayerName.isValid name = false := by
  rw [← Roster.register_eq_invalidName_iff, register_eq_error_iff]
  constructor
  · rintro (⟨-, why⟩ | ⟨lobby, reason, unseated, why⟩)
    · cases why
    · cases why
      exact ⟨lobby, unseated⟩
  · rintro ⟨lobby, unseated⟩
    exact .inr ⟨lobby, _, unseated, rfl⟩

namespace Launch

variable {name : String} {rest typed : List Line} {given : Option String}

/-! ## The client -/

theorem isEntered_of_nameIn? {line : String} (found : nameIn? line = some name) :
    PlayerName.isEntered name = true := by
  unfold nameIn? at found
  dsimp only at found
  split at found
  · cases found
    assumption
  · cases found

theorem isEntered_of_askName (asked : (askName typed).2 = .ok (name, rest)) :
    PlayerName.isEntered name = true := by
  induction typed with
  | nil => cases asked
  | cons line more ih =>
    cases line with
    | none => cases asked
    | some line =>
      rw [askName] at asked
      split at asked
      · rename_i found
        cases asked
        exact isEntered_of_nameIn? found
      · exact ih asked

theorem isEntered_of_chooseName (chosen : (chooseName given typed).2 = .ok (name, rest)) :
    PlayerName.isEntered name = true := by
  unfold chooseName at chosen
  split at chosen
  · exact isEntered_of_askName chosen
  · split at chosen
    · cases chosen
      assumption
    · exact isEntered_of_askName chosen

/-! ## Both -/

/-- A name that `isValid` also `isEntered`. The two checks differ on `name` iff it `isEntered` and
has a control character. An `intro` with the name a client has started under is refused as
`invalidName` iff the session is not `inProgress`, the sender has no player, there is room, and the
name has a control character. -/
theorem turnedAway_iff_control (name : String) :
    (PlayerName.isValid name = true → PlayerName.isEntered name = true) ∧
    (PlayerName.isEntered name = PlayerName.isValid name ↔
      ¬(PlayerName.isEntered name = true ∧ ∃ c ∈ name.toList, Text.isControl c = true)) ∧
    ∀ (given : Option String) (typed rest : List Line),
      (chooseName given typed).2 = .ok (name, rest) →
      ∀ {δ : Type} [Dice δ] (s : Session δ) (id : PlayerId) (ready : Bool),
        s.request id (.intro name ready) = .error (.roster (.invalidName name)) ↔
          s.connection ≠ .inProgress ∧ s.roster.get? id = none ∧ s.roster.isFull = false ∧
            ∃ c ∈ name.toList, Text.isControl c = true := by
  refine ⟨fun valid => (PlayerName.isValid_iff.mp valid).1, PlayerName.isEntered_eq_isValid_iff, ?_⟩
  intro given typed rest chosen δ _ s id ready
  have entered := isEntered_of_chooseName chosen
  have invalid : PlayerName.isValid name = false ↔ ∃ c ∈ name.toList, Text.isControl c = true := by
    rw [← Bool.not_eq_true, PlayerName.isValid_iff]
    simp [entered]
  rw [← invalid]
  exact Session.register_eq_invalidName_iff

/-- A client starts under `a`, `\x07`, `b`, and the server closes its connection as `invalidName`.
-/
theorem bell_turnedAway :
    PlayerName.isEntered "a\x07b" = true ∧ PlayerName.isValid "a\x07b" = false ∧
      (chooseName (some "a\x07b") []).2 = .ok ("a\x07b", []) ∧
      ((Session.new 2 (⟨[]⟩ : Script)).opened.handle ⟨1⟩ (.intro "a\x07b" false)).2 =
        [.unicast ⟨1⟩ (.disconnected "Invalid name 'a\x07b'"), .close ⟨1⟩] := by
  refine ⟨?_, ?_, ?_, ?_⟩ <;> decide +kernel

end Launch

end Skirmish
