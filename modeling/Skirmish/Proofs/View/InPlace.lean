import Skirmish.Proofs.Session.News
import Skirmish.Proofs.View.Sending
import Skirmish.Proofs.Work

/-!
# Typed lines as work done in place

`route` of the client changes its view in place, and an error does not undo what was changed before
it. Here `route` and the functions it calls are written that way (`View.Work`), and shown to agree
with `View.route`: every error comes before the first change, so a refused line leaves the view as
it is.

Results:

* `Work.runOn_lobby`, `Work.runOn_select`, `Work.runOn_main`, `Work.runOn_game`,
  `Work.runOn_command`: the commands of each phase;
* `routeInPlace_eq`: `routeInPlace` is `route`, with the view kept when it refuses;
* `routeInPlace_of_isIdle`: only a move and a change of readiness change the view.
-/

namespace Skirmish.View

/-- Work on a view that an `InputError` may stop. -/
abbrev Work (α : Type) := Skirmish.Work InputError View α

namespace Work

/-- The commands of a lobby. -/
def lobby (word : String) : Work Intent := do
  if word = ".ready" then
    modify (·.setReady true)
    return .send .ready
  else if word = ".notready" then
    modify (·.setReady false)
    return .send .unready
  else if word = ".players" then return .send .listPlayers
  else throw (.unknownCommand word)

/-- The commands of `characterSelect`, by `parse_job`. -/
def select (word : String) : Work Intent := do
  match Job.ofCommand? word with
  | none => throw (.unknownCommand word)
  | some job =>
    if !(← get).myTurn then throw .notYourTurn
    modify (·.chooseJob job)
    return .send (.chooseJob job)

/-- The commands of `main`, by `parse_action`. -/
def main (word target : String) : Work Intent := do
  match Action.ofCommand? word with
  | none => throw (.unknownCommand word)
  | some action =>
    if !(← get).myTurn then throw .notYourTurn
    if target = "" then throw (.missingTarget word)
    if target ≠ Rules.selfWord ∧ (← get).living? target = none then throw (.invalidTarget target)
    modify endTurn
    return .send (.act action target)

/-- The commands of every game in progress, and then those of its phase. -/
def game (word target : String) : Work Intent := do
  if word = ".stats" then return .send .listStats
  if word = ".localstats" then return .display (← get).localStats
  match (← get).game with
  | .characterSelect => select word
  | .main => main word target
  | .pending | .gameOver => throw (.unknownCommand word)

/-- The commands of every phase, and then those of the lobby or the game. -/
def command (word target : String) : Work Intent := do
  if word = ".whoami" then return .display [(← get).me.name]
  if word = ".help" then return .display (← get).instructions
  if word = ".quit" then return .quit
  if (← get).inProgress then game word target else lobby word

/-- `route` of a typed line. -/
def route (line : String) : Work Intent := do
  match Text.trim line.toList with
  | [] => return .nothing
  | text =>
    let (first, rest) := Text.splitWord text
    let word := Text.lowercase first
    if word.head? = some '.' then command (.ofList word) (.ofList (Text.splitWord rest).1)
    else return .send (.chat (.ofList text))

end Work

/-- The result of `View.route` with the view that it leaves: the old one if it refuses. -/
def settle (v : View) : Except InputError (Intent × View) → Except InputError Intent × View
  | .ok (intent, w) => (.ok intent, w)
  | .error why => (.error why, v)

/-- The intent of a line or its refusal, with the view that is left either way. -/
def routeInPlace (v : View) (line : String) : Except InputError Intent × View :=
  (Work.route line).runOn v

namespace Work

theorem runOn_lobby (v : View) (word : String) :
    (lobby word).runOn v = v.settle (v.routeLobby word) := by
  unfold lobby routeLobby
  split
  · rfl
  · split
    · rfl
    · split <;> rfl

theorem runOn_select (v : View) (word : String) :
    (select word).runOn v = v.settle (v.routeSelect word) := by
  unfold routeSelect
  cases known : Job.ofCommand? word with
  | none => simp [select, known, settle]
  | some job => cases turn : v.myTurn <;> simp [select, known, turn, settle]

theorem runOn_main (v : View) (word target : String) :
    (main word target).runOn v = v.settle (v.routeMain word target) := by
  unfold routeMain
  cases known : Action.ofCommand? word with
  | none => simp [main, known, settle]
  | some action =>
    cases turn : v.myTurn with
    | false => simp [main, known, turn, settle]
    | true =>
      by_cases missing : target = ""
      · simp [main, known, turn, missing, settle]
      · by_cases wrong : target ≠ Rules.selfWord ∧ v.living? target = none
        · simp [main, known, turn, missing, wrong, settle]
        · simp [main, known, turn, missing, wrong, settle]

theorem runOn_game (v : View) (word target : String) :
    (game word target).runOn v = v.settle (v.routeGame word target) := by
  unfold routeGame
  split
  · rename_i stats
    simp [game, stats, settle]
  · rename_i other
    split
    · rename_i own
      simp [game, own, settle]
    · rename_i plays
      cases phase : v.game with
      | characterSelect => simp [game, other, plays, phase, runOn_select]
      | main => simp [game, other, plays, phase, runOn_main]
      | pending | gameOver => simp [game, other, plays, phase, settle]

theorem runOn_command (v : View) (word target : String) :
    (command word target).runOn v = v.settle (v.routeCommand word target) := by
  unfold routeCommand
  split
  · rename_i own
    simp [command, own, settle]
  · rename_i other
    split
    · rename_i help
      simp [command, help, settle]
    · rename_i asks
      split
      · rename_i quit
        simp [command, quit, settle]
      · rename_i stays
        cases started : v.inProgress with
        | true => simp [command, other, asks, stays, started, runOn_game]
        | false => simp [command, other, asks, stays, started, runOn_lobby]

end Work

/-- `routeInPlace` gives the result of `route`, and keeps the view if that is a refusal. -/
theorem routeInPlace_eq (v : View) (line : String) :
    v.routeInPlace line = v.settle (v.route line) := by
  unfold routeInPlace Work.route route
  cases Text.trim line.toList with
  | nil => rfl
  | cons c text =>
    show (if _ then _ else _ : Work Intent).runOn v = v.settle (if _ then _ else _)
    split
    · exact Work.runOn_command v _ _
    · rfl

/-! ## Lines that leave no trace -/

/-- Whether a result is a refusal, no request, or a request that is talk. -/
def isIdle : Except InputError Intent → Bool
  | .error _ | .ok (.display _) | .ok .quit | .ok .nothing => true
  | .ok (.send r) => r.isTalk

/-- A line whose result `isIdle` keeps the view. -/
theorem routeInPlace_of_isIdle {v : View} {line : String}
    (idle : isIdle (v.routeInPlace line).1 = true) : (v.routeInPlace line).2 = v := by
  rw [routeInPlace_eq] at idle ⊢
  cases routed : v.route line with
  | error why => rfl
  | ok out =>
    obtain ⟨intent, w⟩ := out
    rw [routed] at idle
    show w = v
    cases route_typed routed with
    | keeps silent => rfl
    | @sends r allowed => cases r <;> first | rfl | cases idle

end Skirmish.View
