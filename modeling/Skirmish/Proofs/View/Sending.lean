import Skirmish.Command

/-!
# What a view lets through

`route` of a typed line in two steps: the request it leads to must be one that the view `Allows`,
and then the view is `View.sent`. Any other line keeps the view.

Results:

* `View.route_typed`, `View.allows_of_route`: this is all that `route` does;
* `View.roster_route`: `route` keeps the rows.
-/

namespace Skirmish

namespace View

/-- The requests that `route` can lead to in this view. An `intro` is none of them. -/
def Allows (v : View) : Request → Prop
  | .intro .. => False
  | .ready | .unready => v.inProgress = false
  | .listPlayers | .listStats | .chat _ => True
  | .chooseJob job => v.game = .characterSelect ∧ v.myTurn = true ∧ job ≠ .unassigned
  | .act _ name =>
    v.game = .main ∧ v.myTurn = true ∧ (name = Rules.selfWord ∨ (v.living? name).isSome = true)

/-- The view after `route` has led to the request: `set_ready`, `choose_job` or `end_turn`. -/
def sent (v : View) : Request → View
  | .ready => v.setReady true
  | .unready => v.setReady false
  | .chooseJob job => v.chooseJob job
  | .act .. => v.endTurn
  | .intro .. | .listPlayers | .listStats | .chat _ => v

/-- `route` sends a request that is allowed, or keeps the view. -/
inductive Typed (v : View) : Intent → View → Prop
  | sends {r : Request} (allowed : v.Allows r) : Typed v (.send r) (v.sent r)
  | keeps {intent : Intent} (silent : ∀ r, intent ≠ .send r) : Typed v intent v

variable {v w : View} {intent : Intent} {word target : String}

theorem living?_isSome_iff {name : String} :
    (v.living? name).isSome = true ↔ ∃ p ∈ v.roster, p.name = name ∧ p.isAlive = true := by
  rw [living?, List.find?_isSome]
  simp only [Bool.and_eq_true, decide_eq_true_eq]

theorem ofCommand?_ne_unassigned {job : Job} (h : Job.ofCommand? word = some job) :
    job ≠ .unassigned := by
  unfold Job.ofCommand? at h
  split at h
  · cases h; decide
  · split at h
    · cases h; decide
    · split at h <;> cases h
      decide

theorem routeLobby_typed (lobby : v.inProgress = false)
    (h : v.routeLobby word = .ok (intent, w)) : Typed v intent w := by
  unfold routeLobby at h
  split at h
  · cases h
    exact .sends (r := .ready) lobby
  · split at h
    · cases h
      exact .sends (r := .unready) lobby
    · split at h <;> cases h
      exact .sends (r := .listPlayers) trivial

theorem routeSelect_typed (select : v.game = .characterSelect)
    (h : v.routeSelect word = .ok (intent, w)) : Typed v intent w := by
  unfold routeSelect at h
  split at h
  · cases h
  · rename_i job known
    split at h <;> cases h
    rename_i turn
    exact .sends (r := .chooseJob job) ⟨select, turn, ofCommand?_ne_unassigned known⟩

theorem routeMain_typed (main : v.game = .main) (h : v.routeMain word target = .ok (intent, w)) :
    Typed v intent w := by
  unfold routeMain at h
  split at h
  · cases h
  · rename_i action known
    split at h
    · cases h
    · rename_i turn
      split at h
      · cases h
      · split at h <;> cases h
        rename_i meant
        refine .sends (r := .act action target) ⟨main, by simpa using turn, ?_⟩
        by_cases own : target = Rules.selfWord
        · exact .inl own
        · exact .inr (Option.isSome_iff_ne_none.mpr fun dead => meant ⟨own, dead⟩)

theorem routeGame_typed (h : v.routeGame word target = .ok (intent, w)) : Typed v intent w := by
  unfold routeGame at h
  split at h
  · cases h
    exact .sends (r := .listStats) trivial
  · split at h
    · cases h
      exact .keeps (by simp)
    · split at h
      · rename_i select
        exact routeSelect_typed select h
      · rename_i main
        exact routeMain_typed main h
      · cases h
      · cases h

theorem routeCommand_typed (h : v.routeCommand word target = .ok (intent, w)) :
    Typed v intent w := by
  unfold routeCommand at h
  split at h
  · cases h
    exact .keeps (by simp)
  · split at h
    · cases h
      exact .keeps (by simp)
    · split at h
      · cases h
        exact .keeps (by simp)
      · split at h
        · exact routeGame_typed h
        · rename_i lobby
          exact routeLobby_typed (by simpa using lobby) h

theorem route_typed {line : String} (h : v.route line = .ok (intent, w)) : Typed v intent w := by
  unfold route at h
  split at h
  · cases h
    exact .keeps (by simp)
  · simp only at h
    split at h
    · exact routeCommand_typed h
    · cases h
      exact .sends (r := .chat _) trivial

theorem allows_of_route {line : String} {r : Request} (h : v.route line = .ok (.send r, w)) :
    v.Allows r := by
  cases route_typed h with
  | sends allowed => exact allowed
  | keeps silent => exact absurd rfl (silent r)

/-! ## What stays -/

@[simp] theorem roster_sent (v : View) (r : Request) : (v.sent r).roster = v.roster := by
  cases r <;> rfl

@[simp] theorem game_sent (v : View) (r : Request) : (v.sent r).game = v.game := by
  cases r <;> rfl

@[simp] theorem inProgress_sent (v : View) (r : Request) :
    (v.sent r).inProgress = v.inProgress := by
  cases r <;> rfl

theorem roster_route {line : String} (h : v.route line = .ok (intent, w)) :
    w.roster = v.roster := by
  cases route_typed h with
  | sends allowed => exact roster_sent v _
  | keeps silent => rfl

end View

end Skirmish
