import Mathlib.Data.List.TakeWhile
import Skirmish.Proofs.Session.Handover
import Skirmish.Proofs.Session.Play

/-!
# Turns before and after the main phase begins

The effects of a run, cut in two at the broadcast of `phaseChanged main`: `selectTurns` are the
takers before it and `mainTurns` those behind it.

Results:

* `Transcript.entry_mem_iff`: that broadcast is among the effects iff `main` has been entered;
* `selectTurns_append_of_early`, `selectTurns_append_of_late`, `mainTurns_append_of_early`,
  `mainTurns_append_of_late`: the part that further effects belong to.
-/

namespace Skirmish

/-- The `broadcast` with which `Session.startMain` tells everybody of `main`. -/
def Effect.isEntry : Effect → Bool
  | .broadcast (.phaseChanged .main _) => true
  | _ => false

/-- The `takers` before the first effect that `isEntry`. -/
def selectTurns (told : List Effect) : List PlayerId :=
  takers (told.takeWhile (!·.isEntry))

/-- The `takers` from the first effect that `isEntry` on. -/
def mainTurns (told : List Effect) : List PlayerId :=
  takers (told.dropWhile (!·.isEntry))

variable {g k : GamePhase} {es fs : List Effect} {e : Effect}

/-! ## Effects that do not matter here -/

/-- The effect is neither a `takeTurn` nor `isEntry`. -/
def Effect.isQuiet (e : Effect) : Bool :=
  !e.isEntry && e.taker?.isNone

theorem Effect.isQuiet_of_isAside (aside : e.isAside = true) : e.isQuiet = true := by
  cases e with
  | broadcast n => cases n <;> first | rfl | cases aside
  | unicast id n => cases n <;> first | rfl | cases aside
  | close id => rfl

theorem Effect.isQuiet_of_isTalk (talk : e.isTalk = true) : e.isQuiet = true :=
  isQuiet_of_isAside (by rw [isAside, talk, Bool.true_or])

theorem Effect.isQuiet_of_isHealth (health : e.isHealth = true) : e.isQuiet = true := by
  unfold isHealth at health
  split at health
  · rfl
  · cases health

theorem isEntry_of_isQuiet (quiet : e.isQuiet = true) : e.isEntry = false := by
  rw [Effect.isQuiet, Bool.and_eq_true, Bool.not_eq_true'] at quiet
  exact quiet.1

theorem takers_of_quiet (quiet : ∀ e ∈ es, e.isQuiet = true) : takers es = [] := by
  refine takers_eq_nil fun e he => ?_
  have silent := quiet e he
  rw [Effect.isQuiet, Bool.and_eq_true, Option.isNone_iff_eq_none] at silent
  exact silent.2

/-! ## Before the main phase -/

theorem selectTurns_append_of_early (early : ∀ e ∈ es, e.isEntry = false) :
    selectTurns (es ++ fs) = selectTurns es ++ selectTurns fs := by
  have front : ∀ e ∈ es, (!e.isEntry) = true := fun e he => by rw [early e he]; rfl
  have whole : es.takeWhile (!·.isEntry) = es := List.takeWhile_eq_self_iff.mpr front
  rw [selectTurns, List.takeWhile_append_of_pos front, takers_append, selectTurns, whole,
    selectTurns]

theorem mainTurns_append_of_early (early : ∀ e ∈ es, e.isEntry = false) :
    mainTurns (es ++ fs) = mainTurns fs := by
  have front : ∀ e ∈ es, (!e.isEntry) = true := fun e he => by rw [early e he]; rfl
  rw [mainTurns, List.dropWhile_append_of_pos front, mainTurns]

theorem selectTurns_of_quiet (quiet : ∀ e ∈ es, e.isQuiet = true) : selectTurns es = [] :=
  takers_of_quiet fun e he => quiet e ((List.takeWhile_prefix _).subset he)

theorem selectTurns_append_of_quiet (quiet : ∀ e ∈ es, e.isQuiet = true) :
    selectTurns (es ++ fs) = selectTurns fs := by
  rw [selectTurns_append_of_early fun e he => isEntry_of_isQuiet (quiet e he),
    selectTurns_of_quiet quiet, List.nil_append]

/-! ## From the main phase on -/

theorem selectTurns_append_of_late (late : ∃ e ∈ es, e.isEntry = true) :
    selectTurns (es ++ fs) = selectTurns es := by
  have stops : ¬(es.takeWhile (!·.isEntry)).length = es.length := by
    intro whole
    obtain ⟨e, he, entry⟩ := late
    have all := List.takeWhile_eq_self_iff.mp ((List.takeWhile_prefix _).eq_of_length whole) e he
    simp [entry] at all
  rw [selectTurns, List.takeWhile_append, if_neg stops, selectTurns]

theorem mainTurns_append_of_late (late : ∃ e ∈ es, e.isEntry = true) :
    mainTurns (es ++ fs) = mainTurns es ++ takers fs := by
  have stops : ¬(es.dropWhile (!·.isEntry)).isEmpty = true := by
    intro whole
    obtain ⟨e, he, entry⟩ := late
    have all := List.dropWhile_eq_nil_iff.mp (List.isEmpty_iff.mp whole) e he
    simp [entry] at all
  rw [mainTurns, List.dropWhile_append, if_neg stops, takers_append, mainTurns]

theorem mainTurns_sublist (es : List Effect) : (mainTurns es).Sublist (takers es) :=
  (List.dropWhile_sublist _).filterMap _

/-! ## When the main phase has begun -/

theorem GamePhase.late_iff : k = .main ∨ k = .gameOver ↔ main.rank ≤ k.rank := by
  cases k <;> decide

theorem GamePhase.ne_pending_of_late (late : k = .main ∨ k = .gameOver) : k ≠ .pending := by
  rcases late with rfl | rfl <;> decide

namespace Transcript

/-- A transcript from phase `g` to phase `k` has an effect that `isEntry` exactly if `main` comes
after `g` and not after `k`. -/
theorem entry_mem_iff (told : Transcript g es k) :
    (∃ e ∈ es, e.isEntry = true) ↔
      g.rank < GamePhase.main.rank ∧ GamePhase.main.rank ≤ k.rank := by
  induction told with
  | nil g => simp
  | @cons g h k e es said rest ih =>
    have later := rest.rank_le
    rw [List.exists_mem_cons_iff, ih]
    cases said with
    | aside aside =>
      have other := isEntry_of_isQuiet (Effect.isQuiet_of_isAside aside)
      simp [other]
    | play playing play =>
      have other : e.isEntry = false := by
        cases e with
        | broadcast n => cases n <;> first | rfl | cases play
        | unicast | close => rfl
      simp [other]
    | start => simp [Effect.started, Effect.isEntry, GamePhase.rank]
    | enter roster => simpa [Effect.entered, Effect.isEntry, GamePhase.rank] using later
    | finish => simp [Effect.ended, Effect.isEntry, GamePhase.rank]

theorem isEntry_of_early (told : Transcript .pending es k)
    (early : k = .pending ∨ k = .characterSelect) : ∀ e ∈ es, e.isEntry = false := by
  intro e he
  by_contra entry
  have begun := told.entry_mem_iff.mp ⟨e, he, by simpa using entry⟩
  rcases early with rfl | rfl <;> simp [GamePhase.rank] at begun

theorem exists_entry_of_late (told : Transcript .pending es k)
    (late : k = .main ∨ k = .gameOver) : ∃ e ∈ es, e.isEntry = true :=
  told.entry_mem_iff.mpr ⟨by decide, GamePhase.late_iff.mp late⟩

end Transcript

end Skirmish
