import Skirmish.Proofs.Hub

/-!
# The record of a hub

The record of a hub: what happens at it in order, as `Happening`s. These are the connections that
are accepted and lost, the effects of the session, and the stop. The record says neither who is held
nor who gets what. `carryAll` works that out from the record and `Hub.held`, and it comes to the
same as `Hub.step`.

Results:

* `mem_carry_iff`: who is held after a happening;
* `handle_carryAll`, `step_carryAll`: an event does to `held` and the queues what its happenings do;
* `held_step_subset`, `recipient_mem_held`: who is held after an event, and to whom it delivers;
* `record_append`: the record of a run that goes on;
* `Alike.step`, `Alike.happenings_eq`: the order of `Hub.held` matters neither for what happens nor
  for who is held.
-/

namespace Skirmish

/-- The connection of a delivery. -/
def Delivery.recipient : Delivery → PlayerId
  | .send recipient _ => recipient
  | .finish id => id

open Session

namespace Hub

/-- Something that happens at a hub. -/
inductive Happening
  /-- A connection is accepted and gets this number. -/
  | accepted (id : PlayerId)
  /-- The session wants something done. -/
  | emitted (e : Effect)
  /-- A connection has come to an end by itself. -/
  | lost (id : PlayerId)
  /-- The hub is told to stop. -/
  | stopped
deriving DecidableEq, Repr

/-- Whether it is `accepted`. -/
def Happening.isAccepted : Happening → Bool
  | .accepted _ => true
  | _ => false

/-- Whether `c` is not held any more after this: it is lost, closed, or `accepted` anew, or the hub
stops. -/
def Happening.ends (c : PlayerId) : Happening → Bool
  | .emitted (.close id) | .lost id | .accepted id => id = c
  | .stopped => true
  | _ => false

theorem Happening.exists_of_isAccepted {x : Happening} (new : x.isAccepted = true) :
    ∃ c, x = .accepted c := by
  cases x with
  | accepted c => exact ⟨c, rfl⟩
  | emitted | lost | stopped => cases new

variable {δ : Type} {h k : Hub δ}

/-! ## Carrying out the record -/

/-- `Hub.held` after a happening, and what is delivered. -/
def carry (held : List PlayerId) : Happening → List PlayerId × List Delivery
  | .accepted id => (hold held id, [])
  | .emitted e => perform held e
  | .lost id => (held.erase id, if id ∈ held then [.finish id] else [])
  | .stopped => ([], held.flatMap fun id => [.send id goodbye, .finish id])

/-- `carry` of the happenings in order. -/
def carryAll (held : List PlayerId) : List Happening → List PlayerId × List Delivery
  | [] => (held, [])
  | x :: rest =>
    let (kept, now) := carry held x
    let (last, later) := carryAll kept rest
    (last, now ++ later)

theorem carryAll_cons (held : List PlayerId) (x : Happening) (rest : List Happening) :
    carryAll held (x :: rest) =
      ((carryAll (carry held x).1 rest).1,
        (carry held x).2 ++ (carryAll (carry held x).1 rest).2) := rfl

theorem carryAll_emitted (held : List PlayerId) (effects : List Effect) :
    carryAll held (effects.map .emitted) = performAll held effects := by
  induction effects generalizing held with
  | nil => rfl
  | cons e rest ih =>
    rw [List.map_cons, carryAll_cons, ih]
    rfl

/-! ## Who is held, and who is told -/

section

variable {held : List PlayerId} {x : Happening} {xs : List Happening} {d : Delivery}

/-- `c` is held after `x` iff it was and `x` does not end it, or `x` is its `accepted`. -/
theorem mem_carry_iff (distinct : held.Nodup) {c : PlayerId} :
    c ∈ (carry held x).1 ↔ c ∈ held ∧ x.ends c = false ∨ x = .accepted c := by
  have erased (id : PlayerId) : c ∈ held.erase id ↔ c ∈ held ∧ decide (id = c) = false := by
    rw [distinct.mem_erase_iff, decide_eq_false_iff_not, and_comm, ne_comm]
  cases x with
  | accepted id =>
    simp only [carry, mem_hold, Happening.ends, decide_eq_false_iff_not, Happening.accepted.injEq]
    grind
  | emitted e =>
    cases e with
    | broadcast n | unicast recipient n => simp [carry, perform, Happening.ends]
    | close id => simpa [carry, perform, Happening.ends] using erased id
  | lost id => simpa [carry, Happening.ends] using erased id
  | stopped => simp [carry, Happening.ends]

theorem nodup_carry (distinct : held.Nodup) (x : Happening) : (carry held x).1.Nodup := by
  cases x with
  | accepted id => exact nodup_hold distinct id
  | emitted e => exact distinct.sublist (performAll_sublist held [e])
  | lost id => exact distinct.erase id
  | stopped => exact List.nodup_nil

theorem carry_subset (old : x.isAccepted = false) (held : List PlayerId) :
    (carry held x).1 ⊆ held := by
  cases x with
  | accepted id => cases old
  | emitted e => exact (performAll_sublist held [e]).subset
  | lost id => exact List.erase_subset
  | stopped => exact List.nil_subset held

theorem carryAll_subset (old : ∀ x ∈ xs, x.isAccepted = false) :
    (carryAll held xs).1 ⊆ held := by
  induction xs generalizing held with
  | nil => exact List.Subset.refl _
  | cons x rest ih =>
    rw [carryAll_cons]
    exact List.Subset.trans (ih fun y there => old y (List.mem_cons_of_mem _ there))
      (carry_subset (old x List.mem_cons_self) held)

theorem recipient_of_carry (told : d ∈ (carry held x).2) : d.recipient ∈ held := by
  have alone (sent : Delivery) (told : d ∈ if sent.recipient ∈ held then [sent] else []) :
      d.recipient ∈ held := by
    split at told
    · rwa [List.mem_singleton.mp told]
    · cases told
  cases x with
  | accepted id => cases told
  | emitted e =>
    cases e with
    | broadcast n =>
      obtain ⟨id, there, rfl⟩ := List.mem_map.mp told
      exact there
    | unicast recipient n => exact alone (.send recipient n) told
    | close id => exact alone (.finish id) told
  | lost id => exact alone (.finish id) told
  | stopped =>
    rw [carry] at told
    obtain ⟨id, there, its⟩ := List.mem_flatMap.mp told
    rcases List.mem_pair.mp its with rfl | rfl <;> exact there

theorem recipient_of_carryAll (old : ∀ x ∈ xs, x.isAccepted = false)
    (told : d ∈ (carryAll held xs).2) : d.recipient ∈ held := by
  induction xs generalizing held with
  | nil => cases told
  | cons x rest ih =>
    rw [carryAll_cons] at told
    rcases List.mem_append.mp told with now | later
    · exact recipient_of_carry now
    · have still := ih (fun y there => old y (List.mem_cons_of_mem _ there)) later
      exact carry_subset (old x List.mem_cons_self) held still

end

/-! ## What happens -/

variable [Dice δ]

/-- What happens in an event while the hub runs. -/
def happenings (h : Hub δ) : Event → List Happening
  | .connected => [.accepted ⟨h.nextId⟩]
  | .received id r => if id ∈ h.held then (h.session.handle id r).2.map .emitted else []
  | .lost id => .lost id :: (h.session.disconnect id).2.map .emitted
  | .console line =>
    if quits line then [.stopped]
    else (serverChat (.ofList (Text.trim line.toList))).map .emitted

/-- The happenings of the events in order, without those after the hub has stopped. -/
def record (h : Hub δ) : List Event → List Happening
  | [] => []
  | event :: rest => (if h.running then h.happenings event else []) ++ record (h.step event).1 rest

/-- Only `connected` has an `accepted`. -/
theorem isAccepted_of_happenings {h : Hub δ} {event : Event} (other : event ≠ .connected) :
    ∀ x ∈ h.happenings event, x.isAccepted = false := by
  intro x there
  have emitted {effects : List Effect} (there : x ∈ effects.map .emitted) :
      x.isAccepted = false := by
    obtain ⟨e, -, rfl⟩ := List.mem_map.mp there
    rfl
  cases event with
  | connected => exact absurd rfl other
  | received id r =>
    rw [happenings] at there
    split at there
    · exact emitted there
    · cases there
  | lost id =>
    rcases List.mem_cons.mp there with rfl | there
    · rfl
    · exact emitted there
  | console line =>
    rw [happenings] at there
    split at there
    · rw [List.mem_singleton.mp there]
      rfl
    · exact emitted there

/-- `Hub.handle` comes to the `held` and the deliveries of `carryAll`. -/
theorem handle_carryAll (h : Hub δ) (event : Event) :
    carryAll h.held (h.happenings event) = ((h.handle event).1.held, (h.handle event).2) := by
  cases event with
  | connected => rfl
  | received id r =>
    rw [happenings, handle]
    split
    · exact carryAll_emitted _ _
    · rfl
  | lost id =>
    rw [happenings, carryAll_cons, carryAll_emitted]
    simp only [handle, carry, dispatch]
    split <;> rfl
  | console line =>
    cases quits : Hub.quits line with
    | true =>
      rw [happenings, if_pos quits, handle, if_pos (by simpa [Hub.quits] using quits),
        carryAll_cons]
      simp [carry, carryAll, shutdown]
    | false =>
      have said : happenings h (.console line) =
          (serverChat (.ofList (Text.trim line.toList))).map .emitted := by
        rw [happenings, quits]
        rfl
      have handled : h.handle (.console line) =
          h.dispatch (h.session, serverChat (.ofList (Text.trim line.toList))) := by
        rw [handle, if_neg (by simpa [Hub.quits] using quits)]
      rw [said, handled, carryAll_emitted, dispatch]

/-- `Hub.step` comes to the `held` and the deliveries of `carryAll`. -/
theorem step_carryAll (h : Hub δ) (event : Event) :
    let now := carryAll h.held (if h.running then h.happenings event else [])
    (h.step event).1.held = now.1 ∧ (h.step event).2 = now.2 := by
  unfold step
  split
  · rw [handle_carryAll]
    exact ⟨rfl, rfl⟩
  · exact ⟨rfl, rfl⟩

/-- Every event but `connected` only takes connections out of `held`. -/
theorem held_step_subset {event : Event} (old : event ≠ .connected) :
    (h.step event).1.held ⊆ h.held := by
  rw [(h.step_carryAll event).1]
  split
  · exact carryAll_subset (isAccepted_of_happenings old)
  · exact List.Subset.refl _

/-- Every delivery is for a connection in `held`. -/
theorem recipient_mem_held {event : Event} {d : Delivery} (told : d ∈ (h.step event).2) :
    d.recipient ∈ h.held := by
  rw [(h.step_carryAll event).2] at told
  split at told
  · by_cases new : event = .connected
    · subst new
      cases told
    · exact recipient_of_carryAll (isAccepted_of_happenings (h := h) new) told
  · cases told

/-! ## Runs -/

theorem run_append (h : Hub δ) (events more : List Event) :
    h.run (events ++ more) =
      (((h.run events).1.run more).1, (h.run events).2 ++ ((h.run events).1.run more).2) := by
  induction events generalizing h with
  | nil => rfl
  | cons event rest ih => simp [run, ih]

theorem record_append (h : Hub δ) (events more : List Event) :
    h.record (events ++ more) = h.record events ++ (h.run events).1.record more := by
  induction events generalizing h with
  | nil => rfl
  | cons event rest ih => simp [record, run, ih]

/-! ## The order of the connections -/

/-- Two hubs that differ at most in the order of `held`. -/
structure Alike (h k : Hub δ) : Prop where
  session : h.session = k.session
  held : h.held.Perm k.held
  nextId : h.nextId = k.nextId
  running : h.running = k.running

omit [Dice δ] in
theorem performAll_perm {held order : List PlayerId} (any : order.Perm held)
    (effects : List Effect) : (performAll order effects).1.Perm (performAll held effects).1 := by
  induction effects generalizing held order with
  | nil => exact any
  | cons e rest ih =>
    cases e with
    | broadcast n => exact ih any
    | unicast recipient n => exact ih any
    | close id => exact ih (any.erase id)

omit [Dice δ] in
theorem hold_perm {held order : List PlayerId} (any : order.Perm held) (id : PlayerId) :
    (hold order id).Perm (hold held id) := by
  unfold hold
  simp only [any.mem_iff]
  split
  · exact any
  · exact any.append_right _

omit [Dice δ] in
theorem Alike.trans {l : Hub δ} (first : Alike h k) (second : Alike k l) : Alike h l :=
  ⟨first.session.trans second.session, first.held.trans second.held,
    first.nextId.trans second.nextId, first.running.trans second.running⟩

theorem Alike.happenings_eq (alike : Alike h k) (event : Event) :
    h.happenings event = k.happenings event := by
  cases event <;> simp only [happenings, alike.session, alike.nextId, alike.held.mem_iff]

theorem Alike.handle (alike : Alike h k) (event : Event) :
    Alike (h.handle event).1 (k.handle event).1 := by
  cases event with
  | connected =>
    refine ⟨alike.session, ?_, congrArg (· + 1) alike.nextId, alike.running⟩
    show (hold _ ⟨h.nextId⟩).Perm (hold _ ⟨k.nextId⟩)
    rw [alike.nextId]
    exact hold_perm alike.held _
  | received id r =>
    simp only [handle_received, alike.held.mem_iff, alike.session]
    split
    · exact ⟨rfl, performAll_perm alike.held _, alike.nextId, alike.running⟩
    · exact alike
  | lost id =>
    simp only [handle_lost, alike.session]
    exact ⟨rfl, performAll_perm (alike.held.erase id) _, alike.nextId, alike.running⟩
  | console line =>
    cases quits : Hub.quits line with
    | true =>
      rw [handle_console_of_quits quits, handle_console_of_quits quits]
      exact ⟨alike.session, .refl _, alike.nextId, rfl⟩
    | false => rwa [handle_console_of_not_quits quits, handle_console_of_not_quits quits]

theorem Alike.step (alike : Alike h k) (event : Event) :
    Alike (h.step event).1 (k.step event).1 := by
  unfold Hub.step
  rw [alike.running]
  split
  · exact alike.handle event
  · exact alike

end Hub

end Skirmish
