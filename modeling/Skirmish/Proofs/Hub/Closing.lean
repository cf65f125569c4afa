import Skirmish.Proofs.Hub.Outbox

/-!
# A connection that is closed does not come back

A refusal that `closes_connection` makes `dispatch` take the connection out of `Hub.held`, after
`disconnected` with the reason. What the reader of that connection has put into the mailbox before
is handled later, and `handle_message` drops it, as the connection is not held. The number comes
back only when `nextId` wraps, so for fewer than `2 ^ 32` connections nobody else has it
(`Office.Numbered`).

Results:

* `Hub.refusal_of_closes`: only the refusal of a request closes a connection, that of its sender;
* `Office.change_step`: what an event can do to the outboxes and to `Hub.held`;
* `Office.Closed.change`, `Office.Closed.of_runs`: what stays of a closed connection;
* `Office.gone_of_closed`: all of this for every run.
-/

namespace Skirmish

open Session

/-! ## What the hub closes -/

namespace Hub

variable {δ : Type} [Dice δ] {h : Hub δ} {c : PlayerId} {event : Event}

theorem nextId_step_of_ne (old : event ≠ .connected) : (h.step event).1.nextId = h.nextId := by
  unfold step
  split
  · cases event with
    | connected => exact absurd rfl old
    | received id r =>
      rw [handle_received]
      split <;> rfl
    | lost id => rfl
    | console line =>
      cases quits : quits line with
      | true => rw [handle_console_of_quits quits]
      | false => rw [handle_console_of_not_quits quits]
  · rfl

/-- A `close c` comes of a request of `c` that is refused, and stands behind `disconnected` with the
reason; the session stays as it is. -/
theorem refusal_of_closes (orderly : Orderly h.session)
    (closes : .emitted (.close c) ∈ h.happenings event) :
    ∃ r reason, event = .received c r ∧ c ∈ h.held ∧
      h.session.handle c r = (h.session, [.unicast c (.disconnected reason), .close c]) := by
  have emitted {effects : List Effect}
      (there : Happening.emitted (.close c) ∈ effects.map .emitted) : .close c ∈ effects := by
    obtain ⟨e, there, same⟩ := List.mem_map.mp there
    cases same
    exact there
  cases event with
  | connected => cases List.mem_singleton.mp closes
  | received id r =>
    rw [happenings] at closes
    split at closes
    · rename_i held
      have told := emitted closes
      cases asked : h.session.request id r with
      | ok step =>
        rw [handle_of_ok asked] at told
        exact absurd told ((request_relayed orderly asked).close_notMem c)
      | error why =>
        rw [handle_of_error asked] at told
        rcases refusal_cases why id with silent | ⟨reason, told_off⟩
        · rw [silent] at told
          cases told
        · have own : c = id := by simpa [told_off] using told
          subst own
          exact ⟨r, reason, rfl, held, by rw [handle_of_error asked, told_off]⟩
    · cases closes
  | lost id =>
    rcases List.mem_cons.mp closes with other | told
    · cases other
    · exact absurd (emitted told) ((disconnect_relayed orderly id).close_notMem c)
  | console line =>
    rw [happenings] at closes
    split at closes
    · cases List.mem_singleton.mp closes
    · exact absurd (emitted closes) (close_notMem_serverChat _ c)

/-- No event gives a player to a connection that is not held. -/
theorem stranger_handle (absent : c ∉ h.held) (stranger : h.session.roster.get? c = none)
    (event : Event) : (h.handle event).1.session.roster.get? c = none := by
  by_contra joined
  obtain ⟨p, found⟩ := Option.ne_none_iff_exists'.mp joined
  have unknown {q : Player} (there : h.session.roster.get? c = some q) : False := by
    rw [stranger] at there
    cases there
  cases event with
  | connected => exact unknown found
  | received id r =>
    rw [handle_received] at found
    split at found
    · rename_i held
      cases asked : h.session.request id r with
      | ok step =>
        rw [handle_of_ok asked] at found
        rcases request_members asked found with ⟨rfl, -⟩ | ⟨q, there, -⟩
        · exact absent held
        · exact unknown there
      | error why =>
        rw [handle_of_error asked] at found
        exact unknown found
    · exact unknown found
  | lost id =>
    obtain ⟨q, there, -⟩ := disconnect_within h.session id c p found
    exact unknown there
  | console line =>
    cases quits : quits line with
    | true =>
      rw [handle_console_of_quits quits] at found
      exact unknown found
    | false =>
      rw [handle_console_of_not_quits quits] at found
      exact unknown found

theorem stranger_step (absent : c ∉ h.held) (stranger : h.session.roster.get? c = none)
    (event : Event) : (h.step event).1.session.roster.get? c = none := by
  unfold step
  split
  · exact stranger_handle absent stranger event
  · exact stranger

/-- A request of a connection that is not held does nothing. -/
theorem step_of_notMem (absent : c ∉ h.held) (r : Request) : h.step (.received c r) = (h, []) := by
  rw [step, handle, if_neg absent, ite_self]

end Hub

open Hub

/-! ## What a step does to the outboxes -/

/-- The number of connection `k`: the accepts count from `1`, and wrap at `2 ^ 32`. -/
def PlayerId.nth (k : Nat) : PlayerId := ⟨UInt32.ofNat (k + 1)⟩

theorem PlayerId.nth_inj {i k : Nat} (small : i + 1 < UInt32.size) (small' : k + 1 < UInt32.size)
    (same : nth i = nth k) : i = k := by
  have numbers : UInt32.ofNat (i + 1) = UInt32.ofNat (k + 1) := congrArg PlayerId.val same
  have := congrArg UInt32.toNat numbers
  rw [UInt32.toNat_ofNat_of_lt' small, UInt32.toNat_ofNat_of_lt' small'] at this
  omega

/-- The outbox after a refusal that closes it: with the reason queued if `served`, and not open. -/
def Outbox.farewell (o : Outbox) (reason : String) : Outbox :=
  { o with
    isOpen := false
    queued := o.queued ++ if o.served then [.disconnected reason] else [] }

/-- `f` keeps the number of an outbox, and all of one that is not open. -/
structure Outbox.Grows (f : Outbox → Outbox) : Prop where
  id_eq : ∀ o, (f o).id = o.id
  of_sealed : ∀ o, o.isOpen = false → f o = o

theorem Outbox.grows_takeAll (ds : List Delivery) : Outbox.Grows (ds.foldl Outbox.take ·) where
  id_eq := Outbox.id_takeAll ds
  of_sealed _ gone := Outbox.takeAll_eq_self fun _ _ isOpen => absurd (gone.symm.trans isOpen) nofun

theorem Outbox.exists_write_eq (o : Outbox) (through : Bool) :
    ∃ taken served, o.write through = { o with taken, served } := by
  unfold Outbox.write
  split
  · split
    · exact ⟨_, _, rfl⟩
    · split <;> exact ⟨_, _, rfl⟩
  · exact ⟨_, _, rfl⟩

namespace Office

variable {δ : Type} {x y : Office δ} {c : PlayerId} {order : List PlayerId} {event : Event}
  {moves : List Move} {k : Nat} {o : Outbox}

/-- What `Office.step` can do: it changes each outbox by some `f` that `Grows`, and `held` grows at
most by the connection that it accepts, which gets a new outbox. -/
inductive Change (x : Office δ) (order : List PlayerId) (y : Office δ) : Prop
  | goesOn {f : Outbox → Outbox} (grows : Outbox.Grows f) (outboxes : y.outboxes = x.outboxes.map f)
      (next : y.hub.nextId = x.hub.nextId) (held : y.hub.held ⊆ order)
  | accepts {f : Outbox → Outbox} (grows : Outbox.Grows f)
      (outboxes : y.outboxes = x.outboxes.map f ++ [{ id := ⟨x.hub.nextId⟩ }])
      (next : y.hub.nextId = x.hub.nextId + 1)
      (held : ∀ c ∈ y.hub.held, c ∈ order ∨ c = ⟨x.hub.nextId⟩)

namespace Change

theorem length_le (change : Change x order y) : x.outboxes.length ≤ y.outboxes.length := by
  cases change with
  | goesOn grows outboxes => simp [outboxes]
  | accepts grows outboxes => simp [outboxes]

theorem of_sealed (change : Change x order y) (found : x.outboxes[k]? = some o)
    (gone : o.isOpen = false) : y.outboxes[k]? = some o := by
  have kept {f : Outbox → Outbox} (grows : Outbox.Grows f) :
      (x.outboxes.map f)[k]? = some o := by
    rw [List.getElem?_map, found, Option.map_some, grows.of_sealed o gone]
  cases change with
  | goesOn grows outboxes => rw [outboxes, kept grows]
  | accepts grows outboxes =>
    obtain ⟨within, -⟩ := List.getElem?_eq_some_iff.mp (kept grows)
    rw [outboxes, List.getElem?_append_left within, kept grows]

/-- An outbox was there before, or belongs to the connection just accepted. -/
theorem found_cases (change : Change x order y) (found : y.outboxes[k]? = some o) :
    (∃ earlier, x.outboxes[k]? = some earlier ∧ o.id = earlier.id) ∨
      k = x.outboxes.length ∧ o.id = ⟨x.hub.nextId⟩ := by
  have old {f : Outbox → Outbox} (grows : Outbox.Grows f)
      (found : (x.outboxes.map f)[k]? = some o) :
      ∃ earlier, x.outboxes[k]? = some earlier ∧ o.id = earlier.id := by
    rw [List.getElem?_map, Option.map_eq_some_iff] at found
    obtain ⟨earlier, there, rfl⟩ := found
    exact ⟨earlier, there, grows.id_eq earlier⟩
  cases change with
  | goesOn grows outboxes => exact .inl (old grows (outboxes ▸ found))
  | accepts grows outboxes =>
    rw [outboxes, List.getElem?_append] at found
    split at found
    · exact .inl (old grows found)
    · rename_i beyond
      obtain ⟨last, rfl⟩ := List.getElem?_eq_some_iff.mp found
      rw [List.length_map, List.length_singleton] at last
      rw [List.length_map] at beyond
      exact .inr ⟨by omega, by rw [List.getElem_singleton]⟩

end Change

/-- Connection `k` has the number `PlayerId.nth k`. -/
structure Numbered (x : Office δ) : Prop where
  next : x.hub.nextId = UInt32.ofNat (x.outboxes.length + 1)
  given : ∀ (k : Nat) (o : Outbox), x.outboxes[k]? = some o → o.id = .nth k

theorem Numbered.new (expected : Nat) (dice : δ) : Numbered (.new expected dice) where
  next := rfl
  given k o found := by cases found

theorem Numbered.change (numbered : Numbered x) (change : Change x order y) : Numbered y where
  next := by
    cases change with
    | goesOn grows outboxes next => rw [next, outboxes, List.length_map, numbered.next]
    | accepts grows outboxes next =>
      rw [next, numbered.next, outboxes, List.length_append, List.length_map,
        List.length_singleton, UInt32.ofNat_add (x.outboxes.length + 1)]
      rfl
  given k o found := by
    rcases change.found_cases found with ⟨earlier, there, same⟩ | ⟨rfl, same⟩
    · rw [same, numbered.given k earlier there]
    · rw [same, PlayerId.nth, numbered.next]

/-- Outbox `k` is `o` but for what its writer changes; it is not open, and its connection is not
held. -/
structure Closed (x : Office δ) (k : Nat) (o : Outbox) : Prop where
  found : ∃ taken served, x.outboxes[k]? = some { o with taken, served }
  gone : o.isOpen = false
  notMem_held : o.id ∉ x.hub.held

/-- An event keeps `Closed`, for fewer than `2 ^ 32` connections. -/
theorem Closed.change (closed : Closed x k o) (numbered : Numbered x)
    (any : order.Perm x.hub.held) (change : Change x order y)
    (few : y.outboxes.length < UInt32.size) : Closed y k o := by
  have absent : o.id ∉ order := fun there => closed.notMem_held (any.subset there)
  obtain ⟨taken, served, found⟩ := closed.found
  refine ⟨⟨taken, served, change.of_sealed found closed.gone⟩, closed.gone, fun there => ?_⟩
  cases change with
  | goesOn grows outboxes next held => exact absent (held there)
  | accepts grows outboxes next held =>
    rcases held o.id there with old | new
    · exact absent old
    · rw [outboxes, List.length_append, List.length_map, List.length_singleton] at few
      obtain ⟨within, -⟩ := List.getElem?_eq_some_iff.mp found
      have same : PlayerId.nth k = .nth x.outboxes.length := by
        rw [← numbered.given k _ found, new, PlayerId.nth, numbered.next]
      have := PlayerId.nth_inj (by omega) few same
      omega

/-! ## What a writer does to the outboxes -/

theorem getElem?_write (x : Office δ) (j : Nat) (through : Bool) (k : Nat) :
    (x.write j through).outboxes[k]? =
      x.outboxes[k]?.map fun o => if j = k then o.write through else o := by
  rw [write, List.getElem?_modify]
  rfl

theorem length_write (x : Office δ) (j : Nat) (through : Bool) :
    (x.write j through).outboxes.length = x.outboxes.length := by
  rw [write, List.length_modify]

theorem Numbered.write (numbered : Numbered x) (j : Nat) (through : Bool) :
    Numbered (x.write j through) where
  next := by rw [length_write, ← numbered.next, Office.write]
  given k o found := by
    rw [getElem?_write, Option.map_eq_some_iff] at found
    obtain ⟨earlier, there, rfl⟩ := found
    rw [← numbered.given k earlier there]
    split
    · exact Outbox.id_write earlier through
    · rfl

theorem Closed.write (closed : Closed x k o) (j : Nat) (through : Bool) :
    Closed (x.write j through) k o where
  found := by
    obtain ⟨taken, served, found⟩ := closed.found
    rw [getElem?_write, found, Option.map_some]
    split
    · obtain ⟨taken', served', written⟩ := Outbox.exists_write_eq { o with taken, served } through
      exact ⟨taken', served', congrArg some written⟩
    · exact ⟨taken, served, rfl⟩
  gone := closed.gone
  notMem_held := closed.notMem_held

variable [Dice δ]

theorem change_step (x : Office δ) (order : List PlayerId) (event : Event) :
    Change x order (x.step order event) := by
  by_cases new : event = .connected
  · subst new
    have outboxes := outboxes_step_connected x order
    cases running : x.hub.running with
    | true =>
      have hub : (x.step order .connected).hub =
          { x.hub with held := hold order ⟨x.hub.nextId⟩, nextId := x.hub.nextId + 1 } :=
        congrArg Prod.fst (step_of_running (h := { x.hub with held := order }) running .connected)
      rw [running, if_pos rfl, Outbox.accept] at outboxes
      refine .accepts (Outbox.grows_takeAll [.finish ⟨x.hub.nextId⟩]) outboxes (by rw [hub]) ?_
      rw [hub]
      exact fun c there => mem_hold.mp there
    | false =>
      have hub : (x.step order .connected).hub = { x.hub with held := order } :=
        congrArg Prod.fst (if_neg (by simp [running]))
      rw [running, if_neg (by decide)] at outboxes
      have same := outboxes.trans (List.map_id' _).symm
      refine .goesOn (Outbox.grows_takeAll []) same (by rw [hub]) ?_
      rw [hub]
      exact List.Subset.refl _
  · exact .goesOn (Outbox.grows_takeAll _) (outboxes_step_of_ne x order new)
      (nextId_step_of_ne (h := { x.hub with held := order }) new)
      (held_step_subset (h := { x.hub with held := order }) new)

/-! ## Runs -/

theorem Numbered.of_runs (numbered : Numbered x) (runs : x.Runs moves y) : Numbered y := by
  induction runs with
  | start => exact numbered
  | step runs any event ih => exact ih.change (change_step _ _ event)
  | write runs j through ih => exact ih.write j through

theorem orderly_of_runs {expected : Nat} {dice : δ} (runs : (new expected dice).Runs moves x) :
    x.hub.session.Orderly := by
  induction runs with
  | start => exact (Orderly.new expected dice).opened
  | @step moves y runs order any event ih =>
    exact orderly_step (h := { y.hub with held := order }) ih event
  | write runs j through ih => exact ih

/-- A run keeps `Closed`, for fewer than `2 ^ 32` connections, and gives no player to the
connection. -/
theorem Closed.of_runs (closed : Closed x k o) (numbered : Numbered x)
    (runs : x.Runs moves y) (few : y.outboxes.length < UInt32.size) :
    Closed y k o ∧
      (x.hub.session.roster.get? o.id = none → y.hub.session.roster.get? o.id = none) := by
  induction runs with
  | start => exact ⟨closed, fun stranger => stranger⟩
  | write runs j through ih =>
    rw [length_write] at few
    obtain ⟨still, apart⟩ := ih few
    exact ⟨still.write j through, apart⟩
  | @step moves y runs order any event ih =>
    have change := change_step y order event
    obtain ⟨still, apart⟩ := ih (Nat.lt_of_le_of_lt change.length_le few)
    refine ⟨still.change (numbered.of_runs runs) any change few, fun stranger => ?_⟩
    have absent : o.id ∉ order := fun there => still.notMem_held (any.subset there)
    exact stranger_step (h := { y.hub with held := order }) absent (apart stranger) event

/-- `c` is not held. No event delivers anything to it, and any request of it leaves the office as it
is. -/
structure Gone (y : Office δ) (c : PlayerId) : Prop where
  notMem_held : c ∉ y.hub.held
  untold : ∀ order, order.Perm y.hub.held → ∀ event,
    ∀ d ∈ ({ y.hub with held := order }.step event).2, d.recipient ≠ c
  unheard : ∀ order, order.Perm y.hub.held → ∀ r,
    y.step order (.received c r) = { y with hub := { y.hub with held := order } }

theorem gone_of_notMem_held (absent : c ∉ y.hub.held) : Gone y c where
  notMem_held := absent
  untold order any event d told own :=
    absent (any.subset (own ▸ recipient_mem_held (h := { y.hub with held := order }) told))
  unheard order any r := by
    have ignored := step_of_notMem (h := { y.hub with held := order })
      (fun there => absent (any.subset there)) r
    simp only [Office.step, ignored, List.foldl_nil, List.map_id']

/-- An event with `close c` leaves the outbox of `c` with its `farewell`, and `Closed`. -/
theorem closed_step (any : order.Perm x.hub.held) (distinct : x.hub.held.Nodup)
    (held : Outbox.Held x.outboxes x.hub.held) (orderly : x.hub.session.Orderly)
    (running : x.hub.running = true) (closes : .emitted (.close c) ∈ x.hub.happenings event) :
    ∃ k o reason, x.outboxes[k]? = some o ∧ o.id = c ∧ o.isOpen = true ∧
      (x.step order event).outboxes[k]? = some (o.farewell reason) ∧
      Closed (x.step order event) k (o.farewell reason) := by
  obtain ⟨r, reason, rfl, there, handled⟩ := refusal_of_closes orderly closes
  obtain ⟨o, member, isOpen, rfl⟩ := (held c).mp there
  obtain ⟨k, found⟩ := List.getElem?_of_mem member
  have sealed : (x.step order (.received o.id r)).outboxes[k]? = some (o.farewell reason) := by
    rw [outboxes_step any distinct held, if_pos running, happenings, if_pos there, handled]
    simp [Outbox.noteEach, Outbox.note, Outbox.farewell, found, isOpen, Happening.meant?,
      Happening.ends]
  refine ⟨k, o, reason, found, rfl, isOpen, sealed, ⟨_, _, sealed⟩, rfl, ?_⟩
  have gone : (x.step order (.received o.id r)).hub.held = order.erase o.id := by
    have all : (x.step order (.received o.id r)).hub =
        ({ x.hub with held := order }.handle (.received o.id r)).1 :=
      congrArg Prod.fst (step_of_running (h := { x.hub with held := order }) running _)
    rw [all, handle_received, if_pos (any.mem_iff.mpr there), handled]
    rfl
  rw [gone]
  exact (any.nodup_iff.mpr distinct).not_mem_erase

/-- After an event with `close c` and any run behind it, with fewer than `2 ^ 32` connections in
all: `c` is `Gone`, and its outbox is the `farewell` of that event, except for what its writer
changes. No other outbox has the number `c`, and `c` has no player if it had none after the event.
-/
theorem gone_of_closed {expected : Nat} {dice : δ} {after : List Move}
    (runs : (new expected dice).Runs moves x) (running : x.hub.running = true)
    (any : order.Perm x.hub.held) (closes : .emitted (.close c) ∈ x.hub.happenings event)
    (later : (x.step order event).Runs after y) (few : y.outboxes.length < UInt32.size) :
    Gone y c ∧
      (∃ k o reason, x.outboxes[k]? = some o ∧ o.id = c ∧ o.isOpen = true ∧
        (x.step order event).outboxes[k]? = some (o.farewell reason) ∧
          (∃ taken served, y.outboxes[k]? = some { o.farewell reason with taken, served }) ∧
          ∀ (i : Nat) (o : Outbox), y.outboxes[i]? = some o → o.id = c → i = k) ∧
      ((x.step order event).hub.session.roster.get? c = none →
        y.hub.session.roster.get? c = none) := by
  have kept := kept_of_runs runs
  have numbered := ((Numbered.new expected dice).of_runs runs).change (change_step x order event)
  obtain ⟨k, o, reason, before, rfl, isOpen, sealed, closed⟩ :=
    closed_step any kept.distinct kept.held (orderly_of_runs runs) running closes
  obtain ⟨still, apart⟩ := closed.of_runs numbered later few
  refine ⟨gone_of_notMem_held still.notMem_held, ?_, apart⟩
  refine ⟨k, o, reason, before, rfl, isOpen, sealed, still.found, fun i other found own => ?_⟩
  have given := (numbered.of_runs later).given
  obtain ⟨taken, served, there⟩ := still.found
  have number := given k { o.farewell reason with taken, served } there
  have same : PlayerId.nth i = .nth k := (given i other found).symm.trans (own.trans number)
  obtain ⟨within, -⟩ := List.getElem?_eq_some_iff.mp found
  obtain ⟨within', -⟩ := List.getElem?_eq_some_iff.mp there
  exact PlayerId.nth_inj (by omega) (by omega) same

/-- Two connections; the second has joined as `A`. -/
def twoConnected : Office Script :=
  (((new 2 ⟨[]⟩ : Office Script).step [] .connected).step [⟨1⟩] .connected).step [⟨1⟩, ⟨2⟩]
    (.received ⟨2⟩ (.intro "A" false))

/-- The first asks for the name `A` too, and is refused and closed. -/
def sentAway : Office Script :=
  twoConnected.step [⟨2⟩, ⟨1⟩] (.received ⟨1⟩ (.intro "A" false))

/-- An `intro` of the first as `B` is handled only now. Then its writer writes, a third connects,
and the server says something. -/
def afterwards : Office Script :=
  (((sentAway.step [⟨2⟩] (.received ⟨1⟩ (.intro "B" false))).write 0 true).step [⟨2⟩]
    .connected).step [⟨3⟩, ⟨2⟩] (.console "hi")

theorem gone_of_closed_afterwards :
    .emitted (.close ⟨1⟩) ∈ twoConnected.hub.happenings (.received ⟨1⟩ (.intro "A" false)) ∧
      Gone afterwards ⟨1⟩ ∧ afterwards.hub.session.roster.get? ⟨1⟩ = none ∧
      afterwards.outboxes[0]?.map (·.queued) = sentAway.outboxes[0]?.map (·.queued) := by
  have runs : (new 2 ⟨[]⟩ : Office Script).Runs
      ([] ++ [.event .connected] ++ [.event .connected] ++
        [.event (.received ⟨2⟩ (.intro "A" false))]) twoConnected :=
    .step (.step (.step .start (by decide +kernel) _) (by decide +kernel) _) (by decide +kernel) _
  have later : sentAway.Runs
      ([] ++ [.event (.received ⟨1⟩ (.intro "B" false))] ++ [.write 0 true] ++
        [.event .connected] ++ [.event (.console "hi")]) afterwards :=
    .step (.step (.write (.step .start (by decide +kernel) _) 0 true) (by decide +kernel) _)
      (by decide +kernel) _
  have closes : .emitted (.close ⟨1⟩) ∈
      twoConnected.hub.happenings (.received ⟨1⟩ (.intro "A" false)) := by decide +kernel
  have gone := gone_of_closed runs (by decide +kernel) (by decide +kernel) closes later
    (by decide +kernel)
  exact ⟨closes, gone.1, gone.2.2 (by decide +kernel), by decide +kernel⟩

end Office

end Skirmish
