import Skirmish.Proofs.Hub.Stay
import Skirmish.Proofs.Session.Overlong

/-!
# What is lost when a writer ends

`dispatch` and `shutdown` drop what they have for a connection whose writer has ended: `send` to its
queue fails, and the connection stays in the table. So a connection does not get all that is
`meant?` for it while held (`Lossless`) iff something is meant for it after its writer has ended
(`Missed`).

A writer ends only when its stream fails or at a notice that `encode` refuses. A `chat` of 4092
bytes arrives, and its relay is such a notice for every connection.

Results:

* `Delivered.lossless_iff`: `Lossless` iff nothing is `Missed`;
* `Office.cause_of_runs`: why a writer has ended;
* `Office.lossless_iff_of_runs`: all of this for every run of an office;
* `Office.drawl_not_lossless`: a `chat` of 4092 bytes after which a held connection is told nothing.
-/

namespace Skirmish

open Hub Office

variable {record : List Entry} {boxes : List Outbox} {k : Nat} {c : PlayerId}
  {start stop till : Nat}

/-- The queue of every connection is what is `meant?` for it from `start` to `stop`, each once and
in order, and then `goodbye` iff the hub stops at `stop`. -/
def Lossless (record : List Entry) (boxes : List Outbox) : Prop :=
  ∀ ⦃k o start stop till⦄, boxes[k]? = some o → Stay record k o.id start stop till →
    o.queued = (record.extract (start + 1) stop).filterMap (·.meant? o.id) ++
      if record[stop]? = some (.hub .stopped) then [goodbye] else []

/-- Some connection has something `meant?` for it from `till`, where its writer ends, to `stop`, or
the hub stops at `stop`. -/
def Missed (record : List Entry) : Prop :=
  ∃ k c start stop till, Stay record k c start stop till ∧ till < stop ∧
    ((∃ e ∈ record.extract till stop, (e.meant? c).isSome = true) ∨
      record[stop]? = some (.hub .stopped))

/-! ## Connections and outboxes -/

/-- `k` determines `start` and the number. -/
theorem Stay.eq_of_place {d : PlayerId} {start' stop' till' : Nat}
    (h : Stay record k c start stop till) (h' : Stay record k d start' stop' till') :
    start = start' ∧ c = d := by
  obtain ⟨short, there⟩ := List.getElem?_eq_some_iff.mp h'.accepted
  have split : record = record.take start' ++ .hub (.accepted d) :: record.drop (start' + 1) := by
    rw [← there, List.getElem_cons_drop, List.take_append_drop]
  have same : start = start' := by
    rw [h.start_eq split h'.place, List.length_take]
    omega
  subst same
  have both := h.accepted.symm.trans h'.accepted
  simpa using both

/-- Every `Stay` has its outbox. -/
theorem Delivered.exists_outbox (h : Delivered record boxes)
    (stay : Stay record k c start stop till) : ∃ o, boxes[k]? = some o ∧ o.id = c := by
  have few : k < record.countP (·.isAccepted) := by
    have before : start < record.length := Nat.lt_of_lt_of_le stay.goes.start_lt stay.goes.stop_le
    have all := countP_take_lt stay.accepted before
    rwa [stay.place, List.take_length] at all
  rw [← h.length_eq] at few
  obtain ⟨start', stop', till', stay'⟩ := h.exists_stay (List.getElem?_eq_getElem few)
  exact ⟨boxes[k], List.getElem?_eq_getElem few, (stay.eq_of_place stay').2.symm⟩

/-! ## What is missed -/

theorem extract_append_extract {α : Type} (l : List α) {i j k : Nat} (first : i ≤ j)
    (last : j ≤ k) : l.extract i k = l.extract i j ++ l.extract j k := by
  have parts : k - i = (j - i) + (k - j) := by omega
  simp only [List.extract_eq_take_drop]
  rw [parts, List.take_add, List.drop_drop, Nat.add_sub_cancel' first]

/-- The entry at `till` is not `stopped`. -/
theorem Stay.ne_stopped (h : Stay record k c start stop till) :
    record[till]? ≠ some (.hub .stopped) := by
  intro there
  have ended := h.breaks.here _ there
  simp at ended

/-- `Lossless` iff not `Missed`. -/
theorem Delivered.lossless_iff (h : Delivered record boxes) :
    Lossless record boxes ↔ ¬Missed record := by
  constructor
  · rintro all ⟨k, c, start, stop, till, stay, held, missed⟩
    obtain ⟨o, found, rfl⟩ := h.exists_outbox stay
    have queued := all found stay
    rw [h.queued_eq found stay, Nat.min_eq_right (Nat.le_of_lt held),
      extract_append_extract record stay.breaks.start_lt (Nat.le_of_lt held), List.filterMap_append,
      if_neg (by omega), List.append_nil, List.append_assoc, List.self_eq_append_right,
      List.append_eq_nil_iff] at queued
    rcases missed with ⟨e, there, meant⟩ | stopped
    · rw [List.filterMap_eq_nil_iff] at queued
      rw [queued.1 e there] at meant
      cases meant
    · rw [if_pos stopped] at queued
      cases queued.2
  · intro none k o start stop till found stay
    rw [h.queued_eq found stay]
    rcases Nat.lt_trichotomy till stop with held | rfl | later
    · have nothing : (record.extract till stop).filterMap (·.meant? o.id) = [] := by
        rw [List.filterMap_eq_nil_iff]
        intro e there
        by_contra some
        exact none ⟨k, o.id, start, stop, till, stay, held,
          .inl ⟨e, there, Option.isSome_iff_ne_none.mpr some⟩⟩
      have running : record[stop]? ≠ some (.hub .stopped) := fun stopped =>
        none ⟨k, o.id, start, stop, till, stay, held, .inr stopped⟩
      have parts := extract_append_extract record (i := start + 1) stay.breaks.start_lt
        (Nat.le_of_lt held)
      rw [Nat.min_eq_right (Nat.le_of_lt held), if_neg (by omega), if_neg running, parts,
        List.filterMap_append, nothing, List.append_nil, List.append_nil]
    · rw [Nat.min_self, if_neg stay.ne_stopped, if_neg fun both => stay.ne_stopped both.1]
    · rw [Nat.min_eq_left (Nat.le_of_lt later)]
      simp only [and_iff_left later]

/-! ## What ends a writer -/

namespace Outbox

variable {o : Outbox}

/-- A turn that ends the writer has a stream that fails, or a notice that does not encode. -/
theorem cause_of_write (served : o.served = true) {through : Bool}
    (ended : (o.write through).served = false) :
    through = false ∨ ∃ n ∈ o.queued, ¬Wire.Sendable n := by
  rw [write, if_pos served] at ended
  split at ended
  · rw [served] at ended
    cases ended
  · rename_i n next
    split at ended
    · exact .inl ended
    · rename_i why refused
      refine .inr ⟨n, List.mem_of_getElem? next, ?_⟩
      rintro ⟨bytes, encoded⟩
      rw [refused] at encoded
      cases encoded

theorem served_takeAll (ds : List Delivery) (o : Outbox) :
    (ds.foldl take o).served = o.served := by
  induction ds generalizing o with
  | nil => rfl
  | cons d rest ih =>
    have first : (o.take d).served = o.served := by
      cases d <;> simp only [take] <;> split <;> rfl
    rw [List.foldl_cons, ih, first]

theorem queued_subset_takeAll (ds : List Delivery) (o : Outbox) :
    o.queued ⊆ (ds.foldl take o).queued := by
  induction ds generalizing o with
  | nil => exact List.Subset.refl _
  | cons d rest ih =>
    have first : o.queued ⊆ (o.take d).queued := by
      cases d <;> simp only [take] <;> split <;> simp
    exact List.Subset.trans first (ih (o.take d))

/-- The writer ends at a notice that does not encode. -/
theorem served_write_of_next {n : Notice} (next : o.queued[o.taken]? = some n)
    (long : ¬Wire.Sendable n) (through : Bool) : (o.write through).served = false := by
  cases served : o.served with
  | false => rw [write_of_unserved served, served]
  | true =>
    cases encoded : Wire.encode n with
    | ok bytes => exact absurd ⟨bytes, encoded⟩ long
    | error why => simp [write, served, next, encoded]

end Outbox

namespace Office

variable {δ : Type} [Dice δ] {x : Office δ} {expected : Nat} {dice : δ} {moves : List Move}
  {o : Outbox}

/-- An event ends no writer, and keeps all that is queued. -/
theorem exists_earlier_of_step {order : List PlayerId} {event : Event}
    (found : (x.step order event).outboxes[k]? = some o) (ended : o.served = false) :
    ∃ b, x.outboxes[k]? = some b ∧ b.served = false ∧ b.queued ⊆ o.queued := by
  have earlier (ds : List Delivery)
      (found : (x.outboxes.map (ds.foldl Outbox.take ·))[k]? = some o) :
      ∃ b, x.outboxes[k]? = some b ∧ b.served = false ∧ b.queued ⊆ o.queued := by
    rw [List.getElem?_map, Option.map_eq_some_iff] at found
    obtain ⟨b, there, rfl⟩ := found
    exact ⟨b, there, (Outbox.served_takeAll ds b).symm.trans ended,
      Outbox.queued_subset_takeAll ds b⟩
  by_cases new : event = .connected
  · subst new
    rw [outboxes_step_connected] at found
    split at found
    · rw [Outbox.accept, List.getElem?_append] at found
      split at found
      · exact earlier [.finish _] found
      · obtain ⟨first, rfl⟩ := List.getElem?_eq_some_iff.mp found
        rw [List.getElem_singleton] at ended
        cases ended
    · exact ⟨o, found, ended, List.Subset.refl _⟩
  · rw [outboxes_step_of_ne x order new] at found
    exact earlier _ found

/-- If the writer of connection `k` has ended, some turn of it had a stream that failed, or some
notice in its queue does not encode. -/
theorem cause_of_runs (runs : (new expected dice).Runs moves x)
    (found : x.outboxes[k]? = some o) (ended : o.served = false) :
    .write k false ∈ moves ∨ ∃ n ∈ o.queued, ¬Wire.Sendable n := by
  induction runs generalizing o with
  | start => cases found
  | step runs any event ih =>
    obtain ⟨b, there, before, kept⟩ := exists_earlier_of_step found ended
    refine (ih there before).imp (List.mem_append_left _) ?_
    rintro ⟨n, queued, long⟩
    exact ⟨n, kept queued, long⟩
  | write runs j through ih =>
    rw [write, List.getElem?_modify, Option.map_eq_map, Option.map_eq_some_iff] at found
    obtain ⟨b, there, rfl⟩ := found
    by_cases own : j = k
    · subst own
      rw [if_pos rfl] at ended ⊢
      rw [Outbox.queued_write]
      cases before : b.served with
      | false => exact (ih there before).imp_left (List.mem_append_left _)
      | true =>
        rcases Outbox.cause_of_write before ended with rfl | cause
        · exact .inl (List.mem_append_right _ List.mem_cons_self)
        · exact .inr cause
    · rw [if_neg own] at ended ⊢
      exact (ih there ended).imp_left (List.mem_append_left _)

/-- For every run. The happenings in its record are the record of the hub alone, so the writers
change none. The outboxes are `Delivered` by the record, and are the same for all orders of the
table. They are `Lossless` iff nothing is `Missed`. A writer that ends at `till` had a stream that
failed, or a notice that was `meant?` for it before `till` and does not encode. -/
theorem lossless_iff_of_runs (runs : (new expected dice).Runs moves x) :
    let record := (new expected dice).record moves
    record.filterMap Entry.happening? =
        (Hub.new expected dice).record (moves.filterMap Move.event?) ∧
      Delivered record x.outboxes ∧
      (∀ y, (new expected dice).Runs moves y → y.outboxes = x.outboxes) ∧
      (Lossless record x.outboxes ↔ ¬Missed record) ∧
      ∀ ⦃k c start stop till⦄, Stay record k c start stop till → till < record.length →
        .write k false ∈ moves ∨
          ∃ n ∈ (record.extract (start + 1) till).filterMap (·.meant? c), ¬Wire.Sendable n := by
  intro record
  have delivered : Delivered record x.outboxes := delivered_of_runs runs
  refine ⟨record_hub _ moves, delivered, fun y others => outboxes_eq_of_runs runs others,
    delivered.lossless_iff, ?_⟩
  intro k c start stop till stay early
  obtain ⟨o, found, rfl⟩ := delivered.exists_outbox stay
  have ended : o.served = false := by
    rw [← Bool.not_eq_true, delivered.served_iff found stay]
    omega
  refine (cause_of_runs runs found ended).imp_right ?_
  rintro ⟨n, queued, long⟩
  refine ⟨n, ?_, long⟩
  rw [delivered.queued_eq found stay, List.mem_append] at queued
  rcases queued with meant | bye
  · have part : (record.extract (start + 1) (min stop till)).Sublist
        (record.extract (start + 1) till) := by
      simp only [List.extract_eq_take_drop, ← List.drop_take]
      exact (List.take_sublist_take_left (by omega)).drop (start + 1)
    exact (part.filterMap _).subset meant
  · split at bye
    · have short : Wire.Sendable goodbye := Wire.sendable_disconnected_iff.mpr (by decide)
      exact absurd (List.mem_singleton.mp bye ▸ short) long
    · cases bye

/-- Two connections, with the table in the other order. The second joins as `A`, and the first is
refused that name and closed. -/
def lateComer : Office Script :=
  ((((new 2 ⟨[]⟩ : Office Script).step [] .connected).step [⟨1⟩] .connected).step [⟨2⟩, ⟨1⟩]
    (.received ⟨2⟩ (.intro "A" false))).step [⟨2⟩, ⟨1⟩] (.received ⟨1⟩ (.intro "A" false))

/-- The stream of the second fails at its second notice, and then the hub says something and stops.
-/
def cutOff : Office Script :=
  (((lateComer.write 1 true).write 1 false).step [⟨2⟩] (.console "hi")).step [⟨2⟩]
    (.console ".quit")

/-- The first has no notice from after its `close`, and the second none from after its stream has
failed, not even `goodbye`. -/
theorem lossless_iff_of_runs_cutOff : ∃ moves,
    (new 2 ⟨[]⟩ : Office Script).Runs moves cutOff ∧
      Delivered ((new 2 ⟨[]⟩ : Office Script).record moves) cutOff.outboxes ∧
      cutOff.outboxes.map (·.queued) =
        [[.chat "[Server] A has joined.", .chat "[Server] Waiting for 1 more player.",
            .disconnected "Name 'A' is already taken"],
          [.chat "[Server] A has joined.", .chat "[Server] Waiting for 1 more player."]] := by
  have arrival : (new 2 ⟨[]⟩ : Office Script).Runs
      ([] ++ [.event .connected] ++ [.event .connected] ++
        [.event (.received ⟨2⟩ (.intro "A" false))] ++
        [.event (.received ⟨1⟩ (.intro "A" false))]) lateComer :=
    .step (.step (.step (.step .start (by decide +kernel) _) (by decide +kernel) _)
      (by decide +kernel) _) (by decide +kernel) _
  have failure := (arrival.write 1 true).write 1 false
  have said := failure.step (show List.Perm [⟨2⟩] _ by decide +kernel) (.console "hi")
  have runs := said.step (show List.Perm [⟨2⟩] _ by decide +kernel) (.console ".quit")
  exact ⟨_, runs, (lossless_iff_of_runs runs).2.1, by decide +kernel⟩

/-! ## A line of chat that ends the writers -/

/-- Three seats; two connections have joined, and their writers have written all that was queued. -/
def chatting : List Move :=
  [.event .connected, .event .connected, .event (.received ⟨1⟩ (.intro "A" false)),
    .event (.received ⟨2⟩ (.intro "B" false))] ++
    List.replicate 4 (.write 0 true) ++ List.replicate 4 (.write 1 true)

/-- The first sends a `chat`, its writer takes the relay, and the second sends a `chat`. -/
def saying (text : String) : List Move :=
  chatting ++ [.event (.received ⟨1⟩ (.chat text)), .write 0 true,
    .event (.received ⟨2⟩ (.chat "hi"))]

/-- The relay of a `chat` of the first. -/
def passedOn (text : String) : Notice :=
  .chat ("A" ++ ": " ++ text)

/-- All that comes of a `chat` of the first is its relay. -/
theorem happenings_of_chatting {text : String} (spoken : Text.isBlankText text = false) :
    let h := ((new 3 ⟨[]⟩ : Office Script).run chatting).hub
    let event : Event := .received ⟨1⟩ (.chat text)
    h.happenings event = [.emitted (.broadcast (passedOn text))] ∧ (h.step event).1 = h := by
  intro h event
  have held : ⟨1⟩ ∈ h.held := by decide +kernel
  have running : h.running = true := by decide +kernel
  have named : (h.session.roster.get? ⟨1⟩).map (·.name) = some "A" := by decide +kernel
  obtain ⟨p, found, name⟩ := Option.map_eq_some_iff.mp named
  have granted : h.session.request ⟨1⟩ (.chat text) =
      .ok (h.session, [.broadcast (passedOn text)]) := by
    refine Session.chat_eq_ok_iff.mpr ⟨p, found, ?_⟩
    rw [spoken, name, if_neg Bool.false_ne_true, passedOn]
  have handled := Session.handle_of_ok granted
  constructor
  · rw [happenings, if_pos held, handled]
    rfl
  · rw [step_of_running running, handle_received, if_pos held, handled]
    rfl

/-- If the relay does not encode, the record goes on with it, the end of writer `0`, and the second
relay. -/
theorem record_saying {text : String} (spoken : Text.isBlankText text = false)
    (long : ¬Wire.Sendable (passedOn text)) :
    (new 3 ⟨[]⟩ : Office Script).record (saying text) =
      (new 3 ⟨[]⟩ : Office Script).record chatting ++
        [.hub (.emitted (.broadcast (passedOn text))), .unserved 0,
          .hub (.emitted (.broadcast (.chat "B: hi")))] := by
  have kept := kept_of_runs (runs_run (new 3 ⟨[]⟩ : Office Script) chatting)
  obtain ⟨passed, same⟩ := happenings_of_chatting spoken
  have running : ((new 3 ⟨[]⟩ : Office Script).run chatting).hub.running = true := by decide +kernel
  have ready : ∃ o ∈ ((new 3 ⟨[]⟩ : Office Script).run chatting).outboxes[0]?,
      o.isOpen = true ∧ o.served = true ∧ o.queued.length = o.taken := by decide +kernel
  have answer : ((new 3 ⟨[]⟩ : Office Script).run chatting).hub.happenings
      (.received ⟨2⟩ (.chat "hi")) = [.emitted (.broadcast (.chat "B: hi"))] := by decide +kernel
  rw [saying, record_append]
  generalize (new 3 ⟨[]⟩ : Office Script).run chatting = x at *
  obtain ⟨o, found, isOpen, served, written⟩ := ready
  let y := x.move (.event (.received ⟨1⟩ (.chat text)))
  -- what is passed on is the next notice that the writer of the first takes out
  have next : y.outboxes[0]? = some { o with queued := o.queued ++ [passedOn text] } := by
    have noted := outboxes_step (.refl _) kept.distinct kept.held (.received ⟨1⟩ (.chat text))
    rw [if_pos running, passed] at noted
    show (x.step x.hub.held _).outboxes[0]? = _
    rw [noted]
    simp [Outbox.noteEach, Outbox.note, Option.mem_def.mp found, isOpen, served, Happening.ends,
      Happening.meant?]
  have ended : ({ o with queued := o.queued ++ [passedOn text] }.write true).served = false :=
    Outbox.served_write_of_next (by simp [← written]) long true
  have first : x.entries (.event (.received ⟨1⟩ (.chat text))) =
      [.hub (.emitted (.broadcast (passedOn text)))] := by
    rw [entries, if_pos running, passed]
    rfl
  have second : y.entries (.write 0 true) = [.unserved 0] := by
    rw [entries, next]
    exact if_pos (by rw [Option.any_some, ended, served]; rfl)
  have third : (y.move (.write 0 true)).entries (.event (.received ⟨2⟩ (.chat "hi"))) =
      [.hub (.emitted (.broadcast (.chat "B: hi")))] := by
    have hub : (y.move (.write 0 true)).hub = x.hub := same
    rw [entries, hub, if_pos running, answer]
    rfl
  rw [record, record, record, record, first, second, third]
  rfl

/-- A run with a `chat` of 4092 bytes that is not `Lossless`: the relay ends a writer, and the relay
of the next `chat` is not queued to that connection, though it is still held. -/
theorem drawl_not_lossless :
    let x : Office Script := new 3 ⟨[]⟩
    let moves := saying (Session.drawl 4092)
    x.Runs moves (x.run moves) ∧ ¬Lossless (x.record moves) (x.run moves).outboxes := by
  intro x moves
  have long : ¬Wire.Sendable (passedOn (Session.drawl 4092)) := by
    have name : "A".utf8ByteSize = 1 := rfl
    have colon : ": ".utf8ByteSize = 2 := rfl
    rw [passedOn, Wire.sendable_chat_iff, String.utf8ByteSize_append, String.utf8ByteSize_append,
      Session.utf8ByteSize_drawl]
    omega
  have begun : (new 3 ⟨[]⟩ : Office Script).record chatting =
      [.hub (.accepted ⟨1⟩), .hub (.accepted ⟨2⟩),
        .hub (.emitted (.announce "A has joined.")),
        .hub (.emitted (.announce "Waiting for 2 more players.")),
        .hub (.emitted (.announce "B has joined.")),
        .hub (.emitted (.announce "Waiting for 1 more player."))] := by decide +kernel
  have runs := runs_run x moves
  refine ⟨runs, ?_⟩
  rw [(delivered_of_runs runs).lossless_iff, not_not,
    record_saying (Session.isBlankText_drawl 4091) long, begun]
  refine ⟨0, ⟨1⟩, 0, 9, 7, ⟨?_, ?_, ⟨?_, ?_, ?_, ?_⟩, ⟨?_, ?_, ?_, ?_⟩⟩, ?_,
    .inl ⟨.hub (.emitted (.broadcast (.chat "B: hi"))), ?_, ?_⟩⟩ <;> decide +kernel

end Office

end Skirmish
