import Mathlib.Data.List.Induction
import Skirmish.Office
import Skirmish.Proofs.Hub.Record

/-!
# What is queued to each connection

The table of connections may be gone through in any order. What `Outbox.take` queues in each outbox
follows from the record of an office, a list of `Office.Entry`: what happens at the hub, and when
each writer ends. While `isOpen` and `served`, an outbox notes of every happening what is meant for
its connection (`Hub.Happening.meant?`), and `goodbye` if the hub stops. It notes nothing after the
connection has gone or its writer has ended.

Results:

* `Outbox.takeAll_carryAll`: `Outbox.take` of the deliveries is `Outbox.note` of the happenings;
* `Outbox.Held.noteEach`: `Hub.held` are the connections of the outboxes that are open;
* `Office.outboxes_step`: the outboxes after an event, by its happenings;
* `Office.settled_write`: the outboxes after a turn of a writer, up to `Outbox.taken`;
* `Office.kept_of_runs`: the outboxes follow from the record alone;
* `Office.record_hub`: the writers change nothing of what happens at the hub.
-/

namespace Skirmish

/-! ## What is meant for a connection -/

namespace Hub.Happening

/-- The notice of a broadcast. -/
def broadcast? : Happening → Option Notice
  | .emitted (.broadcast notice) => some notice
  | _ => none

/-- The notice for `c`: that of a broadcast, or of a unicast to `c`. -/
def meant? (c : PlayerId) : Happening → Option Notice
  | .emitted (.broadcast notice) => some notice
  | .emitted (.unicast recipient notice) => if recipient = c then some notice else none
  | _ => none

end Hub.Happening

open Hub

namespace Outbox

/-- The outbox after a happening. While `isOpen` and `served` it queues what is `meant?` for it and,
at `stopped`, `goodbye`; whatever `ends` its connection closes it. -/
def note (o : Outbox) (x : Happening) : Outbox :=
  if o.isOpen then
    { o with
      isOpen := !x.ends o.id
      queued := o.queued ++
        if o.served then (x.meant? o.id).toList ++ if x = .stopped then [goodbye] else [] else [] }
  else o

/-- `note` of all outboxes, and one more at `accepted`. -/
def noteEach (boxes : List Outbox) (x : Happening) : List Outbox :=
  boxes.map (·.note x) ++ match x with
    | .accepted id => [{ id := id }]
    | _ => []

variable {o : Outbox}

theorem take_of_sealed (gone : o.isOpen = false) (d : Delivery) : o.take d = o := by
  rcases o with ⟨c, isOpen, queued⟩
  cases gone
  cases d <;> simp [take]

theorem note_of_sealed (gone : o.isOpen = false) (x : Happening) : o.note x = o := by
  rw [note, gone]
  rfl

@[simp] theorem id_note (o : Outbox) (x : Happening) : (o.note x).id = o.id := by
  unfold note
  split <;> rfl

theorem isOpen_note (o : Outbox) (x : Happening) :
    (o.note x).isOpen = true ↔ o.isOpen = true ∧ x.ends o.id = false := by
  cases isOpen : o.isOpen <;> simp [note, isOpen]

theorem take_send_eq_note (o : Outbox) (recipient : PlayerId) (n : Notice) :
    o.take (.send recipient n) = o.note (.emitted (.unicast recipient n)) := by
  rcases o with ⟨c, isOpen, queued, taken, served⟩
  cases isOpen <;> cases served <;> by_cases own : recipient = c <;>
    simp [take, note, Happening.ends, Happening.meant?, own]

theorem take_finish_eq_note (o : Outbox) {id : PlayerId} {x : Happening}
    (goes : x = .accepted id ∨ x = .emitted (.close id) ∨ x = .lost id) :
    o.take (.finish id) = o.note x := by
  rcases o with ⟨c, isOpen, queued⟩
  rcases goes with rfl | rfl | rfl <;> cases isOpen <;> by_cases own : id = c <;>
    simp [take, note, Happening.ends, Happening.meant?, own]

theorem accept_eq (boxes : List Outbox) (id : PlayerId) :
    accept boxes id = noteEach boxes (.accepted id) := by
  simp only [accept, noteEach, take_finish_eq_note _ (.inl rfl)]

/-! ## What is queued in an event -/

@[simp] theorem id_take (o : Outbox) (d : Delivery) : (o.take d).id = o.id := by
  cases d <;> simp only [take] <;> split <;> rfl

@[simp] theorem id_takeAll (ds : List Delivery) (o : Outbox) : (ds.foldl take o).id = o.id := by
  induction ds generalizing o with
  | nil => rfl
  | cons d rest ih => rw [List.foldl_cons, ih, id_take]

/-- Deliveries for other connections change nothing, and none changes an outbox that is not open. -/
theorem takeAll_eq_self {ds : List Delivery}
    (aside : ∀ d ∈ ds, o.isOpen = true → d.recipient ≠ o.id) : ds.foldl take o = o := by
  induction ds with
  | nil => rfl
  | cons d rest ih =>
    have same : o.take d = o := by
      cases isOpen : o.isOpen with
      | false => exact take_of_sealed isOpen d
      | true =>
        have other := aside d List.mem_cons_self isOpen
        cases d with
        | send recipient notice => exact if_neg fun own => other own.2.2
        | finish id => exact if_neg other
    rw [List.foldl_cons, same]
    exact ih fun d there => aside d (List.mem_cons_of_mem _ there)

/-- Of deliveries grouped by connection an outbox takes its own group, wherever that stands. -/
theorem takeAll_flatMap {ids : List PlayerId} (distinct : ids.Nodup)
    (held : o.isOpen = true → o.id ∈ ids) {f : PlayerId → List Delivery}
    (own : ∀ id, ∀ d ∈ f id, d.recipient = id) :
    (ids.flatMap f).foldl take o = (f o.id).foldl take o := by
  cases isOpen : o.isOpen with
  | false =>
    have gone (ds : List Delivery) : ds.foldl take o = o :=
      takeAll_eq_self fun _ _ open_ => absurd (isOpen.symm.trans open_) (by decide)
    rw [gone, gone]
  | true =>
    obtain ⟨before, behind, rfl⟩ := List.append_of_mem (held isOpen)
    have others (part : List PlayerId) (absent : o.id ∉ part) :
        ∀ d ∈ part.flatMap f, d.recipient ≠ o.id := by
      intro d there same
      obtain ⟨id, member, its⟩ := List.mem_flatMap.mp there
      exact absent (same ▸ own id d its ▸ member)
    have parts := List.nodup_append.mp distinct
    have first : o.id ∉ before := fun there => parts.2.2 _ there _ List.mem_cons_self rfl
    have last : o.id ∉ behind := (List.nodup_cons.mp parts.2.1).1
    rw [List.flatMap_append, List.foldl_append,
      takeAll_eq_self fun d there _ => others before first d there, List.flatMap_cons,
      List.foldl_append, takeAll_eq_self]
    rw [id_takeAll]
    exact fun d there _ => others behind last d there

section

variable {held : List PlayerId} {x : Happening}

/-- A delivery that is made only if its recipient is held is taken like any other. -/
theorem takeAll_ite (there : o.isOpen = true → o.id ∈ held) (d : Delivery) :
    (if d.recipient ∈ held then [d] else []).foldl take o = o.take d := by
  split
  · rfl
  · rename_i absent
    have aside : ∀ d' ∈ [d], o.isOpen = true → d'.recipient ≠ o.id := by
      intro d' its isOpen own
      rw [List.mem_singleton.mp its] at own
      exact absent (own ▸ there isOpen)
    exact (takeAll_eq_self aside).symm

/-- `take` of the deliveries of `carry` is `note`, for anything but `accepted`. -/
theorem takeAll_carry (distinct : held.Nodup) (there : o.isOpen = true → o.id ∈ held)
    (old : x.isAccepted = false) : (carry held x).2.foldl take o = o.note x := by
  cases x with
  | accepted id => cases old
  | emitted e =>
    cases e with
    | broadcast n =>
      have own : ∀ id, ∀ d ∈ [Delivery.send id n], d.recipient = id := fun id d its => by
        rw [List.mem_singleton.mp its]; rfl
      show (held.map (Delivery.send · n)).foldl take o = _
      rw [List.map_eq_flatMap, takeAll_flatMap distinct there own]
      refine (take_send_eq_note o o.id n).trans ?_
      simp [note, Happening.meant?, Happening.ends]
    | unicast recipient n =>
      exact (takeAll_ite there (.send recipient n)).trans (take_send_eq_note o recipient n)
    | close id =>
      exact (takeAll_ite there (.finish id)).trans (take_finish_eq_note o (.inr (.inl rfl)))
  | lost id =>
    exact (takeAll_ite there (.finish id)).trans (take_finish_eq_note o (.inr (.inr rfl)))
  | stopped =>
    have own : ∀ id, ∀ d ∈ [Delivery.send id goodbye, .finish id], d.recipient = id :=
      fun id d its => by rcases List.mem_pair.mp its with rfl | rfl <;> rfl
    refine (takeAll_flatMap distinct there own).trans ?_
    rcases o with ⟨c, isOpen, queued, taken, served⟩
    cases isOpen <;> cases served <;> simp [take, note, Happening.meant?, Happening.ends]

end

/-- `take` of the deliveries of `carryAll` is `note` of the happenings, if none is `accepted`. -/
theorem takeAll_carryAll {held : List PlayerId} (distinct : held.Nodup)
    (there : o.isOpen = true → o.id ∈ held) {xs : List Happening}
    (old : ∀ x ∈ xs, x.isAccepted = false) :
    (carryAll held xs).2.foldl take o = xs.foldl note o := by
  induction xs generalizing held o with
  | nil => rfl
  | cons x rest ih =>
    rw [carryAll_cons, List.foldl_append, takeAll_carry distinct there (old x List.mem_cons_self),
      List.foldl_cons]
    refine ih (nodup_carry distinct x) (fun stays => ?_)
      fun y there => old y (List.mem_cons_of_mem _ there)
    obtain ⟨isOpen, stays⟩ := (o.isOpen_note x).mp stays
    rw [id_note]
    exact (mem_carry_iff distinct).mpr (.inl ⟨there isOpen, stays⟩)

/-! ## All outboxes -/

/-- `held` are the connections of the open outboxes. -/
def Held (boxes : List Outbox) (held : List PlayerId) : Prop :=
  ∀ c, c ∈ held ↔ ∃ o ∈ boxes, o.isOpen = true ∧ o.id = c

theorem noteEach_accepted (boxes : List Outbox) (c : PlayerId) :
    noteEach boxes (.accepted c) = boxes.map (·.note (.accepted c)) ++ [{ id := c }] := rfl

theorem noteEach_of_old {x : Happening} (old : x.isAccepted = false) (boxes : List Outbox) :
    noteEach boxes x = boxes.map (·.note x) := by
  cases x with
  | accepted id => cases old
  | emitted | lost | stopped => exact List.append_nil _

theorem mem_noteEach_iff {boxes : List Outbox} {x : Happening} {o : Outbox} :
    o ∈ noteEach boxes x ↔
      (∃ b ∈ boxes, b.note x = o) ∨ ∃ c, x = .accepted c ∧ o = { id := c } := by
  cases x with
  | accepted id => simp [noteEach_accepted]
  | emitted | lost | stopped => simp [noteEach]

theorem Held.noteEach {boxes : List Outbox} {held : List PlayerId} (h : Held boxes held)
    (distinct : held.Nodup) (x : Happening) : Held (noteEach boxes x) (carry held x).1 := by
  intro c
  rw [mem_carry_iff distinct, h c]
  constructor
  · rintro (⟨⟨o, there, isOpen, rfl⟩, stays⟩ | rfl)
    · refine ⟨o.note x, mem_noteEach_iff.mpr (.inl ⟨o, there, rfl⟩), ?_, id_note o x⟩
      exact (o.isOpen_note x).mpr ⟨isOpen, stays⟩
    · exact ⟨_, mem_noteEach_iff.mpr (.inr ⟨c, rfl, rfl⟩), rfl, rfl⟩
  · rintro ⟨_, member, isOpen, rfl⟩
    rcases mem_noteEach_iff.mp member with ⟨o, there, rfl⟩ | ⟨c, rfl, rfl⟩
    · rw [isOpen_note] at isOpen
      rw [id_note]
      exact .inl ⟨⟨o, there, isOpen.1, rfl⟩, isOpen.2⟩
    · exact .inr rfl

theorem Held.noteAll {boxes : List Outbox} {held : List PlayerId} (h : Held boxes held)
    (distinct : held.Nodup) (xs : List Happening) :
    Held (xs.foldl Outbox.noteEach boxes) (carryAll held xs).1 := by
  induction xs generalizing boxes held with
  | nil => exact h
  | cons x rest ih => exact ih (h.noteEach distinct x) (nodup_carry distinct x)

theorem noteAll_of_old {xs : List Happening} (old : ∀ x ∈ xs, x.isAccepted = false)
    (boxes : List Outbox) : xs.foldl noteEach boxes = boxes.map (xs.foldl note ·) := by
  induction xs generalizing boxes with
  | nil => exact (List.map_id' boxes).symm
  | cons x rest ih =>
    rw [List.foldl_cons, noteEach_of_old (old x List.mem_cons_self),
      ih fun y there => old y (List.mem_cons_of_mem _ there), List.map_map]
    rfl

end Outbox

/-! ## Runs -/

section

variable {δ : Type} [Dice δ]

namespace Office

variable {x : Office δ}

omit [Dice δ] in
/-- A hub whose table is in another order is `Alike`. -/
theorem alike_order {order : List PlayerId} (any : order.Perm x.hub.held) :
    Alike { x.hub with held := order } x.hub :=
  ⟨rfl, any, rfl, rfl⟩

theorem outboxes_step_of_ne (x : Office δ) (order : List PlayerId) {event : Event}
    (other : event ≠ .connected) :
    (x.step order event).outboxes =
      x.outboxes.map (({ x.hub with held := order }.step event).2.foldl Outbox.take ·) := by
  cases event with
  | connected => exact absurd rfl other
  | received | lost | console => rfl

theorem outboxes_step_connected (x : Office δ) (order : List PlayerId) :
    (x.step order .connected).outboxes =
      if x.hub.running then Outbox.accept x.outboxes ⟨x.hub.nextId⟩ else x.outboxes := by
  have silent : ({ x.hub with held := order }.step .connected).2 = [] := by
    unfold Hub.step
    split <;> rfl
  show List.map (({ x.hub with held := order }.step .connected).2.foldl Outbox.take ·) _ = _
  rw [silent]
  exact List.map_id' _

/-- `Office.step` is `noteEach` of what happens, in whatever order the table is. -/
theorem outboxes_step {order : List PlayerId} (any : order.Perm x.hub.held)
    (distinct : x.hub.held.Nodup) (held : Outbox.Held x.outboxes x.hub.held) (event : Event) :
    (x.step order event).outboxes =
      (if x.hub.running then x.hub.happenings event else []).foldl Outbox.noteEach x.outboxes := by
  by_cases new : event = .connected
  · subst new
    rw [outboxes_step_connected]
    split
    · exact Outbox.accept_eq _ _
    · rfl
  · have old : ∀ y ∈ if x.hub.running then x.hub.happenings event else [],
        y.isAccepted = false := by
      split
      · exact isAccepted_of_happenings new
      · exact fun y there => absurd there List.not_mem_nil
    have queued := (step_carryAll { x.hub with held := order } event).2
    rw [(alike_order any).happenings_eq] at queued
    rw [outboxes_step_of_ne x order new, queued, Outbox.noteAll_of_old old]
    refine List.map_congr_left fun o there => ?_
    exact Outbox.takeAll_carryAll (any.nodup_iff.mpr distinct)
      (fun isOpen => any.mem_iff.mpr ((held o.id).mpr ⟨o, there, isOpen, rfl⟩)) old

end Office

end

/-! ## Writers -/

namespace Outbox

/-- The outbox without `taken`. -/
def settled (o : Outbox) : Outbox :=
  { o with taken := 0 }

/-- The outbox with its writer ended. -/
def unserve (o : Outbox) : Outbox :=
  { o with served := false }

theorem write_of_unserved {o : Outbox} (ended : o.served = false) (through : Bool) :
    o.write through = o := by
  rw [write, if_neg (by simp [ended])]

@[simp] theorem id_write (o : Outbox) (through : Bool) : (o.write through).id = o.id := by
  unfold write
  split
  · split
    · rfl
    · split <;> rfl
  · rfl

@[simp] theorem isOpen_write (o : Outbox) (through : Bool) :
    (o.write through).isOpen = o.isOpen := by
  unfold write
  split
  · split
    · rfl
    · split <;> rfl
  · rfl

@[simp] theorem queued_write (o : Outbox) (through : Bool) :
    (o.write through).queued = o.queued := by
  unfold write
  split
  · split
    · rfl
    · split <;> rfl
  · rfl

theorem Held.write {boxes : List Outbox} {held : List PlayerId} (h : Held boxes held) (k : Nat)
    (through : Bool) : Held (boxes.modify k (·.write through)) held := by
  have written (c : PlayerId) :
      (∃ o ∈ boxes.modify k (·.write through), o.isOpen = true ∧ o.id = c) ↔
        ∃ o ∈ boxes, o.isOpen = true ∧ o.id = c := by
    clear h
    induction boxes generalizing k with
    | nil => simp
    | cons o rest ih => cases k <;> simp [ih]
  exact fun c => (h c).trans (written c).symm

/-- `write` changes `taken`, and may end the writer. -/
theorem settled_write (o : Outbox) (through : Bool) :
    (o.write through).settled =
      if o.served && !(o.write through).served then o.settled.unserve else o.settled := by
  cases served : o.served with
  | false =>
    rw [write_of_unserved served]
    rfl
  | true =>
    cases still : (o.write through).served <;>
      simp [settled, unserve, still, served]

theorem settled_noteAll (boxes : List Outbox) (xs : List Happening) :
    (xs.foldl noteEach boxes).map settled = xs.foldl noteEach (boxes.map settled) := by
  induction xs generalizing boxes with
  | nil => rfl
  | cons x rest ih =>
    have commutes : settled ∘ (note · x) = (note · x) ∘ settled := by
      funext o
      show (o.note x).settled = o.settled.note x
      unfold note settled
      split <;> rfl
    have first : (noteEach boxes x).map settled = noteEach (boxes.map settled) x := by
      cases x <;> simp only [noteEach, List.map_append, List.map_map, commutes, List.map_nil,
        List.map_cons, settled]
    rw [List.foldl_cons, ih, first, List.foldl_cons]

end Outbox

namespace Office

/-- An entry of the record of an office. -/
inductive Entry
  /-- An entry `x` of the record of the hub. -/
  | hub (x : Happening)
  /-- The writer of the connection before which `k` others were accepted ends. -/
  | unserved (k : Nat)
deriving DecidableEq, Repr

namespace Entry

/-- The happening of a `hub` entry. -/
def happening? : Entry → Option Happening
  | .hub x => some x
  | .unserved _ => none

/-- Whether a connection is `accepted`. -/
def isAccepted (e : Entry) : Bool :=
  e.happening?.any (·.isAccepted)

/-- Whether the happening `ends` the connection `c`. -/
def ends (c : PlayerId) (e : Entry) : Bool :=
  e.happening?.any (·.ends c)

/-- The notice of a broadcast. -/
def broadcast? (e : Entry) : Option Notice :=
  e.happening?.bind (·.broadcast?)

/-- The notice that is `meant?` for `c`. -/
def meant? (c : PlayerId) (e : Entry) : Option Notice :=
  e.happening?.bind (·.meant? c)

end Entry

end Office

/-- The outboxes after an entry: `noteEach` for a happening, `unserve` of outbox `k` for `unserved
k`. -/
def Outbox.markEach (boxes : List Outbox) : Office.Entry → List Outbox
  | .hub x => noteEach boxes x
  | .unserved k => boxes.modify k Outbox.unserve

theorem Outbox.foldl_markEach_hub (boxes : List Outbox) (xs : List Happening) :
    (xs.map Office.Entry.hub).foldl markEach boxes = xs.foldl noteEach boxes := by
  rw [List.foldl_map]
  rfl

/-! ## The record of an office -/

section

variable {δ : Type} [Dice δ]

namespace Office

variable {x z : Office δ} {es : List Entry}

/-- The entries of a move: the happenings of an event, or `unserved k` if the move ends writer `k`.
-/
def entries (x : Office δ) : Move → List Entry
  | .event event => if x.hub.running then (x.hub.happenings event).map .hub else []
  | .write k through =>
    if x.outboxes[k]?.any fun o => o.served && !(o.write through).served then [.unserved k] else []

/-- The entries of the moves in order. -/
def record (x : Office δ) : List Move → List Entry
  | [] => []
  | m :: rest => x.entries m ++ record (x.move m) rest

theorem record_append (x : Office δ) (moves more : List Move) :
    x.record (moves ++ more) = x.record moves ++ (x.run moves).record more := by
  induction moves generalizing x with
  | nil => rfl
  | cons m rest ih =>
    rw [List.cons_append, record, record, ih, List.append_assoc]
    rfl

theorem run_concat (x : Office δ) (moves : List Move) (m : Move) :
    x.run (moves ++ [m]) = (x.run moves).move m := by
  simp [run]

theorem runs_run (x : Office δ) (moves : List Move) : x.Runs moves (x.run moves) := by
  induction moves using List.reverseRecOn with
  | nil => exact .start
  | append_singleton moves m ih =>
    rw [run_concat]
    cases m with
    | event event => exact .step ih (.refl _) event
    | write k through => exact .write ih k through

/-- The event of a move. -/
def Move.event? : Move → Option Hub.Event
  | .event e => some e
  | .write .. => none

/-- The happenings of the record of an office are the record of its hub for the same events. -/
theorem record_hub (x : Office δ) (moves : List Move) :
    (x.record moves).filterMap Entry.happening? = x.hub.record (moves.filterMap Move.event?) := by
  induction moves generalizing x with
  | nil => rfl
  | cons m rest ih =>
    rw [record, List.filterMap_append, ih]
    cases m with
    | event event =>
      have now : (x.entries (.event event)).filterMap Entry.happening? =
          if x.hub.running then x.hub.happenings event else [] := by
        rw [entries]
        split
        · rw [List.filterMap_map]
          exact List.filterMap_some
        · rfl
      rw [now]
      rfl
    | write k through =>
      rw [List.filterMap_cons_none rfl, entries]
      split <;> rfl

/-- `Office.write` is `markEach` of its entries, up to `taken`. -/
theorem settled_write (x : Office δ) (k : Nat) (through : Bool) :
    (x.write k through).outboxes.map Outbox.settled =
      (x.entries (.write k through)).foldl Outbox.markEach (x.outboxes.map Outbox.settled) := by
  apply List.ext_getElem?
  intro i
  rw [write, entries]
  by_cases same : k = i
  · subst same
    cases found : x.outboxes[k]? with
    | none => simp [found]
    | some o =>
      cases ended : o.served && !(o.write through).served <;>
        simp [found, Outbox.settled_write, Outbox.markEach, ended]
  · split <;> simp [same, Outbox.markEach]

/-- The invariant of `Runs`, with `z` where `Office.run` of the same moves leads and `es` their
record: the hubs are `Alike`, the outboxes are equal, and they follow from `es` up to `taken`. -/
structure Kept (x z : Office δ) (es : List Entry) : Prop where
  alike : Alike x.hub z.hub
  outboxes_eq : x.outboxes = z.outboxes
  distinct : x.hub.held.Nodup
  held : Outbox.Held x.outboxes x.hub.held
  settled_eq : x.outboxes.map Outbox.settled = es.foldl Outbox.markEach []

theorem Kept.step (kept : Kept x z es) {order : List PlayerId}
    (any : order.Perm x.hub.held) (event : Event) :
    Kept (x.step order event) (z.move (.event event)) (es ++ z.entries (.event event)) := by
  have same := (alike_order any).step event
  have outboxes := outboxes_step any kept.distinct kept.held event
  have canonical : (z.move (.event event)).outboxes =
      (if x.hub.running then x.hub.happenings event else []).foldl Outbox.noteEach x.outboxes := by
    have distinct : z.hub.held.Nodup := kept.alike.held.nodup_iff.mp kept.distinct
    have held : Outbox.Held z.outboxes z.hub.held := fun c =>
      kept.outboxes_eq ▸ kept.alike.held.mem_iff.symm.trans (kept.held c)
    rw [kept.alike.happenings_eq, kept.alike.running, kept.outboxes_eq]
    exact outboxes_step (.refl _) distinct held event
  have distinct : (x.step order event).hub.held.Nodup :=
    nodup_step (h := { x.hub with held := order }) (any.nodup_iff.mpr kept.distinct) event
  refine ⟨same.trans (kept.alike.step event), outboxes.trans canonical.symm, distinct, ?_, ?_⟩
  · intro c
    refine same.held.mem_iff.trans ?_
    rw [(x.hub.step_carryAll event).1, outboxes]
    exact kept.held.noteAll kept.distinct _ c
  · have noted : z.entries (.event event) =
        (if x.hub.running then x.hub.happenings event else []).map .hub := by
      rw [kept.alike.happenings_eq, kept.alike.running, entries]
      split <;> rfl
    rw [outboxes, Outbox.settled_noteAll, kept.settled_eq, List.foldl_append, noted,
      Outbox.foldl_markEach_hub]

theorem Kept.write (kept : Kept x z es) (k : Nat) (through : Bool) :
    Kept (x.write k through) (z.move (.write k through))
      (es ++ z.entries (.write k through)) := by
  have noted : z.entries (.write k through) = x.entries (.write k through) := by
    rw [entries, entries, kept.outboxes_eq]
  refine ⟨kept.alike, ?_, kept.distinct, ?_, ?_⟩
  · show x.outboxes.modify k _ = z.outboxes.modify k _
    rw [kept.outboxes_eq]
  · exact kept.held.write k through
  · rw [settled_write, kept.settled_eq, List.foldl_append, noted]

theorem kept_of_runs {expected : Nat} {dice : δ} {moves : List Move}
    (runs : (new expected dice).Runs moves x) :
    Kept x ((new expected dice).run moves) ((new expected dice).record moves) := by
  induction runs with
  | start =>
    exact ⟨⟨rfl, .refl _, rfl, rfl⟩, rfl, List.nodup_nil, fun c => by simp [Office.new, Hub.new],
      rfl⟩
  | step runs any event ih =>
    rw [record_append, run_concat]
    simpa [record] using ih.step any event
  | write runs k through ih =>
    rw [record_append, run_concat]
    simpa [record] using ih.write k through

end Office

end

end Skirmish
