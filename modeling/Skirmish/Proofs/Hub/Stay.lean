import Mathlib.Data.List.Induction
import Mathlib.Data.List.Nodup
import Skirmish.Proofs.Hub.Outbox

/-!
# How long a connection stays

A connection stays from the entry that accepts it to the first one that `ends` it, or to the end of
the record. Its writer may end before that (`Stay`). Its queue holds what is `meant?` for it up to
whichever of the two comes first, in order, and `goodbye` if the hub stops while it is held and
served. So any two connections have the broadcasts of the time when both are held and served in one
order.

Results:

* `Outbox.exists_split`: an outbox by the entries since its connection was accepted;
* `Stay.queued_eq`, `Stay.broadcasts_sublist`: the queue of a connection by its `Stay`;
* `Office.delivered_of_runs`: all of this for every run of an office.
-/

namespace Skirmish

open Hub Office

/-- `stop` is the first index above `start` at which `p` holds, or the length of the list. -/
structure FirstPlace {α : Type} (p : α → Bool) (l : List α) (start stop : Nat) : Prop where
  start_lt : start < stop
  stop_le : stop ≤ l.length
  before : ∀ x ∈ l.extract (start + 1) stop, p x = false
  here : ∀ x ∈ l[stop]?, p x = true

/-- Connection `k` of the record has the number `c` and is accepted at index `start`. It goes at
`stop`, and its writer ends at `till`; either is the length of the record if that has not happened.
-/
structure Stay (record : List Entry) (k : Nat) (c : PlayerId) (start stop till : Nat) : Prop where
  accepted : record[start]? = some (.hub (.accepted c))
  /-- There have been `k` connections before. -/
  place : (record.take start).countP (·.isAccepted) = k
  goes : FirstPlace (·.ends c) record start stop
  breaks : FirstPlace (· = .unserved k) record start till

variable {record before after : List Entry} {k : Nat} {c : PlayerId} {start stop till : Nat}

/-! ## Places in the record -/

section

variable {α : Type} {p : α → Bool} {l : List α}

theorem extract_behind (before after : List α) (x : α) (n : Nat) :
    (before ++ x :: after).extract (before.length + 1) (before.length + 1 + n) = after.take n := by
  rw [List.extract_eq_take_drop, Nat.add_sub_cancel_left, List.append_cons,
    List.drop_left' (by simp)]

theorem getElem?_behind (before after : List α) (x : α) (n : Nat) :
    (before ++ x :: after)[before.length + 1 + n]? = after[n]? := by
  rw [List.append_cons, List.getElem?_append_right (by simp)]
  simp

theorem FirstPlace.of_split (p : α → Bool) (before after : List α) (x : α) :
    FirstPlace p (before ++ x :: after) before.length
      (before.length + 1 + after.findIdx p) where
  start_lt := by omega
  stop_le := by
    have : after.findIdx p ≤ after.length := List.findIdx_le_length
    simp only [List.length_append, List.length_cons]
    omega
  before x there := by
    rw [extract_behind] at there
    exact List.false_of_mem_take_findIdx there
  here x there := by
    rw [getElem?_behind] at there
    obtain ⟨short, rfl⟩ := List.getElem?_eq_some_iff.mp there
    exact List.findIdx_getElem

/-- The same index, counted from `before.length + 1`. -/
theorem FirstPlace.exists_behind {before after : List α} {x : α} {stop : Nat}
    (first : FirstPlace p (before ++ x :: after) before.length stop) :
    ∃ n, stop = before.length + 1 + n ∧ (∀ x ∈ after.take n, p x = false) ∧
      ∀ x ∈ after[n]?, p x = true := by
  obtain ⟨n, rfl⟩ := Nat.exists_eq_add_of_le (Nat.succ_le_of_lt first.start_lt)
  have before := first.before
  have here := first.here
  simp only [Nat.succ_eq_add_one, extract_behind, getElem?_behind] at before here ⊢
  exact ⟨n, rfl, before, here⟩

end

/-- More connections are accepted before a later index than before an `accepted`. -/
theorem countP_take_lt {c : PlayerId} {i j : Nat} (there : record[i]? = some (.hub (.accepted c)))
    (later : i < j) :
    (record.take i).countP (·.isAccepted) < (record.take j).countP (·.isAccepted) := by
  have one_more : record.take (i + 1) = record.take i ++ [.hub (.accepted c)] := by
    rw [List.take_add_one, there]
    rfl
  calc (record.take i).countP (·.isAccepted)
      < (record.take (i + 1)).countP (·.isAccepted) := by
        rw [one_more, List.countP_append]
        exact Nat.lt_add_one _
    _ ≤ (record.take j).countP (·.isAccepted) := (List.take_sublist_take_left later).countP_le

/-- `k` determines `start`. -/
theorem Stay.start_eq (h : Stay record k c start stop till) {d : PlayerId}
    (split : record = before ++ .hub (.accepted d) :: after)
    (place : before.countP (·.isAccepted) = k) : start = before.length := by
  have there : record[before.length]? = some (.hub (.accepted d)) := by simp [split]
  have same : (record.take start).countP (·.isAccepted) =
      (record.take before.length).countP (·.isAccepted) := by
    rw [h.place, split, List.take_left, place]
  rcases Nat.lt_trichotomy start before.length with less | eq | more
  · exact absurd same (Nat.ne_of_lt (countP_take_lt h.accepted less))
  · exact eq
  · exact absurd same (Nat.ne_of_gt (countP_take_lt there more))

/-- Every `accepted` entry has a `Stay`. -/
theorem Stay.of_split (before after : List Entry) (c : PlayerId) :
    let k := before.countP (·.isAccepted)
    Stay (before ++ .hub (.accepted c) :: after) k c before.length
      (before.length + 1 + after.findIdx (·.ends c))
      (before.length + 1 + after.findIdx (· = .unserved k)) where
  accepted := by simp
  place := by rw [List.take_left]
  goes := .of_split _ before after _
  breaks := .of_split _ before after _

/-! ## What an outbox notes -/

namespace Outbox

variable {o : Outbox} {e : Entry} {es : List Entry}

/-- What an entry does to the outbox of connection `k`. -/
def mark (k : Nat) (o : Outbox) : Entry → Outbox
  | .hub x => o.note x
  | .unserved j => if j = k then o.unserve else o

@[simp] theorem id_mark (k : Nat) (o : Outbox) (e : Entry) : (o.mark k e).id = o.id := by
  cases e with
  | hub x => exact id_note o x
  | unserved j =>
    rw [mark]
    split <;> rfl

@[simp] theorem id_markAll (k : Nat) (o : Outbox) (es : List Entry) :
    (es.foldl (mark k) o).id = o.id := by
  induction es generalizing o with
  | nil => rfl
  | cons e rest ih => rw [List.foldl_cons, ih, id_mark]

/-- Nothing is queued to an outbox that is closed or not `served`. -/
theorem queued_markAll_of_deaf (deaf : o.isOpen = false ∨ o.served = false) (es : List Entry) :
    (es.foldl (mark k) o).queued = o.queued := by
  induction es generalizing o with
  | nil => rfl
  | cons e rest ih =>
    have same : (o.mark k e).queued = o.queued ∧
        ((o.mark k e).isOpen = false ∨ (o.mark k e).served = false) := by
      cases e with
      | hub x =>
        rcases deaf with gone | ended
        · rw [mark, note_of_sealed gone]
          exact ⟨rfl, .inl gone⟩
        · rw [mark, note]
          split <;> simp [ended]
      | unserved j =>
        rw [mark]
        split
        · exact ⟨rfl, .inr rfl⟩
        · exact ⟨rfl, deaf⟩
    rw [List.foldl_cons, ih same.2, same.1]

theorem ne_stopped_of_stays {x : Happening} (stays : x.ends c = false) : x ≠ .stopped := by
  rintro rfl
  cases stays

theorem meant?_of_ends {x : Happening} (goes : x.ends c = true) : x.meant? c = none := by
  cases x with
  | emitted e => cases e <;> first | rfl | cases goes
  | accepted | lost | stopped => rfl

/-- An outbox that stays open and served queues what is `meant?` for it. -/
theorem markAll_of_stays (k : Nat) (o : Outbox) (es : List Entry) (isOpen : o.isOpen = true)
    (served : o.served = true) (stays : ∀ e ∈ es, e.ends o.id = false)
    (serves : .unserved k ∉ es) :
    es.foldl (mark k) o = { o with queued := o.queued ++ es.filterMap (·.meant? o.id) } := by
  induction es generalizing o with
  | nil => simp
  | cons e rest ih =>
    have noted : o.mark k e = { o with queued := o.queued ++ (e.meant? o.id).toList } := by
      cases e with
      | hub x =>
        have first : x.ends o.id = false := stays _ List.mem_cons_self
        simp [mark, note, isOpen, served, first, ne_stopped_of_stays first, Entry.meant?,
          Entry.happening?]
      | unserved j =>
        have other : j ≠ k := fun same => serves (same ▸ List.mem_cons_self)
        simp [mark, other, Entry.meant?, Entry.happening?]
    rw [List.foldl_cons, noted, ih]
    case isOpen => exact isOpen
    case served => exact served
    case stays => exact fun y there => stays y (List.mem_cons_of_mem _ there)
    case serves => exact fun there => serves (List.mem_cons_of_mem _ there)
    cases meant : e.meant? o.id <;> simp [meant]

/-- If the next entry closes the outbox or ends its writer, nothing more is queued but `goodbye`,
and that iff the entry is `stopped`. -/
theorem queued_markAll_of_next (isOpen : o.isOpen = true) (served : o.served = true)
    (next : ∀ e ∈ es[0]?, e.ends o.id = true ∨ e = .unserved k) :
    (es.foldl (mark k) o).queued =
      o.queued ++ if es[0]? = some (.hub .stopped) then [goodbye] else [] := by
  cases es with
  | nil => simp
  | cons e rest =>
    rw [List.foldl_cons]
    rcases next e rfl with goes | rfl
    · cases e with
      | hub x =>
        have first : x.ends o.id = true := goes
        have noted : o.mark k (.hub x) =
            { o with
              isOpen := false
              queued := o.queued ++ if x = .stopped then [goodbye] else [] } := by
          simp [mark, note, isOpen, served, first, meant?_of_ends first]
        rw [noted, queued_markAll_of_deaf (.inl rfl)]
        simp
      | unserved j => cases goes
    · have noted : o.mark k (.unserved k) = o.unserve := if_pos rfl
      rw [noted, queued_markAll_of_deaf (.inr rfl)]
      simp [unserve]

theorem served_markAll_iff (k : Nat) (o : Outbox) (es : List Entry) :
    (es.foldl (mark k) o).served = true ↔ o.served = true ∧ .unserved k ∉ es := by
  induction es generalizing o with
  | nil => simp
  | cons e rest ih =>
    have noted : (o.mark k e).served = true ↔ o.served = true ∧ e ≠ .unserved k := by
      cases e with
      | hub x =>
        have same : (o.note x).served = o.served := by
          unfold note
          split <;> rfl
        simp [mark, same]
      | unserved j => by_cases same : j = k <;> simp [mark, unserve, same]
    rw [List.foldl_cons, ih, noted, List.mem_cons, not_or, and_assoc, ne_comm, ne_eq]

theorem getElem?_markEach (boxes : List Outbox) (old : e.isAccepted = false) :
    (markEach boxes e)[k]? = boxes[k]?.map (·.mark k e) := by
  cases e with
  | hub x =>
    rw [markEach, noteEach_of_old old, List.getElem?_map]
    rfl
  | unserved j =>
    rw [markEach, List.getElem?_modify]
    by_cases same : j = k <;> simp [mark, same]

theorem exists_of_isAccepted (new : e.isAccepted = true) : ∃ c, e = .hub (.accepted c) := by
  cases e with
  | hub x =>
    obtain ⟨c, rfl⟩ := Happening.exists_of_isAccepted new
    exact ⟨c, rfl⟩
  | unserved j => cases new

theorem markEach_accepted (boxes : List Outbox) (c : PlayerId) :
    markEach boxes (.hub (.accepted c)) = boxes.map (·.note (.accepted c)) ++ [{ id := c }] := rfl

/-- There are as many outboxes as `accepted` entries. -/
theorem length_markAll (record : List Entry) :
    (record.foldl markEach []).length = record.countP (·.isAccepted) := by
  induction record using List.reverseRecOn with
  | nil => rfl
  | append_singleton record e ih =>
    rw [List.foldl_concat, List.countP_append, List.countP_singleton, ← ih]
    cases new : e.isAccepted with
    | false =>
      cases e with
      | hub x =>
        rw [markEach, noteEach_of_old new, List.length_map, if_neg (by decide), Nat.add_zero]
      | unserved j => rw [markEach, List.length_modify, if_neg (by decide), Nat.add_zero]
    | true =>
      obtain ⟨c, rfl⟩ := exists_of_isAccepted new
      rw [markEach_accepted, List.length_append, List.length_map, if_pos rfl]
      rfl

/-- Outbox `k` is `mark` of the entries after its `accepted`, from an empty one. -/
theorem exists_split (found : (record.foldl markEach [])[k]? = some o) :
    ∃ before c after, record = before ++ .hub (.accepted c) :: after ∧
      before.countP (·.isAccepted) = k ∧ o = after.foldl (mark k) { id := c } := by
  induction record using List.reverseRecOn generalizing o with
  | nil => cases found
  | append_singleton record e ih =>
    have earlier (found : (record.foldl markEach [])[k]?.map (·.mark k e) = some o) :
        ∃ before c after, record ++ [e] = before ++ .hub (.accepted c) :: after ∧
          before.countP (·.isAccepted) = k ∧ o = after.foldl (mark k) { id := c } := by
      rw [Option.map_eq_some_iff] at found
      obtain ⟨o, there, rfl⟩ := found
      obtain ⟨before, c, after, rfl, place, rfl⟩ := ih there
      exact ⟨before, c, after ++ [e], by simp, place, by simp⟩
    rw [List.foldl_concat] at found
    cases new : e.isAccepted with
    | false =>
      rw [getElem?_markEach _ new] at found
      exact earlier found
    | true =>
      obtain ⟨c, rfl⟩ := exists_of_isAccepted new
      rw [markEach_accepted, List.getElem?_append] at found
      split at found
      · rw [List.getElem?_map] at found
        exact earlier found
      · rename_i beyond
        rw [List.length_map, length_markAll] at found beyond
        obtain ⟨first, same⟩ := List.getElem?_eq_some_iff.mp found
        rw [List.getElem_singleton] at same
        rw [List.length_singleton] at first
        exact ⟨record, c, [], rfl, by omega, same.symm⟩

end Outbox

/-! ## What is queued -/

section

variable {o : Outbox}

/-- The queue is what is `meant?` for the connection from `start` to `min stop till`, and `goodbye`
iff the hub stops at `stop` and `stop < till`. -/
theorem Stay.queued_eq (found : (record.foldl Outbox.markEach [])[k]? = some o)
    (h : Stay record k o.id start stop till) :
    o.queued = (record.extract (start + 1) (min stop till)).filterMap (·.meant? o.id) ++
      if record[stop]? = some (.hub .stopped) ∧ stop < till then [goodbye] else [] := by
  obtain ⟨before, c, after, rfl, place, rfl⟩ := Outbox.exists_split found
  rw [Outbox.id_markAll] at h ⊢
  obtain rfl := h.start_eq rfl place
  obtain ⟨n, rfl, stays, goes⟩ := h.goes.exists_behind
  obtain ⟨m, rfl, serves, breaks⟩ := h.breaks.exists_behind
  simp only [decide_eq_false_iff_not, decide_eq_true_eq] at serves breaks
  have first : min (before.length + 1 + n) (before.length + 1 + m) =
      before.length + 1 + min n m := by omega
  -- up to the first of both places everything is noted, and what stands there decides the rest
  have noted := Outbox.markAll_of_stays k { id := c } (after.take (min n m)) rfl rfl
    (fun e there => stays e ((List.take_sublist_take_left (by omega)).subset there))
    (fun there => serves _ ((List.take_sublist_take_left (by omega)).subset there) rfl)
  have next : ∀ e ∈ (after.drop (min n m))[0]?, e.ends c = true ∨ e = .unserved k := by
    intro e there
    rw [List.getElem?_drop, Nat.add_zero] at there
    rcases Nat.le_total n m with least | least
    · rw [Nat.min_eq_left least] at there
      exact .inl (goes e there)
    · rw [Nat.min_eq_right least] at there
      exact .inr (breaks e there)
  have farewell : after[min n m]? = some (.hub .stopped) ↔
      after[n]? = some (.hub .stopped) ∧ before.length + 1 + n < before.length + 1 + m := by
    have running : after[m]? ≠ some (.hub .stopped) := fun there => nomatch breaks _ there
    rcases Nat.lt_or_ge n m with less | least
    · rw [Nat.min_eq_left (Nat.le_of_lt less)]
      exact (and_iff_left (by omega)).symm
    · rw [Nat.min_eq_right least]
      exact iff_of_false running fun both => absurd both.2 (by omega)
  conv_lhs => rw [← List.take_append_drop (min n m) after, List.foldl_append]
  rw [noted, Outbox.queued_markAll_of_next rfl rfl next, first, extract_behind, getElem?_behind,
    List.getElem?_drop, Nat.add_zero]
  simp only [farewell, List.nil_append]

/-- The writer runs iff no entry ends it. -/
theorem Stay.served_iff (found : (record.foldl Outbox.markEach [])[k]? = some o)
    (h : Stay record k o.id start stop till) : o.served = true ↔ till = record.length := by
  obtain ⟨before, c, after, rfl, place, rfl⟩ := Outbox.exists_split found
  obtain rfl := h.start_eq rfl place
  obtain ⟨m, rfl, serves, breaks⟩ := h.breaks.exists_behind
  have within := h.breaks.stop_le
  simp only [decide_eq_false_iff_not, decide_eq_true_eq] at serves breaks
  simp only [List.length_append, List.length_cons] at within ⊢
  rw [Outbox.served_markAll_iff, and_iff_right rfl]
  constructor
  · intro never
    by_contra early
    have there : after[m]? = some after[m] := List.getElem?_eq_getElem (by omega)
    exact never (breaks _ there ▸ List.getElem_mem _)
  · intro last there
    have all : after.take m = after := List.take_of_length_le (by omega)
    exact serves _ (all.symm ▸ there) rfl

theorem meant?_of_broadcast? {e : Entry} {n : Notice} (told : e.broadcast? = some n) :
    e.meant? c = some n := by
  cases e with
  | hub x =>
    cases x with
    | emitted e => cases e <;> first | exact told | cases told
    | accepted | lost | stopped => cases told
  | unserved j => cases told

/-- A broadcast is `meant?` for every connection. -/
theorem broadcasts_sublist_meant (es : List Entry) :
    (es.filterMap (·.broadcast?)).Sublist (es.filterMap (·.meant? c)) := by
  induction es with
  | nil => exact .refl _
  | cons e rest ih =>
    cases told : e.broadcast? with
    | none =>
      rw [List.filterMap_cons_none told, List.filterMap_cons]
      split
      · exact ih
      · exact ih.cons _
    | some n =>
      rw [List.filterMap_cons_some told, List.filterMap_cons_some (meant?_of_broadcast? told)]
      exact ih.cons_cons n

/-- The broadcasts of any part of the time from `start` to `min stop till` are queued in order. -/
theorem Stay.broadcasts_sublist (found : (record.foldl Outbox.markEach [])[k]? = some o)
    (h : Stay record k o.id start stop till) {i j : Nat} (since : start < i)
    (til : j ≤ min stop till) :
    ((record.extract i j).filterMap (·.broadcast?)).Sublist o.queued := by
  have part : (record.extract i j).Sublist (record.extract (start + 1) (min stop till)) := by
    simp only [List.extract_eq_take_drop, ← List.drop_take]
    exact ((List.take_sublist_take_left til).drop i).trans (List.drop_sublist_drop_left _ since)
  have meant :=
    (broadcasts_sublist_meant (record.extract i j)).trans (part.filterMap (·.meant? o.id))
  rw [h.queued_eq found]
  exact meant.trans (List.sublist_append_left _ _)

end

/-- The outboxes are as the record says. -/
structure Delivered (record : List Entry) (boxes : List Outbox) : Prop where
  /-- Every connection has its outbox. -/
  length_eq : boxes.length = record.countP (·.isAccepted)
  exists_stay : ∀ ⦃k o⦄, boxes[k]? = some o → ∃ start stop till, Stay record k o.id start stop till
  queued_eq : ∀ ⦃k o start stop till⦄, boxes[k]? = some o → Stay record k o.id start stop till →
    o.queued = (record.extract (start + 1) (min stop till)).filterMap (·.meant? o.id) ++
      if record[stop]? = some (.hub .stopped) ∧ stop < till then [goodbye] else []
  served_iff : ∀ ⦃k o start stop till⦄, boxes[k]? = some o → Stay record k o.id start stop till →
    (o.served = true ↔ till = record.length)
  /-- Both get the broadcasts of the time when both are there and served in the same order. -/
  in_order : ∀ ⦃k o start stop till k' o' start' stop' till'⦄,
    boxes[k]? = some o → Stay record k o.id start stop till →
    boxes[k']? = some o' → Stay record k' o'.id start' stop' till' →
      let both := (record.extract (max start start' + 1)
        (min (min stop till) (min stop' till'))).filterMap (·.broadcast?)
      both.Sublist o.queued ∧ both.Sublist o'.queued

theorem delivered_markAll (record : List Entry) :
    Delivered record (record.foldl Outbox.markEach []) where
  length_eq := Outbox.length_markAll record
  exists_stay k o found := by
    obtain ⟨before, c, after, rfl, rfl, rfl⟩ := Outbox.exists_split found
    rw [Outbox.id_markAll]
    exact ⟨_, _, _, Stay.of_split before after c⟩
  queued_eq k o start stop till found stay := stay.queued_eq found
  served_iff k o start stop till found stay := stay.served_iff found
  in_order k o start stop till k' o' start' stop' till' found stay found' stay' :=
    ⟨stay.broadcasts_sublist found (by omega) (by omega),
      stay'.broadcasts_sublist found' (by omega) (by omega)⟩

/-- `Outbox.taken` does not matter for `Delivered`. -/
theorem Delivered.of_settled {boxes : List Outbox}
    (h : Delivered record (boxes.map Outbox.settled)) : Delivered record boxes := by
  have there ⦃k : Nat⦄ ⦃o : Outbox⦄ (found : boxes[k]? = some o) :
      (boxes.map Outbox.settled)[k]? = some o.settled := by
    rw [List.getElem?_map, found]
    rfl
  have same ⦃k : Nat⦄ ⦃o : Outbox⦄ ⦃start stop till : Nat⦄
      (stay : Stay record k o.id start stop till) : Stay record k o.settled.id start stop till :=
    stay
  constructor
  case length_eq => rw [← h.length_eq, List.length_map]
  case exists_stay =>
    intro k o found
    have stay := h.exists_stay (there found)
    exact stay
  case queued_eq =>
    intro k o start stop till found stay
    have queued := h.queued_eq (there found) (same stay)
    exact queued
  case served_iff =>
    intro k o start stop till found stay
    have served := h.served_iff (there found) (same stay)
    exact served
  case in_order =>
    intro k o start stop till k' o' start' stop' till' found stay found' stay'
    have both := h.in_order (there found) (same stay) (there found') (same stay')
    exact both

namespace Office

variable {δ : Type} [Dice δ] {x y : Office δ} {expected : Nat} {dice : δ} {moves : List Move}

/-- After any run, in whatever orders the table is gone through, the outboxes are `Delivered` by the
record. -/
theorem delivered_of_runs (runs : (new expected dice).Runs moves x) :
    Delivered ((new expected dice).record moves) x.outboxes :=
  .of_settled ((kept_of_runs runs).settled_eq ▸ delivered_markAll _)

/-- Runs of the same moves have the same outboxes, whatever the orders. -/
theorem outboxes_eq_of_runs (runs : (new expected dice).Runs moves x)
    (others : (new expected dice).Runs moves y) : y.outboxes = x.outboxes := by
  rw [(kept_of_runs others).outboxes_eq, (kept_of_runs runs).outboxes_eq]

end Office

end Skirmish
