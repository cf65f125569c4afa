import Mathlib.Algebra.Order.BigOperators.Group.List
import Skirmish.Proofs.Frame
import Skirmish.Proofs.Session.Overlong
import Skirmish.Proofs.Text.Word
import Skirmish.Proofs.View.Hearing
import Skirmish.Proofs.Wire.Grammar.Packet
import Skirmish.Terminal

/-!
# How long a client goes on

The loop `run` of the client ends when the user types `.quit`, the input closes, or the server is
gone. It also ends with an error if `handle_line` sends a request that `encode` refuses.

Two requests can be too long: a `chat`, of any length, and an `act` on a long name. The second does
not happen, as `route` takes the name from the rows of the view (`View.living?`), and a name that
came in a notice fits into a request.

Results:

* `View.route_of_talk`, `View.talk_of_route`: which lines are a `chat`;
* `View.sendable_iff_of_route`: when the request of a line encodes;
* `Terminal.status_type_eq_running_iff`: when the client runs on after a line;
* `Terminal.wellRead_run`: the names in the view fit into an `act`;
* `Terminal.goesOn_iff`: which lines end a client.
-/

namespace Skirmish

namespace View

variable {v w : View} {line word target : String} {r : Request}

/-! ## Chat and commands -/

/-- A line of chat of more than 4092 bytes, when trimmed; tag and length take four bytes of a
packet. -/
def Rambling (line : String) : Prop :=
  (Text.trim line.toList).head? ≠ some '.' ∧
    4092 < (String.ofList (Text.trim line.toList)).utf8ByteSize

/-- `route` of the line is `quit`. -/
def Quits (v : View) (line : String) : Prop :=
  ∃ w, v.route line = .ok (.quit, w)

/-- The request of the line does not encode: it is a `Rambling` chat, or an `act` on a name of more
than 4091 bytes. -/
inductive TooLong (v : View) (line : String) : Prop
  | chat (rambling : Rambling line)
  | act {action : Action} {name : String} {w : View}
      (routed : v.route line = .ok (.send (.act action name), w)) (long : 4091 < name.utf8ByteSize)

/-- The first word of a trimmed text, in lower case, starts with a period iff the text does. -/
theorem head?_lowercase_splitWord {c : Char} (plain : Text.isBlank c = false)
    (rest : List Char) :
    (Text.lowercase (Text.splitWord (c :: rest)).1).head? = some '.' ↔ c = '.' := by
  have word : (Text.splitWord (c :: rest)).1 = c :: rest.takeWhile (!Text.isBlank ·) := by
    simp [Text.splitWord, plain]
  rw [word, Text.head?_lowercase]

theorem route_of_talk (v : View) (talk : (Text.trim line.toList).head? ≠ some '.') :
    v.route line =
      if Text.trim line.toList = [] then .ok (.nothing, v)
      else .ok (.send (.chat (.ofList (Text.trim line.toList))), v) := by
  cases text : Text.trim line.toList with
  | nil => simp [route, text]
  | cons c rest =>
    have other : c ≠ '.' := by simpa [text] using talk
    have plain := Text.isBlank_eq_false_of_trim text
    simp [route, text, head?_lowercase_splitWord plain, other]

theorem exists_routeCommand (v : View) (command : (Text.trim line.toList).head? = some '.') :
    ∃ word target, v.route line = v.routeCommand word target := by
  cases text : Text.trim line.toList with
  | nil => simp [text] at command
  | cons c rest =>
    have period : c = '.' := by simpa [text] using command
    have plain := Text.isBlank_eq_false_of_trim text
    have word := (head?_lowercase_splitWord plain rest).mpr period
    simp only [route, text, if_pos word]
    exact ⟨_, _, rfl⟩

section

variable {text : String}

theorem routeLobby_ne_chat : v.routeLobby word ≠ .ok (.send (.chat text), w) := by
  unfold routeLobby
  repeat' split
  all_goals
    intro h
    cases h

theorem routeSelect_ne_chat : v.routeSelect word ≠ .ok (.send (.chat text), w) := by
  unfold routeSelect
  repeat' split
  all_goals
    intro h
    cases h

theorem routeMain_ne_chat : v.routeMain word target ≠ .ok (.send (.chat text), w) := by
  unfold routeMain
  repeat' split
  all_goals
    intro h
    cases h

theorem routeGame_ne_chat : v.routeGame word target ≠ .ok (.send (.chat text), w) := by
  intro h
  unfold routeGame at h
  split at h
  · cases h
  split at h
  · cases h
  split at h
  · exact routeSelect_ne_chat h
  · exact routeMain_ne_chat h
  · cases h
  · cases h

/-- No command routes to a `chat`. -/
theorem routeCommand_ne_chat : v.routeCommand word target ≠ .ok (.send (.chat text), w) := by
  intro h
  unfold routeCommand at h
  split at h
  · cases h
  split at h
  · cases h
  split at h
  · cases h
  split at h
  · exact routeGame_ne_chat h
  · exact routeLobby_ne_chat h

end

/-! ## Requests of typed lines -/

/-- A line that routes to a `chat` does not start with a period, and its text is the trimmed line.
-/
theorem talk_of_route {text : String} (routed : v.route line = .ok (.send (.chat text), w)) :
    (Text.trim line.toList).head? ≠ some '.' ∧ text = .ofList (Text.trim line.toList) := by
  by_cases command : (Text.trim line.toList).head? = some '.'
  · obtain ⟨word, target, eq⟩ := exists_routeCommand v command
    exact absurd (eq ▸ routed) routeCommand_ne_chat
  · rw [route_of_talk v command] at routed
    split at routed <;> cases routed
    exact ⟨command, rfl⟩

theorem Rambling.route (rambling : Rambling line) (v : View) :
    v.route line = .ok (.send (.chat (.ofList (Text.trim line.toList))), v) := by
  obtain ⟨talk, long⟩ := rambling
  rw [route_of_talk v talk, if_neg]
  intro none
  rw [none] at long
  exact absurd long (by decide)

theorem TooLong.route (long : v.TooLong line) :
    ∃ r w, v.route line = .ok (.send r, w) ∧ ¬Wire.Sendable r := by
  cases long with
  | chat rambling =>
    refine ⟨_, _, rambling.route v, ?_⟩
    rw [Wire.sendable_request_chat_iff]
    exact Nat.not_le.mpr rambling.2
  | act routed long =>
    refine ⟨_, _, routed, ?_⟩
    rw [Wire.sendable_request_act_iff]
    exact Nat.not_le.mpr long

theorem sendable_of_fits (routed : v.route line = .ok (.send r, w)) (fits : ¬v.TooLong line) :
    Wire.Sendable r := by
  have allowed := allows_of_route routed
  cases r with
  | intro => exact allowed.elim
  | chat text =>
    obtain ⟨talk, rfl⟩ := talk_of_route routed
    rw [Wire.sendable_request_chat_iff]
    exact Nat.not_lt.mp fun long => fits (.chat ⟨talk, long⟩)
  | act action name =>
    rw [Wire.sendable_request_act_iff]
    exact Nat.not_lt.mp fun long => fits (.act routed long)
  | ready | unready | listPlayers | listStats | chooseJob =>
    exact Wire.sendable_request_iff.mpr (of_decide_eq_true rfl)

theorem sendable_iff_of_route (routed : v.route line = .ok (.send r, w)) :
    Wire.Sendable r ↔ ¬v.TooLong line := by
  refine ⟨fun sendable long => ?_, sendable_of_fits routed⟩
  obtain ⟨r', w', again, refused⟩ := long.route
  rw [routed] at again
  cases again
  exact refused sendable

/-- If all names of the view have at most 4091 bytes, `TooLong` is `Rambling`. -/
theorem tooLong_iff_of_short (short : ∀ p ∈ v.roster, p.name.utf8ByteSize ≤ 4091) :
    v.TooLong line ↔ Rambling line := by
  refine ⟨?_, .chat⟩
  rintro (rambling | @⟨action, name, w, routed, long⟩)
  · exact rambling
  · exfalso
    -- the view lets an action through on its own player and on those in its roster
    obtain ⟨-, -, meant⟩ := allows_of_route routed
    rcases meant with rfl | lives
    · exact absurd long (by decide)
    · obtain ⟨p, hp, rfl, -⟩ := living?_isSome_iff.mp lives
      have fits := short p hp
      omega

end View

/-! ## Names that came in a packet -/

theorem View.map_name_withHealth (name : String) (health : Int32) (rows : List Snapshot) :
    (withHealth name health rows).map (·.name) = rows.map (·.name) := by
  induction rows with
  | nil => rfl
  | cons p rest ih =>
    rw [withHealth]
    split
    · rfl
    · rw [List.map_cons, List.map_cons, ih]

theorem Notice.short_rows {n : Notice} (size : n.size ≤ 4096) {rows : List Snapshot}
    (short : ∀ p ∈ rows, p.name.utf8ByteSize ≤ 4091) :
    ∀ p ∈ n.rows rows, p.name.utf8ByteSize ≤ 4091 := by
  cases n with
  | phaseChanged phase roster =>
    cases roster with
    | none => exact short
    | some players =>
      intro p hp
      have row : p.size ≤ (players.map (·.size)).sum :=
        List.le_sum_of_mem (List.mem_map_of_mem hp)
      rw [Notice.size, Wire.listSize] at size
      rw [Snapshot.size, Wire.textSize] at row
      omega
  | healthChanged name health =>
    intro p hp
    have kept : p.name ∈ rows.map (·.name) := by
      rw [← View.map_name_withHealth name health]
      exact List.mem_map_of_mem hp
    obtain ⟨q, hq, same⟩ := List.mem_map.mp kept
    exact same ▸ short q hq
  | _ => exact short

theorem Wire.size_le_of_decode {bytes : List UInt8} {n : Notice} (ok : decode bytes = .ok n) :
    n.size ≤ bytes.length := by
  have word := (decode_eq_ok_iff_of_finds finds_notice fun _ _ word => word.reads).mp ok
  rw [← length_writeNotice]
  exact word.shortest.noShorter.length_le

namespace Terminal

variable {t : Terminal} {line : String}

/-! ## One line -/

theorem status_type_of_tooLong (long : t.view.TooLong line) :
    ∃ why, (t.type line).1.status = .failed why := by
  obtain ⟨r, w, routed, refused⟩ := long.route
  cases encoded : Wire.encode r with
  | ok bytes => exact absurd ⟨bytes, encoded⟩ refused
  | error why => exact ⟨why, by simp only [type, routed, encoded]⟩

theorem status_type_of_quits (quits : t.view.Quits line) : (t.type line).1.status = .ended := by
  obtain ⟨w, routed⟩ := quits
  simp only [type, routed, leave]

theorem status_type (stays : ¬t.view.Quits line) (fits : ¬t.view.TooLong line) :
    (t.type line).1.status = t.status := by
  cases routed : t.view.route line with
  | error why => cases why <;> simp only [type, routed]
  | ok answer =>
    obtain ⟨intent, w⟩ := answer
    cases intent with
    | send r =>
      obtain ⟨bytes, encoded⟩ := View.sendable_of_fits routed fits
      simp only [type, routed, encoded]
    | quit => exact absurd ⟨w, routed⟩ stays
    | display lines | nothing => simp only [type, routed]

theorem status_type_eq_running_iff (running : t.status = .running) :
    (t.type line).1.status = .running ↔ ¬t.view.Quits line ∧ ¬t.view.TooLong line := by
  constructor
  · intro goesOn
    refine ⟨fun quits => ?_, fun long => ?_⟩
    · rw [status_type_of_quits quits] at goesOn
      cases goesOn
    · obtain ⟨why, failed⟩ := status_type_of_tooLong long
      rw [failed] at goesOn
      cases goesOn
  · rintro ⟨stays, fits⟩
    rw [status_type stays fits, running]

/-! ## A whole run -/

/-- The invariant of a run: the reader is `Within` the limit, and all names of the view have at most
4091 bytes. -/
structure WellRead (t : Terminal) : Prop where
  reader : t.reader.Within
  names : ∀ p ∈ t.view.roster, p.name.utf8ByteSize ≤ 4091

theorem wellRead_start {name : String} {out : Output} (ok : start name = .ok (t, out)) :
    t.WellRead := by
  unfold start at ok
  dsimp only at ok
  split at ok <;> cases ok
  exact ⟨trivial, fun p hp => nomatch hp⟩

theorem reader_type (t : Terminal) (line : String) : (t.type line).1.reader = t.reader := by
  unfold type
  repeat' split
  all_goals rfl

theorem roster_type (t : Terminal) (line : String) :
    (t.type line).1.view.roster = t.view.roster := by
  unfold type
  split
  · rename_i intent w routed
    rw [← View.roster_route routed]
    repeat' split
    all_goals rfl
  · rfl
  · rfl

theorem wellRead_type (h : t.WellRead) (line : String) : (t.type line).1.WellRead := by
  refine ⟨?_, ?_⟩
  · rw [reader_type]
    exact h.reader
  · rw [roster_type]
    exact h.names

theorem wellRead_hearFrames (h : t.WellRead) {events : List FrameEvent}
    (short : ∀ payload, .frame payload ∈ events → payload.length ≤ Rules.maxPacketBytes) :
    (t.hearFrames events).1.WellRead := by
  induction events generalizing t with
  | nil => exact h
  | cons event rest ih =>
    have later : ∀ payload, .frame payload ∈ rest → payload.length ≤ Rules.maxPacketBytes :=
      fun payload told => short payload (List.mem_cons_of_mem _ told)
    cases event with
    | oversized => exact ⟨h.reader, h.names⟩
    | frame payload =>
      rw [hearFrames]
      cases decoded : (Wire.decode payload : Except Wire.Malformed Notice) with
      | error why => exact ih h later
      | ok n =>
        have size : n.size ≤ 4096 :=
          Nat.le_trans (Wire.size_le_of_decode decoded) (short payload List.mem_cons_self)
        refine ih ⟨h.reader, ?_⟩ later
        rw [View.roster_apply]
        exact Notice.short_rows size h.names

theorem wellRead_step (h : t.WellRead) (event : Event) : (t.step event).1.WellRead := by
  unfold step
  split
  · cases event with
    | typed line => exact wellRead_type h line
    | inputEnds | hangUp => exact ⟨h.reader, h.names⟩
    | bytes bytes =>
      obtain ⟨reader, short⟩ := FrameReader.within_feed h.reader bytes
      have fed : WellRead { t with reader := (t.reader.feed bytes).1 } := ⟨reader, h.names⟩
      exact wellRead_hearFrames fed short
  · exact h

theorem wellRead_run (h : t.WellRead) (events : List Event) : (t.run events).1.WellRead := by
  induction events generalizing t with
  | nil => exact h
  | cons event rest ih => exact ih (wellRead_step h event)

/-- The request of a line encodes iff the line is not `TooLong`. A client that is `running` still is
after the line iff the line neither `Quits` nor is `TooLong`. For every client that some run of
events from its `start` leads to, `TooLong` is `Rambling`. -/
theorem goesOn_iff (t : Terminal) (line : String) :
    (∀ (r : Request) (w : View), t.view.route line = .ok (.send r, w) →
      (Wire.Sendable r ↔ ¬t.view.TooLong line)) ∧
    (t.status = .running →
      ((t.type line).1.status = .running ↔ ¬t.view.Quits line ∧ ¬t.view.TooLong line)) ∧
    ∀ (name : String) (first : Terminal) (out : Output) (events : List Event),
      start name = .ok (first, out) → (first.run events).1 = t →
      (t.view.TooLong line ↔ View.Rambling line) := by
  refine ⟨fun r w routed => View.sendable_iff_of_route routed, status_type_eq_running_iff, ?_⟩
  rintro name first out events ok rfl
  exact View.tooLong_iff_of_short (wellRead_run (wellRead_start ok) events).names

theorem trim_drawl (letters : Nat) :
    Text.trim (Session.drawl (letters + 1)).toList = (Session.drawl (letters + 1)).toList := by
  have letter : Text.isBlank 'x' = false := by decide
  have word : List.replicate (letters + 1) 'x' ≠ [] := List.cons_ne_nil _ _
  have trimmed := Text.trim_append (List.forall_mem_nil _) word
    (by rwa [List.head_replicate]) (by rwa [List.getLast_replicate]) []
  rw [Text.trimEnd, List.append_nil, List.nil_append] at trimmed
  rw [Session.drawl, String.toList_ofList]
  exact trimmed

/-- A chat line of 4093 bytes ends a client that has just connected. -/
theorem drawl_ends :
    let t : Terminal := { view := (View.new "A").connected }
    let line := Session.drawl 4093
    (∃ out, start "A" = .ok (t, out)) ∧ t.status = .running ∧
      t.view.route line = .ok (.send (.chat line), t.view) ∧ ¬Wire.Sendable (Request.chat line) ∧
      ∃ why, (t.type line).1.status = .failed why := by
  intro t line
  have trimmed : Text.trim line.toList = line.toList := trim_drawl 4092
  have letters : line.toList = List.replicate 4093 'x' := String.toList_ofList
  have size : line.utf8ByteSize = 4093 := Session.utf8ByteSize_drawl 4093
  have rambling : View.Rambling line := by
    refine ⟨?_, ?_⟩
    · rw [trimmed, letters, List.head?_replicate]
      decide
    · rw [trimmed, String.ofList_toList, size]
      decide
  have routed := rambling.route t.view
  rw [trimmed, String.ofList_toList] at routed
  refine ⟨⟨_, rfl⟩, rfl, routed, ?_, status_type_of_tooLong (.chat rambling)⟩
  rw [Wire.sendable_request_chat_iff, size]
  decide

end Terminal

end Skirmish
