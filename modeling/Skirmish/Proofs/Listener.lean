import Skirmish.Proofs.Frame

/-!
# What is heard of a connection

`Listener.hear` renders `spawn_connection_reader`, which takes the bytes of a connection in whatever
portions they come. What is heard depends only on all the bytes together: the requests among the
payloads that are `Framed` in them, with undecodable payloads passed over, and then `lost` once, at
a length above the limit or at the end of the stream. Nothing is heard after `lost`.

Results:

* `hearEach_of_settled`: portions are heard like all their bytes at once;
* `hear_of_framed`: what is heard of bytes that are `Framed`;
* `hearEach_eq_hear_flatten`: the same for any portions, with the end of the connection.
-/

namespace Skirmish

/-- The payloads that decode as requests, in order. -/
def requestsAmong (payloads : List (List UInt8)) : List Request :=
  payloads.filterMap fun payload => (Wire.decode payload).toOption

namespace Listener

/-! ## In portions -/

/-- `hear` of the portions in order. -/
def hearEach (l : Listener) : List (List UInt8) → Listener × List Heard
  | [] => (l, [])
  | bytes :: rest =>
    let (next, now) := l.hear bytes
    let (last, later) := hearEach next rest
    (last, now ++ later)

theorem hearEach_cons (l : Listener) (bytes : List UInt8) (rest : List (List UInt8)) :
    l.hearEach (bytes :: rest) =
      (((l.hear bytes).1.hearEach rest).1,
        (l.hear bytes).2 ++ ((l.hear bytes).1.hearEach rest).2) := rfl

theorem hearEach_append (l : Listener) (portions more : List (List UInt8)) :
    l.hearEach (portions ++ more) =
      (((l.hearEach portions).1.hearEach more).1,
        (l.hearEach portions).2 ++ ((l.hearEach portions).1.hearEach more).2) := by
  induction portions generalizing l with
  | nil => rfl
  | cons bytes rest ih => simp [hearEach_cons, ih]

/-- After `hear` an empty portion changes nothing. -/
theorem hear_nil_hear (l : Listener) (bytes : List UInt8) :
    (l.hear bytes).1.hear [] = ((l.hear bytes).1, []) := by
  have none := l.hear_append bytes []
  rw [List.append_nil] at none
  have same := congrArg Prod.fst none
  have silent := congrArg Prod.snd none
  exact Prod.ext same.symm (List.self_eq_append_right.mp silent)

theorem hearEach_of_settled {l : Listener} (settled : l.hear [] = (l, []))
    (portions : List (List UInt8)) : l.hearEach portions = l.hear portions.flatten := by
  induction portions generalizing l with
  | nil => exact settled.symm
  | cons bytes rest ih =>
    rw [hearEach_cons, ih (hear_nil_hear l bytes), List.flatten_cons, hear_append]

theorem hearEach_start (portions : List (List UInt8)) :
    start.hearEach portions = start.hear portions.flatten :=
  hearEach_of_settled rfl portions

theorem hearEach_done (portions : List (List UInt8)) : done.hearEach portions = (done, []) :=
  hearEach_of_settled rfl portions

/-! ## The bytes of a stream -/

theorem flatMap_ofEvent_frame (payloads : List (List UInt8)) :
    (payloads.map .frame).flatMap Heard.ofEvent = (requestsAmong payloads).map .request := by
  induction payloads with
  | nil => rfl
  | cons payload rest ih =>
    rw [List.map_cons, List.flatMap_cons, ih]
    cases decoded : (Wire.decode payload : Except _ Request) with
    | ok r => simp [requestsAmong, Heard.ofEvent, decoded, Except.toOption]
    | error why => simp [requestsAmong, Heard.ofEvent, decoded, Except.toOption]

theorem hear_of_framed {bytes : List UInt8} {payloads : List (List UInt8)} {how : StreamEnd}
    (framed : Framed bytes payloads how) :
    (start.hear bytes).2 =
        (requestsAmong payloads).map .request ++ (if how = .stopped then [.lost] else []) ∧
      ((start.hear bytes).1 = done ↔ how = .stopped) := by
  obtain ⟨finish, last, told, ends⟩ := framed.feed
  constructor
  · show (FrameReader.start.feed bytes).2.flatMap Heard.ofEvent = _
    rw [told, List.flatMap_append, flatMap_ofEvent_frame]
    split at ends
    · obtain ⟨n, rfl⟩ := ends
      rw [if_pos ‹_›]
      rfl
    · rw [ends, if_neg ‹_›]
      rfl
  · show (if (FrameReader.start.feed bytes).1 = .stopped then done else _) = done ↔ _
    rw [← finish]
    cases (FrameReader.start.feed bytes).1 <;> simp [FrameReader.finish]

/-! ## A connection -/

/-- What is heard of a connection whose bytes come in `portions` and hold `payloads`, with the end
`how`. -/
structure Hears (portions payloads : List (List UInt8)) (how : StreamEnd) : Prop where
  /-- The stream has not ended yet. It is given up at a length that is too large. -/
  open_ : (start.hearEach portions).2 =
    (requestsAmong payloads).map .request ++ if how = .stopped then [.lost] else []
  /-- The stream has ended: the connection has been lost just once, and after all else. -/
  ended : (start.hearEach portions).2 ++ (start.hearEach portions).1.hearEnd.2 =
    (requestsAmong payloads).map .request ++ [.lost]
  /-- After `stopped`, neither `more` portions nor the end are heard. -/
  silent_of_stopped : how = .stopped → ∀ more,
    (start.hearEach (portions ++ more)).2 = (start.hearEach portions).2 ∧
      (start.hearEach (portions ++ more)).1.hearEnd.2 = []
  /-- After `hearEnd`, neither `more` portions nor a second end are heard. -/
  silent_of_ended : ∀ more, ((start.hearEach portions).1.hearEnd.1.hearEach more).2 = [] ∧
    ((start.hearEach portions).1.hearEnd.1.hearEach more).1.hearEnd.2 = []

theorem hearEnd_fst (l : Listener) : l.hearEnd.1 = done := by
  cases l <;> rfl

theorem hearEnd_snd_of_ne {l : Listener} (listening : l ≠ done) : l.hearEnd.2 = [.lost] := by
  cases l with
  | done => exact absurd rfl listening
  | listening reader => rfl

/-- `hear` of any portions in order comes to the same state and requests as `hear` of all their
bytes. These are `Framed` with some `payloads`, and what is heard are the requests among `payloads`
and `lost`. -/
theorem hearEach_eq_hear_flatten (portions : List (List UInt8)) :
    start.hearEach portions = start.hear portions.flatten ∧
      ∃ payloads how, Framed portions.flatten payloads how ∧ Hears portions payloads how := by
  obtain ⟨payloads, how, framed⟩ := exists_framed portions.flatten
  obtain ⟨heard, stops⟩ := hear_of_framed framed
  rw [← hearEach_start] at heard stops
  refine ⟨hearEach_start portions, payloads, how, framed, heard, ?_, ?_, ?_⟩
  · by_cases stopped : how = .stopped
    · rw [heard, if_pos stopped, stops.mpr stopped]
      exact List.append_nil _
    · rw [heard, if_neg stopped, List.append_nil, hearEnd_snd_of_ne fun d => stopped (stops.mp d)]
  · intro stopped more
    rw [hearEach_append, stops.mpr stopped, hearEach_done]
    exact ⟨List.append_nil _, rfl⟩
  · intro more
    rw [hearEnd_fst, hearEach_done]
    exact ⟨rfl, rfl⟩

/-- A length and a frame are spread over portions. The first frame is no request. -/
example : (start.hearEach [[0, 0, 0], [1, 200, 0, 0], [0, 1, 1]]).2 = [.request .ready] := by decide

end Listener

end Skirmish
