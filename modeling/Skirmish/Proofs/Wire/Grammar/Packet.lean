import Skirmish.Proofs.Wire.Grammar.Field
import Skirmish.Proofs.Wire.Packet

/-!
# Exactly the words of the format are decoded

Rows and packets are read field by field, and their words are made so. For each: what is taken is a
word, every word is taken, and the shortest is the one that is written.

Results:

* `finds_request`, `finds_notice`: what is taken as a packet is a word of it;
* `RequestWord.reads`, `NoticeWord.reads`: every word of a packet is taken;
* `RequestWord.shortest`, `NoticeWord.shortest`: the shortest word is the one that is written;
* `decode_eq_ok_iff_word`: bytes decode as a packet iff they are a word of it.
-/

namespace Skirmish.Wire

/-! ## Jobs, actions and phases -/

theorem finds_job : Finds readJob [] JobWord := by
  refine (finds_tag 4).bind fun tag word isWord => ?_
  match tag, isWord with
  | 0, isWord | 1, isWord | 2, isWord | 3, isWord => exact .pure isWord

theorem finds_action : Finds readAction [] ActionWord := by
  refine (finds_tag 4).bind fun tag word isWord => ?_
  match tag, isWord with
  | 0, isWord | 1, isWord | 2, isWord | 3, isWord => exact .pure isWord

theorem finds_phase : Finds readPhase [] PhaseWord := by
  refine (finds_tag 4).bind fun tag word isWord => ?_
  match tag, isWord with
  | 0, isWord | 1, isWord | 2, isWord | 3, isWord => exact .pure isWord

section

variable {job : Job} {action : Action} {phase : GamePhase} {word : List UInt8}

theorem JobWord.reads (h : JobWord job word) : Reads readJob word job := by
  cases job <;> exact (Varint.Word.reads_tag h (by decide) (by decide)).last rfl

theorem ActionWord.reads (h : ActionWord action word) : Reads readAction word action := by
  cases action <;> exact (Varint.Word.reads_tag h (by decide) (by decide)).last rfl

theorem PhaseWord.reads (h : PhaseWord phase word) : Reads readPhase word phase := by
  cases phase <;> exact (Varint.Word.reads_tag h (by decide) (by decide)).last rfl

theorem JobWord.shortest (h : JobWord job word) : Shortest (JobWord job) (writeJob job) word := by
  cases job <;> exact Varint.Word.shortest h

theorem ActionWord.shortest (h : ActionWord action word) :
    Shortest (ActionWord action) (writeAction action) word := by
  cases action <;> exact Varint.Word.shortest h

theorem PhaseWord.shortest (h : PhaseWord phase word) :
    Shortest (PhaseWord phase) (writePhase phase) word := by
  cases phase <;> exact Varint.Word.shortest h

end

/-! ## Rows -/

theorem finds_snapshot : Finds readSnapshot [] SnapshotWord :=
  finds_text.bind fun _ _ name => finds_health.bind fun _ _ health =>
    finds_flag.bind fun _ _ ready => finds_job.bind fun _ _ job =>
      .pure (.intro name health ready job)

theorem finds_listRow : Finds readListRow [] ListRowWord :=
  finds_text.bind fun _ _ name => finds_flag.bind fun _ _ ready => .pure (.intro name ready)

theorem finds_statsRow : Finds readStatsRow [] StatsRowWord :=
  finds_text.bind fun _ _ name => finds_job.bind fun _ _ job =>
    finds_health.bind fun _ _ health => .pure (.intro name job health)

section

variable {word : List UInt8}

theorem SnapshotWord.reads {s : Snapshot} (h : SnapshotWord s word) :
    Reads readSnapshot word s := by
  obtain ⟨name, health, ready, job⟩ := h
  rw [List.append_assoc, List.append_assoc]
  exact name.reads.bind (health.reads.bind (ready.reads.bind (job.reads.last rfl)))

theorem ListRowWord.reads {row : String × Bool} (h : ListRowWord row word) :
    Reads readListRow word row := by
  obtain ⟨name, ready⟩ := h
  exact name.reads.bind (ready.reads.last rfl)

theorem StatsRowWord.reads {row : String × Job × Int32} (h : StatsRowWord row word) :
    Reads readStatsRow word row := by
  obtain ⟨name, job, health⟩ := h
  rw [List.append_assoc]
  exact name.reads.bind (job.reads.bind (health.reads.last rfl))

theorem SnapshotWord.shortest {s : Snapshot} (h : SnapshotWord s word) :
    Shortest (SnapshotWord s) (writeSnapshot s) word := by
  obtain ⟨name, health, ready, job⟩ := h
  have name := name.shortest
  have health := health.shortest
  have ready := ready.shortest
  have job := job.shortest
  exact ⟨.intro name.isWord health.isWord ready.isWord job.isWord,
    ((name.noShorter.append health.noShorter).append ready.noShorter).append job.noShorter⟩

theorem ListRowWord.shortest {row : String × Bool} (h : ListRowWord row word) :
    Shortest (ListRowWord row) (writeListRow row) word := by
  obtain ⟨name, ready⟩ := h
  have name := name.shortest
  have ready := ready.shortest
  exact ⟨.intro name.isWord ready.isWord, name.noShorter.append ready.noShorter⟩

theorem StatsRowWord.shortest {row : String × Job × Int32} (h : StatsRowWord row word) :
    Shortest (StatsRowWord row) (writeStatsRow row) word := by
  obtain ⟨name, job, health⟩ := h
  have name := name.shortest
  have job := job.shortest
  have health := health.shortest
  exact ⟨.intro name.isWord job.isWord health.isWord,
    (name.noShorter.append job.noShorter).append health.noShorter⟩

end

/-! ## Requests -/

theorem finds_request : Finds readRequest [] RequestWord := by
  refine (finds_tag 8).bind fun tag word isTag => ?_
  match tag, isTag with
  | 0, isTag =>
    exact finds_text.bind fun _ _ name => finds_flag.bind fun _ _ ready =>
      .pure (.intro isTag name ready)
  | 1, isTag => exact .pure (.ready isTag)
  | 2, isTag => exact .pure (.unready isTag)
  | 3, isTag => exact .pure (.listPlayers isTag)
  | 4, isTag => exact .pure (.listStats isTag)
  | 5, isTag => exact finds_text.bind fun _ _ text => .pure (.chat isTag text)
  | 6, isTag => exact finds_job.bind fun _ _ job => .pure (.chooseJob isTag job)
  | 7, isTag =>
    exact finds_action.bind fun _ _ action => finds_text.bind fun _ _ target =>
      .pure (.act isTag action target)

section

variable {r : Request} {word : List UInt8}

theorem RequestWord.reads (h : RequestWord r word) : Reads readRequest word r := by
  cases h with
  | intro tag name ready =>
    rw [List.append_assoc]
    exact (tag.reads_tag (by decide) (by decide)).bind (name.reads.bind (ready.reads.last rfl))
  | ready tag | unready tag | listPlayers tag | listStats tag =>
    exact (tag.reads_tag (by decide) (by decide)).last rfl
  | chat tag text => exact (tag.reads_tag (by decide) (by decide)).bind (text.reads.last rfl)
  | chooseJob tag job => exact (tag.reads_tag (by decide) (by decide)).bind (job.reads.last rfl)
  | act tag action target =>
    rw [List.append_assoc]
    exact (tag.reads_tag (by decide) (by decide)).bind (action.reads.bind (target.reads.last rfl))

theorem RequestWord.shortest (h : RequestWord r word) :
    Shortest (RequestWord r) (writeRequest r) word := by
  cases h with
  | intro tag name ready =>
    have tag := tag.shortest
    have name := name.shortest
    have ready := ready.shortest
    exact ⟨.intro tag.isWord name.isWord ready.isWord,
      (tag.noShorter.append name.noShorter).append ready.noShorter⟩
  | ready tag => exact ⟨.ready tag.shortest.isWord, tag.shortest.noShorter⟩
  | unready tag => exact ⟨.unready tag.shortest.isWord, tag.shortest.noShorter⟩
  | listPlayers tag => exact ⟨.listPlayers tag.shortest.isWord, tag.shortest.noShorter⟩
  | listStats tag => exact ⟨.listStats tag.shortest.isWord, tag.shortest.noShorter⟩
  | chat tag text =>
    have tag := tag.shortest
    have text := text.shortest
    exact ⟨.chat tag.isWord text.isWord, tag.noShorter.append text.noShorter⟩
  | chooseJob tag job =>
    have tag := tag.shortest
    have job := job.shortest
    exact ⟨.chooseJob tag.isWord job.isWord, tag.noShorter.append job.noShorter⟩
  | act tag action target =>
    have tag := tag.shortest
    have action := action.shortest
    have target := target.shortest
    exact ⟨.act tag.isWord action.isWord target.isWord,
      (tag.noShorter.append action.noShorter).append target.noShorter⟩

end

/-! ## Notices -/

theorem finds_notice : Finds readNotice [] NoticeWord := by
  refine (finds_tag 8).bind fun tag word isTag => ?_
  match tag, isTag with
  | 0, isTag => exact finds_text.bind fun _ _ text => .pure (.chat isTag text)
  | 1, isTag => exact .pure (.gameStarted isTag)
  | 2, isTag =>
    exact (finds_list finds_listRow).bind fun _ _ players => .pure (.playerList isTag players)
  | 3, isTag =>
    exact (finds_list finds_statsRow).bind fun _ _ players => .pure (.playerStats isTag players)
  | 4, isTag => exact .pure (.takeTurn isTag)
  | 5, isTag =>
    exact finds_phase.bind fun _ _ phase =>
      (finds_option (finds_list finds_snapshot)).bind fun _ _ roster =>
        .pure (.phaseChanged isTag phase roster)
  | 6, isTag =>
    exact finds_text.bind fun _ _ name => finds_health.bind fun _ _ health =>
      .pure (.healthChanged isTag name health)
  | 7, isTag => exact finds_text.bind fun _ _ reason => .pure (.disconnected isTag reason)

section

variable {n : Notice} {word : List UInt8}

theorem NoticeWord.reads (h : NoticeWord n word) : Reads readNotice word n := by
  cases h with
  | chat tag text | disconnected tag text =>
    exact (tag.reads_tag (by decide) (by decide)).bind (text.reads.last rfl)
  | gameStarted tag | takeTurn tag => exact (tag.reads_tag (by decide) (by decide)).last rfl
  | playerList tag players =>
    have list := players.reads fun _ _ row => row.reads
    exact (tag.reads_tag (by decide) (by decide)).bind (list.last rfl)
  | playerStats tag players =>
    have list := players.reads fun _ _ row => row.reads
    exact (tag.reads_tag (by decide) (by decide)).bind (list.last rfl)
  | phaseChanged tag phase roster =>
    have part := roster.reads fun _ _ list => list.reads fun _ _ row => row.reads
    rw [List.append_assoc]
    exact (tag.reads_tag (by decide) (by decide)).bind (phase.reads.bind (part.last rfl))
  | healthChanged tag name health =>
    rw [List.append_assoc]
    exact (tag.reads_tag (by decide) (by decide)).bind (name.reads.bind (health.reads.last rfl))

theorem NoticeWord.shortest (h : NoticeWord n word) :
    Shortest (NoticeWord n) (writeNotice n) word := by
  cases h with
  | chat tag text =>
    have tag := tag.shortest
    have text := text.shortest
    exact ⟨.chat tag.isWord text.isWord, tag.noShorter.append text.noShorter⟩
  | gameStarted tag => exact ⟨.gameStarted tag.shortest.isWord, tag.shortest.noShorter⟩
  | playerList tag players =>
    have tag := tag.shortest
    have players := players.shortest fun _ _ row => row.shortest
    exact ⟨.playerList tag.isWord players.isWord, tag.noShorter.append players.noShorter⟩
  | playerStats tag players =>
    have tag := tag.shortest
    have players := players.shortest fun _ _ row => row.shortest
    exact ⟨.playerStats tag.isWord players.isWord, tag.noShorter.append players.noShorter⟩
  | takeTurn tag => exact ⟨.takeTurn tag.shortest.isWord, tag.shortest.noShorter⟩
  | phaseChanged tag phase roster =>
    have tag := tag.shortest
    have phase := phase.shortest
    have roster := roster.shortest fun _ _ list => list.shortest fun _ _ row => row.shortest
    exact ⟨.phaseChanged tag.isWord phase.isWord roster.isWord,
      (tag.noShorter.append phase.noShorter).append roster.noShorter⟩
  | healthChanged tag name health =>
    have tag := tag.shortest
    have name := name.shortest
    have health := health.shortest
    exact ⟨.healthChanged tag.isWord name.isWord health.isWord,
      (tag.noShorter.append name.noShorter).append health.noShorter⟩
  | disconnected tag reason =>
    have tag := tag.shortest
    have reason := reason.shortest
    exact ⟨.disconnected tag.isWord reason.isWord, tag.noShorter.append reason.noShorter⟩

end

/-! ## Whole packets -/

section

variable {α : Type} [Packet α] {packet : α} {bytes : List UInt8}

theorem read_of_decode (ok : decode bytes = .ok packet) :
    Packet.read bytes = .ok (packet, []) := by
  unfold decode at ok
  split at ok
  · cases ok
  · cases ok
    assumption
  · cases ok

theorem decode_eq_ok_iff_of_finds {Word : α → List UInt8 → Prop}
    (finds : Finds Packet.read [] Word)
    (reads : ∀ packet word, Word packet word → Reads Packet.read word packet) :
    decode bytes = .ok packet ↔ Word packet bytes := by
  constructor
  · intro ok
    obtain ⟨word, eq, isWord⟩ := finds bytes packet [] (read_of_decode ok)
    rw [List.append_nil] at eq
    exact eq ▸ isWord
  · intro isWord
    exact decode_of_reads (reads packet bytes isWord)

end

/-- For requests and notices: `bytes` decode as a packet iff they are a word of it. Then what
`write` gives is a word of it too, with at most as many bytes, and with as many only if it is
`bytes`. -/
theorem decode_eq_ok_iff_word (bytes : List UInt8) :
    (∀ r : Request, (decode bytes = .ok r ↔ RequestWord r bytes) ∧
      (decode bytes = .ok r → RequestWord r (writeRequest r) ∧
        (writeRequest r).length ≤ bytes.length ∧
        (bytes.length = (writeRequest r).length ↔ bytes = writeRequest r))) ∧
    ∀ n : Notice, (decode bytes = .ok n ↔ NoticeWord n bytes) ∧
      (decode bytes = .ok n → NoticeWord n (writeNotice n) ∧
        (writeNotice n).length ≤ bytes.length ∧
        (bytes.length = (writeNotice n).length ↔ bytes = writeNotice n)) := by
  constructor
  · intro r
    have words : decode bytes = .ok r ↔ RequestWord r bytes :=
      decode_eq_ok_iff_of_finds finds_request fun _ _ word => word.reads
    refine ⟨words, fun ok => ?_⟩
    obtain ⟨isWord, noShorter⟩ := (words.mp ok).shortest
    exact ⟨isWord, noShorter.length_le, noShorter.length_eq_iff⟩
  · intro n
    have words : decode bytes = .ok n ↔ NoticeWord n bytes :=
      decode_eq_ok_iff_of_finds finds_notice fun _ _ word => word.reads
    refine ⟨words, fun ok => ?_⟩
    obtain ⟨isWord, noShorter⟩ := (words.mp ok).shortest
    exact ⟨isWord, noShorter.length_le, noShorter.length_eq_iff⟩

/-- A tag that is written wider than it needs to be is decoded all the same. -/
example : decode [253, 1, 0, 0, 0, 0, 0, 0, 0] = .ok Request.ready := rfl

end Skirmish.Wire
