import ZoneSegmentation.Daemon.Wire
import ZoneSegmentation.Library.Pipe
import ZoneSegmentation.Library.Run

/-!
# The daemon's process

`main` accepts connections and starts a thread for each, and every thread runs `HandleClient`: it
reads a request, decides, and writes the response. All threads live in one process. `read` and
`write` may transfer less than they were asked for; `write` to a socket whose peer has closed raises
SIGPIPE, which the program neither handles nor ignores, so that it ends the process.

## Main definitions

* `Thread`, `Connection`: a thread of `HandleClient`, and the socket it serves
* `Server`, `ServerEvent`, `Server.step`: the process, and what happens to it
* `answers`: the responses to the complete requests of a client
* `Connection.Ok`: what a thread has done with what it read

## Main results

* `Connection.Ok.written_answers`: whatever a client was sent answers its complete requests, in
  order
* `Server.ConnsOk.step`: every event keeps the connections sound
-/

namespace ZoneSegmentation

/-! ## Threads -/

/-- Where a thread is in `HandleClient`. -/
inductive Thread where
  /-- In `ReadFull`, with what it read of the request. -/
  | reading (buf : List Byte)
  /-- In `WriteFull`, with what is left of the response. -/
  | writing (left : List Byte)
  /-- In a shift without meaning. -/
  | undefined
  /-- The loop was left and the descriptor closed, or the process ended. -/
  | closed
  deriving DecidableEq

/-- A client's connection: the bytes in both directions, the thread that serves it, and whether the
client has closed its end. -/
structure Connection where
  toDaemon : Pipe Byte
  toClient : Pipe Byte
  thread : Thread
  hungUp : Bool
  deriving DecidableEq

namespace Connection

/-- An accepted connection. -/
def new : Connection := ⟨.empty, .empty, .reading [], false⟩

/-- The client sends bytes. -/
def send (c : Connection) (bytes : List Byte) : Connection :=
  if c.hungUp then c else { c with toDaemon := c.toDaemon.push bytes }

/-- The client receives at most `n` bytes. -/
def receive (c : Connection) (n : ℕ) : Connection :=
  if c.hungUp then c else { c with toClient := c.toClient.take n }

/-- The client closes its end. -/
def hangUp (c : Connection) : Connection := { c with hungUp := true }

variable (t : Tables) (o : ByteOrder)

/-- `ReadFull` has `buf`: it reads on, or the request is complete and decided. -/
def afterRead (buf : List Byte) : Thread :=
  if buf.length < requestSize then .reading buf
  else
    match respond t o buf with
    | some resp => .writing resp
    | none => .undefined

/-- `read` returns at most `n` bytes; without any it blocks. -/
def read (c : Connection) (n : ℕ) : Connection :=
  match c.thread with
  | .reading buf =>
    let count := min n (requestSize - buf.length)
    let got := c.toDaemon.unread.take count
    if got = [] then c
    else { c with toDaemon := c.toDaemon.take count, thread := afterRead t o (buf ++ got) }
  | _ => c

/-- `read` of a socket whose peer has closed returns 0, or fails: `ReadFull` returns false, and the
loop ends. -/
def readEnds (c : Connection) : Connection :=
  match c.thread with
  | .reading _ => if c.hungUp then { c with thread := .closed } else c
  | _ => c

/-- `write` accepts at most `n` bytes; if it accepts none it blocks. -/
def write (c : Connection) (n : ℕ) : Connection :=
  match c.thread with
  | .writing left =>
    if left.take n = [] then c
    else
      { c with
        toClient := c.toClient.push (left.take n)
        thread := if left.drop n = [] then .reading [] else .writing (left.drop n) }
  | _ => c

/-- Whether the thread is in `WriteFull`. -/
def isWriting (c : Connection) : Bool :=
  match c.thread with
  | .writing _ => true
  | _ => false

end Connection

/-! ## The process -/

/-- The state of the process: it has not stopped, was asked to by SIGINT or SIGTERM, or was ended by
SIGPIPE. -/
inductive Process where
  | running
  | stopped
  | killed
  deriving DecidableEq

/-- The process and the connections it accepted, oldest first. -/
structure Server where
  process : Process
  conns : List Connection
  deriving DecidableEq

/-- What happens to the process and its clients. A connection is named by its place. -/
inductive ServerEvent where
  | connect
  | send (id : ℕ) (bytes : List Byte)
  | receive (id n : ℕ)
  | hangUp (id : ℕ)
  | read (id n : ℕ)
  | readEnds (id : ℕ)
  | write (id n : ℕ)
  /-- SIGINT or SIGTERM arrives, and `main` leaves its loop. -/
  | interrupt
  deriving DecidableEq

namespace Server

/-- The process is started. -/
def init : Server := ⟨.running, []⟩

/-- Something happens to one connection. -/
def update (s : Server) (id : ℕ) (f : Connection → Connection) : Server :=
  { s with conns := s.conns.modify id f }

/-- The process ends, and with it all its threads. -/
def stop (s : Server) (p : Process) : Server where
  process := p
  conns := s.conns.map fun c => { c with thread := .closed }

/-- A thread in `WriteFull` calls `write`: a client that has hung up ends the process. -/
def write (s : Server) (id n : ℕ) : Server :=
  match s.conns[id]? with
  | some c => if c.isWriting && c.hungUp then s.stop .killed else s.update id fun c => c.write n
  | none => s

/-- `accept` and the start of a thread. -/
def accept (s : Server) : Server :=
  if s.process = .running then { s with conns := s.conns ++ [.new] } else s

/-- The handler of SIGINT and SIGTERM: `main` leaves its loop and returns. -/
def interrupt (s : Server) : Server := if s.process = .running then s.stop .stopped else s

/-- One event. -/
def step (t : Tables) (o : ByteOrder) (s : Server) : ServerEvent → Server
  | .connect => s.accept
  | .send id bytes => s.update id fun c => c.send bytes
  | .receive id n => s.update id fun c => c.receive n
  | .hangUp id => s.update id Connection.hangUp
  | .read id n => s.update id fun c => c.read t o n
  | .readEnds id => s.update id Connection.readEnds
  | .write id n => s.write id n
  | .interrupt => s.interrupt

end Server

/-- The daemon as a system: it puts nothing out but what its clients receive. -/
def serve (t : Tables) (o : ByteOrder) (s : Server) (e : ServerEvent) : Server × List Empty :=
  (s.step t o e, [])

/-! ## What a thread has done -/

section

variable (t : Tables) (o : ByteOrder)

/-- The responses to the complete requests among some bytes. -/
def answers (bytes : List Byte) : List Byte :=
  (Pipe.blocks requestSize bytes).flatMap fun buf => (respond t o buf).getD []

/-- What a thread has done with what it read: it answered the complete requests, but for what is
left of the last response, and holds what it read of the next. -/
def Connection.Ok (c : Connection) : Prop :=
  match c.thread with
  | .reading buf => Pipe.rest requestSize c.toDaemon.read = buf ∧
      c.toClient.written = answers t o c.toDaemon.read
  | .writing left => Pipe.rest requestSize c.toDaemon.read = [] ∧ left ≠ [] ∧
      c.toClient.written ++ left = answers t o c.toDaemon.read
  | .undefined => c.toClient.written <+: answers t o c.toDaemon.read ∧
      ∃ buf, buf.length = requestSize ∧ respond t o buf = none
  | .closed => c.toClient.written <+: answers t o c.toDaemon.read

end

variable {t : Tables} {o : ByteOrder} {c : Connection}

/-- More bytes only add responses. -/
theorem answers_mono {xs ys : List Byte} (h : xs <+: ys) :
    answers t o xs <+: answers t o ys := by
  obtain ⟨more, hmore⟩ := Pipe.blocks_mono (k := requestSize) h
  rw [answers, answers, ← hmore, List.flatMap_append]
  exact List.prefix_append ..

/-- Reading on within a request. -/
theorem answers_append_of_lt {xs ys : List Byte}
    (h : (Pipe.rest requestSize xs).length + ys.length < requestSize) :
    answers t o (xs ++ ys) = answers t o xs := by
  rw [answers, answers, Pipe.blocks, Pipe.cut_append_of_lt h]

/-- Reading on to the end of a request. -/
theorem answers_append_of_eq {xs ys : List Byte} (hys : ys ≠ [])
    (h : (Pipe.rest requestSize xs).length + ys.length = requestSize) :
    answers t o (xs ++ ys) =
      answers t o xs ++ (respond t o (Pipe.rest requestSize xs ++ ys)).getD [] := by
  rw [answers, answers, Pipe.blocks, Pipe.cut_append_of_eq hys h]
  simp

namespace Connection

theorem ok_reading {buf : List Byte} (h : c.thread = .reading buf) : c.Ok t o ↔
    Pipe.rest requestSize c.toDaemon.read = buf ∧
      c.toClient.written = answers t o c.toDaemon.read := by
  unfold Ok
  rw [h]

theorem ok_writing {left : List Byte} (h : c.thread = .writing left) : c.Ok t o ↔
    Pipe.rest requestSize c.toDaemon.read = [] ∧ left ≠ [] ∧
      c.toClient.written ++ left = answers t o c.toDaemon.read := by
  unfold Ok
  rw [h]

theorem ok_undefined (h : c.thread = .undefined) : c.Ok t o ↔
    c.toClient.written <+: answers t o c.toDaemon.read ∧
      ∃ buf, buf.length = requestSize ∧ respond t o buf = none := by
  unfold Ok
  rw [h]

/-- What the client was sent answers what the thread read. -/
theorem Ok.written_answers_read (h : c.Ok t o) :
    c.toClient.written <+: answers t o c.toDaemon.read := by
  unfold Ok at h
  split at h
  · rw [h.2]
  · rw [← h.2.2]
    exact List.prefix_append ..
  · exact h.1
  · exact h

/-- **Whatever a client was sent answers its complete requests**, in their order. -/
theorem Ok.written_answers (h : c.Ok t o) :
    c.toClient.written <+: answers t o c.toDaemon.written :=
  h.written_answers_read.trans (answers_mono c.toDaemon.read_prefix_written)

theorem ok_new : new.Ok t o := ⟨rfl, rfl⟩

/-- Whether a connection is sound only depends on what was read and written, and the thread. -/
theorem Ok.congr {c' : Connection} (h : c.Ok t o) (hthread : c'.thread = c.thread)
    (hread : c'.toDaemon.read = c.toDaemon.read)
    (hwritten : c'.toClient.written = c.toClient.written) : c'.Ok t o := by
  unfold Ok at h ⊢
  rwa [hthread, hread, hwritten]

theorem Ok.send (h : c.Ok t o) (bytes : List Byte) : (c.send bytes).Ok t o := by
  unfold Connection.send
  split
  · exact h
  · exact h.congr rfl rfl rfl

theorem Ok.receive (h : c.Ok t o) (n : ℕ) : (c.receive n).Ok t o := by
  unfold Connection.receive
  split
  · exact h
  · exact h.congr rfl rfl (Pipe.written_take ..)

theorem Ok.hangUp (h : c.Ok t o) : c.hangUp.Ok t o := h.congr rfl rfl rfl

/-- A thread may end at any time. -/
theorem Ok.close (h : c.Ok t o) : ({ c with thread := .closed } : Connection).Ok t o :=
  h.written_answers_read

theorem Ok.readEnds (h : c.Ok t o) : c.readEnds.Ok t o := by
  unfold Connection.readEnds
  split
  · split
    · exact h.close
    · exact h
  · exact h

/-- `ReadFull` reads on within the request. -/
theorem Ok.read_part (h : c.Ok t o) {buf : List Byte} (hthread : c.thread = .reading buf)
    {count : ℕ} (hlt : (buf ++ c.toDaemon.unread.take count).length < requestSize) :
    ({ c with
        toDaemon := c.toDaemon.take count
        thread := afterRead t o (buf ++ c.toDaemon.unread.take count) } : Connection).Ok t o := by
  obtain ⟨hrest, hwritten⟩ := (ok_reading hthread).mp h
  have hnext : afterRead t o (buf ++ c.toDaemon.unread.take count) =
      .reading (buf ++ c.toDaemon.unread.take count) := if_pos hlt
  rw [← hrest, List.length_append] at hlt
  refine (ok_reading hnext).mpr ⟨?_, ?_⟩
  · rw [Pipe.read_take, Pipe.rest, Pipe.cut_append_of_lt hlt, hrest]
  · rw [Pipe.read_take, answers_append_of_lt hlt, hwritten]

/-- `ReadFull` reads to the end of the request; then its response is the only thing left. -/
theorem Ok.read_end (h : c.Ok t o) {buf : List Byte} (hthread : c.thread = .reading buf)
    {count : ℕ} (hgot : c.toDaemon.unread.take count ≠ [])
    (hfull : (buf ++ c.toDaemon.unread.take count).length = requestSize) :
    ({ c with
        toDaemon := c.toDaemon.take count
        thread := afterRead t o (buf ++ c.toDaemon.unread.take count) } : Connection).Ok t o := by
  obtain ⟨hrest, hwritten⟩ := (ok_reading hthread).mp h
  have hnot : ¬ (buf ++ c.toDaemon.unread.take count).length < requestSize :=
    hfull ▸ lt_irrefl _
  have heq : (Pipe.rest requestSize c.toDaemon.read).length +
      (c.toDaemon.unread.take count).length = requestSize := by
    rw [hrest, ← List.length_append, hfull]
  have hanswers := answers_append_of_eq (t := t) (o := o) hgot heq
  rw [hrest] at hanswers
  cases hresp : respond t o (buf ++ c.toDaemon.unread.take count) with
  | some resp =>
    have hnext : afterRead t o (buf ++ c.toDaemon.unread.take count) = .writing resp := by
      rw [afterRead, if_neg hnot, hresp]
    rw [hresp, Option.getD_some] at hanswers
    refine (ok_writing hnext).mpr ⟨?_, ?_, ?_⟩
    · rw [Pipe.read_take, Pipe.rest, Pipe.cut_append_of_eq hgot heq]
    · rintro rfl
      exact absurd (length_of_respond hresp) (by decide)
    · rw [Pipe.read_take, hanswers, hwritten]
  | none =>
    have hnext : afterRead t o (buf ++ c.toDaemon.unread.take count) = .undefined := by
      rw [afterRead, if_neg hnot, hresp]
    rw [hresp, Option.getD_none, List.append_nil] at hanswers
    refine (ok_undefined hnext).mpr ⟨?_, _, hfull, hresp⟩
    rw [Pipe.read_take, hanswers, hwritten]

theorem Ok.read (h : c.Ok t o) (n : ℕ) : (c.read t o n).Ok t o := by
  unfold Connection.read
  split
  · rename_i buf hthread
    simp only
    split
    · exact h
    · rename_i hgot
      by_cases hlt : (buf ++ c.toDaemon.unread.take (min n (requestSize - buf.length))).length <
          requestSize
      · exact h.read_part hthread hlt
      · apply h.read_end hthread hgot
        have hbuf : buf.length < requestSize :=
          ((ok_reading hthread).mp h).1 ▸ Pipe.length_rest_lt (by decide) _
        have htake := List.length_take_le (min n (requestSize - buf.length)) c.toDaemon.unread
        have hmin := min_le_right n (requestSize - buf.length)
        rw [List.length_append] at hlt ⊢
        omega
  · exact h

theorem Ok.write (h : c.Ok t o) (n : ℕ) : (c.write n).Ok t o := by
  unfold Connection.write
  split
  · rename_i left hthread
    split
    · exact h
    · obtain ⟨hrest, -, hwritten⟩ := (ok_writing hthread).mp h
      have hsplit : c.toClient.written ++ left.take n ++ left.drop n =
          answers t o c.toDaemon.read := by
        rw [List.append_assoc, List.take_append_drop, hwritten]
      by_cases hdone : left.drop n = []
      · rw [hdone, List.append_nil] at hsplit
        refine (ok_reading (if_pos hdone)).mpr ⟨hrest, ?_⟩
        rw [Pipe.written_push, hsplit]
      · refine (ok_writing (if_neg hdone)).mpr ⟨hrest, hdone, ?_⟩
        rw [Pipe.written_push, hsplit]
  · exact h

end Connection

/-! ## What an event does -/

/-- What an event does to one connection, as long as the process does not end. -/
def ServerEvent.onConn (t : Tables) (o : ByteOrder) (id : ℕ) (c : Connection) :
    ServerEvent → Connection
  | .send i bytes => if i = id then c.send bytes else c
  | .receive i n => if i = id then c.receive n else c
  | .hangUp i => if i = id then c.hangUp else c
  | .read i n => if i = id then c.read t o n else c
  | .readEnds i => if i = id then c.readEnds else c
  | .write i n => if i = id then c.write n else c
  | .connect | .interrupt => c

/-- What an event does to a connection keeps it sound. -/
theorem Connection.Ok.onConn (h : c.Ok t o) (e : ServerEvent) (id : ℕ) :
    (e.onConn t o id c).Ok t o := by
  have hite : ∀ i c', c'.Ok t o → (if i = id then c' else c).Ok t o := by
    intro i c' hc'
    split
    · exact hc'
    · exact h
  cases e with
  | connect | interrupt => exact h
  | send i bytes => exact hite i _ (h.send bytes)
  | receive i n => exact hite i _ (h.receive n)
  | hangUp i => exact hite i _ h.hangUp
  | read i n => exact hite i _ (h.read n)
  | readEnds i => exact hite i _ h.readEnds
  | write i n => exact hite i _ (h.write n)

namespace Server

variable {s : Server} {e : ServerEvent}

/-- A thread writes to a client that has hung up. -/
def Kills (s : Server) (e : ServerEvent) : Prop :=
  ∃ id n c, e = .write id n ∧ s.conns[id]? = some c ∧ c.isWriting = true ∧ c.hungUp = true

/-- The connections of the process are sound. -/
def ConnsOk (t : Tables) (o : ByteOrder) (s : Server) : Prop := ∀ c ∈ s.conns, c.Ok t o

theorem step_of_kills (h : s.Kills e) : s.step t o e = s.stop .killed := by
  obtain ⟨id, n, c, rfl, hc, hwriting, hhungUp⟩ := h
  simp [step, write, hc, hwriting, hhungUp]

theorem write_of_not_kills {id n : ℕ} (h : ¬ s.Kills (.write id n)) :
    s.write id n = s.update id fun c => c.write n := by
  unfold write
  cases hc : s.conns[id]? with
  | none =>
    have hlen : s.conns.length ≤ id := List.getElem?_eq_none_iff.mp hc
    simp [update, List.modify_eq_self, hlen]
  | some c =>
    have hnot : (c.isWriting && c.hungUp) = false := by
      rw [← Bool.not_eq_true, Bool.and_eq_true]
      rintro ⟨hwriting, hhungUp⟩
      exact h ⟨id, n, c, rfl, hc, hwriting, hhungUp⟩
    simp [hnot]

theorem getElem?_conns_update (id i : ℕ) (f : Connection → Connection) :
    (s.update i f).conns[id]? = s.conns[id]?.map fun c => if i = id then f c else c :=
  List.getElem?_modify ..

theorem getElem?_conns_stop (id : ℕ) (p : Process) :
    (s.stop p).conns[id]? = s.conns[id]?.map fun c => { c with thread := .closed } :=
  List.getElem?_map ..

/-- An event that neither connects nor ends the process works on each connection alone. -/
theorem getElem?_conns_step (hkills : ¬ s.Kills e) (hconnect : e ≠ .connect)
    (hinterrupt : e ≠ .interrupt) (id : ℕ) :
    (s.step t o e).conns[id]? = s.conns[id]?.map (e.onConn t o id) := by
  cases e with
  | connect => exact absurd rfl hconnect
  | interrupt => exact absurd rfl hinterrupt
  | write i n =>
    rw [step, write_of_not_kills hkills]
    exact getElem?_conns_update ..
  | send | receive | hangUp | read | readEnds => exact getElem?_conns_update ..

/-- Only a signal and a write to a client that has hung up change the state of the process. -/
theorem process_step (hkills : ¬ s.Kills e) (hinterrupt : e ≠ .interrupt) :
    (s.step t o e).process = s.process := by
  cases e with
  | interrupt => exact absurd rfl hinterrupt
  | connect =>
    change s.accept.process = _
    unfold accept
    split <;> rfl
  | write i n =>
    rw [step, write_of_not_kills hkills]
    rfl
  | send | receive | hangUp | read | readEnds => rfl

/-- What becomes of a connection while the process runs. -/
theorem conn_step_of_not_kills {id : ℕ} {c : Connection} (hc : s.conns[id]? = some c)
    (hkills : ¬ s.Kills e) (hinterrupt : e ≠ .interrupt) :
    (s.step t o e).conns[id]? = some (e.onConn t o id c) := by
  by_cases hconnect : e = .connect
  · subst hconnect
    change s.accept.conns[id]? = some c
    unfold accept
    split
    · rw [List.getElem?_append_left (List.getElem?_eq_some_iff.mp hc).1, hc]
    · exact hc
  · rw [getElem?_conns_step hkills hconnect hinterrupt, hc]
    rfl

/-- **What becomes of a connection**: its thread is ended with the process, or the event does to it
what it does to connections. -/
theorem conn_step {id : ℕ} {c : Connection} (hc : s.conns[id]? = some c) (e : ServerEvent) :
    (s.step t o e).conns[id]? = some { c with thread := .closed } ∨
      (s.step t o e).conns[id]? = some (e.onConn t o id c) := by
  by_cases hkills : s.Kills e
  · left
    rw [step_of_kills hkills, getElem?_conns_stop, hc]
    rfl
  · by_cases hinterrupt : e = .interrupt
    · subst hinterrupt
      change s.interrupt.conns[id]? = _ ∨ s.interrupt.conns[id]? = some c
      unfold interrupt
      split
      · left
        rw [getElem?_conns_stop, hc]
        rfl
      · exact .inr hc
    · exact .inr (conn_step_of_not_kills hc hkills hinterrupt)

/-- Connections stay, also after their end. -/
theorem length_conns_le_step (s : Server) (e : ServerEvent) :
    s.conns.length ≤ (s.step t o e).conns.length := by
  by_contra hlt
  obtain ⟨c, hc⟩ : ∃ c, s.conns[(s.step t o e).conns.length]? = some c :=
    ⟨_, List.getElem?_eq_getElem (not_le.mp hlt)⟩
  have hnone : (s.step t o e).conns[(s.step t o e).conns.length]? = none :=
    List.getElem?_eq_none (le_refl _)
  rcases conn_step (t := t) (o := o) hc e with hstep | hstep
  · rw [hstep] at hnone
    cases hnone
  · rw [hstep] at hnone
    cases hnone

/-- Where the connections after an event come from. -/
theorem of_getElem?_conns_step {id : ℕ} {c' : Connection}
    (hc' : (s.step t o e).conns[id]? = some c') :
    (∃ c, s.conns[id]? = some c) ∨
      s.process = .running ∧ id = s.conns.length ∧ c' = Connection.new := by
  cases hc : s.conns[id]? with
  | some c => exact .inl ⟨c, rfl⟩
  | none =>
    right
    by_cases hconnect : e = .connect
    · subst hconnect
      change s.accept.conns[id]? = some c' at hc'
      unfold accept at hc'
      split at hc'
      · rename_i hrunning
        have hlen : s.conns.length ≤ id := List.getElem?_eq_none_iff.mp hc
        rw [List.getElem?_append_right hlen, List.getElem?_singleton] at hc'
        split at hc'
        · exact ⟨hrunning, by omega, (Option.some.inj hc').symm⟩
        · cases hc'
      · rw [hc] at hc'
        cases hc'
    · exfalso
      by_cases hkills : s.Kills e
      · rw [step_of_kills hkills, getElem?_conns_stop, hc] at hc'
        cases hc'
      · by_cases hinterrupt : e = .interrupt
        · subst hinterrupt
          change s.interrupt.conns[id]? = some c' at hc'
          unfold interrupt at hc'
          split at hc'
          · rw [getElem?_conns_stop, hc] at hc'
            cases hc'
          · rw [hc] at hc'
            cases hc'
        · rw [getElem?_conns_step hkills hconnect hinterrupt, hc] at hc'
          cases hc'

/-- **Every event keeps the connections sound.** -/
theorem ConnsOk.step (h : s.ConnsOk t o) (e : ServerEvent) : (s.step t o e).ConnsOk t o := by
  intro c' hmem
  obtain ⟨id, hc'⟩ := List.mem_iff_getElem?.mp hmem
  rcases of_getElem?_conns_step hc' with ⟨c, hc⟩ | ⟨-, -, rfl⟩
  · have hok := h c (List.mem_of_getElem? hc)
    rcases conn_step (t := t) (o := o) hc e with hstep | hstep
    · obtain rfl := Option.some.inj (hstep.symm.trans hc')
      exact hok.close
    · obtain rfl := Option.some.inj (hstep.symm.trans hc')
      exact hok.onConn e id
  · exact Connection.ok_new

end Server

end ZoneSegmentation
