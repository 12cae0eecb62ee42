import ZoneSegmentation.Daemon.Server

/-!
# One client and the others

The daemon serves every client from a thread of its own, but all threads share one process, and a
thread that writes to a client that has hung up ends it. As long as that does not happen, hanging up
ends nothing but the client's own thread, and the others are served: whatever a client is sent
answers its complete requests, and after enough turns of its thread all of them are answered.

## Main definitions

* `owed`: the bytes a thread has yet to read and to write for some requests
* `takesTurn`, `turns`: the steps in which a thread reads or writes something
* `Isolated`: what an event must not do to the clients of the daemon

## Main results

* `owed_step`: every turn of its thread brings a client closer to its answers, and nothing takes it
  away from them
* `isolated_iff_not_kills`: an event keeps the clients apart exactly when it does not write to a
  client that has hung up
* `daemon_isolates_clients_iff`: the same, along runs
* `daemon_isolates_clients_fails`: a client that hangs up early takes the daemon from another
-/

namespace ZoneSegmentation

variable (t : Tables) (o : ByteOrder)

/-! ## Turns -/

/-- The thread that makes a step. -/
def ServerEvent.threadOf : ServerEvent → Option ℕ
  | .read id _ | .write id _ => some id
  | _ => none

/-- The thread of a connection reads or writes something. -/
def takesTurn (id : ℕ) (s : Server) (e : ServerEvent) : Bool :=
  e.threadOf = some id && (s.step t o e).conns[id]? ≠ s.conns[id]?

/-- The turns of a thread in a run. -/
def turns (id : ℕ) (s : Server) (es : List ServerEvent) : ℕ :=
  (Run.observed (serve t o) (fun s e => if takesTurn t o id s e then [e] else []) s es).length

/-- What is still to be done for the complete requests among `bytes`: the bytes to read and the
bytes to write. -/
def owed (bytes : List Byte) (c : Connection) : ℕ :=
  (requestSize * (Pipe.blocks requestSize bytes).length - c.toDaemon.read.length) +
    ((answers t o bytes).length - c.toClient.written.length)

/-- The decision is defined on every request. -/
def Defined : Prop := ∀ buf, respond t o buf ≠ none

/-- The thread that calls `write`. -/
def ServerEvent.writer : ServerEvent → Option ℕ
  | .write id _ => some id
  | _ => none

theorem Server.kills_iff {s : Server} {e : ServerEvent} : s.Kills e ↔
    (e.writer.bind fun id => s.conns[id]?).any (fun c => c.isWriting && c.hungUp) = true := by
  rw [Option.any_eq_true]
  constructor
  · rintro ⟨id, n, c, rfl, hc, hwriting, hhungUp⟩
    exact ⟨c, hc, by rw [hwriting, hhungUp]; rfl⟩
  · rintro ⟨c, hc, hboth⟩
    rw [Bool.and_eq_true] at hboth
    cases e with
    | write id n => exact ⟨id, n, c, rfl, hc, hboth.1, hboth.2⟩
    | _ => cases hc

instance (s : Server) (e : ServerEvent) : Decidable (s.Kills e) :=
  decidable_of_iff _ Server.kills_iff.symm

/-! ## Isolation -/

/-- A client that stays connected is served: whatever else happens, as long as no thread writes to a
client that has hung up and no signal arrives, its complete requests are answered after the turns
that are owed to it, and its thread can take them. -/
structure Served (s : Server) (id : ℕ) (c : Connection) : Prop where
  answered : ∀ es, Run.Always (serve t o) (fun s e => ¬ s.Kills e) s es → .interrupt ∉ es →
    .hangUp id ∉ es → owed t o c.toDaemon.written c ≤ turns t o id s es →
    ∃ c', (Run.final (serve t o) s es).conns[id]? = some c' ∧
      answers t o c.toDaemon.written <+: c'.toClient.written
  can_turn : owed t o c.toDaemon.written c ≠ 0 →
    ∃ e, takesTurn t o id s e = true ∧ ¬ s.Kills e

/-- What an event must not do to the clients of the daemon. -/
structure Isolated (s : Server) (e : ServerEvent) : Prop where
  /-- The process only stops at a signal. -/
  running : s.process = .running → e ≠ .interrupt → (s.step t o e).process = .running
  /-- A thread only ends when its own client has hung up. -/
  ends_own : ∀ id c c', s.conns[id]? = some c → (s.step t o e).conns[id]? = some c' →
    c.thread ≠ .closed → c'.thread = .closed → e ≠ .interrupt → e = .readEnds id ∧ c.hungUp = true
  /-- A client is sent nothing but the answers to its complete requests. -/
  answers_only : ∀ c' ∈ (s.step t o e).conns,
    c'.toClient.written <+: answers t o c'.toDaemon.written
  /-- While the process runs, a client that stays connected is served. -/
  served : (s.step t o e).process = .running → ∀ id c',
    (s.step t o e).conns[id]? = some c' → c'.hungUp = false → Served t o (s.step t o e) id c'

/-! ## What a turn is good for -/

variable {t o} {c : Connection} {bytes : List Byte}

/-- A thread that has read past the complete requests among `bytes`, and answered what it read, owes
nothing for them. -/
theorem owed_eq_zero (hbytes : bytes <+: c.toDaemon.written)
    (hread : (Pipe.blocks requestSize bytes).length ≤
      (Pipe.blocks requestSize c.toDaemon.read).length)
    (hwritten : answers t o c.toDaemon.read <+: c.toClient.written) : owed t o bytes c = 0 := by
  have hblocks : Pipe.blocks requestSize bytes <+: Pipe.blocks requestSize c.toDaemon.read :=
    List.prefix_of_prefix_length_le (Pipe.blocks_mono hbytes)
      (Pipe.blocks_mono c.toDaemon.read_prefix_written) hread
  have hanswers : answers t o bytes <+: answers t o c.toDaemon.read := by
    obtain ⟨more, hmore⟩ := hblocks
    rw [answers, answers, ← hmore, List.flatMap_append]
    exact List.prefix_append ..
  have hlen := (hanswers.trans hwritten).length_le
  have hsize := Pipe.length_blocks_add requestSize c.toDaemon.read
  have hmul := Nat.mul_le_mul_left requestSize hread
  unfold owed
  omega

/-- A thread that reads while something is owed has not read all of it. -/
theorem read_lt_of_owed {buf : List Byte} (hok : c.Ok t o) (hthread : c.thread = .reading buf)
    (hbytes : bytes <+: c.toDaemon.written) (howed : owed t o bytes c ≠ 0) :
    c.toDaemon.read.length < requestSize * (Pipe.blocks requestSize bytes).length := by
  obtain ⟨hrest, hwritten⟩ := (Connection.ok_reading hthread).mp hok
  have hlt := Pipe.length_rest_lt (k := requestSize) (by decide) c.toDaemon.read
  have hsize := Pipe.length_blocks_add requestSize c.toDaemon.read
  have hblocks : (Pipe.blocks requestSize c.toDaemon.read).length + 1 ≤
      (Pipe.blocks requestSize bytes).length := by
    by_contra hnot
    exact howed (owed_eq_zero hbytes (by omega) (by rw [hwritten]))
  have hmul := Nat.mul_le_mul_left requestSize hblocks
  rw [Nat.mul_succ] at hmul
  omega

/-- A thread that writes while something is owed has not written all of it. -/
theorem written_lt_of_owed {left : List Byte} (hok : c.Ok t o) (hthread : c.thread = .writing left)
    (hbytes : bytes <+: c.toDaemon.written) (howed : owed t o bytes c ≠ 0) :
    c.toClient.written.length < (answers t o bytes).length := by
  obtain ⟨hrest, hleft, hwritten⟩ := (Connection.ok_writing hthread).mp hok
  have hsize := Pipe.length_blocks_add requestSize c.toDaemon.read
  have hlen := congrArg List.length hwritten
  rw [List.length_append] at hlen
  have hpos := List.length_pos_iff.mpr hleft
  rcases Nat.le_total (Pipe.blocks requestSize bytes).length
    (Pipe.blocks requestSize c.toDaemon.read).length with hle | hle
  · have hmul := Nat.mul_le_mul_left requestSize hle
    unfold owed at howed
    omega
  · have hblocks : Pipe.blocks requestSize c.toDaemon.read <+: Pipe.blocks requestSize bytes :=
      List.prefix_of_prefix_length_le (Pipe.blocks_mono c.toDaemon.read_prefix_written)
        (Pipe.blocks_mono hbytes) hle
    have hanswers : (answers t o c.toDaemon.read).length ≤ (answers t o bytes).length := by
      obtain ⟨more, hmore⟩ := hblocks
      rw [answers, answers, ← hmore, List.flatMap_append, List.length_append]
      exact Nat.le_add_right ..
    omega

/-! ## What a step does to what is owed -/

theorem afterRead_ne_closed (buf : List Byte) : Connection.afterRead t o buf ≠ .closed := by
  unfold Connection.afterRead
  split
  · simp
  · split <;> simp

/-- A read that does something was made by a thread in `ReadFull`, and takes bytes. -/
theorem read_changed {n : ℕ} (hread : c.read t o n ≠ c) : ∃ buf, c.thread = .reading buf ∧
    (c.read t o n).toClient = c.toClient ∧ (c.read t o n).hungUp = c.hungUp ∧
    (c.read t o n).toDaemon.written = c.toDaemon.written ∧ (c.read t o n).thread ≠ .closed ∧
    c.toDaemon.read.length < (c.read t o n).toDaemon.read.length := by
  unfold Connection.read at hread ⊢
  split at hread
  · rename_i buf hthread
    simp only at hread ⊢
    split at hread
    · exact absurd rfl hread
    · rename_i hgot
      refine ⟨buf, hthread, ?_⟩
      rw [if_neg hgot]
      refine ⟨rfl, rfl, Pipe.written_take .., afterRead_ne_closed _, ?_⟩
      rw [Pipe.read_take, List.length_append]
      have := List.length_pos_iff.mpr hgot
      omega
  · exact absurd rfl hread

/-- A write that does something was made by a thread in `WriteFull`, and adds bytes. -/
theorem write_changed {n : ℕ} (hwrite : c.write n ≠ c) : ∃ left, c.thread = .writing left ∧
    (c.write n).toDaemon = c.toDaemon ∧ (c.write n).hungUp = c.hungUp ∧
    (c.write n).thread ≠ .closed ∧
    c.toClient.written.length < (c.write n).toClient.written.length := by
  unfold Connection.write at hwrite ⊢
  split at hwrite
  · rename_i left hthread
    split at hwrite
    · exact absurd rfl hwrite
    · rename_i hsome
      refine ⟨left, hthread, ?_⟩
      rw [if_neg hsome]
      refine ⟨rfl, rfl, ?_, ?_⟩
      · simp only
        split <;> simp
      · rw [Pipe.written_push, List.length_append]
        have := List.length_pos_iff.mpr hsome
        omega
  · exact absurd rfl hwrite

@[simp] theorem thread_send (bytes : List Byte) : (c.send bytes).thread = c.thread := by
  unfold Connection.send
  split <;> rfl

@[simp] theorem hungUp_send (bytes : List Byte) : (c.send bytes).hungUp = c.hungUp := by
  unfold Connection.send
  split <;> rfl

@[simp] theorem thread_receive (n : ℕ) : (c.receive n).thread = c.thread := by
  unfold Connection.receive
  split <;> rfl

@[simp] theorem hungUp_receive (n : ℕ) : (c.receive n).hungUp = c.hungUp := by
  unfold Connection.receive
  split <;> rfl

/-- `ReadFull` only ends when the client has closed its end. -/
theorem readEnds_changed (h : c.readEnds ≠ c) :
    c.hungUp = true ∧ c.readEnds.hungUp = true ∧ c.readEnds.thread = .closed := by
  unfold Connection.readEnds at h ⊢
  split at h
  · split at h
    · rename_i hhungUp
      rw [if_pos hhungUp]
      exact ⟨hhungUp, hhungUp, rfl⟩
    · exact absurd rfl h
  · exact absurd rfl h

/-- A thread that has ended takes no turn. -/
theorem onConn_of_closed (h : c.thread = .closed) (e : ServerEvent) (id : ℕ) :
    (e.onConn t o id c).thread = .closed := by
  have hread : ∀ n, c.read t o n = c := by
    intro n
    by_contra hne
    obtain ⟨buf, hthread, -⟩ := read_changed hne
    rw [h] at hthread
    cases hthread
  have hwrite : ∀ n, c.write n = c := by
    intro n
    by_contra hne
    obtain ⟨left, hthread, -⟩ := write_changed hne
    rw [h] at hthread
    cases hthread
  have hreadEnds : c.readEnds.thread = .closed := by
    by_cases heq : c.readEnds = c
    · rw [heq, h]
    · exact (readEnds_changed heq).2.2
  cases e <;> simp only [ServerEvent.onConn, hread, hwrite, ite_self, h] <;> split <;>
    simp [h, hreadEnds, Connection.hangUp]

/-- **A thread ends only when its own client has hung up.** -/
theorem closed_of_onConn {e : ServerEvent} {id : ℕ} (h : (e.onConn t o id c).thread = .closed) :
    c.thread = .closed ∨ e = .readEnds id ∧ c.hungUp = true := by
  cases e with
  | connect | interrupt => exact .inl h
  | send i more | receive i n | hangUp i =>
    left
    simp only [ServerEvent.onConn] at h
    split at h
    · simpa [Connection.hangUp] using h
    · exact h
  | read i n =>
    left
    simp only [ServerEvent.onConn] at h
    split at h
    · by_cases heq : c.read t o n = c
      · rwa [heq] at h
      · obtain ⟨_, _, _, _, _, hne, _⟩ := read_changed heq
        exact absurd h hne
    · exact h
  | write i n =>
    left
    simp only [ServerEvent.onConn] at h
    split at h
    · by_cases heq : c.write n = c
      · rwa [heq] at h
      · obtain ⟨_, _, _, _, hne, _⟩ := write_changed heq
        exact absurd h hne
    · exact h
  | readEnds i =>
    simp only [ServerEvent.onConn] at h
    split at h
    · rename_i hi
      by_cases heq : c.readEnds = c
      · rw [heq] at h
        exact .inl h
      · exact .inr ⟨by rw [hi], (readEnds_changed heq).1⟩
    · exact .inl h

/-- A client that has hung up does not come back. -/
theorem hungUp_onConn (h : c.hungUp = true) (e : ServerEvent) (id : ℕ) :
    (e.onConn t o id c).hungUp = true := by
  have hread : ∀ n, (c.read t o n).hungUp = true := by
    intro n
    by_cases heq : c.read t o n = c
    · rw [heq, h]
    · obtain ⟨_, _, _, hhungUp, _⟩ := read_changed heq
      rw [hhungUp, h]
  have hwrite : ∀ n, (c.write n).hungUp = true := by
    intro n
    by_cases heq : c.write n = c
    · rw [heq, h]
    · obtain ⟨_, _, _, hhungUp, _⟩ := write_changed heq
      rw [hhungUp, h]
  have hreadEnds : c.readEnds.hungUp = true := by
    by_cases heq : c.readEnds = c
    · rw [heq, h]
    · exact (readEnds_changed heq).2.1
  cases e <;> simp only [ServerEvent.onConn, h] <;> split <;>
    simp [h, hread, hwrite, hreadEnds, Connection.hangUp]

theorem owed_congr {c' : Connection} (hread : c'.toDaemon.read = c.toDaemon.read)
    (hwritten : c'.toClient.written = c.toClient.written) :
    owed t o bytes c' = owed t o bytes c := by
  rw [owed, owed, hread, hwritten]

/-- A connection whose client stays, and whose thread goes on. -/
structure Connection.Open (c : Connection) : Prop where
  hungUp : c.hungUp = false
  thread : c.thread ≠ .closed

/-- While the client stays, `ReadFull` does not end. -/
theorem Connection.readEnds_of_open (h : c.hungUp = false) : c.readEnds = c := by
  unfold Connection.readEnds
  split
  · rw [if_neg (by simp [h])]
  · rfl

/-- What a client that stays keeps from its connection `c` to `c'`: it goes on, `bytes` stay sent,
and no more is owed for them. -/
structure Connection.Keeps (t : Tables) (o : ByteOrder) (bytes : List Byte)
    (c c' : Connection) : Prop where
  isOpen : c'.Open
  sent : bytes <+: c'.toDaemon.written
  le : owed t o bytes c' ≤ owed t o bytes c

theorem Connection.Keeps.refl (hopen : c.Open) (hbytes : bytes <+: c.toDaemon.written) :
    c.Keeps t o bytes c :=
  ⟨hopen, hbytes, le_refl _⟩

/-- What the client sends is no less than before, and its thread is where it was. -/
theorem keeps_send (hopen : c.Open) (hbytes : bytes <+: c.toDaemon.written) (more : List Byte) :
    c.Keeps t o bytes (c.send more) := by
  rw [Connection.send, if_neg (by simp [hopen.hungUp])]
  refine ⟨⟨hopen.hungUp, hopen.thread⟩, ?_, le_of_eq (owed_congr rfl rfl)⟩
  rw [Pipe.written_push]
  exact hbytes.trans (List.prefix_append ..)

/-- What the client takes from its socket counts as written to it all the same. -/
theorem keeps_receive (hopen : c.Open) (hbytes : bytes <+: c.toDaemon.written) (n : ℕ) :
    c.Keeps t o bytes (c.receive n) := by
  rw [Connection.receive, if_neg (by simp [hopen.hungUp])]
  refine ⟨⟨hopen.hungUp, hopen.thread⟩, hbytes, le_of_eq ?_⟩
  exact owed_congr rfl (Pipe.written_take ..)

/-- A read pays what is owed. -/
theorem owed_read (hok : c.Ok t o) (hopen : c.Open) (hbytes : bytes <+: c.toDaemon.written)
    (n : ℕ) : c.Keeps t o bytes (c.read t o n) ∧
      (c.read t o n ≠ c → owed t o bytes (c.read t o n) ≤ owed t o bytes c - 1) := by
  by_cases heq : c.read t o n = c
  · rw [heq]
    exact ⟨.refl hopen hbytes, fun hne => absurd rfl hne⟩
  · obtain ⟨buf, hthread, hclient, hhungUp, hwritten, hne, hlt⟩ := read_changed heq
    have hpaid : owed t o bytes (c.read t o n) ≤ owed t o bytes c - 1 := by
      by_cases howed : owed t o bytes c = 0
      · unfold owed at howed ⊢
        rw [hclient]
        omega
      · have hleft := read_lt_of_owed hok hthread hbytes howed
        unfold owed
        rw [hclient]
        omega
    exact ⟨⟨⟨hhungUp.trans hopen.hungUp, hne⟩, hwritten ▸ hbytes, hpaid.trans (Nat.sub_le ..)⟩,
      fun _ => hpaid⟩

/-- A write pays what is owed. -/
theorem owed_write (hok : c.Ok t o) (hopen : c.Open) (hbytes : bytes <+: c.toDaemon.written)
    (n : ℕ) : c.Keeps t o bytes (c.write n) ∧
      (c.write n ≠ c → owed t o bytes (c.write n) ≤ owed t o bytes c - 1) := by
  by_cases heq : c.write n = c
  · rw [heq]
    exact ⟨.refl hopen hbytes, fun hne => absurd rfl hne⟩
  · obtain ⟨left, hthread, hdaemon, hhungUp, hne, hlt⟩ := write_changed heq
    have hpaid : owed t o bytes (c.write n) ≤ owed t o bytes c - 1 := by
      by_cases howed : owed t o bytes c = 0
      · unfold owed at howed ⊢
        rw [hdaemon]
        omega
      · have hleft := written_lt_of_owed hok hthread hbytes howed
        unfold owed
        rw [hdaemon]
        omega
    exact ⟨⟨⟨hhungUp.trans hopen.hungUp, hne⟩, hdaemon ▸ hbytes, hpaid.trans (Nat.sub_le ..)⟩,
      fun _ => hpaid⟩

/-- **A client that stays keeps what it has**, whatever happens to its connection, and when its
thread changes something, that pays what is owed. -/
theorem owed_onConn (hok : c.Ok t o) (hopen : c.Open) (hbytes : bytes <+: c.toDaemon.written)
    {e : ServerEvent} {id : ℕ} (hstays : e ≠ .hangUp id) :
    c.Keeps t o bytes (e.onConn t o id c) ∧
      (e.threadOf = some id → e.onConn t o id c ≠ c →
        owed t o bytes (e.onConn t o id c) ≤ owed t o bytes c - 1) := by
  have hsame : e.onConn t o id c = c → c.Keeps t o bytes (e.onConn t o id c) ∧
      (e.threadOf = some id → e.onConn t o id c ≠ c →
        owed t o bytes (e.onConn t o id c) ≤ owed t o bytes c - 1) := by
    intro h
    rw [h]
    exact ⟨.refl hopen hbytes, fun _ hne => absurd rfl hne⟩
  cases e with
  | connect | interrupt => exact hsame rfl
  | hangUp i =>
    refine hsame (if_neg ?_)
    rintro rfl
    exact hstays rfl
  | readEnds i =>
    apply hsame
    rw [ServerEvent.onConn, Connection.readEnds_of_open hopen.hungUp, ite_self]
  | send i more =>
    by_cases hi : i = id
    · rw [ServerEvent.onConn, if_pos hi]
      exact ⟨keeps_send hopen hbytes more, fun hthread => by cases hthread⟩
    · exact hsame (if_neg hi)
  | receive i n =>
    by_cases hi : i = id
    · rw [ServerEvent.onConn, if_pos hi]
      exact ⟨keeps_receive hopen hbytes n, fun hthread => by cases hthread⟩
    · exact hsame (if_neg hi)
  | read i n =>
    by_cases hi : i = id
    · rw [ServerEvent.onConn, if_pos hi]
      exact ⟨(owed_read hok hopen hbytes n).1, fun _ => (owed_read hok hopen hbytes n).2⟩
    · exact hsame (if_neg hi)
  | write i n =>
    by_cases hi : i = id
    · rw [ServerEvent.onConn, if_pos hi]
      exact ⟨(owed_write hok hopen hbytes n).1, fun _ => (owed_write hok hopen hbytes n).2⟩
    · exact hsame (if_neg hi)

/-- **A turn of its thread brings a client closer to its answers**, and no other event takes it away
from them. -/
theorem owed_step {s : Server} {id : ℕ} {e : ServerEvent} (hs : s.ConnsOk t o)
    (hc : s.conns[id]? = some c) (hopen : c.Open) (hbytes : bytes <+: c.toDaemon.written)
    (hkills : ¬ s.Kills e) (hinterrupt : e ≠ .interrupt) (hstays : e ≠ .hangUp id) :
    ∃ c', (s.step t o e).conns[id]? = some c' ∧ c'.Open ∧ bytes <+: c'.toDaemon.written ∧
      owed t o bytes c' ≤ owed t o bytes c - (if takesTurn t o id s e then 1 else 0) := by
  have hstep := Server.conn_step_of_not_kills (t := t) (o := o) hc hkills hinterrupt
  obtain ⟨hkeeps, hpays⟩ :=
    owed_onConn (hs c (List.mem_of_getElem? hc)) hopen hbytes hstays
  refine ⟨_, hstep, hkeeps.isOpen, hkeeps.sent, ?_⟩
  split
  · rename_i hturn
    simp only [takesTurn, hstep, hc, Bool.and_eq_true, decide_eq_true_eq, ne_eq,
      Option.some.injEq] at hturn
    exact hpays hturn.1 hturn.2
  · exact hkeeps.le

/-! ## Runs -/

/-- Along a run a client that stays is brought closer to its answers with every turn of its
thread. -/
theorem owed_final {s : Server} {id : ℕ} {es : List ServerEvent} (hs : s.ConnsOk t o)
    (hc : s.conns[id]? = some c) (hopen : c.Open) (hbytes : bytes <+: c.toDaemon.written)
    (hkills : Run.Always (serve t o) (fun s e => ¬ s.Kills e) s es) (hinterrupt : .interrupt ∉ es)
    (hstays : .hangUp id ∉ es) :
    ∃ c', (Run.final (serve t o) s es).conns[id]? = some c' ∧ c'.Ok t o ∧
      bytes <+: c'.toDaemon.written ∧ owed t o bytes c' ≤ owed t o bytes c - turns t o id s es := by
  induction es generalizing s c with
  | nil => exact ⟨c, hc, hs c (List.mem_of_getElem? hc), hbytes, le_refl _⟩
  | cons e es ih =>
    rw [List.mem_cons, not_or] at hinterrupt hstays
    obtain ⟨c₁, hc₁, hopen₁, hbytes₁, howed₁⟩ := owed_step hs hc hopen hbytes hkills.1
      (Ne.symm hinterrupt.1) (Ne.symm hstays.1)
    obtain ⟨c', hc', hok', hbytes', howed'⟩ :=
      ih (hs.step e) hc₁ hopen₁ hbytes₁ hkills.2 hinterrupt.2 hstays.2
    refine ⟨c', hc', hok', hbytes', ?_⟩
    have hturns : turns t o id s (e :: es) =
        (if takesTurn t o id s e then 1 else 0) + turns t o id (s.step t o e) es := by
      rw [turns, Run.observed, List.length_append]
      split <;> rfl
    omega

/-- Who is owed nothing was answered. -/
theorem answers_prefix_of_owed (hok : c.Ok t o) (hbytes : bytes <+: c.toDaemon.written)
    (howed : owed t o bytes c = 0) : answers t o bytes <+: c.toClient.written := by
  apply List.prefix_of_prefix_length_le (answers_mono hbytes) hok.written_answers
  unfold owed at howed
  omega

/-- A thread that is owed bytes of a request finds some that the client sent. -/
theorem unread_ne_nil_of_owed {buf : List Byte} (hok : c.Ok t o) (hthread : c.thread = .reading buf)
    (howed : owed t o c.toDaemon.written c ≠ 0) : c.toDaemon.unread ≠ [] := by
  have hlt := read_lt_of_owed hok hthread (List.prefix_refl _) howed
  have hsize := Pipe.length_blocks_add requestSize c.toDaemon.written
  intro h
  have hwritten : c.toDaemon.written = c.toDaemon.read := by
    rw [Pipe.written, h, List.append_nil]
  rw [hwritten] at hlt hsize
  omega

/-- A thread in `ReadFull` can read a byte that was sent. -/
theorem read_one_ne {buf : List Byte} (hthread : c.thread = .reading buf)
    (hbuf : buf.length < requestSize) (hunread : c.toDaemon.unread ≠ []) : c.read t o 1 ≠ c := by
  have hcount : min 1 (requestSize - buf.length) = 1 := by omega
  have hgot : c.toDaemon.unread.take 1 ≠ [] := by simpa using hunread
  intro heq
  have hread := congrArg (fun d => d.toDaemon.read.length) heq
  simp only [Connection.read, hthread, hcount, if_neg hgot, Pipe.read_take,
    List.length_append] at hread
  have := List.length_pos_iff.mpr hgot
  omega

/-- A thread in `WriteFull` can write a byte that is left. -/
theorem write_one_ne {left : List Byte} (hthread : c.thread = .writing left) (hleft : left ≠ []) :
    c.write 1 ≠ c := by
  have hsome : left.take 1 ≠ [] := by simpa using hleft
  intro heq
  have hwritten := congrArg (fun d => d.toClient.written.length) heq
  simp only [Connection.write, hthread, if_neg hsome, Pipe.written_push,
    List.length_append] at hwritten
  have := List.length_pos_iff.mpr hsome
  omega

/-- Whoever is owed something has a thread that can take a turn: it reads what the client sent, or
writes what it has decided. -/
theorem exists_turn {s : Server} {id : ℕ} (hdef : Defined t o) (hs : s.ConnsOk t o)
    (hc : s.conns[id]? = some c) (hopen : c.Open) (howed : owed t o c.toDaemon.written c ≠ 0) :
    ∃ e, takesTurn t o id s e = true ∧ ¬ s.Kills e := by
  have hok := hs c (List.mem_of_getElem? hc)
  -- only a write to a client that has hung up ends the daemon, and this one has not
  have hnot : ∀ e : ServerEvent, (∀ i n, e = .write i n → i = id) → ¬ s.Kills e := by
    rintro e he ⟨i, n, c', rfl, hc', -, hhungUp⟩
    obtain rfl := he i n rfl
    obtain rfl := Option.some.inj (hc.symm.trans hc')
    rw [hopen.hungUp] at hhungUp
    cases hhungUp
  have hturn : ∀ e : ServerEvent, e.threadOf = some id → e ≠ .interrupt → ¬ s.Kills e →
      e.onConn t o id c ≠ c → takesTurn t o id s e = true := by
    intro e hthread hinterrupt hkills hne
    have hstep := Server.conn_step_of_not_kills (t := t) (o := o) hc hkills hinterrupt
    simp [takesTurn, hthread, hstep, hc, hne]
  cases hthread : c.thread with
  | reading buf =>
    have hbuf : buf.length < requestSize :=
      ((Connection.ok_reading hthread).mp hok).1 ▸ Pipe.length_rest_lt (by decide) _
    have hne := read_one_ne (t := t) (o := o) hthread hbuf
      (unread_ne_nil_of_owed hok hthread howed)
    refine ⟨.read id 1, ?_, hnot _ (by simp)⟩
    exact hturn _ rfl (by simp) (hnot _ (by simp)) (by simpa [ServerEvent.onConn] using hne)
  | writing left =>
    obtain ⟨-, hleft, -⟩ := (Connection.ok_writing hthread).mp hok
    have hne := write_one_ne hthread hleft
    refine ⟨.write id 1, ?_, hnot _ (by simp)⟩
    exact hturn _ rfl (by simp) (hnot _ (by simp)) (by simpa [ServerEvent.onConn] using hne)
  | undefined =>
    obtain ⟨-, buf, -, hnone⟩ := (Connection.ok_undefined hthread).mp hok
    exact absurd hnone (hdef buf)
  | closed => exact absurd hthread hopen.thread

/-- The decision of a daemon that is built for a policy is defined. -/
theorem BuiltFor.defined {P : Policy} (ht : BuiltFor P t) : Defined t o := by
  intro buf
  obtain ⟨verdict, hanswer, -⟩ := ht.exists_answer
    (ntohl o (FilterRequest.ofBytes o buf).srcIp) (ntohl o (FilterRequest.ofBytes o buf).dstIp)
    (FilterRequest.ofBytes o buf).protocol
  simp [respond, hanswer]

/-! ## The process and its threads -/

/-- What holds of the process in every state reached: its connections are sound, a thread ends while
it runs only if the client has hung up, and none goes on after it. -/
structure Server.Ok (t : Tables) (o : ByteOrder) (s : Server) : Prop where
  conns : s.ConnsOk t o
  hungUp : s.process = .running → ∀ c ∈ s.conns, c.thread = .closed → c.hungUp = true
  ended : s.process ≠ .running → ∀ c ∈ s.conns, c.thread = .closed

namespace Server

variable {s : Server} {e : ServerEvent}

theorem ok_init : Server.init.Ok t o where
  conns := by simp [ConnsOk, init]
  hungUp := by simp [init]
  ended := by simp [init]

/-- The end of the process is the end of its threads. -/
theorem ok_stop (h : s.Ok t o) {p : Process} (hp : p ≠ .running) : (s.stop p).Ok t o where
  conns := by
    intro c hmem
    obtain ⟨c₀, hc₀, rfl⟩ := List.mem_map.mp hmem
    exact (h.conns c₀ hc₀).close
  hungUp := fun hrunning => absurd hrunning hp
  ended := by
    intro _ c hmem
    obtain ⟨c₀, -, rfl⟩ := List.mem_map.mp hmem
    rfl

theorem Ok.step (h : s.Ok t o) (e : ServerEvent) : (s.step t o e).Ok t o := by
  by_cases hkills : s.Kills e
  · rw [step_of_kills hkills]
    exact ok_stop h (by simp)
  · by_cases hinterrupt : e = .interrupt
    · subst hinterrupt
      change s.interrupt.Ok t o
      unfold interrupt
      split
      · exact ok_stop h (by simp)
      · exact h
    · have hprocess := process_step (t := t) (o := o) hkills hinterrupt
      refine ⟨h.conns.step e, ?_, ?_⟩
      · intro hrunning c' hmem hclosed
        rw [hprocess] at hrunning
        obtain ⟨id, hc'⟩ := List.mem_iff_getElem?.mp hmem
        -- a connection there was before has ended by its own client; a new one has not ended
        rcases of_getElem?_conns_step hc' with ⟨c, hc⟩ | ⟨-, -, rfl⟩
        · obtain rfl := Option.some.inj
            ((conn_step_of_not_kills hc hkills hinterrupt).symm.trans hc')
          rcases closed_of_onConn hclosed with hc₀ | ⟨-, hhungUp⟩
          · exact hungUp_onConn (h.hungUp hrunning c (List.mem_of_getElem? hc) hc₀) e id
          · exact hungUp_onConn hhungUp e id
        · cases hclosed
      · intro hstopped c' hmem
        rw [hprocess] at hstopped
        obtain ⟨id, hc'⟩ := List.mem_iff_getElem?.mp hmem
        rcases of_getElem?_conns_step hc' with ⟨c, hc⟩ | ⟨hrunning, -⟩
        · obtain rfl := Option.some.inj
            ((conn_step_of_not_kills hc hkills hinterrupt).symm.trans hc')
          exact onConn_of_closed (h.ended hstopped c (List.mem_of_getElem? hc)) e id
        · exact absurd hrunning hstopped

/-- Only a thread of a running process writes. -/
theorem Ok.running_of_kills (h : s.Ok t o) (hkills : s.Kills e) : s.process = .running := by
  obtain ⟨id, n, c, -, hc, hwriting, -⟩ := hkills
  by_contra hstopped
  have hclosed := h.ended hstopped c (List.mem_of_getElem? hc)
  simp [Connection.isWriting, hclosed] at hwriting

end Server

/-- **An event keeps the clients apart exactly when it does not write to a client that has hung
up.** -/
theorem isolated_iff_not_kills (hdef : Defined t o) {s : Server} (hs : s.Ok t o) (e : ServerEvent) :
    Isolated t o s e ↔ ¬ s.Kills e := by
  constructor
  · intro h hkills
    have hne : e ≠ .interrupt := by
      obtain ⟨id, n, c, rfl, -⟩ := hkills
      simp
    have hrunning := h.running (hs.running_of_kills hkills) hne
    rw [Server.step_of_kills hkills] at hrunning
    cases hrunning
  · intro hkills
    have hs' := hs.step e
    refine ⟨?_, ?_, fun c' hmem => (hs'.conns c' hmem).written_answers, ?_⟩
    · intro hrunning hinterrupt
      rw [Server.process_step hkills hinterrupt, hrunning]
    · intro id c c' hc hc' hopen hclosed hinterrupt
      obtain rfl := Option.some.inj
        ((Server.conn_step_of_not_kills hc hkills hinterrupt).symm.trans hc')
      rcases closed_of_onConn hclosed with hc₀ | h
      · exact absurd hc₀ hopen
      · exact h
    · intro hrunning id c' hc' hstays
      have hopen : c'.Open := by
        refine ⟨hstays, fun hclosed => ?_⟩
        have hhungUp := hs'.hungUp hrunning c' (List.mem_of_getElem? hc') hclosed
        rw [hstays] at hhungUp
        cases hhungUp
      refine ⟨?_, exists_turn hdef hs'.conns hc' hopen⟩
      intro es halways hinterrupt hid howed
      obtain ⟨c'', hc'', hok'', hbytes'', howed''⟩ :=
        owed_final hs'.conns hc' hopen (List.prefix_refl _) halways hinterrupt hid
      exact ⟨c'', hc'', answers_prefix_of_owed hok'' hbytes'' (by omega)⟩

/-- **The daemon keeps its clients apart in every run exactly as far as no thread writes to a client
that has hung up.** -/
theorem daemon_isolates_clients_iff {P : Policy} {t : Tables} (ht : BuiltFor P t) (o : ByteOrder)
    (es : List ServerEvent) : Run.Always (serve t o) (Isolated t o) .init es ↔
      Run.Always (serve t o) (fun s e => ¬ s.Kills e) .init es :=
  Run.Always.congr_of_invariant (I := Server.Ok t o) Server.ok_init (fun _ e h => h.step e)
    (fun _ e h => isolated_iff_not_kills ht.defined h e) es

/-- Two clients connect and send a complete request each; the first hangs up before its response is
written. -/
def earlyHangUp : List ServerEvent :=
  let request := packRequest ⟨0x0A010165, 0x0A01010A, 4000, 80, 6⟩
  [.connect, .connect, .send 0 request, .send 1 request, .hangUp 0, .read 0 13]

/-- The same, but the first client waits for its response and hangs up after it. -/
def lateHangUp : List ServerEvent :=
  earlyHangUp.filter (· ≠ .hangUp 0) ++
    [.write 0 2, .hangUp 0, .readEnds 0, .read 1 13, .write 1 1, .write 1 1]

theorem daemon_isolates_clients_iff_late :
    Run.Always (serve policyTables .little) (Isolated policyTables .little) .init lateHangUp :=
  (daemon_isolates_clients_iff builtFor_policyTables .little lateHangUp).mpr (by decide +kernel)

/-- **A client that hangs up early takes the daemon from another**: no signal arrives, but the write
of its response ends the process, and the complete request of the client that stayed is never
answered. -/
theorem daemon_isolates_clients_fails :
    ¬ Run.Always (serve policyTables .little) (Isolated policyTables .little) .init
        (earlyHangUp ++ [.write 0 2]) ∧
      let s := Run.final (serve policyTables .little) .init (earlyHangUp ++ [.write 0 2])
      .interrupt ∉ earlyHangUp ++ [.write 0 2] ∧ s.process = .killed ∧
        s.conns.map (fun c => (c.hungUp, c.thread, c.toDaemon.written.length, c.toClient.written)) =
          [(true, .closed, 13, []), (false, .closed, 13, [])] := by
  refine ⟨?_, by decide +kernel⟩
  rw [Run.always_iff]
  intro h
  have hisolated := h earlyHangUp (.write 0 2) [] rfl
  have hrunning := hisolated.running (by decide +kernel) (by decide)
  revert hrunning
  decide +kernel

end ZoneSegmentation
