import ZoneSegmentation.Controller.Tracking

/-!
# The switches with the controller

A packet that enters a switch is handled by the rules that are installed there, or, where none
matches, handed to the controller, which may install more. A rule is gone once its hard timeout
is over, or once no packet has matched it for its idle timeout.

## Main definitions

* `Rule`, `Rule.Live`, `lookup`: the rules of the switches, and the one a packet meets
* `pass`: what the rules do with a packet, from the switch it enters through the core
* `Fabric`, `transmit`: the switches with the controller, and what they do with a packet

## Main results

* `pass_cases`: the ways a packet passes
* `forall_mem_pass`, `Fabric.forall_mem_ask`: what holds of every rule
-/

namespace ZoneSegmentation

/-! ## Rules -/

/-- An installed rule, and when a packet last matched it. -/
structure Rule where
  dpid : ℕ
  mod : FlowMod
  installed : ℚ
  used : ℚ
  deriving DecidableEq

namespace Rule

/-- Neither timeout is over. -/
def Live (r : Rule) (now : ℚ) : Prop :=
  now < r.installed + r.mod.hardTimeout ∧ now < r.used + r.mod.idleTimeout

instance (r : Rule) (now : ℚ) : Decidable (r.Live now) := inferInstanceAs (Decidable (_ ∧ _))

/-- The rule takes a packet that enters a switch. -/
def Takes (r : Rule) (now : ℚ) (dpid port : ℕ) (packet : Frame) : Prop :=
  r.dpid = dpid ∧ r.Live now ∧ r.mod.ofpMatch.Matches port packet

instance (r : Rule) (now : ℚ) (dpid port : ℕ) (packet : Frame) :
    Decidable (r.Takes now dpid port packet) := inferInstanceAs (Decidable (_ ∧ _))

end Rule

/-- The rule that a packet meets. -/
def lookup (rules : List Rule) (now : ℚ) (dpid port : ℕ) (packet : Frame) : Option Rule :=
  rules.find? fun r => r.Takes now dpid port packet

/-- The rules after a packet met one of them. -/
def touch (rules : List Rule) (now : ℚ) (dpid port : ℕ) (packet : Frame) : List Rule :=
  rules.map fun r => if r.Takes now dpid port packet then { r with used := now } else r

/-- The rules after a message: an added rule replaces one with the same match. -/
def install (now : ℚ) (rules : List Rule) (m : Sent) : List Rule :=
  match m.message with
  | .flowMod mod =>
    rules.filter (fun r => ¬ (r.dpid = m.dpid ∧ r.mod.ofpMatch = mod.ofpMatch)) ++
      [⟨m.dpid, mod, now, now⟩]
  | _ => rules

/-- A packet leaves a switch from a port, for a MAC address. -/
structure Egress where
  dpid : ℕ
  port : ℕ
  mac : EthAddr
  deriving DecidableEq

/-- Where a list of actions sends a packet for `dst`: each output sends it as it is by then. -/
def outputs (dpid : ℕ) : List Action → EthAddr → List Egress
  | [], _ => []
  | .setDlDst mac :: rest, _ => outputs dpid rest mac
  | .output port :: rest, dst => ⟨dpid, port, dst⟩ :: outputs dpid rest dst
  | .setDlSrc _ :: rest, dst | .decTtl :: rest, dst => outputs dpid rest dst

/-! ## The path of a packet -/

variable (D : Deployment)

/-- What the rules do with a packet: no rule takes it at some switch, or it leaves the switches;
when it is dropped, from no port. -/
inductive Passage where
  | missed (dpid port : ℕ)
  | left (out : List Egress)
  deriving DecidableEq

/-- The core's port that a leaf's actions send a packet to. -/
def uplinkTo (dpid : ℕ) (actions : List Action) : Option ℕ := do
  let uplink ← D.maps.leafUplinkPort.get? dpid
  if actions = [.output uplink] then D.maps.leafCorePort.get? dpid else none

/-- A packet at the core. -/
def passCore (rules : List Rule) (now : ℚ) (port : ℕ) (packet : Frame) : Passage × List Rule :=
  match lookup rules now D.maps.coreDpid port packet with
  | none => (.missed D.maps.coreDpid port, rules)
  | some r => (.left (outputs D.maps.coreDpid r.mod.actions packet.dst),
      touch rules now D.maps.coreDpid port packet)

/-- A packet at the switch it enters. -/
def pass (rules : List Rule) (now : ℚ) (dpid port : ℕ) (packet : Frame) : Passage × List Rule :=
  match lookup rules now dpid port packet with
  | none => (.missed dpid port, rules)
  | some r =>
    match uplinkTo D dpid r.mod.actions with
    | some corePort => passCore D (touch rules now dpid port packet) now corePort packet
    | none => (.left (outputs dpid r.mod.actions packet.dst), touch rules now dpid port packet)

/-! ## The switches with the controller -/

/-- The rules of the switches, and what has happened at the controller. -/
structure Fabric where
  fwClient : Bool
  history : List Event
  rules : List Rule
  clock : ℚ

/-- Where a routed packet that the controller sends leaves the switches. -/
def Sent.egress? (m : Sent) : Option Egress :=
  match m.message with
  | .packetOut ⟨_, dst, .ip _⟩ port => some ⟨m.dpid, port, dst⟩
  | _ => none

namespace Fabric

/-- The controller's state. -/
def router (F : Fabric) : ZoneRouter := stateAfter D F.fwClient F.history

/-- A switch hands a packet to the controller. -/
def ask (F : Fabric) (ev : PacketIn) : Fabric × List Egress :=
  let log := (step D (F.router D) (.packetIn ev)).2
  ({ F with
      history := F.history ++ [.packetIn ev]
      rules := log.foldl (install ev.now) F.rules
      clock := ev.now },
    log.filterMap Sent.egress?)

/-- A packet enters a switch. -/
def transmit (F : Fabric) (ev : PacketIn) : Fabric × List Egress :=
  match pass D F.rules ev.now ev.dpid ev.port ev.packet with
  | (.left out, rules) => ({ F with rules, clock := ev.now }, out)
  | (.missed dpid port, rules) => ask D { F with rules } { ev with dpid, port }

/-- The controller sweeps its connection table. -/
def sweep (F : Fabric) (now : ℚ) : Fabric :=
  { F with history := F.history ++ [.connExpire now], clock := now }

end Fabric

variable {D}

/-! ## What a packet does -/

theorem lookup_eq_some {rules : List Rule} {now : ℚ} {dpid port : ℕ} {packet : Frame} {r : Rule}
    (h : lookup rules now dpid port packet = some r) :
    r ∈ rules ∧ r.Takes now dpid port packet :=
  ⟨List.mem_of_find?_eq_some h, by simpa using List.find?_some h⟩

/-- The ways a packet passes: no rule takes it where it enters, or a rule that leads no further
does, or a leaf sends it to the core, where one of the two happens. -/
theorem pass_cases (rules : List Rule) (now : ℚ) (dpid port : ℕ) (packet : Frame) :
    (pass D rules now dpid port packet).1 = .missed dpid port ∨
    (∃ r ∈ rules, r.Takes now dpid port packet ∧ uplinkTo D dpid r.mod.actions = none ∧
      (pass D rules now dpid port packet).1 =
        .left (outputs dpid r.mod.actions packet.dst)) ∨
    ∃ r ∈ rules, ∃ corePort, r.Takes now dpid port packet ∧
      uplinkTo D dpid r.mod.actions = some corePort ∧
      ((pass D rules now dpid port packet).1 = .missed D.maps.coreDpid corePort ∨
        ∃ r ∈ touch rules now dpid port packet, r.Takes now D.maps.coreDpid corePort packet ∧
          (pass D rules now dpid port packet).1 =
            .left (outputs D.maps.coreDpid r.mod.actions packet.dst)) := by
  unfold pass
  cases hlookup : lookup rules now dpid port packet with
  | none => exact .inl rfl
  | some r =>
    obtain ⟨hmem, htakes⟩ := lookup_eq_some hlookup
    -- a rule that leads to the core is one of a leaf, and the core looks the packet up in turn
    cases hup : uplinkTo D dpid r.mod.actions with
    | none => exact .inr (.inl ⟨r, hmem, htakes, hup, by simp only [hup]⟩)
    | some corePort =>
      refine .inr (.inr ⟨r, hmem, corePort, htakes, hup, ?_⟩)
      simp only [hup]
      unfold passCore
      cases hcore : lookup (touch rules now dpid port packet) now D.maps.coreDpid corePort
          packet with
      | none => exact .inl rfl
      | some r' =>
        obtain ⟨hmem', htakes'⟩ := lookup_eq_some hcore
        exact .inr ⟨r', hmem', htakes', rfl⟩

/-- A leaf's actions that lead to the core are those to its uplink. -/
theorem uplinkTo_eq_some {dpid corePort : ℕ} {actions : List Action}
    (h : uplinkTo D dpid actions = some corePort) : ∃ uplink,
      D.maps.leafUplinkPort.get? dpid = some uplink ∧ actions = [.output uplink] ∧
      D.maps.leafCorePort.get? dpid = some corePort := by
  obtain ⟨uplink, hup, h⟩ := Option.bind_eq_some_iff.mp h
  split at h
  · exact ⟨uplink, hup, ‹_›, h⟩
  · cases h

namespace Fabric

variable {F : Fabric} {ev : PacketIn}

theorem transmit_of_left {out : List Egress}
    (h : (pass D F.rules ev.now ev.dpid ev.port ev.packet).1 = .left out) : F.transmit D ev =
      ({ F with
        rules := (pass D F.rules ev.now ev.dpid ev.port ev.packet).2, clock := ev.now }, out) := by
  unfold transmit
  generalize pass D F.rules ev.now ev.dpid ev.port ev.packet = r at *
  obtain ⟨_, rules⟩ := r
  obtain rfl := h
  rfl

theorem transmit_of_missed {dpid port : ℕ}
    (h : (pass D F.rules ev.now ev.dpid ev.port ev.packet).1 = .missed dpid port) :
    F.transmit D ev =
      ask D { F with rules := (pass D F.rules ev.now ev.dpid ev.port ev.packet).2 }
        { ev with dpid, port } := by
  unfold transmit
  generalize pass D F.rules ev.now ev.dpid ev.port ev.packet = r at *
  obtain ⟨_, rules⟩ := r
  obtain rfl := h
  rfl

end Fabric

/-! ## What holds of every rule -/

section

variable {Q : ℕ → FlowMod → Prop} {rules : List Rule}

theorem forall_mem_touch (h : ∀ r ∈ rules, Q r.dpid r.mod) (now : ℚ) (dpid port : ℕ)
    (packet : Frame) : ∀ r ∈ touch rules now dpid port packet, Q r.dpid r.mod := by
  intro r hr
  obtain ⟨r', hr', rfl⟩ := List.mem_map.mp hr
  have hQ := h r' hr'
  split <;> exact hQ

theorem forall_mem_passCore (h : ∀ r ∈ rules, Q r.dpid r.mod) (now : ℚ) (port : ℕ)
    (packet : Frame) : ∀ r ∈ (passCore D rules now port packet).2, Q r.dpid r.mod := by
  unfold passCore
  split
  · exact h
  · exact forall_mem_touch h _ _ _ _

/-- A packet that passes changes no rule but for its use. -/
theorem forall_mem_pass (h : ∀ r ∈ rules, Q r.dpid r.mod) (now : ℚ) (dpid port : ℕ)
    (packet : Frame) : ∀ r ∈ (pass D rules now dpid port packet).2, Q r.dpid r.mod := by
  unfold pass
  split
  · exact h
  · split
    · exact forall_mem_passCore (forall_mem_touch h _ _ _ _) _ _ _
    · exact forall_mem_touch h _ _ _ _

/-- A rule was there before a message, or was sent with it. -/
theorem mem_install {now : ℚ} {m : Sent} {r : Rule} (hr : r ∈ install now rules m) :
    r ∈ rules ∨ m = ⟨r.dpid, .flowMod r.mod⟩ ∧ r.installed = now := by
  obtain ⟨dpid, message⟩ := m
  cases message with
  | flowMod mod =>
    rcases List.mem_append.mp hr with hr | hr
    · exact .inl (List.mem_filter.mp hr).1
    · obtain rfl := List.mem_singleton.mp hr
      exact .inr ⟨rfl, rfl⟩
  | _ => exact .inl hr

theorem mem_foldl_install {now : ℚ} {log : List Sent} {r : Rule}
    (hr : r ∈ log.foldl (install now) rules) :
    r ∈ rules ∨ ⟨r.dpid, .flowMod r.mod⟩ ∈ log ∧ r.installed = now := by
  induction log generalizing rules with
  | nil => exact .inl hr
  | cons m log ih =>
    rcases ih hr with hr | ⟨hm, hnow⟩
    · rcases mem_install hr with hr | ⟨rfl, hnow⟩
      · exact .inl hr
      · exact .inr ⟨List.mem_cons_self, hnow⟩
    · exact .inr ⟨List.mem_cons_of_mem _ hm, hnow⟩

/-- What holds of the rules, and of those that the controller sends, holds after it was asked. -/
theorem Fabric.forall_mem_ask {F : Fabric} {ev : PacketIn} (h : ∀ r ∈ F.rules, Q r.dpid r.mod)
    (hsent : ∀ m ∈ (step D (F.router D) (.packetIn ev)).2, ∀ mod, m.message = .flowMod mod →
      Q m.dpid mod) : ∀ r ∈ (F.ask D ev).1.rules, Q r.dpid r.mod := by
  intro r hr
  rcases mem_foldl_install hr with hr | ⟨hm, -⟩
  · exact h r hr
  · exact hsent _ hm _ rfl

end

end ZoneSegmentation
