/-
# Driver.Steps -- what one step of the node can change

The invariants that are about the node rather than about handles look at few of its
fields.  Most instructions touch only client objects (`Instr.aside`, `Frame`); the others
are listed once, in `Does`.  What a client object undergoes in a step of the executor or
in a callback of its transport is `Serves`.

A client on which no `connect` was ever called is `Untouched`, whatever else is done to
it; in particular it is not connected.
-/
import V2xRosDriver.Driver.PendingConnect

namespace V2xRosDriver.Driver

set_option autoImplicit false

open V2xRosDriver.Theory.Transition
open V2xRosDriver.Radio

/-! ## Client objects -/

/-- What the executor, in a callback with these instructions left, or a callback of its transport
does to a client object in one step. -/
inductive Serves (script : List Instr) : RadioClient → RadioClient → Prop
  | nothing (r : RadioClient) : Serves script r r
  | setWaveFilePath (r : RadioClient) {path : String} (due : .setWaveFilePath path ∈ script) :
      Serves script r (r.setWaveFilePath path)
  | beginClose (r : RadioClient) : Serves script r r.beginClose
  | stepClose (r : RadioClient) : Serves script r r.stepClose
  | connack {r answered : RadioClient} {h : Nat} {rc : Int} {accepted : Bool}
      (answer : r.connack h rc accepted = some answered) : Serves script r answered
  | dropped {r answered : RadioClient} {h : Nat} (answer : r.dropped h = some answered) :
      Serves script r answered

theorem Serves.mono {script longer : List Instr} {r r' : RadioClient}
    (serves : Serves script r r') (among : ∀ later ∈ script, later ∈ longer) :
    Serves longer r r' := by
  cases serves with
  | nothing => exact .nothing _
  | setWaveFilePath due => exact .setWaveFilePath _ (among _ due)
  | beginClose => exact .beginClose _
  | stepClose => exact .stepClose _
  | connack answer => exact .connack answer
  | dropped answer => exact .dropped answer

namespace RadioClient

/-- The client is a `MqttRadioClient`. -/
def isMqtt : RadioClient → Bool
  | .mqtt _ => true
  | .udp _ => false

variable {script : List Instr} {r r' : RadioClient}

/-- A client never changes its transport. -/
theorem isMqtt_serves (serves : Serves script r r') : r'.isMqtt = r.isMqtt := by
  cases serves with
  | nothing => rfl
  | setWaveFilePath | beginClose | stepClose => cases r <;> rfl
  | connack answer =>
      obtain ⟨calls, rfl, -, rfl⟩ := connack_cases answer
      rfl
  | dropped answer =>
      obtain ⟨calls, rfl, -, rfl⟩ := dropped_cases answer
      rfl

@[simp] theorem isMqtt_beginConnect (r : RadioClient) (endpoint : Endpoint) :
    (r.beginConnect endpoint).isMqtt = r.isMqtt := by
  cases r <;> rfl

@[simp] theorem isMqtt_stepConnect (r : RadioClient) (succeeds : Bool) :
    (r.stepConnect succeeds).isMqtt = r.isMqtt := by
  cases r <;> rfl

/-- No `connect` was ever called on the client: an MQTT client never had a handle, a UDP client
was never running. -/
def Untouched : RadioClient → Prop
  | .mqtt calls =>
      calls.connectAt = none ∧ (calls.closeAt = none ∨ calls.closeAt = some .check) ∧
        calls.client.session.mosq = none ∧ calls.client.session.connected = false ∧
        calls.client.session.created = 0
  | .udp calls =>
      calls.connectAt = none ∧ (calls.closeAt = none ∨ calls.closeAt = some .check) ∧
        calls.client.running = false

theorem Untouched.connected (untouched : r.Untouched) : r.connected = false := by
  cases r with
  | mqtt calls => exact untouched.2.2.2.1
  | udp calls => exact untouched.2.2

/-- A client that was never told to connect has no handle that could call back, and its `close`
returns at once. -/
theorem Untouched.serves (untouched : r.Untouched) (serves : Serves script r r') :
    r'.Untouched := by
  cases serves with
  | nothing => exact untouched
  | setWaveFilePath => cases r <;> exact untouched
  | beginClose =>
      cases r with
      | mqtt calls => exact ⟨untouched.1, .inr rfl, untouched.2.2⟩
      | udp calls => exact ⟨untouched.1, .inr rfl, untouched.2.2⟩
  | stepClose =>
      cases r with
      | mqtt calls =>
          obtain ⟨client, connectAt, closeAt⟩ := calls
          obtain ⟨idle, rfl | rfl, mosq, session⟩ := untouched
          · exact ⟨idle, .inl rfl, mosq, session⟩
          · have returns : Mqtt.closeStep client.session .check =
                (client.session, .returned ()) :=
              if_pos (Option.isNone_iff_eq_none.mpr mosq)
            simp only [RadioClient.stepClose, Calls.stepClose, Mqtt.MqttRadioClient.closeStep,
              returns]
            exact ⟨idle, .inl rfl, mosq, session⟩
      | udp calls =>
          obtain ⟨client, connectAt, closeAt⟩ := calls
          obtain ⟨idle, rfl | rfl, stopped⟩ := untouched
          · exact ⟨idle, .inl rfl, stopped⟩
          · have returns : client.closeStep .check = (client, .returned ()) :=
              if_neg (by rw [show client.running = false from stopped]; decide)
            simp only [RadioClient.stepClose, Calls.stepClose, returns]
            exact ⟨idle, .inl rfl, stopped⟩
  | connack answer =>
      obtain ⟨calls, rfl, alive, -⟩ := connack_cases answer
      have none_ := alive.1
      rw [untouched.2.2.2.2] at none_
      exact absurd none_ (Nat.not_lt_zero _)
  | dropped answer =>
      obtain ⟨calls, rfl, alive, -⟩ := dropped_cases answer
      have none_ := alive.1
      rw [untouched.2.2.2.2] at none_
      exact absurd none_ (Nat.not_lt_zero _)

theorem untouched_newRadioClient (config : Config) : (Node.newRadioClient config).Untouched := by
  rw [Node.newRadioClient]
  split
  · exact ⟨rfl, .inl rfl, rfl, rfl, rfl⟩
  · exact ⟨rfl, .inl rfl, rfl⟩

theorem isMqtt_newRadioClient (config : Config) :
    (Node.newRadioClient config).isMqtt = decide (config.protocol = "mqtt") := by
  rw [Node.newRadioClient]
  split
  · rename_i mqtt
    exact (decide_eq_true mqtt).symm
  · rename_i udp
    exact (decide_eq_false udp).symm

end RadioClient

/-! ## Instructions that touch only clients -/

/-- `t` is `s` but for its client objects, the calls of `close` and destructors in progress, and
the error. -/
structure Frame (s t : Node) : Prop where
  config : t.config = s.config
  waveCfgItems : t.waveCfgItems = s.waveCfgItems
  created : t.created = s.created
  radioClient : t.radioClient = s.radioClient
  connecting : t.connecting = s.connecting
  connectThread : t.connectThread = s.connectThread
  script : t.script = s.script
  destroyed : t.destroyed = s.destroyed

/-- Instructions that touch only clients and the error. -/
def Instr.aside : Instr → Bool
  | .close | .clearError | .setWaveFilePath _ | .wireHandlers | .deleteClient => true
  | _ => false

section Steps

variable {s t : Node}

theorem Frame.refl (s : Node) : Frame s s := ⟨rfl, rfl, rfl, rfl, rfl, rfl, rfl, rfl⟩

theorem execute_aside {instr : Instr} (aside : instr.aside = true)
    (moved : s.execute instr = some t) : Frame s t := by
  cases instr with
  | close =>
      cases moved
      rw [Node.close]
      split <;> exact ⟨rfl, rfl, rfl, rfl, rfl, rfl, rfl, rfl⟩
  | clearError =>
      cases moved
      exact ⟨rfl, rfl, rfl, rfl, rfl, rfl, rfl, rfl⟩
  | setWaveFilePath | wireHandlers | deleteClient =>
      simp only [Node.execute] at moved
      split at moved <;>
      · cases moved
        exact ⟨rfl, rfl, rfl, rfl, rfl, rfl, rfl, rfl⟩
  | _ => cases aside

/-- `createRadioClient` moves the pointer to one more client, and nothing else outside the client
objects. -/
theorem createRadioClient_frame (s : Node) :
    Frame { s with created := s.created + 1, radioClient := some s.created }
      s.createRadioClient := by
  rw [Node.createRadioClient]
  split <;> exact ⟨rfl, rfl, rfl, rfl, rfl, rfl, rfl, rfl⟩

/-! ## The executor -/

/-- What an instruction does outside the client objects. -/
inductive Does (s : Node) : Instr → Node → Prop
  | aside {instr : Instr} {t : Node} (plain : instr.aside = true) (frame : Frame s t) :
      Does s instr t
  | createRadioClient : Does s .createRadioClient s.createRadioClient
  | noError : Does s .testError s
  | closeFirst : Does s .testError { s with script := .close :: .clearError :: s.script }
  | alreadyConnecting (already : s.connecting = true) : Does s .testConnecting s
  | notConnecting (idle : s.connecting = false) :
      Does s .testConnecting { s with script := .testConnected :: s.script }
  | connected (online : s.clientConnected = true) : Does s .testConnected s
  | notConnected (offline : s.clientConnected = false) :
      Does s .testConnected
        { s with script := .setConnecting :: .join :: .startThread :: s.script }
  | setConnecting : Does s .setConnecting { s with connecting := true }
  | clearConnecting : Does s .clearConnecting { s with connecting := false }
  | noThread (without : s.connectThread = none) : Does s .join s
  | join (ended : s.connectThread = some .finished) :
      Does s .join { s with connectThread := none }
  | startThread : Does s .startThread { s with connectThread := some .launched }
  | loadWaveConfig (file : WaveFile) :
      Does s (.loadWaveConfig file) { s with waveCfgItems := s.waveCfgItems ++ file.entries }
  | releaseThread :
      Does s .releaseThread
        { s with connectThread := none, terminated := s.connectThread.isSome }

theorem execute_does {instr : Instr} (moved : s.execute instr = some t) : Does s instr t := by
  cases instr with
  | createRadioClient =>
      cases moved
      exact .createRadioClient
  | testError =>
      cases moved
      split
      · exact .closeFirst
      · exact .noError
  | testConnecting =>
      cases moved
      split
      · rename_i already
        exact .alreadyConnecting already
      · rename_i idle
        exact .notConnecting (Bool.not_eq_true _ ▸ idle)
  | testConnected =>
      cases moved
      split
      · rename_i online
        exact .connected online
      · rename_i offline
        exact .notConnected (Bool.not_eq_true _ ▸ offline)
  | join =>
      simp only [Node.execute, Node.join] at moved
      split at moved
      · rename_i without
        cases moved
        exact .noThread without
      · rename_i ended
        cases moved
        exact .join ended
      · cases moved
  | setConnecting =>
      cases moved
      exact .setConnecting
  | clearConnecting =>
      cases moved
      exact .clearConnecting
  | startThread =>
      cases moved
      exact .startThread
  | loadWaveConfig file =>
      cases moved
      exact .loadWaveConfig file
  | releaseThread =>
      cases moved
      exact .releaseThread
  | close | clearError | setWaveFilePath | wireHandlers | deleteClient =>
      exact .aside rfl (execute_aside rfl moved)

/-- No instruction writes `config_`. -/
theorem Does.config {instr : Instr} (does : Does s instr t) : t.config = s.config := by
  cases does with
  | aside _ frame => exact frame.config
  | createRadioClient => exact (createRadioClient_frame s).config
  | _ => rfl

/-- No instruction begins the node's own destructor. -/
theorem Does.destroyed {instr : Instr} (does : Does s instr t) : t.destroyed = s.destroyed := by
  cases does with
  | aside _ frame => exact frame.destroyed
  | createRadioClient => exact (createRadioClient_frame s).destroyed
  | _ => rfl

/-- Only `loadWaveConfig` writes the table. -/
theorem Does.waveCfgItems {instr : Instr} (does : Does s instr t) :
    t.waveCfgItems = s.waveCfgItems ∨
      ∃ file, instr = .loadWaveConfig file ∧
        t.waveCfgItems = s.waveCfgItems ++ file.entries := by
  cases does with
  | aside _ frame => exact .inl frame.waveCfgItems
  | createRadioClient => exact .inl (createRadioClient_frame s).waveCfgItems
  | loadWaveConfig file => exact .inr ⟨file, rfl, rfl⟩
  | _ => exact .inl rfl

/-- The entries a callback is still to append to the table. -/
def dueEntries : List Instr → List WaveConfigStruct
  | [] => []
  | .loadWaveConfig file :: rest => file.entries ++ dueEntries rest
  | _ :: rest => dueEntries rest

theorem dueEntries_aside {instr : Instr} (plain : instr.aside = true) (rest : List Instr) :
    dueEntries (instr :: rest) = dueEntries rest := by
  cases instr <;> first | rfl | cases plain

/-- What the table is to become does not change while a callback runs. -/
theorem Does.dueEntries {instr : Instr} (does : Does s instr t) :
    t.waveCfgItems ++ Driver.dueEntries t.script =
      s.waveCfgItems ++ Driver.dueEntries (instr :: s.script) := by
  cases does with
  | aside plain frame =>
      rw [frame.waveCfgItems, frame.script, dueEntries_aside plain]
  | createRadioClient =>
      have frame := createRadioClient_frame s
      rw [frame.waveCfgItems, frame.script]
      rfl
  | loadWaveConfig file =>
      show (s.waveCfgItems ++ file.entries) ++ _ = s.waveCfgItems ++ (file.entries ++ _)
      rw [List.append_assoc]
  | _ => rfl

/-- Only `createRadioClient` moves the pointer. -/
theorem Does.pointer {instr : Instr} (does : Does s instr t) :
    (t.created = s.created ∧ t.radioClient = s.radioClient) ∨
      instr = .createRadioClient ∧ t.created = s.created + 1 ∧
        t.radioClient = some s.created := by
  cases does with
  | aside _ frame => exact .inl ⟨frame.created, frame.radioClient⟩
  | createRadioClient =>
      exact .inr ⟨rfl, (createRadioClient_frame s).created,
        (createRadioClient_frame s).radioClient⟩
  | _ => exact .inl ⟨rfl, rfl⟩

/-- What `pre_spin` may put in front of the rest of a callback. -/
def Instr.pushed : Instr → Bool
  | .close | .clearError | .testConnected | .setConnecting | .join | .startThread => true
  | _ => false

/-- What is to be done was to be done before, or belongs to `pre_spin`. -/
theorem Does.script {instr : Instr} (does : Does s instr t) {later : Instr}
    (waits : later ∈ t.script) : later ∈ s.script ∨ later.pushed = true := by
  cases does with
  | aside _ frame => exact .inl (frame.script ▸ waits)
  | createRadioClient => exact .inl ((createRadioClient_frame s).script ▸ waits)
  | closeFirst =>
      simp only [List.mem_cons] at waits
      rcases waits with rfl | rfl | waits
      · exact .inr rfl
      · exact .inr rfl
      · exact .inl waits
  | notConnecting =>
      simp only [List.mem_cons] at waits
      rcases waits with rfl | waits
      · exact .inr rfl
      · exact .inl waits
  | notConnected =>
      simp only [List.mem_cons] at waits
      rcases waits with rfl | rfl | rfl | waits
      · exact .inr rfl
      · exact .inr rfl
      · exact .inr rfl
      · exact .inl waits
  | _ => exact .inl waits

/-- What is behind an instruction stays to be done. -/
theorem Does.tail {instr : Instr} (does : Does s instr t) {later : Instr}
    (waits : later ∈ s.script) : later ∈ t.script := by
  cases does with
  | aside _ frame =>
      rw [frame.script]
      exact waits
  | createRadioClient =>
      rw [(createRadioClient_frame s).script]
      exact waits
  | closeFirst => exact List.mem_cons_of_mem _ (List.mem_cons_of_mem _ waits)
  | notConnecting => exact List.mem_cons_of_mem _ waits
  | notConnected =>
      exact List.mem_cons_of_mem _ (List.mem_cons_of_mem _ (List.mem_cons_of_mem _ waits))
  | _ => exact waits

/-- What becomes of the connect thread. -/
theorem Does.thread {instr : Instr} (does : Does s instr t) :
    t.connectThread = s.connectThread ∨
      instr = .join ∧ s.connectThread = some .finished ∧ t.connectThread = none ∨
      instr = .startThread ∧ t.connectThread = some .launched ∨
      instr = .releaseThread ∧ t.connectThread = none := by
  cases does with
  | aside _ frame => exact .inl frame.connectThread
  | createRadioClient => exact .inl (createRadioClient_frame s).connectThread
  | join ended => exact .inr (.inl ⟨rfl, ended, rfl⟩)
  | startThread => exact .inr (.inr (.inl ⟨rfl, rfl⟩))
  | releaseThread => exact .inr (.inr (.inr ⟨rfl, rfl⟩))
  | _ => exact .inl rfl

/-- No instruction calls `connect`. -/
theorem Does.connects {instr : Instr} (does : Does s instr t) {c : Nat}
    (connects : t.connectThread = some (.connecting c)) :
    s.connectThread = some (.connecting c) := by
  cases does with
  | aside _ frame => exact frame.connectThread ▸ connects
  | createRadioClient => exact (createRadioClient_frame s).connectThread ▸ connects
  | join | startThread | releaseThread => cases connects
  | _ => exact connects

/-- `connecting_` is set and cleared where the source says so. -/
theorem Does.connecting {instr : Instr} (does : Does s instr t) :
    t.connecting = s.connecting ∨ instr = .setConnecting ∨
      instr = .clearConnecting ∧ t.connecting = false := by
  cases does with
  | aside _ frame => exact .inl frame.connecting
  | createRadioClient => exact .inl (createRadioClient_frame s).connecting
  | setConnecting => exact .inr (.inl rfl)
  | clearConnecting => exact .inr (.inr ⟨rfl, rfl⟩)
  | _ => exact .inl rfl

/-- Only `createRadioClient` and `deleteClient` begin to delete a client, the one the node points
to; the first makes the node point to another. -/
theorem execute_deleting {instr : Instr} (moved : s.execute instr = some t) :
    t.deleting = s.deleting ∨
      ∃ d, s.radioClient = some d ∧ t.deleting = some d ∧
        (instr = .deleteClient ∨ t.radioClient = some s.created) := by
  cases instr with
  | createRadioClient =>
      cases moved
      have pointer := (createRadioClient_frame s).radioClient
      rw [Node.createRadioClient] at pointer ⊢
      split
      · rename_i old points
        rw [points] at pointer
        exact .inr ⟨old, points, rfl, .inr pointer⟩
      · exact .inl rfl
  | deleteClient =>
      simp only [Node.execute] at moved
      split at moved
      · rename_i old points
        cases moved
        exact .inr ⟨old, points, rfl, .inl rfl⟩
      · cases moved
        exact .inl rfl
  | close =>
      cases moved
      rw [Node.close]
      split <;> exact .inl rfl
  | setWaveFilePath | wireHandlers =>
      simp only [Node.execute] at moved
      split at moved <;>
      · cases moved
        exact .inl rfl
  | testError | testConnecting | testConnected =>
      cases moved
      split <;> exact .inl rfl
  | join =>
      simp only [Node.execute, Node.join] at moved
      split at moved <;> first | (cases moved; exact .inl rfl) | cases moved
  | clearError | setConnecting | clearConnecting | startThread | loadWaveConfig
  | releaseThread =>
      cases moved
      exact .inl rfl

/-! ## Client objects under the steps of a node -/

theorem serves_onClient (s : Node) {script : List Instr} {c : Nat}
    {change : RadioClient → RadioClient}
    (serves : Serves script (s.clients c).radio (change (s.clients c).radio)) (d : Nat) :
    Serves script (s.clients d).radio ((s.onClient c change).clients d).radio :=
  s.forall_onClient (P := fun d radio => Serves script (s.clients d).radio radio) serves
    (fun _ _ => .nothing _) d

theorem serves_stepClose (s : Node) (c d : Nat) :
    Serves s.script (s.clients d).radio ((s.stepClose c).clients d).radio :=
  serves_onClient s (.stepClose _) d

theorem serves_close (s : Node) (d : Nat) :
    Serves s.script (s.clients d).radio (s.close.clients d).radio := by
  rw [Node.close]
  split
  · exact serves_onClient s (.beginClose _) d
  · exact .nothing _

theorem serves_beginDelete (s : Node) (c d : Nat) :
    Serves s.script (s.clients d).radio ((s.beginDelete c).clients d).radio :=
  serves_onClient s (.beginClose _) d

/-- A client that was there is served, the new one is new. -/
theorem serves_createRadioClient (s : Node) (d : Nat) :
    (d ≠ s.created ∧
        Serves s.script (s.clients d).radio (s.createRadioClient.clients d).radio) ∨
      d = s.created ∧
        Serves s.script (Node.newRadioClient s.config)
          (s.createRadioClient.clients d).radio := by
  have serves : Serves s.script
      (Function.update s.clients s.created { radio := Node.newRadioClient s.config } d).radio
      (s.createRadioClient.clients d).radio := by
    rw [Node.createRadioClient]
    split
    · exact serves_beginDelete
        { s with
          clients := Function.update s.clients s.created { radio := Node.newRadioClient s.config }
          created := s.created + 1
          radioClient := some s.created } _ d
    · exact .nothing _
  by_cases new : d = s.created
  · rw [new, Function.update_self] at serves
    exact .inr ⟨new, by rw [new]; exact serves⟩
  · rw [Function.update_of_ne new] at serves
    exact .inl ⟨new, serves⟩

/-- Every instruction but `createRadioClient` only serves clients. -/
theorem execute_serves {instr : Instr} (other : instr ≠ .createRadioClient)
    (moved : s.execute instr = some t) (d : Nat) :
    Serves (instr :: s.script) (s.clients d).radio (t.clients d).radio := by
  cases instr with
  | close =>
      cases moved
      exact (serves_close s d).mono fun _ => List.mem_cons_of_mem _
  | setWaveFilePath path =>
      simp only [Node.execute] at moved
      split at moved
      · cases moved
        exact serves_onClient s (.setWaveFilePath _ List.mem_cons_self) d
      · cases moved
        exact .nothing _
  | wireHandlers =>
      simp only [Node.execute] at moved
      split at moved
      · cases moved
        rw [Node.wireError_radio]
        exact .nothing _
      · cases moved
        exact .nothing _
  | deleteClient =>
      simp only [Node.execute] at moved
      split at moved
      · cases moved
        exact serves_onClient s (.beginClose _) d
      · cases moved
        exact .nothing _
  | testError | testConnecting | testConnected =>
      cases moved
      split <;> exact .nothing _
  | join =>
      simp only [Node.execute, Node.join] at moved
      split at moved <;> first | (cases moved; exact .nothing _) | cases moved
  | clearError | setConnecting | clearConnecting | startThread | loadWaveConfig
  | releaseThread =>
      cases moved
      exact .nothing _
  | createRadioClient => exact absurd rfl other

/-- A step of the executor serves the clients that are there. -/
theorem executorStep_serves (moved : s.executorStep = some t) (d : Nat) :
    (Serves s.script (s.clients d).radio (t.clients d).radio ∧
        (t.created = s.created ∨ d ≠ s.created)) ∨
      d = s.created ∧ t.created = s.created + 1 ∧
        Serves s.script (Node.newRadioClient s.config) (t.clients d).radio := by
  rcases executorStep_cases moved with ⟨c, -, rfl⟩ | ⟨c, -, -, rfl⟩ |
    ⟨instr, rest, -, -, script, executed⟩
  · exact .inl ⟨serves_stepClose s c d, .inl rfl⟩
  · left
    rw [Node.finishDelete_radio]
    exact ⟨.nothing _, .inl rfl⟩
  · have behind (later : Instr) (waits : later ∈ rest) : later ∈ s.script := by
      rw [script]
      exact List.mem_cons_of_mem _ waits
    by_cases creates : instr = .createRadioClient
    · subst creates
      cases executed
      have created := (createRadioClient_frame { s with script := rest }).created
      rcases serves_createRadioClient { s with script := rest } d with
        ⟨old, serves⟩ | ⟨new, serves⟩
      · exact .inl ⟨serves.mono behind, .inr old⟩
      · exact .inr ⟨new, created, serves.mono behind⟩
    · rcases (execute_does executed).pointer with ⟨created, -⟩ | ⟨equal, -⟩
      · refine .inl ⟨?_, .inl created⟩
        rw [script]
        exact execute_serves creates executed d
      · exact absurd equal creates

/-- A callback of a transport serves one client and changes nothing else. -/
theorem callBack_serves {c : Nat} {answer : RadioClient → Option RadioClient}
    (serves : ∀ r answered, answer r = some answered → Serves s.script r answered)
    (moved : s.callBack c answer = some t) :
    ∃ radio, Serves s.script (s.clients c).radio radio ∧ t = s.onClient c fun _ => radio := by
  obtain ⟨radio, answered, rfl⟩ := callBack_cases moved
  exact ⟨radio, serves _ _ answered, rfl⟩

/-! ## The connect thread -/

/-- One call of `connect`, and `config_` at the call. -/
structure ConnectCall where
  client : Nat
  endpoint : Endpoint
  config : Config
  deriving DecidableEq

/-- The `connect` call a step makes, if it makes one. -/
def connectCallsOf (s : Node) : Node.Action → List ConnectCall
  | .thread _ =>
      match s.connectThread, s.radioClient with
      | some .launched, some c => [⟨c, Node.endpoint s.config, s.config⟩]
      | _, _ => []
  | _ => []

end Steps

end V2xRosDriver.Driver
