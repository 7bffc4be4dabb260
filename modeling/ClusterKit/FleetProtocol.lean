import ClusterKit.FleetEnv
import ClusterKit.FleetRuns
import ClusterKit.Staffing

/-! The shutdown protocol between the primary and its workers: every acknowledgement
answers a message, and a worker that has acknowledged is on its way out. -/

namespace ClusterKit

open State

section Deaths

variable {e : Host} {s t : State} {a : Action} {id : Nat}

/-! ## Who dies -/

/-- Only the exit of a worker kills it. -/
theorem Bit.alive_of_ne (ha : ∀ code signal, a ≠ .workerExit id code signal) (h : Bit e a s t)
    (hl : s.alive id) : t.alive id := by
  by_cases hexit : ∃ id' code signal, a = .workerExit id' code signal
  · obtain ⟨id', code, signal, rfl⟩ := hexit
    have hne : id ≠ id' := fun heq => ha code signal (heq ▸ rfl)
    cases h with
    | died _ _ _ _ halive => exact (isDead_markDead_of_ne s hne).trans hl
    | crashed => rw [noteCrash_eq]; exact hl
    | queued => rw [queueCrash_eq]; exact hl
    | removed | quarantined | tripped => exact hl
  · exact h.alive (fun id' code signal heq => hexit ⟨id', code, signal, heq⟩) hl

theorem Piece.alive_of_ne (ha : ∀ code signal, a ≠ .workerExit id code signal)
    (h : Piece e a s t) (hl : s.alive id) : t.alive id :=
  h.elim (fun hm => hm.alive hl) fun hb => hb.alive_of_ne ha hl

/-- A worker is dead after a segment only if it was dead before or the segment is its exit. -/
theorem act_dead (hw : WellFormed s) (h : s.act e a = some t) (hid : id ≤ t.cluster.ids)
    (hd : t.isDead id = true) :
    (id ≤ s.cluster.ids ∧ s.isDead id = true) ∨ ∃ code signal, a = .workerExit id code signal := by
  by_contra hne
  obtain ⟨hlive, ha⟩ := not_or.mp hne
  have ha' : ∀ code signal, a ≠ .workerExit id code signal :=
    fun code signal heq => ha ⟨code, signal, heq⟩
  have hstay : ∀ x, (id ≤ x.cluster.ids → x.alive id) → ∀ y, Piece e a x y →
      id ≤ y.cluster.ids → y.alive id := by
    intro x hx y hp hy
    by_cases hle : id ≤ x.cluster.ids
    · exact hp.alive_of_ne ha' (hx hle)
    · obtain ⟨call, -, hworker⟩ := hp.newborn (Nat.not_le.mp hle) hy
      rw [alive, isDead, hworker]
      rfl
  have halive : id ≤ t.cluster.ids → t.alive id :=
    (act_pieces hw h).preserves (P := fun x => id ≤ x.cluster.ids → x.alive id) hw
      (fun x y _ hx hp => hstay x hx y hp)
      fun hle => Bool.eq_false_iff.mpr fun hdead => hlive ⟨hle, hdead⟩
  rw [alive, hd] at halive
  exact absurd (halive hid) (by decide)

end Deaths

/-! ## What a segment of a worker tells the primary -/

/-- It is the primary's shutdown message. -/
def WorkerAction.asksShutdown (cfg : ResolvedConfig) : WorkerAction → Bool
  | .message msg => isTypedMessage msg cfg.shutdown.shutdownType
  | _ => false

namespace WorkerProcess

variable {cfg : ResolvedConfig} {now : Nat} {p q : WorkerProcess} {a : WorkerAction}

/-- What a segment does to the fields that the other side can notice. -/
structure Told (cfg : ResolvedConfig) (p : WorkerProcess) (a : WorkerAction)
    (q : WorkerProcess) : Prop where
  sent : q.sent = p.sent ∧ a.asksShutdown cfg = false ∨
    ∃ m, q.sent = m :: p.sent ∧ isAck cfg m = a.asksShutdown cfg
  began : q.began = p.began ∨ a.asksShutdown cfg = true ∨ ∃ signal, a = .signal signal
  connected : q.connected = p.connected ∨ ∃ asked, a = .disconnected asked
  ended : q.ended = p.ended ∨ (∃ signal, a = .signal signal) ∨ (∃ code, a = .applicationEnds code) ∨
    a = .disconnected false ∨ p.frame = .returned ∨ p.exitTimer ≠ none

theorem Told.silent (hsent : q.sent = p.sent) (hbegan : q.began = p.began)
    (hconnected : q.connected = p.connected) (hended : q.ended = p.ended)
    (ha : a.asksShutdown cfg = false) : Told cfg p a q :=
  ⟨.inl ⟨hsent, ha⟩, .inl hbegan, .inl hconnected, .inl hended⟩

theorem handleShutdown_sent (signal : String) :
    (p.handleShutdown cfg now signal).sent = p.sent := by
  unfold handleShutdown
  dsimp only
  split <;> rfl

theorem handleShutdown_connected (signal : String) :
    (p.handleShutdown cfg now signal).connected = p.connected := by
  unfold handleShutdown
  dsimp only
  split <;> rfl

theorem handleShutdown_ended (signal : String) :
    (p.handleShutdown cfg now signal).ended = p.ended := by
  unfold handleShutdown
  dsimp only
  split <;> rfl

theorem send_connected (msg : Message) (hc : p.connected = true) :
    p.send now msg = { p with sent := (msg, now) :: p.sent } := by
  unfold send
  rw [if_pos hc]

theorem onMessage_told (hc : p.connected = true) (msg : Option Message) :
    Told cfg p (.message msg) (p.onMessage cfg now msg) := by
  unfold onMessage
  split
  · rename_i hasks
    rw [send_connected _ hc]
    refine ⟨.inr ⟨_, handleShutdown_sent "IPC", ?_⟩, .inr (.inl hasks), .inl ?_, .inl ?_⟩
    · rw [show WorkerAction.asksShutdown cfg (.message msg) = true from hasks]
      simp [isAck]
    · rw [handleShutdown_connected]
    · rw [handleShutdown_ended]
  · rename_i hasks
    exact .silent rfl rfl rfl rfl (Bool.eq_false_iff.mpr hasks)

theorem act_told (h : p.act cfg now a = some q) : Told cfg p a q := by
  cases a with
  | run =>
    cases h
    split <;> exact .silent rfl rfl rfl rfl rfl
  | pluginsInstalled =>
    simp only [act] at h
    split at h
    · cases h
      unfold startWorkerReporting
      split <;> exact .silent rfl rfl rfl rfl rfl
    · cases h
  | pluginInstallFailed =>
    simp only [act] at h
    split at h
    · cases h
      exact .silent rfl rfl rfl rfl rfl
    · cases h
  | registerOnShutdown | setNotReady =>
    cases h
    exact .silent rfl rfl rfl rfl rfl
  | setReady =>
    cases h
    split <;> exact .silent rfl rfl rfl rfl rfl
  | applicationSends msg =>
    simp only [act] at h
    split at h
    · cases h
    · rename_i hfree
      simp only [isReserved, Bool.or_eq_true, decide_eq_true_eq, not_or] at hfree
      cases h
      unfold send
      split
      · exact ⟨.inr ⟨_, rfl, by simpa [isAck, WorkerAction.asksShutdown] using hfree.1⟩, .inl rfl,
          .inl rfl, .inl rfl⟩
      · exact .silent rfl rfl rfl rfl rfl
  | applicationEnds code =>
    cases h
    exact ⟨.inl ⟨rfl, rfl⟩, .inl rfl, .inl rfl, .inr (.inr (.inl ⟨code, rfl⟩))⟩
  | message msg =>
    simp only [act] at h
    split at h
    · rename_i hguard
      rw [Bool.and_eq_true] at hguard
      cases h
      exact onMessage_told hguard.1 msg
    · cases h
  | signal signal =>
    cases h
    unfold onSignal
    split
    · exact ⟨.inl ⟨handleShutdown_sent _, rfl⟩, .inr (.inr ⟨signal, rfl⟩),
        .inl (handleShutdown_connected _), .inr (.inl ⟨signal, rfl⟩)⟩
    · exact ⟨.inl ⟨rfl, rfl⟩, .inl rfl, .inl rfl, .inr (.inl ⟨signal, rfl⟩)⟩
  | disconnected asked =>
    simp only [act] at h
    split at h
    · cases h
      cases asked with
      | true => exact ⟨.inl ⟨rfl, rfl⟩, .inl rfl, .inr ⟨true, rfl⟩, .inl rfl⟩
      | false =>
        exact ⟨.inl ⟨rfl, rfl⟩, .inl rfl, .inr ⟨false, rfl⟩, .inr (.inr (.inr (.inl rfl)))⟩
    · cases h
  | report rss heapUsed =>
    simp only [act, report] at h
    split at h
    · cases h
    · split at h
      · cases h
        unfold send
        split
        · have hnot : isAck cfg (p.heartbeat cfg now rss heapUsed, now) = false := by
            simp [isAck, heartbeat, cfg.shutdown.heartbeatType_ne_shutdownAckType]
          exact ⟨.inr ⟨_, rfl, hnot⟩, .inl rfl, .inl rfl, .inl rfl⟩
        · exact .silent rfl rfl rfl rfl rfl
      · cases h
  | callNext throws registers =>
    simp only [act, callNext] at h
    split at h
    · split at h
      · cases h
        exact .silent rfl rfl rfl rfl rfl
      · cases h
    · cases h
  | callsOver =>
    simp only [act, callsOver] at h
    split at h
    · split at h
      · cases h
      · cases h
        exact .silent rfl rfl rfl rfl rfl
    · cases h
  | callbackSettled =>
    simp only [act, callbackSettled] at h
    split at h
    · cases h
      exact .silent rfl rfl rfl rfl rfl
    · cases h
  | callbacksReturned =>
    simp only [act, callbacksReturned] at h
    split at h
    · rename_i hf
      cases h
      exact ⟨.inl ⟨rfl, rfl⟩, .inl rfl, .inl rfl, .inr (.inr (.inr (.inr (.inl hf))))⟩
    · cases h
  | exitElapsed =>
    simp only [act, exitElapsed] at h
    split at h
    · cases h
    · rename_i deadline ht
      split at h
      · cases h
        exact ⟨.inl ⟨rfl, rfl⟩, .inl rfl, .inl rfl,
          .inr (.inr (.inr (.inr (.inr (by simp [ht])))))⟩
      · cases h

/-- The acknowledgements sent. -/
def acks (cfg : ResolvedConfig) (p : WorkerProcess) : Nat := p.sent.countP (isAck cfg)

theorem Told.acks (h : Told cfg p a q) :
    q.acks cfg = p.acks cfg + (a.asksShutdown cfg).toNat := by
  unfold WorkerProcess.acks
  rcases h.sent with ⟨hsent, hasks⟩ | ⟨m, hsent, hack⟩
  · rw [hsent, hasks]
    rfl
  · rw [hsent, List.countP_cons, hack]
    cases a.asksShutdown cfg <;> rfl

theorem Told.suffix (h : Told cfg p a q) : p.sent <:+ q.sent := by
  rcases h.sent with ⟨hsent, -⟩ | ⟨m, hsent, -⟩
  · rw [hsent]
  · rw [hsent]
    exact List.suffix_cons m _

end WorkerProcess

/-! ## The channels -/

namespace Worker.Grows

variable {w w' : Worker}

/-- The channel to a worker is only written at its end. -/
theorem ipc (h : w.Grows w') : w.ipc <+: w'.ipc := by
  obtain ⟨l, hl⟩ := h.sent
  rw [Worker.ipc, Worker.ipc, ← hl, List.map_append, List.filter_append, List.reverse_append]
  exact List.prefix_append _ _

theorem kills (h : w.Grows w') (signal : Signal) : w.kills signal ≤ w'.kills signal :=
  h.sent.sublist.countP_le

end Worker.Grows

/-- Something reached the worker over the channel, so something was sent. -/
theorem Worker.sent_of_ipc {w : Worker} {n : Nat} {x : Sent} (h : x ∈ w.ipc.take n) :
    w.sent ≠ [] := by
  intro hnil
  simp [Worker.ipc, hnil] at h

theorem Worker.sent_of_kills {w : Worker} {signal : Signal} (h : 0 < w.kills signal) :
    w.sent ≠ [] := by
  intro hnil
  simp [Worker.kills, hnil] at h

namespace Fleet

variable {e : Host} {f g : Fleet} {b : FleetAction} {id : Nat}

/-- What the two sides have told each other. -/
structure Conversed (e : Host) (f : Fleet) (id : Nat) : Prop where
  unforked : f.isForked id = false →
    f.processes id = {} ∧ f.reached id = 0 ∧ f.signals id = [] ∧ f.heard id = 0
  reached : f.reached id ≤ (f.primary.worker id).ipc.length
  acks : (f.processes id).acks e.cfg =
    ((f.primary.worker id).ipc.take (f.reached id)).count .shutdownMessage
  signals : ∀ signal, (f.signals id).count signal ≤ (f.primary.worker id).kills signal
  heard : f.heard id ≤ (f.messages id).length
  dead : f.isForked id = true → f.primary.isDead id = true → (f.processes id).ended ≠ none

theorem Conversed.initial (e : Host) (count : WorkerCount) (env : ProcessEnv) (id : Nat) :
    Conversed e (fleet e count env).init id where
  unforked _ := ⟨rfl, rfl, rfl, rfl⟩
  reached := Nat.zero_le _
  acks := rfl
  signals _ := Nat.zero_le _
  heard := le_rfl
  dead hf := by
    have hids : 1 ≤ id ∧ id ≤ 0 := of_decide_eq_true hf
    omega

theorem isForked_of_le (hle : f.primary.cluster.ids ≤ g.primary.cluster.ids)
    (hf : f.isForked id = true) : g.isForked id = true := by
  simp only [isForked, decide_eq_true_eq] at hf ⊢
  exact ⟨hf.1, hf.2.trans hle⟩

/-- A segment of the primary: it sends more, and notes an end only where there was one. -/
theorem Conversed.primary (h : Conversed e f id) (hw : WellFormed f.primary) {a : Action}
    {s : State} (hact : f.primary.act e a = some s) {heard : Nat → Nat} {leaving : Nat → Bool}
    (hb : f.PrimaryCause b a heard leaving) :
    Conversed e { f with primary := s, heard := heard, leaving := leaving } id := by
  have hlater := (act_pieces hw hact).later
  have hnot : ({ f with primary := s, heard := heard, leaving := leaving } : Fleet).isForked id =
      false → f.isForked id = false := by
    intro hg
    by_contra hf
    rw [isForked_of_le hlater.ids (by simpa using hf)] at hg
    cases hg
  -- a forked worker's record grows; of the others nothing was read yet
  have hgrown : f.isForked id = true → (f.primary.worker id).Grows (s.worker id) := by
    intro hf
    simp only [isForked, decide_eq_true_eq] at hf
    exact hlater.worker id hf.2
  have hheard : heard id ≤ (f.messages id).length := by
    cases hb with
    | hear id' msg hmsg =>
      by_cases hid : id = id'
      · subst hid
        rw [Function.update_self]
        exact (List.getElem?_eq_some_iff.mp hmsg).1
      · rw [Function.update_of_ne hid]
        exact h.heard
    | _ => exact h.heard
  constructor
  case unforked =>
    intro hg
    obtain ⟨hp, hr, hs, hh⟩ := h.unforked (hnot hg)
    refine ⟨hp, hr, hs, ?_⟩
    have hzero : (f.messages id).length = 0 := by simp [messages, hp]
    show heard id = 0
    omega
  case reached =>
    show f.reached id ≤ (s.worker id).ipc.length
    cases hf : f.isForked id with
    | true => exact h.reached.trans (hgrown hf).ipc.length_le
    | false => rw [(h.unforked hf).2.1]; exact Nat.zero_le _
  case acks =>
    show (f.processes id).acks e.cfg = ((s.worker id).ipc.take (f.reached id)).count .shutdownMessage
    cases hf : f.isForked id with
    | true =>
      obtain ⟨l, hl⟩ := (hgrown hf).ipc
      rw [h.acks, ← hl, List.take_append_of_le_length h.reached]
    | false => rw [(h.unforked hf).1, (h.unforked hf).2.1]; rfl
  case signals =>
    intro signal
    show (f.signals id).count signal ≤ (s.worker id).kills signal
    cases hf : f.isForked id with
    | true => exact (h.signals signal).trans ((hgrown hf).kills signal)
    | false => rw [(h.unforked hf).2.2.1]; exact Nat.zero_le _
  case heard => exact hheard
  case dead =>
    intro hg hd
    simp only [isForked, decide_eq_true_eq] at hg
    rcases act_dead hw hact hg.2 hd with ⟨hle, hdead⟩ | ⟨code, signal, rfl⟩
    · exact h.dead (by simp [isForked, hg.1, hle]) hdead
    · cases hb with
      | own a ha => cases ha
      | exited id x hx => simp [hx]

/-- A segment of a worker: it reads one message or signal at most. -/
theorem Conversed.worker (h : Conversed e f id) {j : Nat} {a : WorkerAction} {p : WorkerProcess}
    {reached : Nat → Nat} {signals : Nat → List Signal} (hf : f.isForked j = true)
    (hstep : (f.processes j).step e.cfg f.now a = some p)
    (hb : f.WorkerCause e b j a reached signals) :
    Conversed e { f with
      processes := Function.update f.processes j p, reached := reached, signals := signals } id := by
  by_cases hid : id = j
  · subst hid
    obtain ⟨hended, -, hact⟩ := WorkerProcess.step_act hstep
    have htold := WorkerProcess.act_told hact
    have hself : Function.update f.processes id p id = p := Function.update_self _ _ _
    constructor
    case unforked => exact fun hg => absurd (hf.symm.trans hg) (by simp)
    case reached =>
      show reached id ≤ (f.primary.worker id).ipc.length
      cases hb with
      | reach _ sent hsent =>
        rw [Function.update_self]
        exact (List.getElem?_eq_some_iff.mp hsent).1
      | _ => exact h.reached
    case acks =>
      show (Function.update f.processes id p id).acks e.cfg =
        ((f.primary.worker id).ipc.take (reached id)).count .shutdownMessage
      rw [hself, htold.acks, h.acks]
      cases hb with
      | reach _ sent hsent =>
        rw [Function.update_self, List.take_add_one, hsent]
        cases sent with
        | shutdownMessage => simp [arrival, WorkerAction.asksShutdown, isTypedMessage]
        | disconnect => simp [arrival, WorkerAction.asksShutdown]
        | kill signal => simp [arrival, WorkerAction.asksShutdown]
      | own _ _ ha =>
        cases a with
        | message msg => cases ha
        | _ => rfl
      | signal | left | orphaned => rfl
    case signals =>
      intro signal
      show (signals id).count signal ≤ (f.primary.worker id).kills signal
      cases hb with
      | signal _ sent hcount =>
        rw [Function.update_self, List.count_cons]
        have hle := h.signals signal
        split
        · rename_i heq
          rw [beq_iff_eq] at heq
          subst heq
          omega
        · exact hle
      | _ => exact h.signals signal
    case heard =>
      show f.heard id ≤ ((Function.update f.processes id p id).sent.map Prod.fst).reverse.length
      rw [hself]
      have hle := h.heard
      simp only [messages, List.length_reverse, List.length_map] at hle ⊢
      exact hle.trans htold.suffix.length_le
    case dead =>
      intro _ hd
      exact absurd hended (h.dead hf hd)
  · have hother : Function.update f.processes j p id = f.processes id := Function.update_of_ne hid _ _
    have hreached : reached id = f.reached id := by
      cases hb with
      | reach => exact Function.update_of_ne hid _ _
      | _ => rfl
    have hsignals : signals id = f.signals id := by
      cases hb with
      | signal => exact Function.update_of_ne hid _ _
      | _ => rfl
    constructor
    case unforked =>
      show f.isForked id = false → Function.update f.processes j p id = {} ∧ reached id = 0 ∧
        signals id = [] ∧ f.heard id = 0
      rw [hother, hreached, hsignals]
      exact h.unforked
    case reached => simpa only [hreached] using h.reached
    case acks => simpa only [hother, hreached] using h.acks
    case signals => simpa only [hsignals] using h.signals
    case heard => simpa only [messages, hother] using h.heard
    case dead =>
      show f.isForked id = true → f.primary.isDead id = true →
        (Function.update f.processes j p id).ended ≠ none
      rw [hother]
      exact h.dead

theorem Conversed.step (h : Conversed e f id) (hw : WellFormed f.primary) (hm : Moved e f b g) :
    Conversed e g id := by
  cases hm with
  | ticked ms =>
    have hsame : (f.tick ms).primary.cluster = f.primary.cluster := by
      unfold tick
      dsimp only
      split <;> rfl
    have hworker : (f.tick ms).primary.worker id = f.primary.worker id := by
      rw [State.worker, hsame, State.worker]
    have hforked : (f.tick ms).isForked id = f.isForked id := by
      rw [isForked, hsame, isForked]
    constructor
    case unforked =>
      rw [hforked]
      exact h.unforked
    case reached =>
      rw [hworker]
      exact h.reached
    case acks =>
      rw [hworker]
      exact h.acks
    case signals =>
      rw [hworker]
      exact h.signals
    case heard => exact h.heard
    case dead =>
      rw [hforked, isDead, hworker]
      exact h.dead
  | primary a s heard leaving hx hact hb => exact h.primary hw hact hb
  | worker j a p reached signals hf hstep hb => exact h.worker hf hstep hb

end Fleet

variable {e : Host} {count : WorkerCount} {env : ProcessEnv} {f : Fleet}

theorem fleet_conversed (h : (fleet e count env).Reachable f) (id : Nat) :
    Fleet.Conversed e f id :=
  StepSystem.Run.preserves_of (P := fun f => Fleet.Conversed e f id) h .refl
    (fun _ hx => Fleet.wellFormed hx)
    (fun _ _ _ hw hx _ hs => hx.step hw (Fleet.step_moved hs)) (.initial e count env id)

/-! ## Acknowledgements -/

/-- What a worker law says of the process in a fleet. -/
theorem Fleet.process_lawful (h : (fleet e count env).Reachable f) (id : Nat) :
    (f.clocked id).Sound e.cfg ∧ (f.processes id).Reporting e.cfg False f.now := by
  have hside := (fleet_sides h).2 id
  exact ⟨ClockedWorker.sound_of_reachable hside,
    (ClockedWorker.lawful_of_run False (fun _ _ _ hf => hf.elim) hside).reporting⟩

/-- Nobody from outside touches a worker: no signals but the primary's, no application that
ends or leaves before it was told to go. -/
def leftAlone (f : Fleet) : FleetAction → Bool
  | .worker _ (.signal _) => false
  | .worker id (.applicationEnds _) =>
    (f.processes id).began.isSome || !(f.processes id).connected
  | .leave _ => false
  | _ => true

namespace Fleet

variable {g : Fleet} {b : FleetAction} {id : Nat}

/-- Why the process of a worker is where it is. -/
structure Caused (f : Fleet) (id : Nat) : Prop where
  stays : f.leaving id = false
  began : (f.processes id).began ≠ none →
    .shutdownMessage ∈ (f.primary.worker id).ipc.take (f.reached id) ∨ f.signals id ≠ []
  closed : (f.processes id).connected = false →
    .disconnect ∈ (f.primary.worker id).ipc.take (f.reached id) ∨ f.primary.process.exited = true
  ended : (f.processes id).ended ≠ none →
    (f.processes id).began ≠ none ∨ f.signals id ≠ [] ∨ (f.processes id).connected = false ∨
      f.primary.process.exited = true

theorem Caused.initial (e : Host) (count : WorkerCount) (env : ProcessEnv) (id : Nat) :
    Caused (fleet e count env).init id where
  stays := rfl
  began h := absurd rfl h
  closed h := by cases h
  ended h := absurd rfl h

/-- The record of a forked worker only grows, hence so does what reached it. -/
theorem mem_reached_of_grows {w w' : Worker} (hg : w.Grows w') {n : Nat} (hn : n ≤ w.ipc.length)
    {x : Sent} (hx : x ∈ w.ipc.take n) : x ∈ w'.ipc.take n := by
  obtain ⟨l, hl⟩ := hg.ipc
  rwa [← hl, List.take_append_of_le_length hn]

theorem Caused.primary (h : Caused f id) (hc : Conversed e f id) (hw : WellFormed f.primary)
    (hok : leftAlone f b = true) {a : Action} {s : State}
    (hx : f.primary.process.exited = false) (hact : f.primary.act e a = some s)
    {heard : Nat → Nat} {leaving : Nat → Bool} (hb : f.PrimaryCause b a heard leaving) :
    Caused { f with primary := s, heard := heard, leaving := leaving } id := by
  have hexited : ¬ f.primary.process.exited = true := by simp [hx]
  have hgrown : ∀ x ∈ (f.primary.worker id).ipc.take (f.reached id),
      x ∈ (s.worker id).ipc.take (f.reached id) := by
    intro x hmem
    cases hf : f.isForked id with
    | true =>
      simp only [isForked, decide_eq_true_eq] at hf
      exact mem_reached_of_grows ((act_pieces hw hact).later.worker id hf.2) hc.reached hmem
    | false =>
      rw [(hc.unforked hf).2.1] at hmem
      cases hmem
  constructor
  case stays =>
    show leaving id = false
    cases hb with
    | leave => cases hok
    | _ => exact h.stays
  case began => exact fun hne => (h.began hne).imp_left (hgrown _)
  case closed => exact fun hne => .inl (hgrown _ ((h.closed hne).resolve_right hexited))
  case ended =>
    intro hne
    rcases h.ended hne with hbegan | hsignal | hclosed | hgone
    · exact .inl hbegan
    · exact .inr (.inl hsignal)
    · exact .inr (.inr (.inl hclosed))
    · exact absurd hgone hexited

/-- What reaches a worker over its channel is a message or the end of the channel. -/
theorem arrival_of_ipc {w : Worker} {n : Nat} {x : Sent} (h : w.ipc[n]? = some x) :
    x = .shutdownMessage ∨ x = .disconnect := by
  have hmem : x ∈ w.ipc := List.mem_of_getElem? h
  rw [Worker.ipc, List.mem_reverse, List.mem_filter] at hmem
  cases x with
  | shutdownMessage => exact .inl rfl
  | disconnect => exact .inr rfl
  | kill => cases hmem.2

theorem Caused.worker (h : Caused f id) (hsound : (f.clocked id).Sound e.cfg)
    (hok : leftAlone f b = true) {j : Nat} {a : WorkerAction} {p : WorkerProcess}
    {reached : Nat → Nat} {signals : Nat → List Signal}
    (hstep : (f.processes j).step e.cfg f.now a = some p)
    (hb : f.WorkerCause e b j a reached signals) :
    Caused { f with
      processes := Function.update f.processes j p, reached := reached, signals := signals } id := by
  by_cases hid : id = j
  · subst hid
    obtain ⟨hended, -, hact⟩ := WorkerProcess.step_act hstep
    have htold := WorkerProcess.act_told hact
    have hself : Function.update f.processes id p id = p := Function.update_self _ _ _
    -- what reached the worker so far is not taken back
    have hmore : ∀ x ∈ (f.primary.worker id).ipc.take (f.reached id),
        x ∈ (f.primary.worker id).ipc.take (reached id) := by
      intro x hmem
      cases hb with
      | reach _ sent hsent =>
        rw [Function.update_self, List.take_add_one]
        exact List.mem_append_left _ hmem
      | _ => exact hmem
    have hsignals : f.signals id ≠ [] → signals id ≠ [] := by
      intro hne
      cases hb with
      | signal => simp
      | _ => exact hne
    have hsignalled : ∀ signal, a = .signal signal → signals id ≠ [] := by
      intro signal ha
      cases hb with
      | own => subst ha; cases hok
      | reach _ sent hsent => rcases arrival_of_ipc hsent with rfl | rfl <;> cases ha
      | signal => simp
      | left | orphaned => cases ha
    have hdisconnected : ∀ asked, a = .disconnected asked →
        .disconnect ∈ (f.primary.worker id).ipc.take (reached id) ∨
          f.primary.process.exited = true := by
      intro asked ha
      cases hb with
      | own _ _ hown => subst ha; cases hown
      | reach _ sent hsent =>
        rcases arrival_of_ipc hsent with rfl | rfl
        · cases ha
        · rw [Function.update_self, List.take_add_one, hsent]
          exact .inl (List.mem_append_right _ (List.mem_singleton_self _))
      | signal => cases ha
      | left _ hl => exact absurd (h.stays.symm.trans hl) (by simp)
      | orphaned _ hx => exact .inr hx
    have hgrown := WorkerProcess.Grown.step hsound hended
      (WorkerProcess.act_shutdownStep hended (WorkerProcess.Sound.listening hsound) hact)
    have hbegan : (f.processes id).began ≠ none → p.began ≠ none := by
      intro hne
      obtain ⟨x, hx⟩ := Option.ne_none_iff_exists'.mp hne
      rw [hgrown.began x hx]
      simp
    constructor
    case stays => exact h.stays
    case began =>
      show (Function.update f.processes id p id).began ≠ none →
        .shutdownMessage ∈ (f.primary.worker id).ipc.take (reached id) ∨ signals id ≠ []
      rw [hself]
      intro hne
      rcases htold.began with heq | hasks | ⟨signal, ha⟩
      · rw [heq] at hne
        exact (h.began hne).imp (hmore _) hsignals
      · cases hb with
        | own _ _ hown => cases a <;> first | cases hasks | cases hown
        | reach _ sent hsent =>
          rcases arrival_of_ipc hsent with rfl | rfl
          · rw [Function.update_self, List.take_add_one, hsent]
            exact .inl (List.mem_append_right _ (List.mem_singleton_self _))
          · cases hasks
        | signal | left | orphaned => cases hasks
      · exact .inr (hsignalled signal ha)
    case closed =>
      show (Function.update f.processes id p id).connected = false →
        .disconnect ∈ (f.primary.worker id).ipc.take (reached id) ∨
          f.primary.process.exited = true
      rw [hself]
      intro hc
      rcases htold.connected with heq | ⟨asked, ha⟩
      · rw [heq] at hc
        exact (h.closed hc).imp_left (hmore _)
      · exact hdisconnected asked ha
    case ended =>
      show (Function.update f.processes id p id).ended ≠ none →
        (Function.update f.processes id p id).began ≠ none ∨ signals id ≠ [] ∨
          (Function.update f.processes id p id).connected = false ∨
            f.primary.process.exited = true
      rw [hself]
      intro hne
      have hbegun (hu : ¬ (f.processes id).Unbegun) : (f.processes id).began ≠ none := by
        obtain ⟨signal, time, hb', -⟩ := WorkerProcess.Sound.exists_begun hsound hu
        rw [show (f.processes id).began = _ from hb']
        simp
      rcases htold.ended with heq | ⟨signal, ha⟩ | ⟨code, ha⟩ | ha | hframe | htimer
      · exact absurd (heq.trans hended) hne
      · exact .inr (.inl (hsignalled signal ha))
      · cases hb with
        | own =>
          subst ha
          cases hact
          simp only [leftAlone, Bool.or_eq_true, Bool.not_eq_true', Option.isSome_iff_ne_none] at hok
          rcases hok with hok | hok
          · exact .inl hok
          · exact .inr (.inr (.inl hok))
        | reach _ sent hsent => rcases arrival_of_ipc hsent with rfl | rfl <;> cases ha
        | signal | left | orphaned => cases ha
      · subst ha
        simp only [WorkerProcess.act] at hact
        split at hact
        · cases hact
          exact .inr (.inr (.inl rfl))
        · cases hact
      · exact .inl (hbegan (hbegun fun hu => by rw [hu.frame] at hframe; cases hframe))
      · exact .inl (hbegan (hbegun fun hu => htimer hu.exitTimer))
  · have hother : Function.update f.processes j p id = f.processes id := Function.update_of_ne hid _ _
    have hreached : reached id = f.reached id := by
      cases hb with
      | reach => exact Function.update_of_ne hid _ _
      | _ => rfl
    have hsignals : signals id = f.signals id := by
      cases hb with
      | signal => exact Function.update_of_ne hid _ _
      | _ => rfl
    constructor
    case stays => exact h.stays
    case began => simpa only [hother, hreached, hsignals] using h.began
    case closed => simpa only [hother, hreached] using h.closed
    case ended => simpa only [hother, hsignals] using h.ended

theorem Caused.step (h : Caused f id) (hc : Conversed e f id) (hw : WellFormed f.primary)
    (hsound : (f.clocked id).Sound e.cfg) (hok : leftAlone f b = true) (hm : Moved e f b g) :
    Caused g id := by
  cases hm with
  | ticked ms =>
    have hprocess : (f.tick ms).primary.process = f.primary.process := by
      unfold tick
      dsimp only
      split <;> rfl
    have hworker : (f.tick ms).primary.worker id = f.primary.worker id := by
      unfold tick
      dsimp only
      split <;> rfl
    constructor
    case stays => exact h.stays
    case began => rw [hworker]; exact h.began
    case closed => rw [hworker, hprocess]; exact h.closed
    case ended => rw [hprocess]; exact h.ended
  | primary a s heard leaving hx hact hb => exact h.primary hc hw hok hx hact hb
  | worker j a p reached signals hf hstep hb => exact h.worker hsound hok hstep hb

/-- A worker that began its shutdown was told to by the primary. -/
theorem Caused.drainSent_of_began (h : Caused f id) (hc : Conversed e f id)
    (hb : (f.processes id).began ≠ none) : f.primary.drainSent id := by
  rcases h.began hb with hmessage | hsignals
  · exact Worker.sent_of_ipc hmessage
  · obtain ⟨signal, hsignal⟩ := List.exists_mem_of_ne_nil _ hsignals
    have hpos : 0 < (f.signals id).count signal := List.count_pos_iff.mpr hsignal
    exact Worker.sent_of_kills (hpos.trans_le (hc.signals signal))

/-- So was a worker that ended, unless the primary is gone. -/
theorem Caused.drainSent_of_ended (h : Caused f id) (hc : Conversed e f id)
    (hended : (f.processes id).ended ≠ none) (hx : f.primary.process.exited = false) :
    f.primary.drainSent id := by
  have hexited : ¬ f.primary.process.exited = true := by simp [hx]
  rcases h.ended hended with hbegan | hsignals | hclosed | hgone
  · exact h.drainSent_of_began hc hbegan
  · obtain ⟨signal, hsignal⟩ := List.exists_mem_of_ne_nil _ hsignals
    have hpos : 0 < (f.signals id).count signal := List.count_pos_iff.mpr hsignal
    exact Worker.sent_of_kills (hpos.trans_le (hc.signals signal))
  · exact Worker.sent_of_ipc ((h.closed hclosed).resolve_right hexited)
  · exact absurd hgone hexited

end Fleet

theorem fleet_caused {ok : Fleet → FleetAction → Prop}
    (hok : ∀ x b, ok x b → leftAlone x b = true)
    (h : (fleet e count env).Run ok (fleet e count env).init f) (id : Nat) :
    Fleet.Caused f id :=
  h.preserves_of (P := fun f => Fleet.Caused f id) (Q := fun f => (fleet e count env).Reachable f)
    .refl (fun _ hx => hx)
    (fun x b _ hx hp ha hs => hp.step (fleet_conversed hx id) (Fleet.wellFormed hx)
      (Fleet.process_lawful hx id).1 (hok x b ha) (Fleet.step_moved hs))
    (.initial e count env id)

end ClusterKit
