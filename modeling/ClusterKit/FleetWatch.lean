import ClusterKit.DrainMarks
import ClusterKit.FleetHealth
import ClusterKit.FleetServing
import ClusterKit.FleetShutdown
import ClusterKit.Validation
import ClusterKit.WedgedWatch

/-! The watch for wedged workers, seen from the processes: as long as heartbeats are sent on
time and read within an interval, nobody who works is reported, and whoever is told to go is
marked before its heartbeats stop. -/

namespace ClusterKit

open State StepSystem

variable {e : Host} {count : WorkerCount} {env : ProcessEnv} {s t : State} {a : Action}

/-! ## Who is watched -/

/-- The watch learns of a beat from a message only. -/
theorem act_seen {id T : Nat} (hact : s.act e a = some t) (hmsg : ∀ msg, a ≠ .workerMessage id msg)
    (hseen : t.watchdog.seen id = some T) : s.watchdog.seen id = some T := by
  rcases act_watches hact with hsame | ⟨input, hfeeds, hstep⟩
  · rw [← hsame]
    exact hseen
  · cases hfeeds with
    | tick | started | rearmed =>
      rw [← Option.some.inj hstep] at hseen
      exact hseen
    | stopped =>
      rw [← Option.some.inj hstep] at hseen
      cases hseen
    | heard j msg =>
      rw [← Option.some.inj hstep] at hseen
      have hj : id ≠ j := fun heq => hmsg msg (heq ▸ rfl)
      exact (Function.update_of_ne hj _ _).symm.trans hseen
    | left j =>
      rw [← Option.some.inj hstep] at hseen
      replace hseen : Function.update s.watchdog.seen j none id = some T := hseen
      by_cases hj : id = j
      · subst hj
        rw [Function.update_self] at hseen
        cases hseen
      · rwa [Function.update_of_ne hj] at hseen
    | looked =>
      simp only [Watchdog.step] at hstep
      split at hstep
      · cases hstep
      · split at hstep
        · rw [← Option.some.inj hstep] at hseen
          simp only [Watchdog.look] at hseen
          split at hseen
          · cases hseen
          · exact hseen
        · cases hstep

/-- The monitor has noted the exit of every dead worker, and watches nobody whose exit it
has noted. -/
structure Registered (s : State) : Prop where
  noted : ∀ id ∈ s.workerIds, s.isDead id = true → id ∈ s.health.exitedWorkerIds
  known : ∀ id, s.watchdog.seen id ≠ none → id ∉ s.health.exitedWorkerIds

theorem workerExit_noted (hw : WellFormed s) (hs : s.isShuttingDown = false) {id : Nat}
    {code : Option Int} {signal : Option String} (h : s.workerExit e id code signal = some t) :
    t.health.exitedWorkerIds = insert id s.health.exitedWorkerIds := by
  obtain ⟨ha, ⟨hdisposed, -⟩ | ⟨graceful, heq⟩⟩ := workerExit_view h
  · have hran := workerExitListeners_ran (e := e) hw ha
    have hd := hw.disposed (hran.same.manager ▸ hdisposed)
    cases hs.symm.trans hd
  · exact congrArg HealthView.exitedWorkerIds heq

namespace Registered

theorem initial (e : Host) (count : WorkerCount) (env : ProcessEnv) :
    Registered (State.initial e count env) where
  noted id hid := by simp [workerIds, State.initial] at hid
  known _ hseen := absurd rfl hseen

theorem workerExit (h : Registered s) (hw : WellFormed s) (hs : s.isShuttingDown = false) {id : Nat}
    {code : Option Int} {signal : Option String} (hact : s.workerExit e id code signal = some t) :
    Registered t := by
  have hnoted := workerExit_noted hw hs hact
  obtain ⟨m, rfl, hran, -⟩ := workerExit_ran hw hact
  have hleft := (workerExit_watchdog hact).resolve_left fun hd =>
    Bool.false_ne_true (hs.symm.trans (hw.disposed (hran.same.manager ▸ hd.1)))
  constructor
  case noted =>
    intro j hj hdead
    obtain ⟨hpos, hle⟩ := Finset.mem_Icc.mp hj
    rw [hnoted, Finset.mem_insert]
    rcases act_dead (a := .workerExit id code signal) hw hact hle hdead with
      ⟨hle', hdead'⟩ | ⟨_, _, heq⟩
    · exact .inr (h.noted j (Finset.mem_Icc.mpr ⟨hpos, hle'⟩) hdead')
    · cases heq
      exact .inl rfl
  case known =>
    intro j hseen
    have hj : j ≠ id := by
      rintro rfl
      rw [hleft] at hseen
      exact hseen (Function.update_self ..)
    have hseen' : s.watchdog.seen j ≠ none := by
      rw [hleft] at hseen
      exact fun hnone => hseen ((Function.update_of_ne hj _ _).trans hnone)
    rw [hnoted, Finset.mem_insert]
    exact fun hmem => hmem.elim hj (h.known j hseen')

/-- Every other segment notes nobody, and watches only whom it hears from. -/
theorem of_kept (h : Registered s) (hw : WellFormed s) (hact : s.act e a = some t)
    (hexit : ∀ id code signal, a ≠ .workerExit id code signal)
    (hnoted : t.health.exitedWorkerIds = s.health.exitedWorkerIds)
    (hseen : ∀ id, t.watchdog.seen id ≠ none →
      s.watchdog.seen id ≠ none ∨ id ∉ s.health.exitedWorkerIds) : Registered t where
  noted id hid hdead := by
    obtain ⟨hpos, hle⟩ := Finset.mem_Icc.mp hid
    rw [hnoted]
    rcases act_dead hw hact hle hdead with ⟨hle', hdead'⟩ | ⟨code, signal, heq⟩
    · exact h.noted id (Finset.mem_Icc.mpr ⟨hpos, hle'⟩) hdead'
    · exact absurd heq (hexit id code signal)
  known id hid := by
    rw [hnoted]
    exact (hseen id hid).elim (h.known id) fun hout => hout

theorem step (h : Registered s) (hw : WellFormed s) (hs : s.isShuttingDown = false)
    (ha : ∀ signal, a ≠ .shutdownPrimary signal) (hact : s.act e a = some t) : Registered t := by
  by_cases hexit : ∃ id code signal, a = .workerExit id code signal
  · obtain ⟨id, code, signal, rfl⟩ := hexit
    exact h.workerExit hw hs hact
  · have hexit' : ∀ id code signal, a ≠ .workerExit id code signal :=
      fun id code signal heq => hexit ⟨id, code, signal, heq⟩
    by_cases hmsg : ∃ id msg, a = .workerMessage id msg
    · obtain ⟨id, msg, rfl⟩ := hmsg
      refine h.of_kept hw hact hexit' ?_ fun j hj => ?_
      · rcases workerMessage_view hact with ⟨-, heq⟩ | ⟨-, -, r, -, heq⟩
        · exact congrArg HealthView.exitedWorkerIds heq
        · exact congrArg HealthView.exitedWorkerIds heq
      · rcases workerMessage_watchdog hact with ⟨-, hsame⟩ | ⟨-, hout, hbeat⟩
        · exact .inl (hsame ▸ hj)
        · by_cases hid : j = id
          · exact .inr (hid ▸ hout)
          · rw [hbeat] at hj
            exact .inl fun hnone => hj ((Function.update_of_ne hid _ _).trans hnone)
    · have hview : a.changesView = false := by
        cases a with
        | workerMessage id msg => exact absurd ⟨id, msg, rfl⟩ hmsg
        | workerExit id code signal => exact absurd ⟨id, code, signal, rfl⟩ hexit
        | shutdownPrimary signal => exact absurd rfl (ha signal)
        | _ => rfl
      refine h.of_kept hw hact hexit' (congrArg HealthView.exitedWorkerIds (act_view hview hact)) ?_
      intro j hj
      obtain ⟨T, hT⟩ := Option.ne_none_iff_exists'.mp hj
      refine .inl ?_
      rw [act_seen hact (fun msg heq => hmsg ⟨j, msg, heq⟩) hT]
      exact Option.some_ne_none T

end Registered

/-! ## What a worker sends -/

namespace WorkerProcess

variable {cfg : ResolvedConfig} {now : Nat} {p q : WorkerProcess} {b : WorkerAction}

/-- What a segment of a worker sends, and whether it goes on reporting. -/
inductive Reports (cfg : ResolvedConfig) (now : Nat) (p q : WorkerProcess) : Prop
  | quiet (hsent : q.sent = p.sent ∨
      ∃ msg, q.sent = (msg, now) :: p.sent ∧ isHeartbeat cfg (msg, now) = false)
    (htimer : q.began ≠ none ∨ p.listening = false ∨
      (p.reportTimer ≠ none → q.reportTimer ≠ none))
  | beat (rss heapUsed : Int) (hsent : q.sent = (p.heartbeat cfg now rss heapUsed, now) :: p.sent)
    (htimer : q.reportTimer ≠ none)

theorem Reports.unchanged (hsent : q.sent = p.sent) (htimer : q.reportTimer = p.reportTimer) :
    Reports cfg now p q :=
  .quiet (.inl hsent) (.inr (.inr fun hne => htimer ▸ hne))

theorem handleShutdown_began (hsound : Sound cfg now p) (signal : String) :
    (p.handleShutdown cfg now signal).began ≠ none := by
  unfold handleShutdown
  dsimp only
  split
  · rename_i hin
    intro hnone
    exact Bool.false_ne_true ((hsound.unbegun hnone).inProgress.symm.trans hin)
  · exact Option.some_ne_none _

theorem act_reports (hsound : Sound cfg now p) (h : p.act cfg now b = some q) :
    Reports cfg now p q := by
  cases b with
  | run =>
    cases h
    split <;> exact .unchanged rfl rfl
  | pluginsInstalled =>
    simp only [act] at h
    split at h
    · rename_i hi
      cases h
      refine .quiet (.inl ?_) (.inr (.inl ?_))
      · unfold startWorkerReporting
        split <;> rfl
      · simp [listening, hi]
    · cases h
  | pluginInstallFailed =>
    simp only [act] at h
    split at h <;> cases h
    exact .unchanged rfl rfl
  | registerOnShutdown | setNotReady | applicationEnds =>
    cases h
    exact .unchanged rfl rfl
  | setReady =>
    cases h
    split <;> exact .unchanged rfl rfl
  | applicationSends msg =>
    simp only [act] at h
    split at h
    · cases h
    · rename_i hfree
      simp only [isReserved, Bool.or_eq_true, decide_eq_true_eq, not_or] at hfree
      cases h
      unfold send
      split
      · have hnot : isHeartbeat cfg (msg, now) = false := by simpa [isHeartbeat] using hfree.2
        exact .quiet (.inr ⟨msg, rfl, hnot⟩) (.inr (.inr fun hne => hne))
      · exact .unchanged rfl rfl
  | message msg =>
    simp only [act] at h
    split at h
    · cases h
      unfold onMessage
      split
      · rw [handleShutdown_send]
        have hbegan := handleShutdown_began hsound "IPC"
        have hsent : (p.handleShutdown cfg now "IPC").sent = p.sent := handleShutdown_sent "IPC"
        unfold send
        split
        · refine .quiet (.inr ⟨_, congrArg _ hsent, ?_⟩) (.inl hbegan)
          simp [isHeartbeat, cfg.shutdown.heartbeatType_ne_shutdownAckType.symm]
        · exact .quiet (.inl hsent) (.inl hbegan)
      · exact .unchanged rfl rfl
    · cases h
  | signal signal =>
    cases h
    unfold onSignal
    split
    · exact .quiet (.inl (handleShutdown_sent _)) (.inl (handleShutdown_began hsound _))
    · exact .unchanged rfl rfl
  | disconnected asked =>
    simp only [act] at h
    split at h <;> cases h
    cases asked <;> exact .unchanged rfl rfl
  | report rss heapUsed =>
    simp only [act, report] at h
    split at h
    · cases h
    · split at h <;> cases h
      unfold send
      split
      · exact .beat rss heapUsed rfl (Option.some_ne_none _)
      · exact .quiet (.inl rfl) (.inr (.inr fun _ => Option.some_ne_none _))
  | callNext throws registers =>
    simp only [act, callNext] at h
    split at h
    · split at h <;> cases h
      exact .unchanged rfl rfl
    · cases h
  | callsOver =>
    simp only [act, callsOver] at h
    split at h
    · split at h <;> cases h
      exact .unchanged rfl rfl
    · cases h
  | callbackSettled | callbacksReturned =>
    simp only [act, callbackSettled, callbacksReturned] at h
    split at h <;> cases h
    exact .unchanged rfl rfl
  | exitElapsed =>
    simp only [act, exitElapsed] at h
    split at h
    · cases h
    · split at h <;> cases h
      exact .unchanged rfl rfl

/-- Heartbeats are well formed, and whoever has sent one goes on until its shutdown. -/
structure Beating (cfg : ResolvedConfig) (p : WorkerProcess) : Prop where
  valid : ∀ m ∈ p.sent, isHeartbeat cfg m = true → heartbeatLag cfg (some m.1) ≠ none
  armed : p.heartbeats cfg ≠ [] → p.began = none → p.reportTimer ≠ none

theorem heartbeatLag_heartbeat (rss heapUsed : Int) :
    heartbeatLag cfg (some (p.heartbeat cfg now rss heapUsed)) ≠ none := by
  simp [heartbeatLag, heartbeat, ShutdownConfig.heartbeatType]

theorem isHeartbeat_of_lag {m : Message × Nat} (h : heartbeatLag cfg (some m.1) ≠ none) :
    isHeartbeat cfg m = true := by
  refine decide_eq_true ?_
  unfold heartbeatLag at h
  split at h
  · rename_i heq
    split at h
    · rename_i htype
      rw [Option.some.inj heq]
      exact htype
    · exact absurd rfl h
  · exact absurd rfl h

theorem Beating.step (h : Beating cfg p) (hrep : Reporting cfg False now p)
    (hbegan : q.began = none → p.began = none) (hr : Reports cfg now p q) : Beating cfg q := by
  cases hr with
  | quiet hsent htimer =>
    have hbeats : q.heartbeats cfg = p.heartbeats cfg := by
      rcases hsent with hsent | ⟨msg, hsent, hnot⟩
      · rw [heartbeats, hsent, heartbeats]
      · simp [heartbeats, hsent, hnot]
    refine ⟨fun m hm hbeat => ?_, fun hne hnone => ?_⟩
    · rcases hsent with hsent | ⟨msg, hsent, hnot⟩
      · exact h.valid m (hsent ▸ hm) hbeat
      · rw [hsent] at hm
        rcases List.mem_cons.mp hm with rfl | hm
        · cases hnot.symm.trans hbeat
        · exact h.valid m hm hbeat
    · rw [hbeats] at hne
      rcases htimer with hb | hl | hkept
      · exact absurd hnone hb
      · exact absurd (hrep.fresh hl) hne
      · exact hkept (h.armed hne (hbegan hnone))
  | beat rss heapUsed hsent htimer =>
    refine ⟨fun m hm hbeat => ?_, fun _ _ => htimer⟩
    rw [hsent] at hm
    rcases List.mem_cons.mp hm with rfl | hm
    · exact heartbeatLag_heartbeat rss heapUsed
    · exact h.valid m hm hbeat

end WorkerProcess

open WorkerProcess in
theorem reachable_beating {cfg : ResolvedConfig} {x : ClockedWorker}
    (h : (workerProcess cfg).Reachable x) : x.process.Beating cfg := by
  refine h.preserves_of (P := fun x => x.process.Beating cfg)
    (Q := fun x => (workerProcess cfg).Reachable x) .refl (fun _ hx => hx) ?_
    ⟨fun m hm => absurd hm List.not_mem_nil, fun hne => absurd rfl hne⟩
  rintro u (ms | b) v hu hp - hs
  · cases hs
    exact hp
  · have hsound : u.process.Sound cfg u.now := ClockedWorker.sound_of_reachable hu
    obtain ⟨q, hq, rfl⟩ := Option.map_eq_some_iff.mp hs
    obtain ⟨hended, -, hact⟩ := step_act hq
    have hgrown := Grown.step hsound hended (act_shutdownStep hended hsound.listening hact)
    have hrep := (ClockedWorker.lawful_of_run False (fun _ _ _ hf => hf.elim) hu).reporting
    refine hp.step hrep (fun hnone => ?_) (act_reports hsound hact)
    by_contra hne
    obtain ⟨x, hx⟩ := Option.ne_none_iff_exists'.mp hne
    cases hnone.symm.trans (hgrown.began x hx)

/-! ## The channel to the primary -/

namespace Fleet

variable {f g : Fleet} {b : FleetAction} {id latency : Nat}

/-- What a worker sent and when, oldest first. -/
def posts (f : Fleet) (id : Nat) : List (Message × Nat) := (f.processes id).sent.reverse

/-- What of it the primary has read. -/
def read (f : Fleet) (id : Nat) : List (Message × Nat) := (f.posts id).take (f.heard id)

def unread (f : Fleet) (id : Nat) : List (Message × Nat) := (f.posts id).drop (f.heard id)

/-- No message stays unread for longer than `latency`. -/
def promptlyRead (latency : Nat) (f : Fleet) : FleetAction → Bool
  | .tick ms => (List.range' 1 f.primary.cluster.ids).all fun id =>
      (f.unread id).all fun m => decide (f.now + ms ≤ m.2 + latency)
  | _ => true

/-- What the watch knows of a worker comes from its heartbeats, the last of which is read. -/
structure Overheard (e : Host) (latency : Nat) (f : Fleet) (id : Nat) : Prop where
  heard : ∀ T, f.primary.watchdog.seen id = some T →
    (∃ m ∈ f.read id, WorkerProcess.isHeartbeat e.cfg m = true) ∧
      ∀ m ∈ f.read id, WorkerProcess.isHeartbeat e.cfg m = true → m.2 ≤ T
  prompt : ∀ m ∈ f.unread id, f.now ≤ m.2 + latency

theorem Overheard.initial (e : Host) (count : WorkerCount) (env : ProcessEnv) (id : Nat) :
    Overheard e latency (fleet e count env).init id where
  heard _ hseen := by cases hseen
  prompt _ hm := absurd hm (by simp [unread, posts, fleet])

theorem Overheard.tick (h : Overheard e latency f id) (hc : Conversed e f id) {ms : Nat}
    (hok : f.promptlyRead latency (.tick ms) = true) : Overheard e latency (f.tick ms) id where
  heard T hseen := by
    refine h.heard T ?_
    unfold Fleet.tick at hseen
    dsimp only at hseen
    split at hseen
    · exact hseen
    · exact hseen
  prompt m hm := by
    have hm' : m ∈ f.unread id := hm
    cases hf : f.isForked id with
    | false =>
      obtain ⟨hprocess, -⟩ := hc.unforked hf
      rw [unread, posts, hprocess] at hm'
      simp at hm'
    | true =>
      have hid := of_decide_eq_true hf
      have hall := List.all_eq_true.mp hok id (List.mem_range'_1.mpr ⟨hid.1, by omega⟩)
      exact of_decide_eq_true (List.all_eq_true.mp hall m hm')

theorem read_hear {msg : Message} (h : (f.messages id)[f.heard id]? = some msg) :
    ∃ m, m.1 = msg ∧ (f.posts id).take (f.heard id + 1) = f.read id ++ [m] ∧ m ∈ f.posts id := by
  have hmap : f.messages id = (f.posts id).map Prod.fst := by
    rw [messages, posts, List.map_reverse]
  rw [hmap, List.getElem?_map] at h
  obtain ⟨m, hm, rfl⟩ := Option.map_eq_some_iff.mp h
  exact ⟨m, rfl, by rw [List.take_add_one, hm]; rfl, List.mem_of_getElem? hm⟩

/-- The primary reads a message of the worker. -/
theorem Overheard.hear (h : Overheard e latency f id) (hclock : f.primary.now = f.now)
    (hreg : Registered f.primary) (hbeating : (f.processes id).Beating e.cfg)
    (hpast : ∀ m ∈ (f.processes id).sent, m.2 ≤ f.now) {msg : Message}
    (hmsg : (f.messages id)[f.heard id]? = some msg) {s : State}
    (hact : f.primary.workerMessage e id (some msg) = some s) (leaving : Nat → Bool) :
    Overheard e latency { f with
      primary := s, heard := Function.update f.heard id (f.heard id + 1)
      leaving := leaving } id := by
  obtain ⟨m, rfl, hread, hmem⟩ := read_hear hmsg
  have hsent : m ∈ (f.processes id).sent := List.mem_reverse.mp hmem
  have hread' : ({ f with
      primary := s, heard := Function.update f.heard id (f.heard id + 1)
      leaving := leaving } : Fleet).read id = f.read id ++ [m] := by
    show (f.posts id).take (Function.update f.heard id (f.heard id + 1) id) = _
    rw [Function.update_self, hread]
  constructor
  case heard =>
    intro T hseen
    rw [hread']
    rcases workerMessage_watchdog hact with ⟨hignored, hsame⟩ | ⟨hlag, -, hbeat⟩
    · rw [hsame] at hseen
      obtain ⟨⟨m', hm', hb'⟩, hall⟩ := h.heard T hseen
      refine ⟨⟨m', List.mem_append_left _ hm', hb'⟩, fun x hx hb => ?_⟩
      rcases List.mem_append.mp hx with hx | hx
      · exact hall x hx hb
      · -- a heartbeat of a worker that is watched is not ignored
        obtain rfl := List.mem_singleton.mp hx
        have hwatched : f.primary.watchdog.seen id ≠ none := by
          rw [hseen]
          exact Option.some_ne_none T
        rcases hignored with hnone | hout
        · exact absurd hnone (hbeating.valid x hsent hb)
        · exact absurd hout (hreg.known id hwatched)
    · rw [hbeat] at hseen
      replace hseen : Function.update f.primary.watchdog.seen id (some f.primary.now) id = some T :=
        hseen
      rw [Function.update_self, Option.some.injEq, hclock] at hseen
      subst hseen
      refine ⟨⟨m, List.mem_append_right _ (List.mem_singleton_self m), ?_⟩, fun x hx _ => ?_⟩
      · exact WorkerProcess.isHeartbeat_of_lag hlag
      · have hx' : x ∈ f.posts id := by
          rw [← hread] at hx
          exact List.mem_of_mem_take hx
        exact hpast x (List.mem_reverse.mp hx')
  case prompt =>
    intro x hx
    refine h.prompt x ?_
    replace hx : x ∈ (f.posts id).drop (Function.update f.heard id (f.heard id + 1) id) := hx
    rw [Function.update_self] at hx
    exact List.drop_subset_drop_left _ (Nat.le_succ _) hx

theorem Overheard.primary (h : Overheard e latency f id) (hclock : f.primary.now = f.now)
    (hreg : Registered f.primary) (hbeating : (f.processes id).Beating e.cfg)
    (hpast : ∀ m ∈ (f.processes id).sent, m.2 ≤ f.now) {a : Action} {s : State}
    (hact : f.primary.act e a = some s) {heard : Nat → Nat} {leaving : Nat → Bool}
    (hb : f.PrimaryCause b a heard leaving) :
    Overheard e latency { f with primary := s, heard := heard, leaving := leaving } id := by
  have hquiet (hmsg : ∀ msg, a ≠ .workerMessage id msg) (hheard : heard id = f.heard id) :
      Overheard e latency { f with primary := s, heard := heard, leaving := leaving } id := by
    have hread : ({ f with primary := s, heard := heard, leaving := leaving } : Fleet).read id =
        f.read id := congrArg (fun n => (f.posts id).take n) hheard
    have hunread : ({ f with primary := s, heard := heard, leaving := leaving } : Fleet).unread id =
        f.unread id := congrArg (fun n => (f.posts id).drop n) hheard
    constructor
    case heard =>
      intro T hseen
      rw [hread]
      exact h.heard T (act_seen hact hmsg hseen)
    case prompt =>
      rw [hunread]
      exact h.prompt
  cases hb with
  | hear j msg hmsg =>
    by_cases hj : id = j
    · subst hj
      exact h.hear hclock hreg hbeating hpast hmsg hact f.leaving
    · refine hquiet (fun _ heq => ?_) (Function.update_of_ne hj _ _)
      cases heq
      exact hj rfl
  | own a ha => exact hquiet (fun msg heq => by subst heq; cases ha) rfl
  | online | exited | closed | error | leave => exact hquiet (fun _ => by simp) rfl

/-- A worker may send one more message. -/
theorem Overheard.worker (h : Overheard e latency f id) (hc : Conversed e f id) {j : Nat}
    {a : WorkerAction} {p : WorkerProcess} {reached : Nat → Nat} {signals : Nat → List Signal}
    (hsound : (f.processes j).Sound e.cfg f.now)
    (hstep : (f.processes j).step e.cfg f.now a = some p) :
    Overheard e latency { f with
      processes := Function.update f.processes j p, reached := reached
      signals := signals } id := by
  let g : Fleet := { f with
    processes := Function.update f.processes j p, reached := reached, signals := signals }
  have hposts : g.posts id = f.posts id ∨ ∃ msg, g.posts id = f.posts id ++ [(msg, f.now)] := by
    by_cases hj : id = j
    · subst hj
      obtain ⟨-, -, hact⟩ := WorkerProcess.step_act hstep
      have hself : g.posts id = p.sent.reverse := by
        show (Function.update f.processes id p id).sent.reverse = _
        rw [Function.update_self]
      rw [hself]
      cases WorkerProcess.act_reports hsound hact with
      | quiet hsent =>
        rcases hsent with hsent | ⟨msg, hsent, -⟩
        · exact .inl (by rw [hsent, posts])
        · exact .inr ⟨msg, by rw [hsent, List.reverse_cons, posts]⟩
      | beat rss heapUsed hsent => exact .inr ⟨_, by rw [hsent, List.reverse_cons, posts]⟩
    · left
      show (Function.update f.processes j p id).sent.reverse = _
      rw [Function.update_of_ne hj, posts]
  have hle : f.heard id ≤ (f.posts id).length := by
    have hheard := hc.heard
    rwa [messages, List.length_reverse, List.length_map, ← List.length_reverse] at hheard
  have hread : g.read id = f.read id := by
    rcases hposts with heq | ⟨msg, heq⟩
    · exact congrArg (List.take (f.heard id)) heq
    · exact (congrArg (List.take (f.heard id)) heq).trans (List.take_append_of_le_length hle)
  constructor
  case heard =>
    intro T hseen
    show (∃ m ∈ g.read id, _) ∧ ∀ m ∈ g.read id, _
    rw [hread]
    exact h.heard T hseen
  case prompt =>
    intro m hm
    rcases hposts with heq | ⟨msg, heq⟩
    · replace hm : m ∈ (g.posts id).drop (f.heard id) := hm
      rw [heq] at hm
      exact h.prompt m hm
    · replace hm : m ∈ (g.posts id).drop (f.heard id) := hm
      rw [heq, List.drop_append_of_le_length hle] at hm
      rcases List.mem_append.mp hm with hm | hm
      · exact h.prompt m hm
      · obtain rfl := List.mem_singleton.mp hm
        exact Nat.le_add_right _ _

/-- **Accuracy, for one worker.** Whoever is watched and was not told to go has been heard
within one interval and the latency. -/
theorem Overheard.recent (h : Overheard e latency f id)
    (hrep : (f.processes id).Reporting e.cfg True f.now) (hbeating : (f.processes id).Beating e.cfg)
    {T : Nat} (hseen : f.primary.watchdog.seen id = some T)
    (hbegan : (f.processes id).began = none) (hended : (f.processes id).ended = none)
    (hconn : (f.processes id).connected = true) :
    f.now ≤ T + e.cfg.health.heartbeatMs + latency := by
  obtain ⟨⟨b, hb, hbeat⟩, hall⟩ := h.heard T hseen
  let beats := WorkerProcess.isHeartbeat e.cfg
  -- the heartbeats, newest first: the unread ones and the ones read
  have hsplit : (f.processes id).heartbeats e.cfg =
      ((f.unread id).filter beats).reverse ++ ((f.read id).filter beats).reverse := by
    rw [← List.reverse_append, ← List.filter_append, read, unread, List.take_append_drop, posts,
      List.filter_reverse, List.reverse_reverse]
    rfl
  have hread : b ∈ (f.read id).filter beats := List.mem_filter.mpr ⟨hb, hbeat⟩
  obtain ⟨last, rest, hlast⟩ := List.exists_cons_of_ne_nil
    (List.ne_nil_of_mem (List.mem_reverse.mpr hread))
  have hlastmem : last ∈ (f.read id).filter beats :=
    List.mem_reverse.mp (hlast ▸ List.mem_cons_self)
  have hle : last.2 ≤ T :=
    hall last (List.mem_of_mem_filter hlastmem) (List.mem_filter.mp hlastmem).2
  rcases List.eq_nil_or_concat ((f.unread id).filter beats).reverse with hnone | ⟨newer, m, hm⟩
  · -- the last heartbeat is read, and the next is not due
    rw [hnone, hlast, List.nil_append] at hsplit
    have harmed : (f.processes id).reportTimer ≠ none :=
      hbeating.armed (by rw [hsplit]; exact List.cons_ne_nil _ _) hbegan
    obtain ⟨due, hdue⟩ := Option.ne_none_iff_exists'.mp harmed
    have htime : last.2 = (f.processes id).lastBeat :=
      hrep.last harmed hconn last (by rw [hsplit]; rfl)
    have hnow := hrep.prompt trivial hended due hdue
    have hdue' := (hrep.armed due hdue).1
    omega
  · -- the first unread heartbeat was sent in time
    rw [hm, hlast, List.concat_eq_append] at hsplit
    have hmem : m ∈ (f.unread id).filter beats := by
      rw [← List.mem_reverse, hm, List.concat_eq_append]
      exact List.mem_append_right _ (List.mem_singleton_self m)
    have hprompt := h.prompt m (List.mem_of_mem_filter hmem)
    have hchain := hrep.spaced
    rw [hsplit, List.isChain_append] at hchain
    obtain ⟨-, hlag⟩ := hchain.2.2 m (by simp) last (by simp)
    have hzero := hrep.lags trivial m (by rw [hsplit]; simp)
    rw [hzero, Option.some.injEq] at hlag
    omega

end Fleet

/-! ## No false alarm -/

/-- Workers are left alone, no timer of theirs is late, and what they send is read within one
heartbeat interval. -/
def attended (e : Host) (f : Fleet) (b : FleetAction) : Bool :=
  leftAlone f b && f.workersOnTime b && f.promptlyRead e.cfg.health.heartbeatMs b

/-- Besides, the primary neither shuts down nor unmarks a worker that drains. -/
def steady (e : Host) (f : Fleet) (b : FleetAction) : Bool :=
  attended e f b &&
    match b with
    | .primary a => keepsMarks e f.primary a
    | _ => true

variable {f : Fleet} {b : FleetAction} {id : Nat}

theorem steady_attended (h : steady e f b = true) :
    leftAlone f b = true ∧ f.workersOnTime b = true ∧
      f.promptlyRead e.cfg.health.heartbeatMs b = true := by
  simp only [steady, attended, Bool.and_eq_true] at h
  exact ⟨h.1.1.1, h.1.1.2, h.1.2⟩

theorem steady_keepsMarks (h : steady e f b = true) {a : Action}
    (ha : f.primaryAction b = some a) : keepsMarks e f.primary a = true := by
  simp only [steady, Bool.and_eq_true] at h
  obtain ⟨-, h⟩ := h
  cases b with
  | primary own =>
    simp only [Fleet.primaryAction] at ha
    split at ha
    · cases ha
      exact h
    · cases ha
  | tick ms => cases ha; rfl
  | hear id | exited id =>
    obtain ⟨x, -, rfl⟩ := Option.map_eq_some_iff.mp ha
    rfl
  | online | channelClosed | error | leave => cases ha; rfl
  | worker | reach | signal | left | orphaned => cases ha

theorem steady_primary
    (h : (fleet e count env).Run (fun x b => steady e x b = true) (fleet e count env).init f) :
    DrainsMarked f.primary ∧ Registered f.primary := by
  refine h.preserves_of (P := fun x => DrainsMarked x.primary ∧ Registered x.primary)
    (Q := fun x => (fleet e count env).Reachable x) .refl (fun _ hx => hx) ?_
    ⟨.initial e count env, .initial e count env⟩
  rintro x b y hx ⟨hdrains, hregistered⟩ hok hs
  rcases (Fleet.step_moved hs).primary_step count env with heq | ⟨a, ha, hstep⟩
  · rw [heq]
    exact ⟨hdrains, hregistered⟩
  · have hact := orchestrator_step hstep
    have hkeeps := steady_keepsMarks hok ha
    have hw := Fleet.wellFormed hx
    refine ⟨hdrains.step hw (reachable_staffed (fleet_sides hx).1) hact hkeeps, ?_⟩
    refine hregistered.step hw hdrains.shutting (fun signal heq => ?_) hact
    subst heq
    cases hkeeps

theorem steady_overheard
    (h : (fleet e count env).Run (fun x b => steady e x b = true) (fleet e count env).init f)
    (id : Nat) : f.Overheard e e.cfg.health.heartbeatMs id := by
  have hknown := h.recall fun x hx => (steady_primary hx).2
  refine hknown.preserves_of (P := fun x => x.Overheard e e.cfg.health.heartbeatMs id)
    (Q := fun x => (fleet e count env).Reachable x) .refl (fun _ hx => hx) ?_
    (.initial e count env id)
  rintro x b y hx hp ⟨hok, hregistered⟩ hs
  have hconversed := fleet_conversed hx id
  cases Fleet.step_moved hs with
  | ticked ms hb =>
    subst hb
    exact hp.tick hconversed (steady_attended hok).2.2
  | primary a s heard leaving hexited hact hb =>
    exact hp.primary ((Fleet.reachable_clocked hx).2 hexited) hregistered
      (reachable_beating ((fleet_sides hx).2 id)) (Fleet.process_lawful hx id).2.past hact hb
  | worker j a p reached signals hf hstep hb =>
    exact hp.worker hconversed (Fleet.process_lawful hx j).1 hstep

/-- Whoever is watched and is not marked has been heard within two intervals. -/
theorem steady_recent
    (h : (fleet e count env).Run (fun x b => steady e x b = true) (fleet e count env).init f)
    {T : Nat} (hseen : f.primary.watchdog.seen id = some T)
    (hmarked : f.primary.isMarkedForRecycling id = false) :
    f.primary.now ≤ T + 2 * e.cfg.health.heartbeatMs := by
  have hreach := h.reachable
  obtain ⟨hdrains, hregistered⟩ := steady_primary h
  have hoverheard := steady_overheard h id
  have hconversed := fleet_conversed hreach id
  have hcaused := fleet_caused (fun _ _ hb => (steady_attended hb).1) h id
  have hexited : f.primary.process.exited = false := by
    by_contra hne
    have hs := exited_shutting (fleet_sides hreach).1 (Bool.eq_true_of_not_eq_false hne)
    exact Bool.false_ne_true (hdrains.shutting.symm.trans hs)
  have hforked : id ∈ f.primary.workerIds := by
    obtain ⟨⟨m, hm, -⟩, -⟩ := hoverheard.heard T hseen
    by_contra hne
    have hunforked : f.isForked id = false := by
      simpa [Fleet.isForked, workerIds] using hne
    rw [Fleet.read, Fleet.posts, (hconversed.unforked hunforked).1] at hm
    simp at hm
  have halive : f.primary.alive id := by
    have hknown := hregistered.known id (by rw [hseen]; exact Option.some_ne_none T)
    exact Bool.eq_false_iff.mpr fun hdead => hknown (hregistered.noted id hforked hdead)
  have hunsent : ¬ f.primary.drainSent id := fun hsent => by
    have hmark := hdrains.isMarked (Fleet.wellFormed hreach) halive hsent
    exact Bool.false_ne_true (hmarked.symm.trans hmark)
  have hbegan : (f.processes id).began = none := by
    by_contra hne
    exact hunsent (hcaused.drainSent_of_began hconversed hne)
  have hended : (f.processes id).ended = none := by
    by_contra hne
    exact hunsent (hcaused.drainSent_of_ended hconversed hne hexited)
  have hconn : (f.processes id).connected = true := by
    by_contra hne
    rcases hcaused.closed (by simpa using hne) with hmessage | hgone
    · exact hunsent (Worker.sent_of_ipc hmessage)
    · exact Bool.false_ne_true (hexited.symm.trans hgone)
  have hrun := Fleet.worker_on_time (h.mono fun _ _ hb => (steady_attended hb).2.1) id
  have hrep := (ClockedWorker.lawful_of_run True (fun _ _ hi _ => hi) hrun).reporting
  have hrecent := hoverheard.recent hrep (reachable_beating ((fleet_sides hreach).2 id)) hseen
    hbegan hended hconn
  have hclock := (Fleet.reachable_clocked hreach).1
  omega

/-- A watch that is switched off never looks. -/
theorem watch_off (h : (orchestrator e count env).Reachable s)
    (hoff : e.cfg.health.wedgedTimeoutMs = 0) : s.health.wedgedTimer = none := by
  refine run_preserves (P := fun x => x.health.wedgedTimer = none) h rfl fun x a y _ hx _ hact => ?_
  show y.watchdog.due = none
  rcases act_watches hact with hsame | ⟨input, hfeeds, hstep⟩
  · rw [hsame]
    exact hx
  · cases hfeeds with
    | started hi hon => exact absurd hoff hon
    | rearmed hs hdue => exact absurd hx hdue
    | stopped => rw [← Option.some.inj hstep]
    | tick | heard | left =>
      rw [← Option.some.inj hstep]
      exact hx
    | looked hs =>
      have hdue : x.watchdog.due = none := hx
      simp only [Watchdog.step, hdue] at hstep
      cases hstep

/-- **Accuracy of the watch.** In a fleet with an accepted configuration whose workers are
left alone and run on time, and whose heartbeats are read within one interval, no worker is
ever reported as wedged, through every recycle and roll. -/
theorem no_worker_reported_wedged (e : Host) (count : WorkerCount) (env : ProcessEnv) (f : Fleet)
    (hcfg : e.Accepted)
    (h : (fleet e count env).Run (fun x b => steady e x b = true) (fleet e count env).init f)
    (id silentMs : Nat) : .workerWedged id silentMs ∉ f.primary.events := by
  have halarms : ∀ id, f.primary.watchdog.alarms id = [] := by
    have hknown := h.recall (P := fun x => (fleet e count env).Run (fun x b => steady e x b = true)
      (fleet e count env).init x) fun _ hx => hx
    refine hknown.preserves (P := fun x => ∀ id, x.primary.watchdog.alarms id = []) ?_ fun _ => rfl
    rintro x b y hp ⟨hok, hx⟩ hs id
    rcases (Fleet.step_moved hs).primary_step count env with heq | ⟨a, ha, hstep⟩
    · rw [heq]
      exact hp id
    · rcases act_watches (orchestrator_step hstep) with hsame | ⟨input, hfeeds, hinput⟩
      · rw [hsame]
        exact hp id
      · cases hfeeds with
        | tick | started | rearmed | stopped | heard | left =>
          rw [← Option.some.inj hinput]
          exact hp id
        | looked hs =>
          simp only [Watchdog.step] at hinput
          split at hinput
          · cases hinput
          · rename_i due hdue
            split at hinput
            · rw [← Option.some.inj hinput]
              have hon : e.cfg.health.wedgedTimeoutMs ≠ 0 := fun hoff => by
                have hnone := watch_off (fleet_sides hx.reachable).1 hoff
                exact Option.some_ne_none due (hdue.symm.trans hnone)
              obtain ⟨-, htwo⟩ := hcfg.wedged hon
              refine (Watchdog.look_quiet fun hmarked T hseen => ?_).trans (hp id)
              have hrecent : x.primary.now ≤ _ := steady_recent hx hseen hmarked
              exact hrecent.trans (Nat.add_le_add_left htwo T)
            · cases hinput
  intro hmem
  have halarm : (id, silentMs) ∈ f.primary.watch.alarms := List.mem_filterMap.mpr ⟨_, hmem, rfl⟩
  have hreported : silentMs ∈ f.primary.watchdog.alarms id :=
    List.mem_filterMap.mpr ⟨_, halarm, if_pos rfl⟩
  rw [halarms id] at hreported
  cases hreported

/-- Two heartbeats, one of them still unread, and a watch that has looked twice. -/
theorem no_worker_reported_wedged_two_looks :
    let e : Host := { cfg := { health := { heartbeatMs := 100, wedgedTimeoutMs := 200 } } }
    ∃ f : Fleet, (fleet e (.fixed 1) fun _ => none).Reachable f ∧
      f.primary.health.wedgedTimer = some 300 ∧
      ∀ silentMs, .workerWedged 1 silentMs ∉ f.primary.events := by
  intro e
  have hcfg : e.Accepted :=
    ⟨{ health := { heartbeatMs := some 100, wedgedTimeoutMs := some 200 } }, rfl⟩
  obtain ⟨f, hrun, hq⟩ := StepSystem.exists_run_of_any (fleet e (.fixed 1) fun _ => none)
    (fleet e (.fixed 1) fun _ => none).init (steady e)
    [.primary .run, .primary .pluginsInstalled, .worker 1 .run, .worker 1 .pluginsInstalled,
      .online 1, .tick 100, .worker 1 (.report 5 5), .hear 1, .primary (.timer .wedgedWatch),
      .tick 100, .worker 1 (.report 6 6), .primary (.timer .wedgedWatch)]
    (fun f => decide (f.primary.health.wedgedTimer = some 300)) (by decide +kernel)
  rw [decide_eq_true_eq] at hq
  exact ⟨f, hrun.reachable, hq, no_worker_reported_wedged e _ _ f hcfg hrun 1⟩

/-- Why marks have to be kept: a roll drains an aged worker, then the fork for its stagger
timer fails and unmarks it, and it is reported while it shuts down. -/
theorem draining_worker_reported_wedged : ∃ e : Host, e.Accepted ∧ ∃ f : Fleet,
    (fleet e (.fixed 1) fun _ => none).Run (fun x b => attended e x b = true)
      (fleet e (.fixed 1) fun _ => none).init f ∧
      (f.processes 1).began = some ("IPC", 60001) ∧ .workerWedged 1 45000 ∈ f.primary.events := by
  let e : Host := {
    cfg := {
      workers := { maxAgeMs := 1000 }
      shutdown := { timeoutMs := 60000 }
      health := { heartbeatMs := 15000, wedgedTimeoutMs := 30000 } }
    forkOk := fun n => decide (n ≠ 2) }
  have hcfg : e.Accepted := ⟨{
    workers := { maxAgeMs := some 1000 }
    shutdown := { timeoutMs := some 60000 }
    health := { heartbeatMs := some 15000, wedgedTimeoutMs := some 30000 } }, rfl⟩
  obtain ⟨f, hrun, hq⟩ := StepSystem.exists_run_of_any (fleet e (.fixed 1) fun _ => none)
    (fleet e (.fixed 1) fun _ => none).init (attended e)
    [.tick 1, .primary .run, .primary .pluginsInstalled, .worker 1 .run, .worker 1 .pluginsInstalled,
      .worker 1 .registerOnShutdown, .online 1,
      .tick 15000, .worker 1 (.report 5 5), .hear 1, .tick 15000, .worker 1 (.report 5 5), .hear 1,
      .tick 15000, .worker 1 (.report 5 5), .hear 1, .tick 15000, .worker 1 (.report 5 5), .hear 1,
      .primary (.timer .recycleSweep), .primary (.restartWorkers {}),
      .worker 2 .run, .worker 2 .pluginsInstalled, .online 2,
      .reach 1, .worker 1 (.callNext false 0), .hear 1, .reach 1,
      .tick 1, .primary (.timer (.recycleStagger 1)),
      .tick 14999, .worker 2 (.report 5 5), .hear 2, .tick 15000, .worker 2 (.report 5 5), .hear 2,
      .tick 15000, .worker 2 (.report 5 5), .hear 2, .primary (.timer .wedgedWatch)]
    (fun f => decide ((f.processes 1).began = some ("IPC", 60001)) &&
      decide ((1, 45000) ∈ f.primary.events.filterMap Event.wedged)) (by decide +kernel)
  simp only [Bool.and_eq_true, decide_eq_true_eq, List.mem_filterMap] at hq
  obtain ⟨hbegan, ev, hev, hwedged⟩ := hq
  have hsame : ev = .workerWedged 1 45000 := by
    cases ev <;> simp_all [Event.wedged]
  exact ⟨e, hcfg, f, hrun, hbegan, hsame ▸ hev⟩

end ClusterKit
