import ClusterKit.FleetProtocol
import ClusterKit.ShutdownProgress

/-! The two time limits of a shutdown against each other. A worker gives itself `timeoutMs`
from when it learns of the shutdown; the primary waits as long again once the last
acknowledgement is in. So the primary does not kill who has answered it. -/

namespace ClusterKit

open State

variable {e : Host} {count : WorkerCount} {env : ProcessEnv} {s t : State} {a : Action}

/-! ## The exit wait is sat out -/

/-- No worker is killed before the time `T`. -/
def SparesUntil (e : Host) (T now : Nat) : ShutdownFrame → Prop
  | .idle => False
  | .acks _ _ => T ≤ now + e.cfg.shutdown.timeoutMs
  | .exitWait _ deadline => T ≤ deadline
  | .kills _ stages => stages ≠ [] → T ≤ now
  | .callbacks _ => True
  | .resolved => True

theorem SparesUntil.later {T now later : Nat} {frame : ShutdownFrame}
    (h : SparesUntil e T now frame) (hle : now ≤ later) : SparesUntil e T later frame := by
  cases frame with
  | acks => exact h.trans (Nat.add_le_add_right hle _)
  | kills => exact fun hne => (h hne).trans hle
  | idle | exitWait | callbacks | resolved => exact h

theorem ShutdownTurn.spares {T : Nat} {frame frame' : ShutdownFrame}
    (h : ShutdownTurn e s frame frame') (hT : SparesUntil e T s.now frame) :
    SparesUntil e T s.now frame' := by
  cases h with
  | ackSettled => exact hT
  | acksSettled => exact hT
  | exitWaitOver workers deadline hover =>
    intro hne
    rcases hover with hall | hdue
    · -- nobody is left to kill
      refine absurd ?_ hne
      rw [List.map_eq_nil_iff, List.filter_eq_nil_iff]
      intro id hid
      simp [List.all_eq_true.mp hall id hid]
    · exact hT.trans hdue
  | killOver workers stages id =>
    intro hne
    refine hT fun hnil => hne ?_
    rw [hnil]
    rfl
  | escalated workers stages id deadline hstage hdue =>
    refine fun _ => hT fun hnil => ?_
    rw [hnil] at hstage
    cases hstage
  | killsDone => trivial
  | resolved => trivial

theorem SparesUntil.act {T : Nat} (h : SparesUntil e T s.now s.shutdown.frame)
    (hw : WellFormed s) (hact : s.act e a = some t) : SparesUntil e T t.now t.shutdown.frame := by
  have hshut : s.isShuttingDown = true := by
    refine hw.shutting_of_frame rfl fun hidle => ?_
    rw [hidle] at h
    exact h
  refine SparesUntil.later ?_ (act_now_le hw hact)
  rcases act_shutdown (fun _ _ => hshut) hact with heq | ⟨frame, heq, hturn⟩
  · rw [heq]
    exact h
  · rw [heq]
    exact hturn.spares h

namespace Fleet

variable {f g : Fleet} {id : Nat}

/-- The primary has read an acknowledgement of the worker. -/
def acknowledged (e : Host) (f : Fleet) (id : Nat) : Bool :=
  ((f.messages id).take (f.heard id)).any fun msg => msg.type == e.cfg.shutdown.shutdownAckType

/-- No timer of a worker process is late. -/
def workersOnTime (f : Fleet) : FleetAction → Bool
  | .tick ms => (List.range' 1 f.primary.cluster.ids).all fun id =>
      (f.processes id).inTime (f.now + ms)
  | _ => true

/-- The clock of the primary is the clock of the fleet, until its process exits. -/
def Clocked (f : Fleet) : Prop :=
  f.primary.now ≤ f.now ∧ (f.primary.process.exited = false → f.primary.now = f.now)

theorem Clocked.step (h : Clocked f) (hw : WellFormed f.primary) {b : FleetAction}
    (hm : Moved e f b g) : Clocked g := by
  cases hm with
  | ticked ms =>
    cases hx : f.primary.process.exited with
    | true =>
      have hsame : (f.tick ms).primary = f.primary := by simp [tick, hx]
      rw [Clocked, hsame]
      exact ⟨h.1.trans (Nat.le_add_right _ _), fun hfalse => by simp [hx] at hfalse⟩
    | false =>
      have hsame : (f.tick ms).primary.now = f.now + ms := by simp [tick, hx, h.2 hx]
      exact ⟨hsame.le, fun _ => hsame⟩
  | primary a s heard leaving hx hact hb =>
    have hnow : s.now = f.primary.now := by
      refine act_now_eq hw (fun ms ha => ?_) hact
      subst ha
      cases hb with
      | own _ hown => cases hown
    exact ⟨(hnow.trans (h.2 hx)).le, fun _ => hnow.trans (h.2 hx)⟩
  | worker => exact h

theorem reachable_clocked (h : (fleet e count env).Reachable f) : Clocked f :=
  h.preserves_of (P := Clocked) (Q := fun x => (fleet e count env).Reachable x) .refl
    (fun _ hx => hx) (fun _ _ _ hr hx _ hs => hx.step (wellFormed hr) (step_moved hs))
    ⟨le_rfl, fun _ => rfl⟩

/-- A primary that exited stays as it was. -/
theorem primary_frozen {ok : Fleet → FleetAction → Prop} (h : (fleet e count env).Run ok f g)
    (hx : f.primary.process.exited = true) : g.primary = f.primary := by
  refine h.preserves (P := fun x => x.primary = f.primary) (fun x b y hsame _ hs => ?_) rfl
  rcases (step_moved hs).primary_step count env with heq | ⟨a, -, hstep⟩
  · exact heq.trans hsame
  · simp [orchestrator, hsame, hx] at hstep

/-- While no timer of a process is late, each worker runs on time. -/
theorem worker_on_time (h : (fleet e count env).Run (fun x b => workersOnTime x b = true)
      (fleet e count env).init f) (id : Nat) :
    (workerProcess e.cfg).Run (fun x i => onTime x i = true) (workerProcess e.cfg).init
      (f.clocked id) := by
  have hknown := h.recall fun x hx => fleet_conversed hx.reachable id
  refine StepSystem.Run.project (f := fun x : Fleet => x.clocked id) hknown ?_
  rintro x b y ⟨hok, hc⟩ hs
  cases step_moved hs with
  | ticked ms hb =>
    subst hb
    refine .single (a := .tick ms) ?_ rfl
    show (x.processes id).inTime (x.now + ms) = true
    cases hf : x.isForked id with
    | false =>
      rw [(hc.unforked hf).1]
      rfl
    | true =>
      have hid := of_decide_eq_true hf
      exact List.all_eq_true.mp hok id (List.mem_range'_1.mpr ⟨hid.1, by omega⟩)
  | primary => exact .refl
  | worker j a p reached signals hf hstep hb =>
    by_cases hj : id = j
    · subst hj
      refine .single (a := .act a) rfl ?_
      show ((x.processes id).step e.cfg x.now a).map _ = _
      rw [hstep]
      simp [clocked]
    · have hsame : (Fleet.clocked { x with
          processes := Function.update x.processes j p, reached := reached
          signals := signals } id) = x.clocked id := by
        simp [clocked, Function.update_of_ne hj]
      rw [hsame]
      exact .refl

/-- Whoever acknowledged has begun its shutdown. -/
theorem began_of_acknowledged (h : (fleet e count env).Reachable f)
    (hack : f.acknowledged e id = true) :
    ∃ signal time, (f.processes id).began = some (signal, time) ∧ time ≤ f.now := by
  obtain ⟨hsound, hrep⟩ := process_lawful h id
  obtain ⟨msg, hmsg, htype⟩ := List.any_eq_true.mp hack
  obtain ⟨m, hm, rfl⟩ := List.mem_map.mp (List.mem_reverse.mp (List.mem_of_mem_take hmsg))
  cases hb : (f.processes id).began with
  | none =>
    have hnot := hrep.unasked hb m hm
    rw [WorkerProcess.isAck, decide_eq_false_iff_not] at hnot
    exact absurd (by simpa using htype) hnot
  | some b =>
    have hbegun : (f.processes id).Begun e.cfg f.now b.1 b.2 :=
      WorkerProcess.Sound.begun hsound hb
    exact ⟨b.1, b.2, rfl, hbegun.past⟩

/-- A shutdown of a worker that began stays the one that began. -/
theorem began_kept {ok : Fleet → FleetAction → Prop} (hr : (fleet e count env).Reachable f)
    (h : (fleet e count env).Run ok f g) {b : String × Nat}
    (hb : (f.processes id).began = some b) : (g.processes id).began = some b := by
  refine h.preserves_of (P := fun x => (x.processes id).began = some b) hr
    (fun x hx => (fleet_sides hx).2 id) (fun x c y hx hp _ hs => ?_) hb
  rcases (step_moved hs).worker_step id with heq | ⟨ms | a, hstep⟩
  · exact (congrArg (fun z : ClockedWorker => z.process.began) heq).trans hp
  · have hsame : (y.clocked id).process = (x.clocked id).process := by
      rw [← Option.some.inj hstep]
    exact (congrArg WorkerProcess.began hsame).trans hp
  · have hsound := ClockedWorker.sound_of_reachable hx
    obtain ⟨hended, -, hturn⟩ := hsound.shutdownStep hstep
    exact (WorkerProcess.Grown.step hsound hended hturn).began b hp

end Fleet

/-- **Who answers is not killed.** In a fleet whose workers' timers are on time: a worker whose
acknowledgement the primary has read while it awaits them has ended when the primary comes to
kill it, unless that is the very moment in which the worker's own time is up. -/
theorem acknowledged_worker_not_killed (e : Host) (count : WorkerCount) (env : ProcessEnv)
    (f g : Fleet) (id : Nat) (workers workers' : List Nat) (waits : List (Nat × Nat))
    (stages : List (Nat × KillStage))
    (h : (fleet e count env).Run (fun x b => x.workersOnTime b = true) (fleet e count env).init f)
    (hf : f.primary.shutdown.frame = .acks workers waits) (hack : f.acknowledged e id = true)
    (hrun : (fleet e count env).Run (fun x b => x.workersOnTime b = true) f g)
    (hg : g.primary.shutdown.frame = .kills workers' stages) (hid : id ∈ stages.map Prod.fst)
    (hended : (g.processes id).ended = none) :
    g.now = f.now + e.cfg.shutdown.timeoutMs ∧
      ∃ signal, (g.processes id).began = some (signal, f.now) := by
  have hreach : (fleet e count env).Reachable f := h.reachable
  -- the primary runs when it reads the acknowledgement: later it kills
  have hx : f.primary.process.exited = false := by
    by_contra hne
    rw [Fleet.primary_frozen hrun (by simpa using hne), hf] at hg
    cases hg
  have hclock := Fleet.reachable_clocked hreach
  have hspared : SparesUntil e (f.primary.now + e.cfg.shutdown.timeoutMs) g.primary.now
      g.primary.shutdown.frame := by
    refine hrun.preserves_of (P := fun x => SparesUntil e (f.primary.now + e.cfg.shutdown.timeoutMs)
      x.primary.now x.primary.shutdown.frame) hreach (fun x hr => hr) ?_ (hf ▸ le_rfl)
    intro x b y hr hp _ hs
    rcases (Fleet.step_moved hs).primary_step count env with heq | ⟨a, -, hstep⟩
    · rw [heq]
      exact hp
    · exact hp.act (Fleet.wellFormed hr) (orchestrator_step hstep)
  rw [hg] at hspared
  have hlate : f.primary.now + e.cfg.shutdown.timeoutMs ≤ g.primary.now :=
    hspared fun hnil => by simp [hnil] at hid
  obtain ⟨signal, time, hbegan, hpast⟩ := Fleet.began_of_acknowledged hreach hack
  have hbegan' := Fleet.began_kept hreach hrun hbegan
  have hwithin := ((worker_gone_by_timeout e.cfg (g.clocked id)
    (Fleet.worker_on_time (h.trans hrun) id)).2 _ hbegan').1 hended
  have hgclock := (Fleet.reachable_clocked (hrun.reachable_from hreach)).1
  have hnow := hclock.2 hx
  replace hwithin : g.now ≤ time + e.cfg.shutdown.timeoutMs := hwithin
  obtain rfl : time = f.now := by omega
  exact ⟨by omega, signal, hbegan'⟩

/-- A worker that hangs in its callbacks: the primary kills it in the moment its time is up. -/
theorem acknowledged_worker_not_killed_hanging : ∃ f g : Fleet,
    (g.processes 1).ended = none ∧ g.primary.shutdown.frame = .kills [1] [(1, .afterSigterm 14000)] ∧
      g.now = f.now + 12000 := by
  obtain ⟨f, hf, htest⟩ := StepSystem.exists_run_of_any (fleet {} (.fixed 1) fun _ => none)
    (fleet {} (.fixed 1) fun _ => none).init Fleet.workersOnTime
    [.primary .run, .primary .pluginsInstalled, .worker 1 .run, .worker 1 .pluginsInstalled,
      .online 1, .primary (.shutdownPrimary "SIGTERM"), .reach 1, .hear 1]
    (fun f => decide (f.primary.shutdown.frame = .acks [1] []) && f.acknowledged {} 1 &&
      ((fleet {} (.fixed 1) fun _ => none).exec Fleet.workersOnTime f
        [.primary (.resume .acksSettled), .tick 12000, .primary (.resume .exitWaitOver)]).any
          fun g : Fleet => decide (g.primary.shutdown.frame =
            .kills [1] [(1, .afterSigterm 14000)]) && decide ((g.processes 1).ended = none))
    (by decide +kernel)
  simp only [Bool.and_eq_true, decide_eq_true_eq] at htest
  obtain ⟨⟨hacks, hack⟩, hexec⟩ := htest
  obtain ⟨g, hrun, hg⟩ := StepSystem.exists_run_of_any _ f Fleet.workersOnTime _ _ hexec
  simp only [Bool.and_eq_true, decide_eq_true_eq] at hg
  have hlaw := acknowledged_worker_not_killed {} (.fixed 1) (fun _ => none) f g 1 [1] [1] []
    [(1, .afterSigterm 14000)] hf hacks hack hrun hg.1 (by simp) hg.2
  exact ⟨f, g, hg.2, hg.1, hlaw.1⟩

end ClusterKit
