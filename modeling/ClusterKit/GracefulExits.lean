import ClusterKit.CrashHandling
import ClusterKit.DrainTimers
import ClusterKit.RollWait

/-! A recycle is not a crash. Whoever is killed by a drain or by the wait of a roll was
disconnected before, so that the exit which follows is read as graceful. -/

namespace ClusterKit

open State

variable {e : Host} {s t : State} {a : Action}

/-- Every signal was sent after a disconnect, and a disconnect is remembered. -/
structure Worker.Graceful (w : Worker) : Prop where
  asked : ∀ signal time older, (.kill signal, time) :: older <:+ w.sent →
    ∃ time', (.disconnect, time') ∈ older
  left : w.wasSent .disconnect → w.exitedAfterDisconnect = true

namespace Worker.Graceful

variable {w : Worker}

/-- Nothing was sent yet. -/
theorem of_nil (h : w.sent = []) : w.Graceful := by
  constructor
  · intro signal time older hsuffix
    rw [h] at hsuffix
    cases List.suffix_nil.mp hsuffix
  · rintro ⟨time, hmem⟩
    rw [h] at hmem
    cases hmem

theorem of_eq {w' : Worker} (h : w.Graceful) (hsent : w'.sent = w.sent)
    (hleft : w.exitedAfterDisconnect = true → w'.exitedAfterDisconnect = true) : w'.Graceful := by
  constructor
  · rw [hsent]
    exact h.asked
  · rintro ⟨time, hmem⟩
    exact hleft (h.left ⟨time, hsent ▸ hmem⟩)

/-- A message is no signal. -/
theorem message_asked (what : Sent) (h : ∀ signal, what ≠ .kill signal) {time : Nat}
    {sent : List (Sent × Nat)}
    (hasked : ∀ signal time older, (.kill signal, time) :: older <:+ sent →
      ∃ time', (.disconnect, time') ∈ older)
    (signal : Signal) (killed : Nat) (older : List (Sent × Nat))
    (hsuffix : (.kill signal, killed) :: older <:+ (what, time) :: sent) :
    ∃ time', (.disconnect, time') ∈ older := by
  rcases List.suffix_cons_iff.mp hsuffix with heq | hsuffix
  · obtain ⟨hhead, -⟩ := List.cons.inj heq
    exact absurd (congrArg Prod.fst hhead).symm (h signal)
  · exact hasked signal killed older hsuffix

theorem send (h : w.Graceful) (now : Nat) : (w.send now).Graceful := by
  refine ⟨message_asked .shutdownMessage nofun h.asked, ?_⟩
  rintro ⟨time, hmem⟩
  rcases List.mem_cons.mp hmem with heq | hmem
  · cases heq
  · exact h.left ⟨time, hmem⟩

theorem disconnect (h : w.Graceful) (now : Nat) : (w.disconnect now).Graceful :=
  ⟨message_asked .disconnect nofun h.asked, fun _ => rfl⟩

theorem drain (h : w.Graceful) (now : Nat) : (w.drain now).Graceful := by
  unfold Worker.drain
  split
  · exact h.send now
  · exact (h.send now).disconnect now

theorem kill (h : w.Graceful) (hasked : w.wasSent .disconnect) (signal : Signal) (now : Nat) :
    (w.kill signal now).Graceful := by
  constructor
  · intro signal' time older hsuffix
    rcases List.suffix_cons_iff.mp hsuffix with heq | hsuffix
    · obtain ⟨-, rfl⟩ := List.cons.inj heq
      exact hasked
    · exact h.asked signal' time older hsuffix
  · exact fun _ => h.left hasked

end Worker.Graceful

/-! ## The segments -/

/-- All workers are recycled gracefully. -/
def RecyclesGraceful (s : State) : Prop := ∀ id, (s.worker id).Graceful

namespace RecyclesGraceful

theorem modifyWorker (h : RecyclesGraceful s) (id : Nat) {f : Worker → Worker}
    (hf : (s.worker id).Graceful → (f (s.worker id)).Graceful) :
    RecyclesGraceful (s.modifyWorker id f) := by
  intro j
  by_cases hj : j = id
  · rw [hj, worker_modifyWorker_self]
    exact hf (h id)
  · rw [worker_modifyWorker_of_ne hj]
    exact h j

theorem sent_kept (h : RecyclesGraceful s) (hk : SentKept s t) : RecyclesGraceful t := by
  intro id
  rcases hk id with ⟨hsent, hleft⟩ | ⟨-, hsent⟩
  · exact (h id).of_eq hsent hleft
  · exact .of_nil hsent

/-- A turn of the drains, apart from the wait of a roll. -/
theorem turn {log : DrainLog} (h : RecyclesGraceful s) (hd : DrainsTimely e False log s)
    (ha : a ≠ .timer .exitWait) (hturn : DrainTurn e a s t) : RecyclesGraceful t := by
  cases hturn with
  | kept _ hr hk => exact h.sent_kept hk
  | begun _ old hl hr hf hk => exact h.sent_kept hk
  | retimed _ f hr hf hk => exact h.sent_kept hk
  | drained r hr hundrained hwhy =>
    rw [drainOldWorker_undrained hundrained]
    exact modifyWorker (s := s.modifyRecycle r.new (Recycle.drain e s)) h r.old
      fun hw => hw.drain s.now
  | sigterm r deadline ha' hr ht hdue hl =>
    have htimely : r.Timely e False log s := hd.timely r hr
    have hdrained := (htimely.sigterm deadline ht).1
    refine modifyWorker (s := s.modifyRecycle r.new _) h r.old fun hw => ?_
    exact hw.kill (htimely.disconnected hdrained hl) .SIGTERM s.now
  | sigkill r deadline ha' hr ht hdue hl =>
    have htimely : r.Timely e False log s := hd.timely r hr
    have hdrained := (htimely.sigkill deadline ht).1
    refine modifyWorker (s := s.modifyRecycle r.new _) h r.old fun hw => ?_
    exact hw.kill (htimely.disconnected hdrained hl) .SIGKILL s.now
  | rollKill old deadline ha' hf hdue hl => exact absurd ha' ha

end RecyclesGraceful

/-- Node fires two timers of one duration that were armed in one turn in the order in which they
were armed: the wait of the roll does not fire before the failsafe that was armed with it. -/
def firesInArmingOrder (s : State) : Action → Bool
  | .timer .exitWait =>
    match s.rollFrame with
    | some (.exitWait old deadline) =>
      s.recycles.all fun r => !(r.old == old && decide ((s.worker r.new).cause = .roll old) &&
        r.drainFailsafeTimer == some deadline)
    | _ => true
  | _ => true

namespace RecyclesGraceful

/-- The wait of the roll fires: the failsafe of its recycle has been fired or cleared. -/
theorem waited {log : DrainLog} (h : RecyclesGraceful s) (hd : DrainsTimely e False log s)
    (hb : WaitsBacked e s) (horder : firesInArmingOrder s (.timer .exitWait) = true)
    (ht : s.exitWaitElapsed = some t) : RecyclesGraceful t := by
  unfold exitWaitElapsed at ht
  split at ht
  · rename_i old deadline hframe
    split at ht
    · simp only at ht
      split at ht
      · rw [← Option.some.inj ht]
        exact h
      · rename_i hl
        rw [← Option.some.inj ht]
        have hl : s.alive old := Bool.eq_false_iff.mpr hl
        obtain ⟨new, hmem, hcause, hdeadline⟩ := hb.backed old deadline hframe
        obtain ⟨r, hr, hparties⟩ := List.mem_map.mp hmem
        obtain ⟨rfl, rfl⟩ := Prod.mk.inj hparties
        have htimely : r.Timely e False log s := hd.timely r hr
        have hfired : r.drainFailsafeTimer ≠ some deadline := by
          intro harmed
          unfold firesInArmingOrder at horder
          rw [hframe] at horder
          have hnot := List.all_eq_true.mp horder r hr
          rw [hcause, harmed] at hnot
          simp at hnot
        have hdrained : r.drained = true := by
          cases hundrained : r.drained with
          | true => rfl
          | false =>
            obtain ⟨due, hdue⟩ := Option.isSome_iff_exists.mp (htimely.waits hundrained hl)
            have hsame : due = deadline := (htimely.failsafe due hdue).2.trans hdeadline.symm
            exact absurd (hsame ▸ hdue) hfired
        have hkilled : RecyclesGraceful (s.kill .SIGKILL r.old) :=
          h.modifyWorker r.old fun hw => hw.kill (htimely.disconnected hdrained hl) .SIGKILL s.now
        exact hkilled
    · cases ht
  · cases ht

/-- **Segment rule.** -/
theorem act {log : DrainLog} (h : RecyclesGraceful s) (hd : DrainsTracked e False (s, log))
    (hb : WaitsBacked e s) (hw : WellFormed s) (hact : s.act e a = some t)
    (ht : t.isShuttingDown = false) (horder : firesInArmingOrder s a = true) :
    RecyclesGraceful t := by
  by_cases ha : a = .timer .exitWait
  · rw [ha] at hact horder
    exact h.waited hd.timely hb horder hact
  · by_cases htick : ∃ ms, a = .tick ms
    · obtain ⟨ms, rfl⟩ := htick
      rw [← Option.some.inj hact]
      exact h
    · have htick (ms : Nat) : a ≠ .tick ms := fun heq => htick ⟨ms, heq⟩
      have hboth := hd.preserves hw hact ht htick
        (fun x y _ _ _ hdrains hx hxy _ => RecyclesGraceful.turn hx hdrains ha hxy) h
      exact hboth.2

end RecyclesGraceful

/-! ## Runs -/

/-- What a recycle means to the worker it replaces: no signal before the disconnect, and an exit
that tells the restart coordinator nothing. -/
structure RecyclesUncounted (e : Host) (s : State) : Prop where
  asked : ∀ id signal time older, (.kill signal, time) :: older <:+ (s.worker id).sent →
    ∃ time', (.disconnect, time') ∈ older
  exits : ∀ r ∈ s.recycles, r.drained = true → ∀ code signal t,
    s.act e (.workerExit r.old code signal) = some t →
      t.restart = s.restart ∧ t.process = s.process ∧ t.cluster.forkCalls = s.cluster.forkCalls

section Runs

variable {count : WorkerCount} {env : ProcessEnv}

theorem run_recyclesGraceful
    (h : (orchestrator e count env).Run (fun s a => firesInArmingOrder s a = true)
      (State.initial e count env) s) (hs : s.isShuttingDown = false) : RecyclesGraceful s := by
  have hboth : (orchestrator e count env).Reachable s ∧
      (s.isShuttingDown = false → RecyclesGraceful s) := by
    refine h.preserves (P := fun s => (orchestrator e count env).Reachable s ∧
      (s.isShuttingDown = false → RecyclesGraceful s)) ?_ ⟨.refl, fun _ _ => .of_nil rfl⟩
    rintro x a y ⟨hreach, hx⟩ horder hstep
    refine ⟨hreach.step hstep, fun hy => ?_⟩
    have hw := reachable_wellFormed hreach
    have hact := orchestrator_step hstep
    have hxs := ((act_pieces hw hact).later).not_shutting hy
    obtain ⟨log, hd⟩ := reachable_drainsTracked hreach hxs
    exact (hx hxs).act hd (reachable_waitsBacked hreach hxs) hw hact hy horder
  exact hboth.2 hs

/-- **Recycles never count as crashes**, whichever of their timers comes first. -/
theorem recycles_never_crash (e : Host) (count : WorkerCount) (env : ProcessEnv) (s : State)
    (hrun : (orchestrator e count env).Run (fun s a => firesInArmingOrder s a = true)
      (State.initial e count env) s)
    (hs : s.isShuttingDown = false) : RecyclesUncounted e s := by
  have hgraceful := run_recyclesGraceful hrun hs
  have hreach := hrun.reachable
  refine ⟨fun id => (hgraceful id).asked, fun r hr hd code signal t hact => ?_⟩
  obtain ⟨log, htracked⟩ := reachable_drainsTracked hreach hs
  obtain ⟨hl, hcrash⟩ := workerExit_crash (reachable_wellFormed hreach) hact
  have hleft : (s.worker r.old).exitedAfterDisconnect = true :=
    (hgraceful r.old).left ((htracked.timely.timely r hr).disconnected hd hl)
  have hquiet : s.crashes r.old = false := by
    rw [crashes, hleft, Bool.not_true, Bool.and_false]
  cases hcrash with
  | uncounted t h hr hp hm hc => exact ⟨hr, hp, hc⟩
  | quarantined x hx h hg => exact absurd (hquiet.symm.trans h) Bool.false_ne_true
  | recorded x hx h =>
    rw [recordsCrash, hquiet, Bool.false_and] at h
    cases h

/-- The replacement never comes online; the wait of the roll kills the old worker. -/
theorem recycles_never_crash_killed :
    ∃ s : State, (s.worker 1).wasSent (.kill .SIGKILL) ∧ RecyclesUncounted {} s := by
  have hrun := StepSystem.exists_run_of_any (orchestrator {} (.fixed 1) fun _ => none)
    (State.initial {} (.fixed 1) fun _ => none) firesInArmingOrder
    [.run, .pluginsInstalled, .workerOnline 1, .restartWorkers {}, .tick 20000,
      .timer (.drainFailsafe 2), .timer .exitWait]
    (fun s => decide (s.isShuttingDown = false) &&
      decide ((.kill .SIGKILL, 20000) ∈ (s.worker 1).sent)) (by decide +kernel)
  obtain ⟨s, hrun, hx⟩ := hrun
  rw [Bool.and_eq_true] at hx
  exact ⟨s, ⟨20000, of_decide_eq_true hx.2⟩,
    recycles_never_crash {} (.fixed 1) _ s hrun (of_decide_eq_true hx.1)⟩

end Runs

end ClusterKit
