import ClusterKit.Outcome

/-! What the fleet runs with. A roll forks with its own overlay, every other path with
`cfg.workers.env` alone, so what a roll rolled out lasts until another path forks. -/

namespace ClusterKit

open State

variable {e : Host} {s₀ s t : State} {E : ProcessEnv}

/-! ## Which path forks with what -/

/-- The roll asked for this fork. -/
def ForkCause.byRoll : ForkCause → Bool
  | .roll _ => true
  | _ => false

namespace ForkCall

/-- A roll overlays its own environment, the other paths overlay nothing. -/
def Sourced (s : State) (call : ForkCall) : Prop :=
  (call.cause.byRoll = false ∧ call.envOverlay = none) ∨
    (call.cause.byRoll = true ∧ ∃ r, s.roll = some r ∧ call.envOverlay = r.opts.env)

/-- The record of the worker that `call` forks at `s`. -/
def newWorker (s : State) (call : ForkCall) : Worker :=
  { env := workerEnv s.orch.env call.envOverlay, cause := call.cause, forkedAt := s.now }

end ForkCall

/-- The worker of `id` was forked on the way from `s` to `t`. -/
def Newborn (s t : State) (id : Nat) : Prop :=
  ∃ call : ForkCall, call.Sourced s ∧ t.worker id = call.newWorker s

theorem forked_newborn {call : ForkCall} {id : Nat} (hc : call.Sourced s)
    (hs : s.cluster.ids < id) (ht : id ≤ s.cluster.ids + 1) : Newborn s (s.forked call) id := by
  have hid : id = s.cluster.ids + 1 := by omega
  rw [hid]
  exact ⟨call, hc, worker_forked_new s call⟩

theorem Replaces.sourced {call : ForkCall} {old : Nat} (h : Replaces e s call old) :
    call.Sourced s := by
  cases h with
  | health => exact .inl ⟨rfl, rfl⟩
  | roll _ rest r hr hrem => exact .inr ⟨rfl, r, hr, rfl⟩

theorem Move.newborn (h : Move e s t) {id : Nat} (hs : s.cluster.ids < id)
    (ht : id ≤ t.cluster.ids) : Newborn s t id := by
  cases h with
  | restarted hs' hb hf hok => exact forked_newborn (.inl ⟨rfl, rfl⟩) hs ht
  | replaced call old hs' ha hc hok => exact forked_newborn hc.sourced hs ht
  | drained r hr hd hs' hwhy =>
    unfold State.drainOldWorker at ht
    split at ht <;> exact absurd hs (Nat.not_lt.mpr ht)
  | shutdown t hs' hm =>
    rw [hm.keeps.cluster.1] at ht
    exact absurd hs (Nat.not_lt.mpr ht)
  | books | exitCodeOne | exitCodeZero | holdReleased | queue | gaveUp | forkFailed | agedMarked
  | cameOnline | onlineNoted | replacementOnline | timers | killed | disconnected | roll
  | phase => exact absurd hs (Nat.not_lt.mpr ht)

theorem Bit.newborn {a : Action} (h : Bit e a s t) {id : Nat} (hs : s.cluster.ids < id)
    (ht : id ≤ t.cluster.ids) : Newborn s t id := by
  cases h with
  | initialForked hok => exact forked_newborn (.inl ⟨rfl, rfl⟩) hs ht
  | agedRecycled _ old hid ha hs' hok => exact forked_newborn (.inl ⟨rfl, rfl⟩) hs ht
  | crashed =>
    rw [noteCrash_eq] at ht
    exact absurd hs (Nat.not_lt.mpr ht)
  | queued =>
    rw [queueCrash_eq] at ht
    exact absurd hs (Nat.not_lt.mpr ht)
  | resetRefilled | rollRefilled =>
    rw [queueRefill_eq] at ht
    exact absurd hs (Nat.not_lt.mpr ht)
  | shutdownEntered _ signal hs' =>
    rw [(shutdownPrimary_entered signal hs').cluster.1] at ht
    exact absurd hs (Nat.not_lt.mpr ht)
  | tick | forking | initialFailed | ran | died | removed | quarantined | tripped
  | selfDisconnected | agedDropped | agedFailed | resetShutting | breakerReset | counted | patched
  | rollStarted | rollEnded | rollCompleted => exact absurd hs (Nat.not_lt.mpr ht)

theorem Piece.newborn {a : Action} (h : Piece e a s t) {id : Nat} (hs : s.cluster.ids < id)
    (ht : id ≤ t.cluster.ids) : Newborn s t id :=
  h.elim (fun hm => hm.newborn hs ht) fun hb => hb.newborn hs ht

/-! ## Who is not in the table -/

/-- A live worker leaves `cluster.workers` only by being drained. -/
def ListedUntilDrained (s : State) : Prop :=
  ∀ id ∈ s.workerIds, s.alive id → (s.worker id).listed = true ∨ s.drainSent id

theorem ListedUntilDrained.piece {a : Action} (h : ListedUntilDrained s) (hp : Piece e a s t) :
    ListedUntilDrained t := by
  intro id hid halive
  obtain ⟨hpos, hle⟩ := Finset.mem_Icc.mp hid
  by_cases hold : id ≤ s.cluster.ids
  · have hgrows := hp.later.worker id hold
    cases hl : (t.worker id).listed with
    | true => exact .inl rfl
    | false =>
      right
      rcases hgrows.listed hl with hl' | hdead | hsent
      · have hs : s.alive id := hgrows.alive halive
        rcases h id (Finset.mem_Icc.mpr ⟨hpos, hold⟩) hs with hlisted | hsent
        · exact absurd (hl'.symm.trans hlisted) (by decide)
        · exact hgrows.sent_ne_nil hsent
      · exact absurd (halive.symm.trans hdead) (by decide)
      · exact hsent
  · obtain ⟨call, -, hnew⟩ := hp.newborn (Nat.not_le.mp hold) hle
    left
    rw [hnew]
    rfl

theorem reachable_listedUntilDrained {count : WorkerCount} {env : ProcessEnv}
    (h : (orchestrator e count env).Reachable s) : ListedUntilDrained s := by
  refine run_preserves h ?_ fun x a y hw hx _ hact =>
    (act_pieces hw hact).preserves hw (fun _ _ _ hx hp => hx.piece hp) hx
  intro id hid
  simp [workerIds, State.initial] at hid

/-! ## Where the roll stands -/

/-- The actions that can change what a fork of the roll, or of another path, runs with. -/
def Action.setsEnv : Action → Bool
  | .patchWorkerEnv _ => true
  | .restartWorkers _ => true
  | .resume .rollReturned => true
  | _ => false

/-- The roll took one step, or none. -/
def RollTurn (e : Host) (s t : State) : Prop :=
  t.roll = s.roll ∨ ∃ r r', s.roll = some r ∧ t.roll = some r' ∧ RollMove e s r r'

theorem Move.keepsEnv (h : Move e s t) : t.orch.env = s.orch.env ∧ RollTurn e s t := by
  cases h with
  | drained r hr hd hs hwhy =>
    unfold State.drainOldWorker
    split <;> exact ⟨rfl, .inl rfl⟩
  | roll r r' hr hm => exact ⟨rfl, .inr ⟨r, r', hr, rfl, hm⟩⟩
  | shutdown t hs hm => exact ⟨by rw [hm.keeps.orch], .inl hm.keeps.roll⟩
  | books | exitCodeOne | exitCodeZero | holdReleased | queue | gaveUp | forkFailed | restarted
  | replaced | agedMarked | cameOnline | onlineNoted | replacementOnline | timers | killed
  | disconnected | phase => exact ⟨rfl, .inl rfl⟩

theorem Bit.keepsEnv {a : Action} (h : Bit e a s t) (ha : a.setsEnv = false) :
    t.orch.env = s.orch.env ∧ RollTurn e s t := by
  cases h with
  | patched | rollStarted | rollEnded | rollCompleted | rollRefilled => cases ha
  | crashed => rw [noteCrash_eq]; exact ⟨rfl, .inl rfl⟩
  | queued => rw [queueCrash_eq]; exact ⟨rfl, .inl rfl⟩
  | resetRefilled => rw [queueRefill_eq]; exact ⟨rfl, .inl rfl⟩
  | shutdownEntered _ signal hs =>
    have he := shutdownPrimary_entered (e := e) signal hs
    exact ⟨he.env, .inl he.roll⟩
  | tick | forking | initialFailed | initialForked | ran | died | removed | quarantined | tripped
  | selfDisconnected | agedDropped | agedFailed | agedRecycled | resetShutting | breakerReset
  | counted => exact ⟨rfl, .inl rfl⟩

theorem Piece.keepsEnv {a : Action} (h : Piece e a s t) (ha : a.setsEnv = false) :
    t.orch.env = s.orch.env ∧ RollTurn e s t :=
  h.elim Move.keepsEnv fun hb => hb.keepsEnv ha

/-- The roll has still to see to `id`, or it failed to fork for somebody. -/
def Roll.owes (r : Roll) (id : Nat) : Prop :=
  r.forkFailed = true ∨ id ∈ r.remaining ∨ ∃ deadline, r.frame = .exitWait id deadline

/-- What a roll keeps: its options, and its debt to every worker that it did not see leave. -/
structure RollMove.Keeps (s : State) (r r' : Roll) : Prop where
  opts : r'.opts = r.opts
  complete : (r.frame = .returned .complete → r.remaining = []) →
    r'.frame = .returned .complete → r'.remaining = []
  owes : ∀ id, s.alive id → ¬ s.drainSent id → r.owes id → r'.owes id

theorem RollMove.keeps {r r' : Roll} (h : RollMove e s r r') : RollMove.Keeps s r r' := by
  -- the worker whose exit is awaited is dead or was sent something when the wait ends
  have hleft {id old deadline : Nat} (ha : s.alive id) (hd : ¬ s.drainSent id)
      (hf : r.frame = .exitWait old deadline)
      (hgone : s.isDead old = true ∨ s.drainSent old) (howes : r.owes id) :
      r.forkFailed = true ∨ id ∈ r.remaining := by
    rcases howes with hfailed | hrem | ⟨deadline', hf'⟩
    · exact .inl hfailed
    · exact .inr hrem
    · obtain ⟨rfl, -⟩ := RollFrame.exitWait.inj (hf.symm.trans hf')
      rcases hgone with hdead | hsent
      · exact absurd (ha.symm.trans hdead) (by decide)
      · exact absurd hsent hd
  cases h with
  | skipped old rest hs hrem hd =>
    refine ⟨rfl, fun hc hf => by simp [hc hf] at hrem, fun id ha _ howes => ?_⟩
    rcases howes with hfailed | hmem | hwait
    · exact .inl hfailed
    · rw [hrem] at hmem
      rcases List.mem_cons.mp hmem with rfl | hrest
      · exact absurd (ha.symm.trans hd) (by decide)
      · exact .inr (.inl hrest)
    · exact .inr (.inr hwait)
  | failed old rest hs hrem =>
    exact ⟨rfl, fun hc hf => by simp [hc hf] at hrem, fun _ _ _ _ => .inl rfl⟩
  | waits old rest deadline hs hrem hf hd =>
    refine ⟨rfl, fun _ hf' => (by cases hf'), fun id _ _ howes => ?_⟩
    rcases howes with hfailed | hmem | ⟨deadline', hwait⟩
    · exact .inl hfailed
    · rw [hrem] at hmem
      rcases List.mem_cons.mp hmem with rfl | hrest
      · exact .inr (.inr ⟨deadline, rfl⟩)
      · exact .inr (.inl hrest)
    · simp [hf] at hwait
  | graced old deadline deadline' hf hd =>
    exact ⟨rfl, fun _ hf' => (by cases hf'), fun id ha hnot howes =>
      (hleft ha hnot hf hd howes).imp_right .inl⟩
  | exitSeen old deadline hwhy =>
    refine ⟨rfl, fun _ hf' => (by cases hf'), fun id ha hnot howes => ?_⟩
    rcases hwhy with ⟨hf, hd⟩ | hf
    · exact (hleft ha hnot hf (.inl hd) howes).imp_right .inl
    · simpa [Roll.owes, hf] using howes
  | counted old deadline hf =>
    exact ⟨rfl, fun _ hf' => (by cases hf'), fun id _ _ howes => by
      simpa [Roll.owes, hf] using howes⟩
  | resumed deadline hf =>
    exact ⟨rfl, fun _ hf' => (by cases hf'), fun id _ _ howes => by
      simpa [Roll.owes, hf] using howes⟩
  | aborted hs hrem hf =>
    exact ⟨rfl, fun _ hf' => (by cases hf'), fun id _ _ howes => by
      simpa [Roll.owes, hf] using howes⟩
  | bailedOut hff hf => exact ⟨rfl, fun _ hf' => (by cases hf'), fun id _ _ _ => .inl hff⟩
  | completed hrem hf =>
    exact ⟨rfl, fun _ _ => hrem, fun id _ _ howes => by simpa [Roll.owes, hf] using howes⟩

theorem RollTurn.isSome (h : RollTurn e s t) : t.roll.isSome = s.roll.isSome := by
  rcases h with h | ⟨r, r', hr, ht, -⟩
  · rw [h]
  · rw [hr, ht]
    rfl

/-! ## The roll over `E`, from the state it began in -/

/-- Since `s₀`, where a roll over the whole fleet began, the roll forked with `E` and the
other paths without, and the roll owes each earlier worker that is in service. -/
structure RolledOut (E : ProcessEnv) (s₀ s : State) : Prop where
  ids : s₀.cluster.ids ≤ s.cluster.ids
  forked : ∀ id, s₀.cluster.ids < id → id ≤ s.cluster.ids →
    (s.worker id).env =
      if (s.worker id).cause.byRoll then overlay s.orch.env E else s.orch.env
  opts : ∀ r, s.roll = some r → r.opts.env = some E
  complete : ∀ r, s.roll = some r → r.frame = .returned .complete → r.remaining = []
  served : ∀ id ∈ s₀.workerIds, s.alive id → ¬ s.drainSent id → ∃ r, s.roll = some r ∧ r.owes id

namespace RolledOut

theorem beginRoll (hlisted : ListedUntilDrained s) {opts : RestartOptions}
    (hfilter : opts.filter = none) (henv : opts.env = some E) :
    RolledOut E s (s.beginRoll opts (s.targetedWorkers opts)) where
  ids := le_rfl
  forked id hnew hle := absurd hnew (Nat.not_lt.mpr hle)
  opts r hr := by cases hr; exact henv
  complete r hr hf := by cases hr; cases hf
  served id hid ha hd := by
    refine ⟨_, rfl, .inr (.inl ?_)⟩
    obtain ⟨hpos, hle⟩ := Finset.mem_Icc.mp hid
    have ha : s.isDead id = false := ha
    have hl : (s.worker id).listed = true := (hlisted id hid ha).resolve_right hd
    show id ∈ s.targetedWorkers opts
    simp only [targetedWorkers, hfilter, getActiveWorkers, List.mem_filter, List.mem_range'_1]
    simp [hl, ha]
    omega

theorem piece {a : Action} (h : RolledOut E s₀ s) (ha : a.setsEnv = false) (hp : Piece e a s t) :
    RolledOut E s₀ t := by
  obtain ⟨henv, hturn⟩ := hp.keepsEnv ha
  have hlater := hp.later
  have hkept : ∀ r', t.roll = some r' → ∃ r, s.roll = some r ∧ RollMove.Keeps s r r' := by
    intro r' hr'
    rcases hturn with hsame | ⟨r, r'', hr, ht, hm⟩
    · rw [hsame] at hr'
      exact ⟨r', hr', rfl, id, fun _ _ _ => id⟩
    · rw [ht, Option.some.injEq] at hr'
      exact ⟨r, hr, hr' ▸ hm.keeps⟩
  constructor
  case ids => exact h.ids.trans hlater.ids
  case forked =>
    intro id hnew hle
    rw [henv]
    by_cases hold : id ≤ s.cluster.ids
    · have hgrows := hlater.worker id hold
      rw [hgrows.env, hgrows.cause]
      exact h.forked id hnew hold
    · obtain ⟨call, hcall, hworker⟩ := hp.newborn (Nat.not_le.mp hold) hle
      rw [hworker]
      rcases hcall with ⟨hcause, hnone⟩ | ⟨hcause, r, hr, hsome⟩
      · simp [ForkCall.newWorker, hcause, hnone, workerEnv]
      · simp [ForkCall.newWorker, hcause, hsome, h.opts r hr, workerEnv]
  case opts =>
    intro r' hr'
    obtain ⟨r, hr, hk⟩ := hkept r' hr'
    rw [hk.opts]
    exact h.opts r hr
  case complete =>
    intro r' hr'
    obtain ⟨r, hr, hk⟩ := hkept r' hr'
    exact hk.complete (h.complete r hr)
  case served =>
    intro id hid ha' hd'
    have hgrows := hlater.worker id ((Finset.mem_Icc.mp hid).2.trans h.ids)
    have hd : ¬ s.drainSent id := fun hsent => hd' (hgrows.sent_ne_nil hsent)
    have hs : s.alive id := hgrows.alive ha'
    obtain ⟨r, hr, howes⟩ := h.served id hid hs hd
    rcases hturn with hsame | ⟨r₁, r', hr₁, ht, hm⟩
    · exact ⟨r, hsame.trans hr, howes⟩
    · obtain rfl := Option.some.inj (hr.symm.trans hr₁)
      exact ⟨r', ht, hm.keeps.owes id hs hd howes⟩

theorem moves (h : RolledOut E s₀ s) (hm : Moves e s t) : RolledOut E s₀ t :=
  hm.preserves (fun _ _ hx hm => hx.piece (a := .run) rfl (.inl hm)) h

/-- A roll that forked for everybody leaves nobody behind. -/
theorem all_sent (h : RolledOut E s₀ s) {r : Roll} (hr : s.roll = some r)
    (hf : r.frame = .returned .complete) (hall : r.forkFailed = false) {id : Nat}
    (hid : id ∈ s₀.workerIds) (ha : s.alive id) : s.drainSent id := by
  by_contra hd
  obtain ⟨r', hr', howes⟩ := h.served id hid ha hd
  obtain rfl := Option.some.inj (hr.symm.trans hr')
  simp [Roll.owes, hall, hf, h.complete r hr hf] at howes

theorem rollReturned (h : RolledOut E s₀ s) (hw : WellFormed s) {r : Roll} (hr : s.roll = some r)
    (hf : r.frame = .returned .complete) (hall : r.forkFailed = false)
    (hact : s.rollReturned e = some t) : RolledOut E s₀ t ∧ t.roll.isSome = false := by
  have hended : RolledOut E s₀ (s.rollCompleted r) :=
    { h with
      opts := fun _ hr' => by cases hr'
      complete := fun _ hr' => by cases hr'
      served := fun id hid ha hd => absurd (h.all_sent hr hf hall hid ha) hd }
  have hwe : WellFormed (s.rollCompleted r) := { hw with }
  obtain ⟨r', hr', ⟨hf', -⟩ | ⟨hf', -⟩ | ⟨-, rfl⟩⟩ := rollReturned_outcome hact
  · rw [Option.some.inj (hr'.symm.trans hr), hf] at hf'
    cases hf'
  · rw [Option.some.inj (hr'.symm.trans hr), hf] at hf'
    cases hf'
  · obtain rfl := Option.some.inj (hr.symm.trans hr')
    let count := s.resolveWorkerCount e - s.metrics.activeWorkers
    have hqueued : RolledOut E s₀ ((s.rollCompleted r).queueRefill count) := by
      rw [queueRefill_eq]
      exact { hended with }
    have hkick : Moves e ((s.rollCompleted r).queueRefill count)
        ((s.rollCompleted r).refillMissing e) := kickRestartQueue_moves (hwe.queueRefill count)
    refine ⟨hqueued.moves hkick, ?_⟩
    apply hkick.preserves (P := fun x => x.roll.isSome = false)
    · exact fun x y hx hm => hm.keepsEnv.2.isSome.trans hx
    · rw [queueRefill_eq]
      rfl

end RolledOut

/-! ## The window of a roll -/

/-- No shutdown, no roll begins or ends, and `patchWorkerEnv` finds the door closed, or
nobody forked since `s₀`. -/
def withinRoll (s₀ s : State) : Action → Bool
  | .shutdownPrimary _ => false
  | .restartWorkers _ => s.roll.isSome
  | .resume .rollReturned => s.roll.isNone
  | .patchWorkerEnv _ => s.orch.hasForked || decide (s.cluster.ids = s₀.cluster.ids)
  | _ => true

theorem withinRoll_outcome {a : Action} (hact : s.act e a = some t)
    (hok : withinRoll s₀ s a = true) :
    a.setsEnv = false ∨ t = s ∨ s.cluster.ids = s₀.cluster.ids ∧ ∃ env, t = s.setEnv env := by
  cases ha : a.setsEnv with
  | false => exact .inl rfl
  | true =>
    right
    cases a with
    | patchWorkerEnv env =>
      rw [← Option.some.inj hact]
      refine (patchWorkerEnv_outcome env s).imp_right fun ⟨hforked, heq⟩ => ⟨?_, _, heq⟩
      simpa [withinRoll, hforked] using hok
    | restartWorkers opts =>
      rw [← Option.some.inj hact]
      exact .inl (restartWorkers_ignored (.inr (.inr hok)))
    | resume c =>
      cases c with
      | rollReturned =>
        obtain ⟨r, hr, -⟩ := rollReturned_outcome hact
        simp [withinRoll, hr] at hok
      | _ => cases ha
    | _ => cases ha

theorem withinRoll_isSome {a : Action} (hw : WellFormed s) (hact : s.act e a = some t)
    (hok : withinRoll s₀ s a = true) : t.roll.isSome = s.roll.isSome := by
  rcases withinRoll_outcome hact hok with ha | rfl | ⟨-, env, rfl⟩
  · refine (act_pieces hw hact).preserves (P := fun x => x.roll.isSome = s.roll.isSome) hw ?_ rfl
    exact fun x y _ hx hp => (hp.keepsEnv ha).2.isSome.trans hx
  · rfl
  · rfl

theorem RolledOut.step {a : Action} (h : RolledOut E s₀ s) (hw : WellFormed s)
    (hact : s.act e a = some t) (hok : withinRoll s₀ s a = true) : RolledOut E s₀ t := by
  rcases withinRoll_outcome hact hok with ha | rfl | ⟨hids, env, rfl⟩
  · exact (act_pieces hw hact).preserves hw (fun _ _ _ hx hp => hx.piece ha hp) h
  · exact h
  · -- nobody is there to run with the old environment
    exact { h with forked := fun id hnew hle => absurd (hids ▸ hle) (Nat.not_le.mpr hnew) }

/-- The workers in service, and all that were forked after the first `since` ones. -/
def State.rolledFleet (since : Nat) (s : State) : Finset Nat :=
  s.workerIds.filter fun id => since < id ∨ s.alive id ∧ ¬ s.drainSent id

/-- A roll over the whole fleet with `E`, begun at `s₀` and completed from `x` to `c`, for
which every fork succeeded. -/
structure CompleteRoll (e : Host) (count : WorkerCount) (env E : ProcessEnv)
    (s₀ x c : State) : Prop where
  reachable : (orchestrator e count env).Reachable s₀
  idle : s₀.roll = none
  rolls : ∃ opts s₁, opts.filter = none ∧ opts.env = some E ∧
    (orchestrator e count env).step s₀ (.restartWorkers opts) = some s₁ ∧
    (orchestrator e count env).Run (fun y a => withinRoll s₀ y a = true) s₁ x
  complete : ∃ r, x.roll = some r ∧ r.frame = .returned .complete ∧ r.forkFailed = false
  ends : (orchestrator e count env).step x (.resume .rollReturned) = some c

theorem CompleteRoll.rolledOut {count : WorkerCount} {env : ProcessEnv} {x c : State}
    (h : CompleteRoll e count env E s₀ x c) :
    (orchestrator e count env).Reachable c ∧ RolledOut E s₀ x ∧ RolledOut E s₀ c ∧
      c.roll.isSome = false := by
  obtain ⟨opts, s₁, hfilter, henv, hbegin, hrun⟩ := h.rolls
  obtain ⟨r, hr, hcomplete, hall⟩ := h.complete
  have hact := orchestrator_step hbegin
  have hreach₁ := h.reachable.step hbegin
  have hreachx := hrun.reachable_from hreach₁
  -- the call began the roll, since the run ends with one
  have hbegun : RolledOut E s₀ s₁ := by
    rw [← Option.some.inj hact] at hrun hreach₁ ⊢
    rcases restartWorkers_outcome (e := e) opts s₀ with heq | ⟨hs, hnone, hm⟩
    · have hnone : x.roll.isSome = false := by
        refine run_preserves_from (P := fun y => y.roll.isSome = false) hrun hreach₁ ?_ ?_
        · exact fun y a z hwy hy hok hact => (withinRoll_isSome hwy hact hok).trans hy
        · rw [heq, h.idle]
          rfl
      simp [hr] at hnone
    · exact (RolledOut.beginRoll (reachable_listedUntilDrained h.reachable) hfilter henv).moves hm
  have hrolled : RolledOut E s₀ x :=
    run_preserves_from hrun hreach₁ (fun _ _ _ hwy hy hok hact => hy.step hwy hact hok) hbegun
  exact ⟨hreachx.step h.ends, hrolled, hrolled.rollReturned (reachable_wellFormed hreachx) hr
    hcomplete hall (orchestrator_step h.ends)⟩

/-- **The environment of a rolled fleet.** After a complete roll over the whole fleet with
`E`, and until the next one, the fleet runs with `E` over `cfg.workers.env` exactly if
nobody in it was forked by another path than the roll, or `E` changes nothing. -/
theorem rolled_fleet_env (e : Host) (count : WorkerCount) (env E : ProcessEnv)
    (s₀ x c s : State) (hroll : CompleteRoll e count env E s₀ x c)
    (hafter : (orchestrator e count env).Run (fun y a => withinRoll s₀ y a = true) c s) :
    (∀ id ∈ s.rolledFleet x.cluster.ids, (s.worker id).env = overlay s.orch.env E) ↔
      ∀ id ∈ s.rolledFleet x.cluster.ids,
        (s.worker id).cause.byRoll = true ∨ overlay s.orch.env E = s.orch.env := by
  obtain ⟨hreachc, hrolled, hdone⟩ := hroll.rolledOut
  have hfinal : RolledOut E s₀ s ∧ s.roll.isSome = false := by
    refine run_preserves_from (P := fun y => RolledOut E s₀ y ∧ y.roll.isSome = false) hafter
      hreachc (fun y a z hwy hy hok hact => ?_) hdone
    exact ⟨hy.1.step hwy hact hok, (withinRoll_isSome hwy hact hok).trans hy.2⟩
  have hforked : ∀ id ∈ s.rolledFleet x.cluster.ids, (s.worker id).env =
      if (s.worker id).cause.byRoll then overlay s.orch.env E else s.orch.env := by
    intro id hid
    obtain ⟨hid, hfleet⟩ := Finset.mem_filter.mp hid
    obtain ⟨hpos, hle⟩ := Finset.mem_Icc.mp hid
    refine hfinal.1.forked id ?_ hle
    by_contra hold
    rcases hfleet with hnew | ⟨ha, hd⟩
    · exact hold (hrolled.ids.trans_lt hnew)
    · have hid : id ∈ s₀.workerIds := Finset.mem_Icc.mpr ⟨hpos, by omega⟩
      obtain ⟨r, hr, -⟩ := hfinal.1.served id hid ha hd
      simp [hr] at hfinal
  refine forall₂_congr fun id hid => ?_
  rw [hforked id hid]
  cases (s.worker id).cause.byRoll with
  | true => simp
  | false => simp [eq_comm]

/-- One worker, and a roll that sets one key. -/
theorem CompleteRoll.one_worker (as : List Action) (q : State → State → Bool)
    (h : let E : ProcessEnv := fun key => if key = "A" then some (some "1") else none
      let S := orchestrator {} (.fixed 1) fun _ => none
      ((S.exec (fun _ _ => true) S.init
        [.tick 1, .run, .pluginsInstalled, .workerOnline 1]).any fun s₀ => s₀.roll.isNone &&
      (S.step s₀ (.restartWorkers { env := some E })).any fun s₁ =>
      (S.exec (withinRoll s₀) s₁ [.workerOnline 2, .workerExit 1 (some 0) none,
        .resume .rollExited, .tick 1000, .timer .rollStagger]).any fun x =>
      x.roll.any (fun r => decide (r.frame = .returned .complete) && !r.forkFailed) &&
      (S.step x (.resume .rollReturned)).any fun c =>
      (S.exec (withinRoll s₀) c as).any fun s => q x s) = true) :
    ∃ s₀ x c s, CompleteRoll {} (.fixed 1) (fun _ => none)
      (fun key => if key = "A" then some (some "1") else none) s₀ x c ∧
      (orchestrator {} (.fixed 1) fun _ => none).Run (fun y a => withinRoll s₀ y a = true) c s ∧
      q x s = true := by
  simp only [Option.any_eq_true, Bool.and_eq_true, Option.isNone_iff_eq_none, decide_eq_true_eq,
    Bool.not_eq_true'] at h
  obtain ⟨s₀, h₀, hidle, s₁, h₁, x, hx, ⟨r, hr, hcomplete, hall⟩, c, hc, s, hs, hq⟩ := h
  refine ⟨s₀, x, c, s, ?_, StepSystem.exec_run hs, hq⟩
  constructor
  case reachable => exact (StepSystem.exec_run h₀).reachable
  case idle => exact hidle
  case rolls => exact ⟨_, s₁, rfl, rfl, h₁, StepSystem.exec_run hx⟩
  case complete => exact ⟨r, hr, hcomplete, hall⟩
  case ends => exact hc

/-- Right after the roll. -/
theorem rolled_fleet_env_one_worker :
    ∃ s : State, 2 ∈ s.workerIds ∧ s.alive 2 ∧ s.roll = none ∧
      (s.worker 2).env = overlay s.orch.env
        fun key => if key = "A" then some (some "1") else none := by
  obtain ⟨s₀, x, c, s, hroll, hafter, hq⟩ := CompleteRoll.one_worker []
    (fun x s => decide (2 ∈ s.workerIds) && decide (s.alive 2) && s.roll.isNone &&
      decide (2 ∈ s.rolledFleet x.cluster.ids) &&
      decide (∀ id ∈ s.rolledFleet x.cluster.ids, (s.worker id).cause.byRoll = true))
    (by decide +kernel)
  simp only [Bool.and_eq_true, decide_eq_true_eq, Option.isNone_iff_eq_none] at hq
  obtain ⟨⟨⟨⟨hid, ha⟩, hnone⟩, hfleet⟩, hby⟩ := hq
  have henv := (rolled_fleet_env {} _ _ _ s₀ x c s hroll hafter).mpr fun id hid => .inl (hby id hid)
  exact ⟨s, hid, ha, hnone, henv 2 hfleet⟩

/-- After the roll, its only worker crashes and the restart queue forks another. -/
theorem rolled_fleet_mixes_env :
    ¬ ∀ (e : Host) (count : WorkerCount) (env E : ProcessEnv) (s₀ x c s : State),
      CompleteRoll e count env E s₀ x c →
      (orchestrator e count env).Run (fun y a => withinRoll s₀ y a = true) c s →
        ∀ id ∈ s.rolledFleet x.cluster.ids, (s.worker id).env = overlay s.orch.env E := by
  intro h
  obtain ⟨s₀, x, c, s, hroll, hafter, hq⟩ := CompleteRoll.one_worker
    [.workerExit 2 (some 1) none, .tick 1000, .timer .backoffWait]
    (fun x s => decide (3 ∈ s.rolledFleet x.cluster.ids) && ((s.worker 3).env "A").isNone)
    (by decide +kernel)
  simp only [Bool.and_eq_true, decide_eq_true_eq, Option.isNone_iff_eq_none] at hq
  have henv := h {} _ _ _ s₀ x c s hroll hafter 3 hq.1
  rw [henv] at hq
  simp [overlay] at hq

end ClusterKit
