import ClusterKit.DrainTimers
import ClusterKit.RollWait
import ClusterKit.Validation

/-! The grace of a worker that a roll replaces. Its drain gives it the full window before each
signal; the wait of the roll, which began with the fork, and the drains of other recycles of the
same worker do not ask when that drain began. -/

namespace ClusterKit

open State

variable {e : Host} {s t : State} {a : Action} {log : DrainLog}

/-! ## What a worker is promised -/

/-- A roll replaces the worker, and the replacement came online before the budget ran out. -/
def Recycle.InTime (e : Host) (log : DrainLog) (s : State) (r : Recycle) : Prop :=
  (s.worker r.new).cause = .roll r.old ∧ r.replacementOnline = true ∧
    drainBegan log s r < s.budgetEnd e r.new

instance (r : Recycle) : Decidable (r.InTime e log s) := inferInstanceAs (Decidable (_ ∧ _ ∧ _))

/-- `signal` may be sent at `time` to a worker whose drain began at `began`. -/
def graceOver (e : Host) (began : Nat) (signal : Signal) (time : Nat) : Prop :=
  began + e.cfg.shutdown.timeoutMs ≤ time ∧
    (signal = .SIGKILL → began + e.cfg.shutdown.timeoutMs + e.cfg.escalationMs ≤ time)

/-- No signal came before the grace was over. -/
def Worker.Graced (e : Host) (began : Nat) (w : Worker) : Prop :=
  ∀ signal time, (.kill signal, time) ∈ w.sent → graceOver e began signal time

theorem graceOver_of_le {began time : Nat} (signal : Signal)
    (h : began + e.cfg.shutdown.timeoutMs + e.cfg.escalationMs ≤ time) :
    graceOver e began signal time :=
  ⟨(Nat.le_add_right _ _).trans h, fun _ => h⟩

/-! ## What a drain of a roll meets -/

namespace State

/-- The recycles of `id` by a roll whose replacements came online in time. -/
def rollDrains (e : Host) (log : DrainLog) (s : State) (id : Nat) : List Recycle :=
  s.recycles.filter fun r => decide (r.old = id ∧ r.InTime e log s)

/-- A signal was sent to `id`. -/
def wasKilled (s : State) (id : Nat) : Bool :=
  (s.worker id).sent.any fun p =>
    match p.1 with
    | .kill _ => true
    | _ => false

end State

/-- The steps that leave the grace of every drain of a roll alone. When the wait of the roll runs
out on a live worker, its replacement was online within the margin of the budget; a drain of the
same worker that began before does not send its signals; and no signal was sent to a worker
before its replacement comes online. -/
def graceKept (e : Host) (x : State × DrainLog) : Action → Bool
  | .timer .exitWait =>
    match x.1.rollFrame with
    | some (.exitWait old _) => x.1.isDead old || (x.1.rollDrains e x.2 old).all fun c =>
        decide (drainBegan x.2 x.1 c ≤ (x.1.worker c.new).forkedAt + 5000)
    | _ => true
  | .timer (.forceKill new) | .timer (.sigkill new) =>
    match x.1.findRecycle new with
    | some r => x.1.isDead r.old || (x.1.rollDrains e x.2 r.old).all fun c =>
        decide (drainBegan x.2 x.1 c ≤ drainBegan x.2 x.1 r)
    | none => true
  | .workerOnline new =>
    match x.1.findRecycle new with
    | some r => decide ((x.1.worker new).cause ≠ .roll r.old) || r.drained ||
        decide (x.1.budgetEnd e new ≤ x.1.now) || !x.1.wasKilled r.old
    | none => true
  | _ => true

theorem not_killed {id : Nat} (h : s.wasKilled id = false) (signal : Signal) (time : Nat) :
    (.kill signal, time) ∉ (s.worker id).sent := by
  intro hmem
  have hkilled : s.wasKilled id = true := List.any_eq_true.mpr ⟨_, hmem, rfl⟩
  exact Bool.false_ne_true (h.symm.trans hkilled)

/-! ## The invariant -/

/-- What is known of the drains of the rolls between two segments. -/
structure GraceTracked (e : Host) (log : DrainLog) (s : State) : Prop where
  /-- A drain that began without the replacement began too late to be in time. -/
  late : ∀ r ∈ s.recycles, r.drained = true → r.replacementOnline = false →
    s.isDead r.new = true ∨ s.budgetEnd e r.new ≤ drainBegan log s r
  graced : ∀ r ∈ s.recycles, r.InTime e log s →
    (s.worker r.old).Graced e (drainBegan log s r)

/-- Where a recycle of `t` comes from. -/
inductive GraceFrom (e : Host) (log : DrainLog) (s t : State) (r' : Recycle) : Prop
  | fresh (hon : r'.replacementOnline = false) (hd : r'.drained = false)
  | same (r : Recycle) (hr : r ∈ s.recycles) (hold : r'.old = r.old) (hnew : r'.new = r.new)
      (hon : r'.replacementOnline = r.replacementOnline)
      (hd : r'.drained = true → r.replacementOnline = false → r.drained = true ∨
        s.isDead r.new = true ∨ s.budgetEnd e r.new ≤ drainBegan log s r) : GraceFrom e log s t r'
  | online (hon : r'.replacementOnline = true)
      (hgrace : r'.InTime e log t → (t.worker r'.old).Graced e (drainBegan log t r')) :
    GraceFrom e log s t r'

namespace GraceTracked

theorem grown (h : GraceTracked e log s) (hw : WellFormed s) (hl : s.Later t)
    (hnow : t.now = s.now) (hfrom : ∀ r' ∈ t.recycles, GraceFrom e log s t r')
    (hkills : ∀ r ∈ s.recycles, r.InTime e log s → ∀ signal time,
      (.kill signal, time) ∈ (t.worker r.old).sent →
        (.kill signal, time) ∈ (s.worker r.old).sent ∨
          graceOver e (drainBegan log s r) signal time) : GraceTracked e log t := by
  have hbegan {r r' : Recycle} (hnew : r'.new = r.new) :
      drainBegan log t r' = drainBegan log s r := by rw [drainBegan, hnew, hnow, drainBegan]
  have hgrows {r : Recycle} (hr : r ∈ s.recycles) : (s.worker r.new).Grows (t.worker r.new) :=
    hl.worker r.new (hw.recycled r hr).2
  have hend {r r' : Recycle} (hr : r ∈ s.recycles) (hnew : r'.new = r.new) :
      t.budgetEnd e r'.new = s.budgetEnd e r.new := by
    rw [budgetEnd, hnew, (hgrows hr).forkedAt, budgetEnd]
  constructor
  · intro r' hr' hd hon
    cases hfrom r' hr' with
    | fresh hon' hd' => exact absurd (hd'.symm.trans hd) Bool.false_ne_true
    | online hon' hgrace => exact absurd (hon.symm.trans hon') Bool.false_ne_true
    | same r hr hold hnew hon' hwhy =>
      have hon : r.replacementOnline = false := hon'.symm.trans hon
      rw [hend hr hnew, hbegan hnew]
      have hlate : s.isDead r.new = true ∨ s.budgetEnd e r.new ≤ drainBegan log s r := by
        rcases hwhy hd hon with hd | hlate
        · exact h.late r hr hd hon
        · exact hlate
      rcases hlate with hdead | hlate
      · left
        rw [hnew]
        exact (hgrows hr).dead hdead
      · exact .inr hlate
  · intro r' hr' hin
    cases hfrom r' hr' with
    | fresh hon hd => exact absurd (hon.symm.trans hin.2.1) Bool.false_ne_true
    | online hon hgrace => exact hgrace hin
    | same r hr hold hnew hon hwhy =>
      have hin' : r.InTime e log s := by
        refine ⟨?_, hon.symm.trans hin.2.1, ?_⟩
        · rw [← (hgrows hr).cause, ← hnew, ← hold]
          exact hin.1
        · rw [← hbegan hnew, ← hend hr hnew]
          exact hin.2.2
      rw [hbegan hnew, hold]
      intro signal time hmem
      rcases hkills r hr hin' signal time hmem with hmem | hover
      · exact h.graced r hr hin' signal time hmem
      · exact hover

/-- No signal is sent. -/
theorem sent_kept (hk : SentKept s t) {id : Nat} {signal : Signal} {time : Nat}
    (hmem : (.kill signal, time) ∈ (t.worker id).sent) :
    (.kill signal, time) ∈ (s.worker id).sent := by
  rcases hk.sent id with hsent | ⟨-, hsent⟩
  · rwa [hsent] at hmem
  · rw [hsent] at hmem
    cases hmem

theorem sent_drain (now : Nat) (w : Worker) {signal : Signal} {time : Nat}
    (hmem : (.kill signal, time) ∈ (w.drain now).sent) : (.kill signal, time) ∈ w.sent := by
  unfold Worker.drain at hmem
  split at hmem
  · rcases List.mem_cons.mp hmem with heq | hmem
    · cases heq
    · exact hmem
  · rcases List.mem_cons.mp hmem with heq | hmem
    · cases heq
    · rcases List.mem_cons.mp hmem with heq | hmem
      · cases heq
      · exact hmem

/-- A signal is sent to one worker. -/
theorem sent_kill {id old : Nat} {signal signal' : Signal} {time : Nat} (x : State)
    (hmem : (.kill signal, time) ∈ ((x.kill signal' old).worker id).sent) :
    (.kill signal, time) ∈ (x.worker id).sent ∨
      id = old ∧ signal = signal' ∧ time = x.now := by
  by_cases hid : id = old
  · rw [hid] at hmem
    have hmem : (.kill signal, time) ∈ ((x.worker old).kill signal' x.now).sent := by
      have hself : (x.kill signal' old).worker old = (x.worker old).kill signal' x.now :=
        worker_modifyWorker_self
      rwa [hself] at hmem
    rcases List.mem_cons.mp hmem with heq | hmem
    · cases heq
      exact .inr ⟨hid, rfl, rfl⟩
    · exact .inl (hid ▸ hmem)
  · have hother : (x.kill signal' old).worker id = x.worker id := worker_modifyWorker_of_ne hid
    rw [hother] at hmem
    exact .inl hmem

/-- The recycles are mapped, and none of them comes online. -/
theorem from_map {f : Recycle → Recycle} (hr : t.recycles = s.recycles.map f)
    (hf : ∀ r ∈ s.recycles, (f r).old = r.old ∧ (f r).new = r.new ∧
      (f r).replacementOnline = r.replacementOnline ∧
      ((f r).drained = true → r.replacementOnline = false → r.drained = true ∨
        s.isDead r.new = true ∨ s.budgetEnd e r.new ≤ drainBegan log s r)) :
    ∀ r' ∈ t.recycles, GraceFrom e log s t r' := by
  intro r' hr'
  rw [hr] at hr'
  obtain ⟨r, hmem, rfl⟩ := List.mem_map.mp hr'
  obtain ⟨hold, hnew, hon, hd⟩ := hf r hmem
  exact .same r hmem hold hnew hon hd

/-- A turn that is neither the event of a replacement nor a signal. -/
theorem turn (h : GraceTracked e log s) (hw : WellFormed s) (hl : s.Later t)
    (hnow : t.now = s.now) (hd : DrainsTimely e False log s) (ha : ∀ id, a ≠ .workerOnline id)
    (hkill : a ≠ .timer .exitWait ∧ ∀ new, a ≠ .timer (.forceKill new) ∧ a ≠ .timer (.sigkill new))
    (hturn : DrainTurn e a s t) : GraceTracked e log t := by
  cases hturn with
  | kept _ hr hk =>
    refine h.grown hw hl hnow (fun r' hr' => ?_) fun _ _ _ _ _ hmem => .inl (sent_kept hk hmem)
    exact .same r' (hr ▸ hr') rfl rfl rfl fun hd _ => .inl hd
  | begun _ old hal hr hf hk =>
    refine h.grown hw hl hnow (fun r' hr' => ?_) fun _ _ _ _ _ hmem => .inl (sent_kept hk hmem)
    rw [hr] at hr'
    rcases List.mem_cons.mp hr' with rfl | hr'
    · exact .fresh rfl rfl
    · exact .same r' hr' rfl rfl rfl fun hd _ => .inl hd
  | retimed _ f hr hf hk =>
    refine h.grown hw hl hnow (from_map hr fun r hmem => ?_)
      fun _ _ _ _ _ hmem => .inl (sent_kept hk hmem)
    obtain ⟨hold, hnew, hdrained⟩ := Recycle.Timely.parties (hf r hmem)
    refine ⟨hold, hnew, (OnlineDrained.retimed ha (hf r hmem)).1, fun hd _ => .inl ?_⟩
    exact hdrained.symm.trans hd
  | drained r hr hundrained hwhy =>
    have hoff : r.replacementOnline = false ∧ (s.isDead r.new = true ∨
        ∃ deadline, r.drainFailsafeTimer = some deadline ∧ deadline ≤ s.now) :=
      hwhy.resolve_left fun hon => ha r.new hon.1
    have hlate : s.isDead r.new = true ∨ s.budgetEnd e r.new ≤ drainBegan log s r := by
      rcases hoff.2 with hdead | ⟨deadline, ht, hdue⟩
      · exact .inl hdead
      · right
        rw [drainBegan, hd.unlogged hw hr hundrained]
        exact ((hd.timely r hr).failsafe deadline ht).2.symm.le.trans hdue
    have heq := drainOldWorker_undrained (e := e) (s := s) hundrained
    rw [heq] at hl hnow ⊢
    refine h.grown hw hl hnow (from_map (f := fun c => if c.new = r.new then c.drain e s else c)
      rfl fun c hc => ?_) fun c _ _ signal time hmem => .inl ?_
    · split
      · rename_i hnew
        refine ⟨rfl, rfl, rfl, fun _ _ => .inr ?_⟩
        rw [hw.recycle_unique hc hr hnew]
        exact hlate
      · exact ⟨rfl, rfl, rfl, fun hd _ => .inl hd⟩
    · by_cases hold : c.old = r.old
      · rw [hold] at hmem ⊢
        rw [worker_modifyWorker_self] at hmem
        exact sent_drain s.now _ hmem
      · rw [worker_modifyWorker_of_ne hold] at hmem
        exact hmem
  | sigterm r deadline ha' => exact absurd ha' (hkill.2 r.new).1
  | sigkill r deadline ha' => exact absurd ha' (hkill.2 r.new).2
  | rollKill old deadline ha' => exact absurd ha' hkill.1

/-- A timer sends a signal, if it does, when the grace of every drain of a roll is over. -/
theorem killed (h : GraceTracked e log s) (x : State) (old : Nat) (signal : Signal)
    (hw : WellFormed s) (hl : s.Later t) (hnow : t.now = s.now) {f : Recycle → Recycle}
    (hr : t.recycles = s.recycles.map f)
    (hf : ∀ r : Recycle, (f r).old = r.old ∧ (f r).new = r.new ∧
      (f r).replacementOnline = r.replacementOnline ∧ (f r).drained = r.drained)
    (hx : x.cluster = s.cluster) (hxnow : x.now = s.now)
    (ht : t.cluster = x.cluster ∨ t.cluster = (x.kill signal old).cluster ∧
      ∀ r ∈ s.rollDrains e log old, graceOver e (drainBegan log s r) signal s.now) :
    GraceTracked e log t := by
  have hfrom : ∀ r' ∈ t.recycles, GraceFrom e log s t r' := by
    refine from_map hr fun r _ => ?_
    obtain ⟨hold, hnew, hon, hd⟩ := hf r
    exact ⟨hold, hnew, hon, fun hdrained _ => .inl (hd.symm.trans hdrained)⟩
  refine h.grown hw hl hnow hfrom fun r hmem hin signal' time hsent => ?_
  rcases ht with ht | ⟨ht, hover⟩
  · left
    have hworker : t.worker r.old = s.worker r.old := by rw [worker, ht, hx, worker]
    rwa [hworker] at hsent
  · have hworker : t.worker r.old = (x.kill signal old).worker r.old := by
      rw [worker, ht, worker]
    rw [hworker] at hsent
    rcases sent_kill x hsent with hsent | ⟨hold, rfl, rfl⟩
    · left
      have hsame : x.worker r.old = s.worker r.old := by rw [worker, hx, worker]
      rwa [hsame] at hsent
    · right
      rw [hxnow]
      refine hover r (List.mem_filter.mpr ⟨hmem, ?_⟩)
      exact decide_eq_true ⟨hold, hin⟩

/-- The drains of the rolls began before the drain whose signal is due. -/
theorem began_before {new : Nat} {r : Recycle} (hfind : s.findRecycle new = some r)
    (hl : s.alive r.old) {timer : Timer} (htimer : timer = .forceKill new ∨ timer = .sigkill new)
    (hok : graceKept e (s, log) (.timer timer) = true) :
    ∀ c ∈ s.rollDrains e log r.old, drainBegan log s c ≤ drainBegan log s r := by
  have hok : (s.isDead r.old || (s.rollDrains e log r.old).all fun c =>
      decide (drainBegan log s c ≤ drainBegan log s r)) = true := by
    rcases htimer with rfl | rfl
    · simpa only [graceKept, hfind] using hok
    · simpa only [graceKept, hfind] using hok
  rw [show s.isDead r.old = false from hl, Bool.false_or] at hok
  exact fun c hc => of_decide_eq_true (List.all_eq_true.mp hok c hc)

theorem forceKill (h : GraceTracked e log s) (hw : WellFormed s) (hd : DrainsTimely e False log s)
    (hl : s.Later t) (hnow : t.now = s.now) {new : Nat} (ht : s.forceKillElapsed e new = some t)
    (hok : graceKept e (s, log) (.timer (.forceKill new)) = true) : GraceTracked e log t := by
  unfold forceKillElapsed at ht
  split at ht
  · cases ht
  · rename_i r hfind
    split at ht
    · cases ht
    · rename_i deadline htimer
      split at ht
      · rename_i hdue
        split at ht
        · obtain rfl := Option.some.inj ht
          refine h.killed s r.old .SIGTERM hw hl hnow rfl
            (fun c => ?_) rfl rfl (.inl rfl)
          split <;> exact ⟨rfl, rfl, rfl, rfl⟩
        · rename_i hidle
          rw [Bool.or_eq_true, not_or, Bool.not_eq_true] at hidle
          simp only at ht
          obtain rfl := Option.some.inj ht
          have hr := (mem_of_findRecycle hfind).1
          obtain ⟨-, -, hdeadline, -⟩ := (hd.timely r hr).sigterm deadline htimer
          refine h.killed (s.modifyRecycle new _) r.old .SIGTERM hw hl hnow
            rfl (fun c => ?_) rfl rfl (.inr ⟨rfl, fun c hc => ⟨?_, nofun⟩⟩)
          · split <;> exact ⟨rfl, rfl, rfl, rfl⟩
          · have hbefore := began_before hfind hidle.1 (.inl rfl) hok c hc
            omega
      · cases ht

theorem sigkill (h : GraceTracked e log s) (hw : WellFormed s) (hd : DrainsTimely e False log s)
    (hl : s.Later t) (hnow : t.now = s.now) {new : Nat} (ht : s.sigkillElapsed new = some t)
    (hok : graceKept e (s, log) (.timer (.sigkill new)) = true) : GraceTracked e log t := by
  unfold sigkillElapsed at ht
  split at ht
  · cases ht
  · rename_i r hfind
    split at ht
    · cases ht
    · rename_i deadline htimer
      split at ht
      · rename_i hdue
        extract_lets x at ht
        split at ht
        · obtain rfl := Option.some.inj ht
          refine h.killed x r.old .SIGKILL hw hl hnow rfl
            (fun c => ?_) rfl rfl (.inl rfl)
          split <;> exact ⟨rfl, rfl, rfl, rfl⟩
        · rename_i hidle
          rw [Bool.or_eq_true, not_or, Bool.not_eq_true] at hidle
          obtain rfl := Option.some.inj ht
          have hr := (mem_of_findRecycle hfind).1
          obtain ⟨-, -, fired, -, hdeadline, hlate, -⟩ := (hd.timely r hr).sigkill deadline htimer
          refine h.killed x r.old .SIGKILL hw hl hnow
            rfl (fun c => ?_) rfl rfl (.inr ⟨rfl, fun c hc => graceOver_of_le _ ?_⟩)
          · split <;> exact ⟨rfl, rfl, rfl, rfl⟩
          · have hbefore := began_before hfind hidle.1 (.inr rfl) hok c hc
            omega
      · cases ht

theorem exitWait (h : GraceTracked e log s) (hw : WellFormed s) (hb : WaitsBacked e s)
    (hl : s.Later t) (hnow : t.now = s.now) (ht : s.exitWaitElapsed = some t)
    (hok : graceKept e (s, log) (.timer .exitWait) = true) : GraceTracked e log t := by
  unfold exitWaitElapsed at ht
  split at ht
  · rename_i old deadline hframe
    split at ht
    · rename_i hdue
      simp only at ht
      split at ht
      · obtain rfl := Option.some.inj ht
        exact h.killed (f := id) s old .SIGKILL hw hl hnow
          (List.map_id _).symm (fun _ => ⟨rfl, rfl, rfl, rfl⟩) rfl rfl (.inl rfl)
      · rename_i hlive
        obtain rfl := Option.some.inj ht
        refine h.killed (f := id) s old .SIGKILL hw hl hnow
          (List.map_id _).symm (fun _ => ⟨rfl, rfl, rfl, rfl⟩) rfl rfl
          (.inr ⟨rfl, fun c hc => graceOver_of_le _ ?_⟩)
        have hok : (s.isDead old || (s.rollDrains e log old).all fun c =>
            decide (drainBegan log s c ≤ (s.worker c.new).forkedAt + 5000)) = true := by
          simpa only [graceKept, hframe] using hok
        rw [Bool.eq_false_iff.mpr hlive, Bool.false_or] at hok
        have hboot : drainBegan log s c ≤ (s.worker c.new).forkedAt + 5000 :=
          of_decide_eq_true (List.all_eq_true.mp hok c hc)
        obtain ⟨hmem, hin⟩ := List.mem_filter.mp hc
        obtain ⟨-, hcause, -⟩ := of_decide_eq_true hin
        have hend : s.budgetEnd e c.new ≤ deadline :=
          hb.newest old deadline hframe c.parties (List.mem_map_of_mem hmem) c.old hcause
        rw [budgetEnd, ResolvedConfig.workerDrainBudgetMs] at hend
        rw [ResolvedConfig.escalationMs]
        omega
    · cases ht
  · cases ht

/-- Its own recycle is online, the others are as they were. -/
theorem onReplacementOnline_recycles (e : Host) (id : Nat) (s : State) :
    ∀ r' ∈ (s.onReplacementOnline e id).recycles, ∃ r ∈ s.recycles, r'.old = r.old ∧
      r'.new = r.new ∧ (r.new = id ∧ r'.replacementOnline = true ∨ r.new ≠ id ∧ r' = r) := by
  unfold onReplacementOnline
  split
  · rename_i hfind
    intro r hr
    refine ⟨r, hr, rfl, rfl, .inr ⟨fun hnew => ?_, rfl⟩⟩
    have hnone := List.find?_eq_none.mp hfind r hr
    exact hnone (beq_iff_eq.mpr hnew)
  · rename_i r hfind
    extract_lets z
    have hz : ∀ c' ∈ z.recycles, ∃ c ∈ s.recycles, c'.old = c.old ∧ c'.new = c.new ∧
        (c.new = id ∧ c'.replacementOnline = true ∨ c.new ≠ id ∧ c' = c) := by
      intro c' hc'
      obtain ⟨c, hc, rfl⟩ := List.mem_map.mp hc'
      refine ⟨c, hc, ?_⟩
      split
      · rename_i hnew
        exact ⟨rfl, rfl, .inl ⟨hnew, rfl⟩⟩
      · rename_i hnew
        exact ⟨rfl, rfl, .inr ⟨hnew, rfl⟩⟩
    split
    · exact hz
    · cases hd : r.drained with
      | true =>
        rw [show z.drainOldWorker e r = z from if_pos hd]
        exact hz
      | false =>
        rw [drainOldWorker_undrained hd]
        have hnew : r.new = id := (mem_of_findRecycle hfind).2
        intro c' hc'
        obtain ⟨c, hc, rfl⟩ := List.mem_map.mp hc'
        obtain ⟨b, hb, hold, hnew', hwhy⟩ := hz c hc
        refine ⟨b, hb, ?_⟩
        split
        · rename_i heq
          refine ⟨hold, hnew', ?_⟩
          rcases hwhy with hon | ⟨hne, -⟩
          · exact .inl hon
          · exact absurd (hnew'.symm.trans (heq.trans hnew)) hne
        · exact ⟨hold, hnew', hwhy⟩

theorem onReplacementOnline_kills (e : Host) (id : Nat) (s : State) {j : Nat} {signal : Signal}
    {time : Nat} : (.kill signal, time) ∈ ((s.onReplacementOnline e id).worker j).sent →
      (.kill signal, time) ∈ (s.worker j).sent := by
  unfold onReplacementOnline
  split
  · exact fun h => h
  · rename_i r hfind
    extract_lets z
    split
    · exact fun h => h
    · intro h
      cases hd : r.drained with
      | true =>
        rw [drainOldWorker, if_pos hd] at h
        exact h
      | false =>
        rw [drainOldWorker_undrained hd] at h
        by_cases hold : j = r.old
        · rw [hold] at h ⊢
          rw [worker_modifyWorker_self] at h
          exact sent_drain _ _ h
        · rw [worker_modifyWorker_of_ne hold] at h
          exact h

/-- The event of a replacement: its own recycle is online, the others are as they were, and no
signal is sent. -/
theorem workerOnline_recycles {id : Nat} (ht : s.workerOnline e id = some t) :
    (∀ r' ∈ t.recycles, ∃ r ∈ s.recycles, r'.old = r.old ∧ r'.new = r.new ∧
      (r.new = id ∧ r'.replacementOnline = true ∨ r.new ≠ id ∧ r' = r)) ∧
    ∀ j signal time, (.kill signal, time) ∈ (t.worker j).sent →
      (.kill signal, time) ∈ (s.worker j).sent := by
  obtain ⟨hrec, hcluster⟩ := workerOnline_drains ht
  constructor
  · rw [hrec]
    exact onReplacementOnline_recycles e id (s.modifyWorker id fun w => { w with online := true })
  · intro j signal time hkill
    rw [worker, hcluster] at hkill
    have hsent : ((s.modifyWorker id fun w => { w with online := true }).worker j).sent =
        (s.worker j).sent := modifyWorker_field Worker.sent fun _ => rfl
    rw [← hsent]
    exact onReplacementOnline_kills e id _ hkill

theorem online (h : GraceTracked e log s) (hw : WellFormed s) (hd : DrainsTimely e False log s)
    (hl : s.Later t) (hnow : t.now = s.now) {id : Nat} (ht : s.workerOnline e id = some t)
    (hok : graceKept e (s, log) (.workerOnline id) = true) : GraceTracked e log t := by
  obtain ⟨hfrom, hkills⟩ := workerOnline_recycles ht
  have hlive : s.alive id := (workerOnline_cases ht).1
  refine h.grown hw hl hnow (fun r' hr' => ?_)
    fun r _ _ signal time hmem => .inl (hkills r.old signal time hmem)
  obtain ⟨r, hr, hold, hnew, ⟨hid, hon⟩ | ⟨-, rfl⟩⟩ := hfrom r' hr'
  · refine .online hon fun hin => ?_
    obtain ⟨hcause, -, htime⟩ := hin
    have hgrows := hl.worker r.new (hw.recycled r hr).2
    have hbegan : drainBegan log t r' = drainBegan log s r := by
      rw [drainBegan, hnew, hnow, drainBegan]
    rw [hbegan, budgetEnd, hnew, hgrows.forkedAt] at htime
    rw [hnew, hgrows.cause, hold] at hcause
    rw [hold, hbegan]
    intro signal time hmem
    have hmem := hkills r.old signal time hmem
    cases hdrained : r.drained with
    | true =>
      cases hron : r.replacementOnline with
      | true => exact h.graced r hr ⟨hcause, hron, htime⟩ signal time hmem
      | false =>
        rcases h.late r hr hdrained hron with hdead | hlate
        · rw [hid] at hdead
          exact absurd (Eq.trans (Eq.symm hlive) hdead) Bool.false_ne_true
        · exact absurd htime (Nat.not_lt.mpr hlate)
    | false =>
      have hbegan : drainBegan log s r = s.now := by
        rw [drainBegan, hd.unlogged hw hr hdrained]
        rfl
      rw [hbegan] at htime
      have hfind : s.findRecycle id = some r := by
        cases hfind : s.findRecycle id with
        | none =>
          have hnone := List.find?_eq_none.mp hfind r hr
          exact absurd (beq_iff_eq.mpr hid) hnone
        | some c =>
          obtain ⟨hc, hcnew⟩ := mem_of_findRecycle hfind
          rw [hw.recycle_unique hc hr (hcnew.trans hid.symm)]
      have htime : s.now < s.budgetEnd e id := hid ▸ htime
      rw [hid] at hcause
      have hkilled : s.wasKilled r.old = false := by
        simpa [graceKept, hfind, hcause, hdrained, Nat.not_le.mpr htime] using hok
      exact absurd hmem (not_killed hkilled signal time)
  · exact .same r' hr rfl rfl rfl fun hdrained _ => .inl hdrained

/-- **Segment rule.** -/
theorem act (h : GraceTracked e log s) (hd : DrainsTracked e False (s, log))
    (hb : WaitsBacked e s) (hw : WellFormed s) (hact : s.act e a = some t)
    (ht : t.isShuttingDown = false) (hok : graceKept e (s, log) a = true) :
    GraceTracked e (noteDrains s a t log) t := by
  have hl : s.Later t := (act_pieces hw hact).later
  suffices hkept : GraceTracked e log t by
    refine ⟨fun r hr => ?_, fun r hr hin => ?_⟩
    · rw [DrainsTracked.began_noted]
      exact hkept.late r hr
    · rw [DrainsTracked.began_noted]
      rw [Recycle.InTime, DrainsTracked.began_noted] at hin
      exact hkept.graced r hr hin
  by_cases htick : ∃ ms, a = .tick ms
  · obtain ⟨ms, rfl⟩ := htick
    rw [← Option.some.inj hact]
    refine ⟨fun r hr hdrained hon => ?_, fun r hr hin => ?_⟩
    · rw [hd.began_tick ms hr hdrained]
      exact h.late r hr hdrained hon
    · have hsame := hd.began_tick ms hr (hd.online r hr hin.2.1)
      rw [hsame]
      rw [Recycle.InTime, hsame] at hin
      exact h.graced r hr hin
  · have htick (ms : Nat) : a ≠ .tick ms := fun heq => htick ⟨ms, heq⟩
    have hnow : t.now = s.now := act_now_eq hw htick hact
    by_cases honline : ∃ id, a = .workerOnline id
    · obtain ⟨id, rfl⟩ := honline
      exact h.online hw hd.timely hl hnow hact hok
    · by_cases hkill : a = .timer .exitWait ∨ ∃ new, a = .timer (.forceKill new) ∨
          a = .timer (.sigkill new)
      · rcases hkill with rfl | ⟨new, rfl | rfl⟩
        · exact h.exitWait hw hb hl hnow hact hok
        · exact h.forceKill hw hd.timely hl hnow hact hok
        · exact h.sigkill hw hd.timely hl hnow hact hok
      · rw [not_or, not_exists] at hkill
        obtain ⟨hwait, hkill⟩ := hkill
        have hboth := hd.preserves hw hact ht htick (P := GraceTracked e log) ?_ h
        · exact hboth.2
        · intro x y hx _ hxl hdrains hxg hxy hxnow
          exact hxg.turn hx hxl hxnow hdrains (fun id heq => honline ⟨id, heq⟩)
            ⟨hwait, fun new => not_or.mp (hkill new)⟩ hxy

end GraceTracked

/-! ## Runs -/

/-- A worker that a roll replaces, and whose replacement came online in time, had its message when
the drain began and no signal before the grace was over. -/
def GraceHonoured (e : Host) (log : DrainLog) (s : State) : Prop :=
  ∀ r ∈ s.recycles, ∀ began, (s.worker r.new).cause = .roll r.old → r.replacementOnline = true →
    log r.new = some began → began < s.budgetEnd e r.new →
      (.shutdownMessage, began) ∈ (s.worker r.old).sent ∧ (s.worker r.old).Graced e began

section Runs

variable {count : WorkerCount} {env : ProcessEnv}

theorem run_graceTracked {x : State × DrainLog}
    (h : ((orchestrator e count env).observed (fun _ => none) noteDrains).Run
      (fun y a => graceKept e y a = true) (State.initial e count env, fun _ => none) x)
    (hs : x.1.isShuttingDown = false) :
    DrainsTracked e False x ∧ GraceTracked e x.2 x.1 := by
  refine h.observed_preserves (Q := fun s => (orchestrator e count env).Reachable s)
    (P := fun x => x.1.isShuttingDown = false → DrainsTracked e False x ∧ GraceTracked e x.2 x.1)
    (fun _ hreach => hreach) ?_ (fun _ => ?_) hs
  · rintro ⟨s, log⟩ a t hreach hx hok hstep ht
    have hw := reachable_wellFormed hreach
    have hact := orchestrator_step hstep
    have hxs := ((act_pieces hw hact).later).not_shutting ht
    obtain ⟨hd, hg⟩ := hx hxs
    exact ⟨hd.act hw hact ht False.elim,
      hg.act hd (reachable_waitsBacked hreach hxs) hw hact ht hok⟩
  · exact ⟨.initial e count env, ⟨nofun, nofun⟩⟩

/-- **Drain grace is honoured** in every run in which no wait of a roll, and no older drain of the
same worker, runs out during it. -/
theorem drain_grace_honoured (e : Host) (count : WorkerCount) (env : ProcessEnv)
    (x : State × DrainLog)
    (hrun : ((orchestrator e count env).observed (fun _ => none) noteDrains).Run
      (fun y a => graceKept e y a = true) (State.initial e count env, fun _ => none) x)
    (hs : x.1.isShuttingDown = false) : GraceHonoured e x.2 x.1 := by
  obtain ⟨hd, hg⟩ := run_graceTracked hrun hs
  intro r hr began hcause hon hlog htime
  have hbegan : drainBegan x.2 x.1 r = began := by
    rw [drainBegan, hlog]
    rfl
  have hmessage := (hd.timely.timely r hr).messaged (hd.online r hr hon)
  rw [hbegan] at hmessage
  refine ⟨hmessage, ?_⟩
  rw [← hbegan]
  refine hg.graced r hr ⟨hcause, hon, ?_⟩
  rw [hbegan]
  exact htime

/-- The replacement is online after a quarter of a second; the worker ignores everything. -/
theorem drain_grace_honoured_ignored :
    ∃ x : State × DrainLog, (.kill .SIGTERM, 12250) ∈ (x.1.worker 1).sent ∧
      GraceHonoured {} x.2 x.1 := by
  have hrun := StepSystem.exists_run_of_any
    ((orchestrator {} (.fixed 1) fun _ => none).observed (fun _ => none) noteDrains)
    (State.initial {} (.fixed 1) fun _ => none, fun _ => none) (graceKept {})
    [.run, .pluginsInstalled, .workerOnline 1, .restartWorkers {}, .tick 250, .workerOnline 2,
      .tick 12000, .timer (.forceKill 2), .tick 3000, .timer (.sigkill 2), .tick 4750,
      .timer .exitWait]
    (fun x => decide (x.1.isShuttingDown = false) &&
      decide ((.kill .SIGTERM, 12250) ∈ (x.1.worker 1).sent)) (by decide +kernel)
  obtain ⟨x, hrun, hx⟩ := hrun
  rw [Bool.and_eq_true] at hx
  exact ⟨x, of_decide_eq_true hx.2,
    drain_grace_honoured {} (.fixed 1) _ x hrun (of_decide_eq_true hx.1)⟩

/-- The replacement needs six seconds; the wait of the roll kills the old worker two seconds after
its SIGTERM, and with the default configuration it should have had three. -/
theorem wait_cuts_grace_short :
    Host.Accepted {} ∧ ∃ x : State × DrainLog,
      ((orchestrator {} (.fixed 1) fun _ => none).observed (fun _ => none) noteDrains).Reachable x ∧
        x.1.isShuttingDown = false ∧ ¬ GraceHonoured {} x.2 x.1 := by
  refine ⟨⟨{}, rfl⟩, ?_⟩
  have hrun := StepSystem.exists_reachable_of_any
    ((orchestrator {} (.fixed 1) fun _ => none).observed (fun _ => none) noteDrains)
    [.run, .pluginsInstalled, .workerOnline 1, .restartWorkers {}, .tick 6000, .workerOnline 2,
      .tick 12000, .timer (.forceKill 2), .tick 2000, .timer .exitWait]
    (fun x => decide (x.1.isShuttingDown = false) && x.1.recycles.any fun r =>
      decide ((x.1.worker r.new).cause = .roll r.old ∧ r.replacementOnline = true ∧
        x.2 r.new = some 6000 ∧ 6000 < x.1.budgetEnd {} r.new ∧
        (.kill .SIGKILL, 20000) ∈ (x.1.worker r.old).sent)) (by decide +kernel)
  obtain ⟨x, hrun, hx⟩ := hrun
  rw [Bool.and_eq_true] at hx
  refine ⟨x, hrun, of_decide_eq_true hx.1, fun hgrace => ?_⟩
  obtain ⟨r, hr, hr'⟩ := List.any_eq_true.mp hx.2
  obtain ⟨hcause, hon, hlog, htime, hmem⟩ := of_decide_eq_true hr'
  obtain ⟨-, hgraced⟩ := hgrace r hr 6000 hcause hon hlog htime
  have hover := (hgraced .SIGKILL 20000 hmem).2 rfl
  exact absurd hover (by decide)

end Runs

end ClusterKit
