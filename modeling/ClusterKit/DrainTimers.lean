import ClusterKit.DrainTurn
import ClusterKit.Lib.Observer

/-! The hand-over of a replaced worker from one timer of its recycle to the next. An observer
writes down when each drain began; every deadline is measured from there. -/

namespace ClusterKit

open State

variable {e : Host} {s t : State} {a : Action}

/-! ## What is measured -/

/-- When the drain of each recycle began, by the id of the replacement. -/
abbrev DrainLog := Nat → Option Nat

/-- The observer of the drains. -/
def noteDrains (_ : State) (_ : Action) (t : State) (log : DrainLog) : DrainLog := fun new =>
  match log new with
  | some began => some began
  | none => if t.recycles.any fun r => r.new == new && r.drained then some t.now else none

/-- A drain that is not in the log yet began now. -/
def drainBegan (log : DrainLog) (s : State) (r : Recycle) : Nat := (log r.new).getD s.now

def Worker.messages (w : Worker) : Nat := w.sent.countP fun p => decide (p.1 = .shutdownMessage)

def Worker.disconnects (w : Worker) : Nat := w.sent.countP fun p => decide (p.1 = .disconnect)

def Worker.wasSent (w : Worker) (what : Sent) : Prop := ∃ time, (what, time) ∈ w.sent

namespace State

/-- The recycles that drained a worker. -/
def drainsOf (s : State) (id : Nat) : Nat :=
  s.recycles.countP fun r => decide (r.old = id) && r.drained

end State

def ResolvedConfig.escalationMs (cfg : ResolvedConfig) : Nat :=
  cfg.shutdown.sigtermDelayMs + cfg.shutdown.sigintDelayMs

/-! ## The timers of one recycle -/

/-- The timers of `r` at `x` are those its drain asks for; `exact` says that no SIGTERM timer
fires late. -/
structure Recycle.Timely (e : Host) (exact : Prop) (log : DrainLog) (x : State) (r : Recycle) :
    Prop where
  failsafe : ∀ deadline, r.drainFailsafeTimer = some deadline → r.drained = false ∧
    deadline = (x.worker r.new).forkedAt + e.cfg.workerDrainBudgetMs
  waits : r.drained = false → x.alive r.old → r.drainFailsafeTimer.isSome = true
  sigterm : ∀ deadline, r.forceKillTimer = some deadline → r.drained = true ∧
    r.sigkillTimer = none ∧ deadline = drainBegan log x r + e.cfg.shutdown.timeoutMs ∧
    (exact → x.now ≤ deadline)
  sigkill : ∀ deadline, r.sigkillTimer = some deadline → r.drained = true ∧
    r.forceKillTimer = none ∧ ∃ fired, (.kill .SIGTERM, fired) ∈ (x.worker r.old).sent ∧
      deadline = fired + e.cfg.escalationMs ∧
      drainBegan log x r + e.cfg.shutdown.timeoutMs ≤ fired ∧
      (exact → fired = drainBegan log x r + e.cfg.shutdown.timeoutMs)
  escalates : r.drained = true → x.alive r.old → r.forceKillTimer.isSome = true ∨
    r.sigkillTimer.isSome = true ∨ (x.worker r.old).wasSent (.kill .SIGKILL)
  disconnected : r.drained = true → x.alive r.old → (x.worker r.old).wasSent .disconnect
  messaged : r.drained = true → (.shutdownMessage, drainBegan log x r) ∈ (x.worker r.old).sent

namespace Recycle.Timely

variable {exact : Prop} {log : DrainLog} {r : Recycle}

theorem later (h : r.Timely e exact log s) (hr : r.old < r.new ∧ r.new ≤ s.cluster.ids)
    (hl : s.Later t) (hnow : t.now = s.now) : r.Timely e exact log t := by
  obtain ⟨hlt, hnew⟩ := hr
  have hold : s.worker r.old |>.Grows (t.worker r.old) := hl.worker r.old (by omega)
  have hbegan : drainBegan log t r = drainBegan log s r := by rw [drainBegan, hnow, drainBegan]
  have hsent {what : Sent} (hwas : (s.worker r.old).wasSent what) : (t.worker r.old).wasSent what := by
    obtain ⟨time, hmem⟩ := hwas
    exact ⟨time, hold.sent.subset hmem⟩
  constructor
  case failsafe =>
    intro deadline ht
    rw [(hl.worker r.new hnew).forkedAt]
    exact h.failsafe deadline ht
  case waits => exact fun hd ha => h.waits hd (hold.alive ha)
  case sigterm =>
    rw [hbegan, hnow]
    exact h.sigterm
  case sigkill =>
    rw [hbegan]
    intro deadline ht
    obtain ⟨hd, hf, fired, hfired, hrest⟩ := h.sigkill deadline ht
    exact ⟨hd, hf, fired, hold.sent.subset hfired, hrest⟩
  case escalates =>
    intro hd ha
    rcases h.escalates hd (hold.alive ha) with hf | hk | hkilled
    · exact .inl hf
    · exact .inr (.inl hk)
    · exact .inr (.inr (hsent hkilled))
  case disconnected => exact fun hd ha => hsent (h.disconnected hd (hold.alive ha))
  case messaged =>
    rw [hbegan]
    exact fun hd => hold.sent.subset (h.messaged hd)

/-- A recycle that just began. -/
theorem begun {old new : Nat} (hf : (t.worker new).forkedAt = s.now) :
    ({ old := old, new := new,
       drainFailsafeTimer := some (s.now + e.cfg.workerDrainBudgetMs) } : Recycle).Timely
      e exact log t where
  failsafe deadline ht := ⟨rfl, by rw [hf]; exact (Option.some.inj ht).symm⟩
  waits _ _ := rfl
  sigterm := nofun
  sigkill := nofun
  escalates := nofun
  disconnected := nofun
  messaged := nofun

theorem undrained_idle (h : r.Timely e exact log s) (hd : r.drained = false) :
    r.forceKillTimer = none ∧ r.sigkillTimer = none := by
  constructor
  · cases hf : r.forceKillTimer with
    | none => rfl
    | some deadline => exact absurd (hd.symm.trans (h.sigterm deadline hf).1) Bool.false_ne_true
  · cases hk : r.sigkillTimer with
    | none => rfl
    | some deadline => exact absurd (hd.symm.trans (h.sigkill deadline hk).1) Bool.false_ne_true

theorem parties {r' : Recycle} (h : Retimed a s r r') :
    r'.old = r.old ∧ r'.new = r.new ∧ r'.drained = r.drained := by
  cases h with
  | kept | online | failsafe => exact ⟨rfl, rfl, rfl⟩
  | cleared r' hdead hr =>
    rw [hr]
    exact ⟨rfl, rfl, rfl⟩

/-- Timers that are fired in vain or cleared. -/
theorem retimed {r' : Recycle} (h : r.Timely e exact log s)
    (honline : a = .timer (.drainFailsafe r.new) → r.replacementOnline = true → r.drained = true)
    (hr : Retimed a s r r') : r'.Timely e exact log s := by
  cases hr with
  | kept => exact h
  | online ha =>
    exact ⟨h.failsafe, h.waits, h.sigterm, h.sigkill, h.escalates, h.disconnected, h.messaged⟩
  | failsafe deadline ha hdue hidle =>
    refine ⟨nofun, fun hd hl => ?_, h.sigterm, h.sigkill, h.escalates, h.disconnected, h.messaged⟩
    have hd : r.drained = false := hd
    rcases hidle with hon | hdead | hdrained
    · exact absurd (hd.symm.trans (honline ha hon)) Bool.false_ne_true
    · exact absurd (Eq.trans (Eq.symm hl) hdead) Bool.false_ne_true
    · exact absurd (hd.symm.trans hdrained) Bool.false_ne_true
  | cleared r' hdead hr' hf hk =>
    have hnot {P : Prop} (hl : s.alive r'.old) : P := by
      rw [hr'] at hl
      exact absurd (Eq.trans (Eq.symm hl) hdead) Bool.false_ne_true
    have hsame : r'.old = r.old ∧ r'.new = r.new ∧ r'.drained = r.drained ∧
        r'.drainFailsafeTimer = r.drainFailsafeTimer := by
      rw [hr']
      exact ⟨rfl, rfl, rfl, rfl⟩
    have hbegan : drainBegan log s r' = drainBegan log s r := by
      rw [drainBegan, hsame.2.1, drainBegan]
    constructor
    case failsafe =>
      rw [hsame.2.2.1, hsame.2.2.2, hsame.2.1]
      exact h.failsafe
    case waits => exact fun _ hl => hnot hl
    case sigterm =>
      intro deadline ht
      rcases hf with hf | hf
      · obtain ⟨hd, hnone, hrest⟩ := h.sigterm deadline (hf.symm.trans ht)
        rw [hsame.2.2.1, hbegan]
        refine ⟨hd, ?_, hrest⟩
        rcases hk with hk | hk
        · exact hk.trans hnone
        · exact hk
      · exact absurd (hf.symm.trans ht) nofun
    case sigkill =>
      intro deadline ht
      rcases hk with hk | hk
      · obtain ⟨hd, hnone, hrest⟩ := h.sigkill deadline (hk.symm.trans ht)
        rw [hsame.2.2.1, hbegan, hsame.1]
        refine ⟨hd, ?_, hrest⟩
        rcases hf with hf | hf
        · exact hf.trans hnone
        · exact hf
      · exact absurd (hk.symm.trans ht) nofun
    case escalates => exact fun _ hl => hnot hl
    case disconnected => exact fun _ hl => hnot hl
    case messaged =>
      rw [hbegan, hsame.1, hsame.2.2.1]
      exact h.messaged

end Recycle.Timely

/-! ## The drains of one worker -/

/-- `r` begins its drain: one more for its worker. -/
theorem countP_drained {l : List Recycle} (hl : l.Pairwise fun c c' => c'.new < c.new) {r : Recycle}
    (hr : r ∈ l) (hd : r.drained = false) (f : Recycle → Recycle) (hf : (f r).drained = true)
    (hold : (f r).old = r.old) (id : Nat) :
    (l.map fun c => if c.new = r.new then f c else c).countP
        (fun c => decide (c.old = id) && c.drained) =
      l.countP (fun c => decide (c.old = id) && c.drained) + if r.old = id then 1 else 0 := by
  induction l with
  | nil => cases hr
  | cons c l ih =>
    obtain ⟨hhead, htail⟩ := List.pairwise_cons.mp hl
    rw [List.map_cons, List.countP_cons, List.countP_cons]
    rcases List.mem_cons.mp hr with rfl | hr
    · have hrest : (l.map fun c => if c.new = r.new then f c else c) = l := by
        refine (List.map_congr_left fun c hc => ?_).trans (List.map_id l)
        exact if_neg (Nat.ne_of_lt (hhead c hc))
      rw [hrest, if_pos rfl, hf, hold, hd]
      simp
    · have hne : c.new ≠ r.new := (Nat.ne_of_lt (hhead r hr)).symm
      rw [ih htail hr, if_neg hne]
      omega

theorem WellFormed.drainsOf_fresh (hw : WellFormed s) {id : Nat} (hid : s.cluster.ids < id) :
    s.drainsOf id = 0 := by
  refine List.countP_eq_zero.mpr fun r hr => ?_
  have hbounds := hw.recycled r hr
  have hne : r.old ≠ id := by omega
  simp [hne]

theorem Worker.messages_kill (signal : Signal) (now : Nat) (w : Worker) :
    (w.kill signal now).messages = w.messages :=
  List.countP_cons_of_neg (by simp)

theorem Worker.disconnects_kill (signal : Signal) (now : Nat) (w : Worker) :
    (w.kill signal now).disconnects = w.disconnects :=
  List.countP_cons_of_neg (by simp)

theorem Worker.messages_drain (now : Nat) (w : Worker) :
    (w.drain now).messages = w.messages + 1 := by
  unfold drain messages
  split
  · exact List.countP_cons_of_pos (by simp)
  · exact (List.countP_cons_of_neg (by simp)).trans (List.countP_cons_of_pos (by simp))

theorem Worker.disconnects_drain (now : Nat) (w : Worker) :
    (w.drain now).disconnects ≤ w.disconnects + 1 := by
  unfold drain disconnects
  split
  · exact (List.countP_cons_of_neg (by simp)).le.trans (Nat.le_succ _)
  · refine (List.countP_cons_of_pos (by simp)).le.trans (Nat.succ_le_succ ?_)
    exact (List.countP_cons_of_neg (by simp)).le

theorem Worker.mem_sent_drain (now : Nat) (w : Worker) :
    (.shutdownMessage, now) ∈ (w.drain now).sent := by
  unfold drain
  split
  · exact List.mem_cons_self
  · exact List.mem_cons_of_mem _ List.mem_cons_self

/-! ## All recycles -/

/-- The recycles outside a shutdown. -/
structure DrainsTimely (e : Host) (exact : Prop) (log : DrainLog) (s : State) : Prop where
  timely : ∀ r ∈ s.recycles, r.Timely e exact log s
  logged : ∀ new, (log new).isSome = true → ∃ r ∈ s.recycles, r.new = new ∧ r.drained = true
  messages : ∀ id, (s.worker id).messages = s.drainsOf id
  disconnects : ∀ id, (s.worker id).disconnects ≤ s.drainsOf id

namespace DrainsTimely

variable {exact : Prop} {log : DrainLog}

/-- A drain that has not begun is not in the log. -/
theorem unlogged (h : DrainsTimely e exact log s) (hw : WellFormed s) {r : Recycle}
    (hr : r ∈ s.recycles) (hd : r.drained = false) : log r.new = none := by
  cases hlog : log r.new with
  | none => rfl
  | some began =>
    obtain ⟨c, hc, hnew, hdrained⟩ := h.logged r.new (by rw [hlog]; rfl)
    rw [hw.recycle_unique hc hr hnew] at hdrained
    exact absurd (hd.symm.trans hdrained) Bool.false_ne_true

theorem counts_kept (h : DrainsTimely e exact log s) (hw : WellFormed s) (hk : SentKept s t)
    (hd : ∀ id, t.drainsOf id = s.drainsOf id) :
    (∀ id, (t.worker id).messages = t.drainsOf id) ∧
      ∀ id, (t.worker id).disconnects ≤ t.drainsOf id := by
  constructor
  · intro id
    rw [hd]
    rcases hk.sent id with hsent | ⟨hid, hsent⟩
    · rw [Worker.messages, hsent]
      exact h.messages id
    · rw [Worker.messages, hsent, hw.drainsOf_fresh hid]
      rfl
  · intro id
    rw [hd]
    rcases hk.sent id with hsent | ⟨hid, hsent⟩
    · rw [Worker.disconnects, hsent]
      exact h.disconnects id
    · rw [Worker.disconnects, hsent]
      exact Nat.zero_le _

/-- The recycles are mapped, and none of them changes its parties or whether it drains. -/
theorem mapped (h : DrainsTimely e exact log s) {f : Recycle → Recycle}
    (hrec : t.recycles = s.recycles.map f)
    (hf : ∀ r ∈ s.recycles, (f r).old = r.old ∧ (f r).new = r.new ∧ (f r).drained = r.drained)
    (htimely : ∀ r ∈ s.recycles, (f r).Timely e exact log t)
    (hmessages : ∀ id, (t.worker id).messages = (s.worker id).messages)
    (hdisconnects : ∀ id, (t.worker id).disconnects = (s.worker id).disconnects) :
    DrainsTimely e exact log t := by
  have hdrains (id : Nat) : t.drainsOf id = s.drainsOf id := by
    rw [drainsOf, hrec, List.countP_map, drainsOf]
    refine List.countP_congr fun r hr => ?_
    obtain ⟨hold, -, hd⟩ := hf r hr
    rw [Function.comp_apply, hold, hd]
  constructor
  case timely =>
    intro r hr
    rw [hrec] at hr
    obtain ⟨c, hc, rfl⟩ := List.mem_map.mp hr
    exact htimely c hc
  case logged =>
    intro new hlog
    obtain ⟨r, hr, hnew, hd⟩ := h.logged new hlog
    refine ⟨f r, hrec ▸ List.mem_map_of_mem hr, ?_, ?_⟩
    · exact (hf r hr).2.1.trans hnew
    · exact (hf r hr).2.2.trans hd
  case messages => exact fun id => (hmessages id).trans ((h.messages id).trans (hdrains id).symm)
  case disconnects =>
    intro id
    rw [hdisconnects, hdrains]
    exact h.disconnects id

theorem kept (h : DrainsTimely e exact log s) (hw : WellFormed s) (hl : s.Later t)
    (hnow : t.now = s.now) (hr : t.recycles = s.recycles) (hk : SentKept s t) :
    DrainsTimely e exact log t := by
  have hdrains (id : Nat) : t.drainsOf id = s.drainsOf id := by rw [drainsOf, hr, drainsOf]
  obtain ⟨hmessages, hdisconnects⟩ := h.counts_kept hw hk hdrains
  refine ⟨fun r hr' => ?_, fun new hlog => ?_, hmessages, hdisconnects⟩
  · rw [hr] at hr'
    exact (h.timely r hr').later (hw.recycled r hr') hl hnow
  · rw [hr]
    exact h.logged new hlog

theorem begun (h : DrainsTimely e exact log s) (hw : WellFormed s) (hl : s.Later t)
    (hnow : t.now = s.now) {old : Nat} (hr : t.recycles =
      { old := old, new := s.cluster.ids + 1,
        drainFailsafeTimer := some (s.now + e.cfg.workerDrainBudgetMs) } :: s.recycles)
    (hf : (t.worker (s.cluster.ids + 1)).forkedAt = s.now) (hk : SentKept s t) :
    DrainsTimely e exact log t := by
  have hdrains (id : Nat) : t.drainsOf id = s.drainsOf id := by
    rw [drainsOf, hr, List.countP_cons_of_neg (by simp), drainsOf]
  obtain ⟨hmessages, hdisconnects⟩ := h.counts_kept hw hk hdrains
  refine ⟨fun r hr' => ?_, fun new hlog => ?_, hmessages, hdisconnects⟩
  · rw [hr] at hr'
    rcases List.mem_cons.mp hr' with rfl | hr'
    · exact .begun hf
    · exact (h.timely r hr').later (hw.recycled r hr') hl hnow
  · obtain ⟨r, hr', hrest⟩ := h.logged new hlog
    exact ⟨r, hr ▸ List.mem_cons_of_mem _ hr', hrest⟩

theorem retimed (h : DrainsTimely e exact log s) (hw : WellFormed s) (hl : s.Later t)
    (hnow : t.now = s.now) {f : Recycle → Recycle} (hr : t.recycles = s.recycles.map f)
    (hf : ∀ r ∈ s.recycles, Retimed a s r (f r)) (hk : SentKept s t)
    (honline : ∀ r ∈ s.recycles, a = .timer (.drainFailsafe r.new) →
      r.replacementOnline = true → r.drained = true) : DrainsTimely e exact log t := by
  have hparties (r : Recycle) (hr : r ∈ s.recycles) := Recycle.Timely.parties (hf r hr)
  have hdrains (id : Nat) : t.drainsOf id = s.drainsOf id := by
    rw [drainsOf, hr, List.countP_map, drainsOf]
    refine List.countP_congr fun r hr => ?_
    obtain ⟨hold, -, hd⟩ := hparties r hr
    rw [Function.comp_apply, hold, hd]
  obtain ⟨hmessages, hdisconnects⟩ := h.counts_kept hw hk hdrains
  refine ⟨fun c hc => ?_, fun new hlog => ?_, hmessages, hdisconnects⟩
  · rw [hr] at hc
    obtain ⟨r, hmem, rfl⟩ := List.mem_map.mp hc
    have hbounds : (f r).old < (f r).new ∧ (f r).new ≤ s.cluster.ids := by
      rw [(hparties r hmem).1, (hparties r hmem).2.1]
      exact hw.recycled r hmem
    exact ((h.timely r hmem).retimed (honline r hmem) (hf r hmem)).later hbounds hl hnow
  · obtain ⟨r, hmem, hnew, hd⟩ := h.logged new hlog
    refine ⟨f r, hr ▸ List.mem_map_of_mem hmem, ?_, ?_⟩
    · exact (hparties r hmem).2.1.trans hnew
    · exact (hparties r hmem).2.2.trans hd

theorem later_kill (f : Recycle → Recycle) (new : Nat) (signal : Signal) (old : Nat) :
    s.Later ((s.modifyRecycle new f).kill signal old) := by
  have hmodified : s.Later (s.modifyRecycle new f) := .of_eq rfl rfl
  exact hmodified.trans (.modifyWorker _ old (Worker.Grows.kill signal s.now))

/-- One recycle changes and a signal is sent to its worker. -/
theorem killed (h : DrainsTimely e exact log s) (hw : WellFormed s) {r : Recycle}
    (hr : r ∈ s.recycles) (f : Recycle → Recycle) (signal : Signal)
    (hf : ∀ c : Recycle, (f c).old = c.old ∧ (f c).new = c.new ∧ (f c).drained = c.drained)
    (htimely : r.Timely e exact log ((s.modifyRecycle r.new f).kill signal r.old) →
      (f r).Timely e exact log ((s.modifyRecycle r.new f).kill signal r.old)) :
    DrainsTimely e exact log ((s.modifyRecycle r.new f).kill signal r.old) := by
  let t := (s.modifyRecycle r.new f).kill signal r.old
  have hl : s.Later t := later_kill f r.new signal r.old
  have hworker {g : Worker → Nat} (hg : ∀ now w, g (Worker.kill signal now w) = g w) (id : Nat) :
      g (t.worker id) = g (s.worker id) :=
    modifyWorker_field (s := s.modifyRecycle r.new f) (i := r.old) (j := id) g (hg s.now)
  refine h.mapped (t := t) rfl (fun c _ => ?_) (fun c hc => ?_)
    (hworker (Worker.messages_kill signal)) (hworker (Worker.disconnects_kill signal))
  · split
    · exact hf c
    · exact ⟨rfl, rfl, rfl⟩
  · split
    · rename_i hnew
      rw [hw.recycle_unique hc hr hnew]
      exact htimely ((h.timely r hr).later (hw.recycled r hr) hl rfl)
    · exact (h.timely c hc).later (hw.recycled c hc) hl rfl

theorem sigterm (h : DrainsTimely e exact log s) (hw : WellFormed s) {r : Recycle} {deadline : Nat}
    (hr : r ∈ s.recycles) (ht : r.forceKillTimer = some deadline) (hdue : deadline ≤ s.now) :
    DrainsTimely e exact log ((s.modifyRecycle r.new fun r => { r with
      forceKillTimer := none
      sigkillTimer := some (s.now + (e.cfg.shutdown.sigtermDelayMs + e.cfg.shutdown.sigintDelayMs))
      }).kill .SIGTERM r.old) := by
  refine h.killed hw hr _ .SIGTERM (fun c => ⟨rfl, rfl, rfl⟩) fun hlater => ?_
  obtain ⟨hd, -, hdeadline, hahead⟩ := hlater.sigterm deadline ht
  constructor
  case failsafe => exact hlater.failsafe
  case waits => exact hlater.waits
  case sigterm => exact nofun
  case sigkill =>
    intro due hsome
    rw [← Option.some.inj hsome]
    have hdeadline : deadline = drainBegan log s r + e.cfg.shutdown.timeoutMs := hdeadline
    refine ⟨hd, rfl, s.now, ?_, rfl, ?_, fun hexact => ?_⟩
    · show _ ∈ (((s.modifyRecycle r.new _).modifyWorker r.old _).worker r.old).sent
      rw [worker_modifyWorker_self]
      exact List.mem_cons_self
    · show drainBegan log s r + e.cfg.shutdown.timeoutMs ≤ s.now
      omega
    · have hnow : s.now ≤ deadline := hahead hexact
      show s.now = drainBegan log s r + e.cfg.shutdown.timeoutMs
      omega
  case escalates => exact fun _ _ => .inr (.inl rfl)
  case disconnected => exact hlater.disconnected
  case messaged => exact hlater.messaged

theorem sigkill (h : DrainsTimely e exact log s) (hw : WellFormed s) {r : Recycle}
    (hr : r ∈ s.recycles) :
    DrainsTimely e exact log
      ((s.modifyRecycle r.new fun r => { r with sigkillTimer := none }).kill .SIGKILL r.old) := by
  refine h.killed hw hr _ .SIGKILL (fun c => ⟨rfl, rfl, rfl⟩) fun hlater => ?_
  constructor
  case failsafe => exact hlater.failsafe
  case waits => exact hlater.waits
  case sigterm =>
    intro due hsome
    obtain ⟨hd, -, hrest⟩ := hlater.sigterm due hsome
    exact ⟨hd, rfl, hrest⟩
  case sigkill => exact nofun
  case escalates =>
    refine fun _ _ => .inr (.inr ⟨s.now, ?_⟩)
    show _ ∈ (((s.modifyRecycle r.new _).modifyWorker r.old _).worker r.old).sent
    rw [worker_modifyWorker_self]
    exact List.mem_cons_self
  case disconnected => exact hlater.disconnected
  case messaged => exact hlater.messaged

theorem rollKill (h : DrainsTimely e exact log s) (hw : WellFormed s) (old : Nat) :
    DrainsTimely e exact log (s.kill .SIGKILL old) := by
  have hl : s.Later (s.kill .SIGKILL old) :=
    .modifyWorker s old (Worker.Grows.kill .SIGKILL s.now)
  have hworker {g : Worker → Nat} (hg : ∀ now w, g (Worker.kill .SIGKILL now w) = g w) (id : Nat) :
      g ((s.kill .SIGKILL old).worker id) = g (s.worker id) :=
    modifyWorker_field (i := old) (j := id) g (hg s.now)
  exact h.mapped (f := id) (List.map_id _).symm (fun _ _ => ⟨rfl, rfl, rfl⟩)
    (fun c hc => (h.timely c hc).later (hw.recycled c hc) hl rfl)
    (hworker (Worker.messages_kill .SIGKILL)) (hworker (Worker.disconnects_kill .SIGKILL))

/-- The recycle whose drain begins. -/
theorem drain_timely (h : DrainsTimely e exact log s) (hw : WellFormed s) {r : Recycle}
    (hr : r ∈ s.recycles) (hd : r.drained = false)
    (hl : s.Later (s.drainOldWorker e r)) :
    (r.drain e s).Timely e exact log (s.drainOldWorker e r) := by
  have hbounds := hw.recycled r hr
  have halive (hl' : (s.drainOldWorker e r).alive r.old) : s.alive r.old :=
    (hl.worker r.old (by omega)).alive hl'
  have hbegan : drainBegan log (s.drainOldWorker e r) (r.drain e s) = s.now := by
    have hnone : log r.new = none := h.unlogged hw hr hd
    show (log r.new).getD (s.drainOldWorker e r).now = s.now
    rw [hnone, drainOldWorker_eq]
    rfl
  constructor
  case failsafe => exact nofun
  case waits => exact nofun
  case sigterm =>
    intro deadline ht
    have ht : (if s.isDead r.old then none else some (s.now + e.cfg.shutdown.timeoutMs)) =
        some deadline := ht
    split at ht
    · cases ht
    · refine ⟨rfl, ((h.timely r hr).undrained_idle hd).2, ?_, fun _ => ?_⟩
      · rw [hbegan]
        exact (Option.some.inj ht).symm
      · rw [← Option.some.inj ht, drainOldWorker_eq]
        exact Nat.le_add_right _ _
  case sigkill =>
    intro deadline ht
    exact absurd (((h.timely r hr).undrained_idle hd).2.symm.trans ht) nofun
  case escalates =>
    intro _ hl'
    left
    show (if s.isDead r.old then none else some _ : Option Nat).isSome = true
    have hdead : s.isDead r.old = false := halive hl'
    rw [hdead]
    rfl
  case disconnected =>
    intro _ hl'
    have hdead : (s.worker r.old).dead = false := halive hl'
    refine ⟨s.now, ?_⟩
    show _ ∈ ((s.drainOldWorker e r).worker r.old).sent
    rw [drainOldWorker_undrained hd, worker_modifyWorker_self]
    show _ ∈ ((s.worker r.old).drain s.now).sent
    rw [Worker.drain, hdead]
    exact List.mem_cons_self
  case messaged =>
    intro _
    rw [hbegan]
    show _ ∈ ((s.drainOldWorker e r).worker r.old).sent
    rw [drainOldWorker_undrained hd, worker_modifyWorker_self]
    exact Worker.mem_sent_drain s.now _

theorem drained (h : DrainsTimely e exact log s) (hw : WellFormed s) {r : Recycle}
    (hr : r ∈ s.recycles) (hd : r.drained = false) (hl : s.Later (s.drainOldWorker e r)) :
    DrainsTimely e exact log (s.drainOldWorker e r) := by
  have heq := drainOldWorker_undrained (e := e) (s := s) hd
  have hrec : (s.drainOldWorker e r).recycles =
      s.recycles.map fun c => if c.new = r.new then c.drain e s else c := by
    rw [heq]
    rfl
  have hnow : (s.drainOldWorker e r).now = s.now := by rw [drainOldWorker_eq]
  have hdrains (id : Nat) : (s.drainOldWorker e r).drainsOf id =
      s.drainsOf id + if r.old = id then 1 else 0 := by
    rw [drainsOf, hrec]
    exact countP_drained hw.ordered hr hd (Recycle.drain e s) rfl rfl id
  have hworker (id : Nat) : (s.drainOldWorker e r).worker id =
      if r.old = id then (s.worker id).drain s.now else s.worker id := by
    rw [heq]
    split
    · rename_i hid
      rw [← hid]
      exact worker_modifyWorker_self
    · rename_i hid
      exact worker_modifyWorker_of_ne (Ne.symm hid)
  constructor
  case timely =>
    intro c' hc'
    rw [hrec] at hc'
    obtain ⟨c, hc, rfl⟩ := List.mem_map.mp hc'
    split
    · rename_i hnew
      rw [hw.recycle_unique hc hr hnew]
      exact h.drain_timely hw hr hd hl
    · exact (h.timely c hc).later (hw.recycled c hc) hl hnow
  case logged =>
    intro new hlog
    obtain ⟨c, hc, hnew, hdrained⟩ := h.logged new hlog
    refine ⟨_, hrec ▸ List.mem_map_of_mem hc, ?_, ?_⟩
    · split
      · exact hnew
      · exact hnew
    · split
      · rfl
      · exact hdrained
  case messages =>
    intro id
    rw [hworker, hdrains]
    split
    · rw [Worker.messages_drain, h.messages]
    · exact h.messages id
  case disconnects =>
    intro id
    rw [hworker, hdrains]
    split
    · exact (Worker.disconnects_drain s.now _).trans (Nat.succ_le_succ (h.disconnects id))
    · exact h.disconnects id

/-- **Turn rule.** Every turn outside a shutdown keeps the timers; a failsafe only fires in vain
for a recycle that has drained. -/
theorem turn (h : DrainsTimely e exact log s) (hw : WellFormed s) (hl : s.Later t)
    (hnow : t.now = s.now)
    (honline : ∀ r ∈ s.recycles, a = .timer (.drainFailsafe r.new) →
      r.replacementOnline = true → r.drained = true)
    (hturn : DrainTurn e a s t) : DrainsTimely e exact log t := by
  cases hturn with
  | kept t hr hk => exact h.kept hw hl hnow hr hk
  | begun t old ha hr hf hk => exact h.begun hw hl hnow hr hf hk
  | retimed t f hr hf hk => exact h.retimed hw hl hnow hr hf hk honline
  | drained r hr hd hwhy => exact h.drained hw hr hd hl
  | sigterm r deadline ha hr ht hdue hal => exact h.sigterm hw hr ht hdue
  | sigkill r deadline ha hr ht hdue hal => exact h.sigkill hw hr
  | rollKill old deadline ha hf hdue hal => exact h.rollKill hw old

end DrainsTimely

/-! ## A replacement that came online has its drain -/

def OnlineDrained (s : State) : Prop :=
  ∀ r ∈ s.recycles, r.replacementOnline = true → r.drained = true

namespace OnlineDrained

theorem mapped (h : OnlineDrained s) {f : Recycle → Recycle} (ht : t.recycles = s.recycles.map f)
    (hf : ∀ r ∈ s.recycles, (f r).replacementOnline = r.replacementOnline ∧
      (r.drained = true → (f r).drained = true)) : OnlineDrained t := by
  intro c hc hon
  rw [ht] at hc
  obtain ⟨r, hr, rfl⟩ := List.mem_map.mp hc
  obtain ⟨hsame, hd⟩ := hf r hr
  exact hd (h r hr (hsame.symm.trans hon))

theorem modified (h : OnlineDrained s) {new : Nat} {f : Recycle → Recycle}
    (ht : t.recycles = s.recycles.map fun c => if c.new = new then f c else c)
    (hf : ∀ c : Recycle, (f c).replacementOnline = c.replacementOnline ∧
      (c.drained = true → (f c).drained = true)) : OnlineDrained t := by
  refine h.mapped ht fun c _ => ?_
  split
  · exact hf c
  · exact ⟨rfl, id⟩

theorem retimed {r r' : Recycle} (ha : ∀ id, a ≠ .workerOnline id) (h : Retimed a s r r') :
    r'.replacementOnline = r.replacementOnline ∧ (r.drained = true → r'.drained = true) := by
  cases h with
  | kept | failsafe => exact ⟨rfl, id⟩
  | online hid => exact absurd hid (ha r.new)
  | cleared r' hdead hr =>
    rw [hr]
    exact ⟨rfl, id⟩

/-- Apart from the online event itself. -/
theorem turn (h : OnlineDrained s) (ha : ∀ id, a ≠ .workerOnline id)
    (hturn : DrainTurn e a s t) : OnlineDrained t := by
  cases hturn with
  | kept t hr hk => exact fun r hr' => h r (hr ▸ hr')
  | begun t old hl hr hf hk =>
    intro r hr' hon
    rw [hr] at hr'
    rcases List.mem_cons.mp hr' with rfl | hr'
    · cases hon
    · exact h r hr' hon
  | retimed t f hr hf hk =>
    exact h.mapped hr fun r hmem => retimed ha (hf r hmem)
  | drained r hr hd hwhy =>
    rw [drainOldWorker_undrained hd]
    exact h.modified (f := Recycle.drain e s) rfl fun c => ⟨rfl, fun _ => rfl⟩
  | sigterm r deadline ha hr ht hdue hl => exact h.modified rfl fun c => ⟨rfl, id⟩
  | sigkill r deadline ha hr ht hdue hl => exact h.modified rfl fun c => ⟨rfl, id⟩
  | rollKill old deadline ha hf hdue hl => exact h

/-- The online event of a replacement drains, unless its recycle has drained. -/
theorem onReplacementOnline (h : OnlineDrained s) (hw : WellFormed s)
    (hs : s.isShuttingDown = false) (new : Nat) : OnlineDrained (s.onReplacementOnline e new) := by
  unfold State.onReplacementOnline
  split
  · exact h
  · rename_i r hfind
    obtain ⟨hr, rfl⟩ := mem_of_findRecycle hfind
    extract_lets x
    have hx : x.isShuttingDown = false := hs
    rw [hx]
    have honline : x.recycles =
        s.recycles.map fun c => if c.new = r.new then { c with replacementOnline := true } else c := rfl
    cases hd : r.drained with
    | true =>
      rw [show x.drainOldWorker e r = x from if_pos hd]
      intro c hc hon
      rw [show (if false = true then x else x) = x from rfl, honline] at hc
      obtain ⟨c', hc', rfl⟩ := List.mem_map.mp hc
      split at hon
      · rename_i hnew
        rw [if_pos hnew]
        exact hw.recycle_unique hc' hr hnew ▸ hd
      · rename_i hnew
        rw [if_neg hnew]
        exact h c' hc' hon
    | false =>
      intro c hc hon
      rw [show (if false = true then x else x.drainOldWorker e r) = x.drainOldWorker e r from rfl,
        drainOldWorker_undrained hd] at hc
      obtain ⟨c', hc', rfl⟩ := List.mem_map.mp hc
      split
      · rfl
      · rename_i hnew
        rw [if_neg hnew] at hon
        obtain ⟨b, hb, rfl⟩ := List.mem_map.mp (honline ▸ hc')
        have hother : ¬ b.new = r.new := fun heq => by
          rw [if_pos heq] at hnew
          exact hnew heq
        rw [if_neg hother] at hon ⊢
        exact h b hb hon

end OnlineDrained

/-! ## Segments -/

/-- Behind the drain, an online event touches neither recycles nor workers. -/
theorem workerOnline_drains {id : Nat} (h : s.workerOnline e id = some t) :
    t.recycles =
        ((s.modifyWorker id fun w => { w with online := true }).onReplacementOnline e id).recycles ∧
      t.cluster =
        ((s.modifyWorker id fun w => { w with online := true }).onReplacementOnline e id).cluster := by
  obtain ⟨-, y, hy, ⟨-, rfl⟩ | ⟨-, rfl⟩⟩ := workerOnline_cases h
  · rw [hy]
    exact ⟨rfl, rfl⟩
  · rw [handleWorkerOnline_eq, recomputeFleetHealth_eq, ← hy]
    exact ⟨rfl, rfl⟩

theorem OnlineDrained.act (h : OnlineDrained s) (hw : WellFormed s) (hact : s.act e a = some t)
    (ht : t.isShuttingDown = false) : OnlineDrained t := by
  by_cases honline : ∃ id, a = .workerOnline id
  · obtain ⟨id, rfl⟩ := honline
    have hs := ((act_pieces hw hact).later).not_shutting ht
    have hx : WellFormed (s.modifyWorker id fun w => { w with online := true }) :=
      hw.modifyWorker id fun _ => rfl
    have hlive : OnlineDrained (s.modifyWorker id fun w => { w with online := true }) := h
    have hdrained := hlive.onReplacementOnline (e := e) hx hs id
    intro r hr
    rw [(workerOnline_drains hact).1] at hr
    exact hdrained r hr
  · refine act_preserves_drains hw hact ht (fun x y _ _ _ hx hxy _ => ?_) h
    exact hx.turn (fun id heq => honline ⟨id, heq⟩) hxy

/-- Time does not pass an armed SIGTERM timer of a drain. -/
def drainsPunctual (s : State) : Action → Bool
  | .tick ms => s.recycles.all fun r =>
      r.forceKillTimer.all fun deadline => decide (s.now + ms ≤ deadline)
  | _ => true

/-- No SIGTERM timer fires late in a run whose steps are `ok`. -/
def NeverLate (ok : State × DrainLog → Action → Prop) : Prop :=
  ∀ y b, ok y b → drainsPunctual y.1 b = true

/-- What is known of the recycles between two segments. -/
structure DrainsTracked (e : Host) (exact : Prop) (x : State × DrainLog) : Prop where
  timely : DrainsTimely e exact x.2 x.1
  logged : ∀ r ∈ x.1.recycles, r.drained = true → (x.2 r.new).isSome = true
  online : OnlineDrained x.1

namespace DrainsTracked

variable {exact : Prop} {log : DrainLog}

theorem began_noted (s t : State) (a : Action) (r : Recycle) :
    drainBegan (noteDrains s a t log) t r = drainBegan log t r := by
  unfold drainBegan noteDrains
  cases log r.new with
  | some began => rfl
  | none =>
    simp only
    split <;> rfl

/-- The log is brought up to date. -/
theorem noted (h : DrainsTimely e exact log t) (hon : OnlineDrained t) (s : State) (a : Action) :
    DrainsTracked e exact (t, noteDrains s a t log) := by
  refine ⟨⟨fun r hr => ?_, fun new hnew => ?_, h.messages, h.disconnects⟩, fun r hr hd => ?_, hon⟩
  · have hr := h.timely r hr
    refine ⟨hr.failsafe, hr.waits, ?_, ?_, hr.escalates, hr.disconnected, ?_⟩
    · rw [began_noted]
      exact hr.sigterm
    · rw [began_noted]
      exact hr.sigkill
    · rw [began_noted]
      exact hr.messaged
  · cases hlog : log new with
    | some began => exact h.logged new (by rw [hlog]; rfl)
    | none =>
      simp only [noteDrains, hlog] at hnew
      split at hnew
      · rename_i hany
        obtain ⟨r, hr, hboth⟩ := List.any_eq_true.mp hany
        rw [Bool.and_eq_true, beq_iff_eq] at hboth
        exact ⟨r, hr, hboth⟩
      · cases hnew
  · show (noteDrains s a t log r.new).isSome = true
    unfold noteDrains
    cases log r.new with
    | some began => rfl
    | none =>
      have hany : t.recycles.any (fun c => c.new == r.new && c.drained) = true :=
        List.any_eq_true.mpr ⟨r, hr, by simp [hd]⟩
      simp only [hany]
      rfl

/-- A drain that began stays where it began. -/
theorem began_tick (h : DrainsTracked e exact (s, log)) (ms : Nat) {r : Recycle}
    (hr : r ∈ s.recycles) (hd : r.drained = true) :
    drainBegan log { s with now := s.now + ms } r = drainBegan log s r := by
  obtain ⟨began, hlog⟩ := Option.isSome_iff_exists.mp (h.logged r hr hd)
  have hlog : log r.new = some began := hlog
  rw [drainBegan, hlog, drainBegan, hlog]
  rfl

/-- Time passes. -/
theorem tick (h : DrainsTracked e exact (s, log)) (ms : Nat)
    (hok : exact → drainsPunctual s (.tick ms) = true) :
    DrainsTimely e exact log { s with now := s.now + ms } := by
  refine ⟨fun r hr => ?_, h.timely.logged, h.timely.messages, h.timely.disconnects⟩
  have hr' := h.timely.timely r hr
  have hbegan (hd : r.drained = true) := h.began_tick ms hr hd
  refine ⟨hr'.failsafe, hr'.waits, fun deadline ht => ?_, fun deadline ht => ?_, hr'.escalates,
    hr'.disconnected, fun hd => ?_⟩
  · obtain ⟨hd, hk, hdeadline, -⟩ := hr'.sigterm deadline ht
    rw [hbegan hd]
    refine ⟨hd, hk, hdeadline, fun hexact => ?_⟩
    have hall := List.all_eq_true.mp (hok hexact) r hr
    rw [ht] at hall
    exact of_decide_eq_true hall
  · obtain ⟨hd, hrest⟩ := hr'.sigkill deadline ht
    rw [hbegan hd]
    exact ⟨hd, hrest⟩
  · rw [hbegan hd]
    exact hr'.messaged hd

/-- **Segment rule.** What the turns of the drains preserve while the timers are kept. -/
theorem preserves {P : State → Prop} (h : DrainsTracked e exact (s, log)) (hw : WellFormed s)
    (hact : s.act e a = some t) (ht : t.isShuttingDown = false) (htick : ∀ ms, a ≠ .tick ms)
    (hturn : ∀ x y, WellFormed x → x.isShuttingDown = false → x.Later y →
      DrainsTimely e exact log x → P x → DrainTurn e a x y → y.now = x.now → P y)
    (hs : P s) : DrainsTimely e exact log t ∧ P t := by
  have hall := act_preserves_drains (P := fun x => (DrainsTimely e exact log x ∧
    ((∀ id, a ≠ .workerOnline id) → OnlineDrained x)) ∧ P x) hw hact ht ?_
    ⟨⟨h.timely, fun _ => h.online⟩, hs⟩
  · exact ⟨hall.1.1, hall.2⟩
  · rintro x y hx hxs hl ⟨⟨htimely, hon⟩, hP⟩ hxy hnow
    refine ⟨⟨htimely.turn hx hl (hnow htick) (fun r hr hfailsafe => ?_) hxy, fun ha => ?_⟩, ?_⟩
    · exact hon (by rw [hfailsafe]; exact nofun) r hr
    · exact (hon ha).turn ha hxy
    · exact hturn x y hx hxs hl htimely hP hxy (hnow htick)

theorem act (h : DrainsTracked e exact (s, log)) (hw : WellFormed s) (hact : s.act e a = some t)
    (ht : t.isShuttingDown = false) (hok : exact → drainsPunctual s a = true) :
    DrainsTracked e exact (t, noteDrains s a t log) := by
  have honline : OnlineDrained t := h.online.act hw hact ht
  refine noted ?_ honline s a
  by_cases htick : ∃ ms, a = .tick ms
  · obtain ⟨ms, rfl⟩ := htick
    rw [← Option.some.inj hact]
    exact h.tick ms hok
  · have htick (ms : Nat) : a ≠ .tick ms := fun heq => htick ⟨ms, heq⟩
    have hboth := h.preserves (P := fun _ => True) hw hact ht htick
      (fun _ _ _ _ _ _ _ _ _ => trivial) trivial
    exact hboth.1

theorem initial (e : Host) (count : WorkerCount) (env : ProcessEnv) :
    DrainsTracked e exact (State.initial e count env, fun _ => none) :=
  ⟨⟨nofun, nofun, fun _ => rfl, fun _ => Nat.le_refl 0⟩, nofun, nofun⟩

/-- A run outside a shutdown. -/
theorem run {count : WorkerCount} {env : ProcessEnv} {ok : State × DrainLog → Action → Prop}
    {x : State × DrainLog}
    (hrun : ((orchestrator e count env).observed (fun _ => none) noteDrains).Run ok
      (State.initial e count env, fun _ => none) x)
    (hok : exact → NeverLate ok) (hs : x.1.isShuttingDown = false) : DrainsTracked e exact x := by
  refine hrun.observed_preserves
    (P := fun x => x.1.isShuttingDown = false → DrainsTracked e exact x)
    (fun _ => reachable_wellFormed) ?_ (fun _ => ?_) hs
  · rintro ⟨s, log⟩ a t hw h hokay hstep ht
    have hact := orchestrator_step hstep
    have hs := ((act_pieces hw hact).later).not_shutting ht
    exact (h hs).act hw hact ht fun hexact => hok hexact _ _ hokay
  · exact .initial e count env

end DrainsTracked

/-- Every run has its log of the drains. -/
theorem reachable_drainsTracked {count : WorkerCount} {env : ProcessEnv}
    (h : (orchestrator e count env).Reachable s) (hs : s.isShuttingDown = false) :
    ∃ log, DrainsTracked e False (s, log) := by
  have hobserved : ∃ log, ((orchestrator e count env).observed (fun _ => none) noteDrains).Run
      (fun _ _ => True) (State.initial e count env, fun _ => none) (s, log) := h.observed _
  obtain ⟨log, hrun⟩ := hobserved
  exact ⟨log, .run hrun False.elim hs⟩

/-! ## No recycled worker is forgotten -/

/-- Exactly one timer of `r` is armed, and it is due when the drain of `r` asks for it;
`exact` says that no SIGTERM timer fires late. -/
inductive Recycle.Guarded (e : Host) (exact : Prop) (log : DrainLog) (s : State) (r : Recycle) :
    Prop
  | failsafe (hd : r.drained = false)
      (ht : r.drainFailsafeTimer =
        some ((s.worker r.new).forkedAt + e.cfg.workerDrainBudgetMs))
      (hf : r.forceKillTimer = none) (hk : r.sigkillTimer = none) : Guarded e exact log s r
  | sigterm (began : Nat) (hd : r.drained = true) (hbegan : log r.new = some began)
      (ht : r.drainFailsafeTimer = none)
      (hf : r.forceKillTimer = some (began + e.cfg.shutdown.timeoutMs))
      (hk : r.sigkillTimer = none) : Guarded e exact log s r
  | sigkill (began fired : Nat) (hd : r.drained = true) (hbegan : log r.new = some began)
      (hsent : (.kill .SIGTERM, fired) ∈ (s.worker r.old).sent)
      (hlate : began + e.cfg.shutdown.timeoutMs ≤ fired)
      (hexact : exact → fired = began + e.cfg.shutdown.timeoutMs)
      (ht : r.drainFailsafeTimer = none) (hf : r.forceKillTimer = none)
      (hk : r.sigkillTimer =
        some (fired + (e.cfg.shutdown.sigtermDelayMs + e.cfg.shutdown.sigintDelayMs))) :
    Guarded e exact log s r

/-- What the drains guarantee outside a shutdown: one request to leave for each recycle that
drained, and a timer for each worker that has not been killed. -/
structure RecyclesGuarded (e : Host) (exact : Prop) (log : DrainLog) (s : State) : Prop where
  messages : ∀ id, (s.worker id).messages = s.drainsOf id
  disconnects : ∀ id, (s.worker id).disconnects ≤ s.drainsOf id
  guarded : ∀ r ∈ s.recycles, s.alive r.old → ¬ (s.worker r.old).wasSent (.kill .SIGKILL) →
    r.Guarded e exact log s

namespace DrainsTracked

variable {exact : Prop} {log : DrainLog}

theorem guarded (h : DrainsTracked e exact (s, log)) {r : Recycle} (hr : r ∈ s.recycles)
    (hl : s.alive r.old) (hkilled : ¬ (s.worker r.old).wasSent (.kill .SIGKILL)) :
    r.Guarded e exact log s := by
  have htimely : r.Timely e exact log s := h.timely.timely r hr
  cases hd : r.drained with
  | false =>
    obtain ⟨hf, hk⟩ := htimely.undrained_idle hd
    obtain ⟨deadline, ht⟩ := Option.isSome_iff_exists.mp (htimely.waits hd hl)
    exact .failsafe hd (ht.trans (congrArg some (htimely.failsafe deadline ht).2)) hf hk
  | true =>
    obtain ⟨began, hlog⟩ := Option.isSome_iff_exists.mp (h.logged r hr hd)
    have hlog : log r.new = some began := hlog
    have hbegan : drainBegan log s r = began := by
      rw [drainBegan, hlog]
      rfl
    have ht : r.drainFailsafeTimer = none := by
      cases ht : r.drainFailsafeTimer with
      | none => rfl
      | some deadline => exact absurd (hd.symm.trans (htimely.failsafe deadline ht).1) nofun
    rcases htimely.escalates hd hl with hf | hk | hwas
    · obtain ⟨deadline, hf⟩ := Option.isSome_iff_exists.mp hf
      obtain ⟨-, hk, hdeadline, -⟩ := htimely.sigterm deadline hf
      rw [hbegan] at hdeadline
      exact .sigterm began hd hlog ht (hdeadline ▸ hf) hk
    · obtain ⟨deadline, hk⟩ := Option.isSome_iff_exists.mp hk
      obtain ⟨-, hf, fired, hsent, hdeadline, hlate, hexact⟩ := htimely.sigkill deadline hk
      rw [hbegan] at hlate hexact
      exact .sigkill began fired hd hlog hsent hlate hexact ht hf (hdeadline ▸ hk)
    · exact absurd hwas hkilled

end DrainsTracked

section Runs

variable {count : WorkerCount} {env : ProcessEnv}

/-- **No recycled worker is forgotten**: as long as it lives and has not been killed, exactly one
timer is armed for it. -/
theorem recycled_worker_guarded (e : Host) (count : WorkerCount) (env : ProcessEnv)
    (ok : State × DrainLog → Action → Prop) (x : State × DrainLog)
    (hrun : ((orchestrator e count env).observed (fun _ => none) noteDrains).Run ok
      (State.initial e count env, fun _ => none) x)
    (hs : x.1.isShuttingDown = false) :
    RecyclesGuarded e (NeverLate ok) x.2 x.1 := by
  have htracked : DrainsTracked e (NeverLate ok) x := .run hrun (fun h => h) hs
  exact ⟨htracked.timely.messages, htracked.timely.disconnects,
    fun r hr hl hkilled => htracked.guarded hr hl hkilled⟩

/-- A worker that ignores the request and the SIGTERM still has its SIGKILL ahead. -/
theorem recycled_worker_guarded_sigterm :
    ∃ x : State × DrainLog, (x.1.recycles.map Recycle.sigkillTimer) = [some 15250] ∧
      RecyclesGuarded {} (NeverLate fun y b => drainsPunctual y.1 b = true) x.2 x.1 := by
  have hrun := StepSystem.exists_run_of_any
    ((orchestrator {} (.fixed 1) fun _ => none).observed (fun _ => none) noteDrains)
    (State.initial {} (.fixed 1) fun _ => none, fun _ => none)
    (fun y b => drainsPunctual y.1 b)
    [.run, .pluginsInstalled, .workerOnline 1, .restartWorkers {}, .tick 250, .workerOnline 2,
      .tick 12000, .timer (.forceKill 2)]
    (fun x => decide (x.1.isShuttingDown = false) &&
      decide ((x.1.recycles.map Recycle.sigkillTimer) = [some 15250])) (by decide +kernel)
  obtain ⟨x, hrun, hx⟩ := hrun
  rw [Bool.and_eq_true] at hx
  exact ⟨x, of_decide_eq_true hx.2,
    recycled_worker_guarded {} (.fixed 1) _ _ x hrun (of_decide_eq_true hx.1)⟩

end Runs

end ClusterKit
