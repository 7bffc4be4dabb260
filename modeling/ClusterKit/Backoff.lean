import ClusterKit.Lib.Observer
import ClusterKit.QueueSegment
import ClusterKit.Validation
import Mathlib.Algebra.Order.Field.Basic
import Mathlib.Tactic.Ring

/-! The backoff of the restart queue against its closed form. The delay is read before the
wait and written back after it; a reset in between starts a new count of restarts, and the
write comes from the old one. -/

namespace ClusterKit

open State

/-! ## Capped geometric growth -/

section Growth

variable {α : Type*} [Field α] [LinearOrder α] {b m cap : α}

/-- `b`, multiplied by `m` for `j` times, and never more than `cap`. -/
def cappedPow (b m cap : α) (j : Nat) : α := min (b * m ^ j) cap

theorem cappedPow_zero (h : b ≤ cap) : cappedPow b m cap 0 = b := by
  rw [cappedPow, pow_zero, mul_one, min_eq_left h]

variable [IsStrictOrderedRing α]

/-- Capping before the next factor changes nothing. -/
theorem cappedPow_succ (hm : 1 ≤ m) (hcap : 0 ≤ cap) (j : Nat) :
    min (cappedPow b m cap j * m) cap = cappedPow b m cap (j + 1) := by
  have hgrow : cap ≤ cap * m := le_mul_of_one_le_right hcap hm
  rw [cappedPow, cappedPow, min_mul_of_nonneg _ _ (le_trans zero_le_one hm), min_assoc,
    min_eq_right hgrow, pow_succ, mul_assoc]

theorem cappedPow_nonneg (hb : 0 ≤ b) (hm : 1 ≤ m) (hcap : 0 ≤ cap) (j : Nat) :
    0 ≤ cappedPow b m cap j :=
  le_min (mul_nonneg hb (pow_nonneg (le_trans zero_le_one hm) j)) hcap

theorem cappedPow_pos_iff (hm : 1 ≤ m) (hcap : 0 < cap) (j : Nat) :
    0 < cappedPow b m cap j ↔ 0 < b := by
  have hpow : 0 < m ^ j := pow_pos (lt_of_lt_of_le zero_lt_one hm) j
  rw [cappedPow, lt_min_iff, mul_pos_iff_of_pos_right hpow]
  exact and_iff_left hcap

/-- It stays where it starts only without a factor or under a cap that is met at once. -/
theorem cappedPow_succ_eq_iff (hb : 0 < b) (hm : 1 ≤ m) (hcap : b ≤ cap) (j : Nat) :
    cappedPow b m cap (j + 1) = b ↔ m = 1 ∨ cap = b := by
  constructor
  · intro h
    rcases min_choice (b * m ^ (j + 1)) cap with hmin | hmin
    · left
      have hpow : m ^ (j + 1) = 1 :=
        mul_left_cancel₀ hb.ne' ((hmin.symm.trans h).trans (mul_one b).symm)
      exact (pow_eq_one_iff_of_nonneg (le_trans zero_le_one hm) (Nat.succ_ne_zero j)).mp hpow
    · exact .inr (hmin.symm.trans h)
  · rintro (rfl | rfl)
    · rw [cappedPow, one_pow, mul_one, min_eq_left hcap]
    · exact min_eq_right (le_mul_of_one_le_right hb.le (one_le_pow₀ hm))

end Growth

variable {e : Host} {s t : State} {v w : QueueView}

/-! ## The law -/

/-- `min(backoffMs * backoffMultiplier ^ j, maxBackoffMs)` -/
def backoffLaw (e : Host) (j : Nat) : ℚ :=
  cappedPow e.cfg.restart.backoffMs e.cfg.restart.backoffMultiplier e.cfg.restart.maxBackoffMs j

/-- What an observer of the backoff remembers. -/
structure BackoffHistory where
  /-- The resets of the backoff so far. -/
  resets : Nat := 0
  /-- The resets there were when the wait in progress began; without one, all of them. -/
  waitingSince : Nat := 0
  /-- For each successful queue restart, the resets there were when its wait began. -/
  restarts : List Nat := []

namespace BackoffHistory

/-- The successful restarts whose wait began after the last reset. -/
def sinceReset (h : BackoffHistory) : Nat := h.restarts.count h.resets

/-- The successful restarts that counted when the wait in progress began. -/
def sinceWaitReset (h : BackoffHistory) : Nat := h.restarts.count h.waitingSince

end BackoffHistory

/-- The segment of `a` resets the backoff. -/
def resetsBackoff (e : Host) (s : State) : Action → Bool
  | .resetCircuitBreaker => true
  | .timer .backoffReset => !s.isShuttingDown && decide (s.restart.restartBackoffDelay ≠ 0)
  | .workerOnline _ =>
    !s.manager.disposed && decide (e.cfg.restart.stabilityWindowMs = 0) &&
      decide (0 < s.restart.restartBackoffDelay)
  | _ => false

def QueueView.inBackoff (v : QueueView) : Bool :=
  match v.frame with
  | some (.backoff ..) => true
  | _ => false

def QueueView.restartDelay (e : Host) (v : QueueView) : ℚ :=
  if v.backoffDelay > 0 then v.backoffDelay else e.cfg.restart.backoffMs

/-- The history once a reset or none has been noted and a wait can begin. -/
def BackoffHistory.opened (h : BackoffHistory) (reset waiting : Bool) : BackoffHistory :=
  let resets := if reset then h.resets + 1 else h.resets
  { h with resets := resets, waitingSince := if waiting then h.waitingSince else resets }

/-- The history once the restarts of the segment are noted. -/
def BackoffHistory.closed (h : BackoffHistory) (before after : Nat) : BackoffHistory :=
  if after = before then h else { h with restarts := h.waitingSince :: h.restarts }

/-- The observer of the backoff. -/
def noteBackoff (e : Host) (s : State) (a : Action) (t : State) (h : BackoffHistory) :
    BackoffHistory :=
  (h.opened (resetsBackoff e s a) s.queueView.inBackoff).closed s.metrics.workerRestarts
    t.metrics.workerRestarts

/-- The backoff law: the wait in progress and the next one are as long as the restarts since
the last reset before them ask for. -/
structure BackoffLawful (e : Host) (v : QueueView) (h : BackoffHistory) : Prop where
  waits : ∀ entry delayMs since, v.frame = some (.backoff entry delayMs since) →
    delayMs = backoffLaw e h.sinceWaitReset
  next : v.restartDelay e = backoffLaw e h.sinceReset

/-- A wait that ends with a successful restart began after the last reset, or the configured
delays do not grow. -/
def restartsUnreset (e : Host) (x : State × BackoffHistory) : Action → Bool
  | .timer .backoffWait =>
    x.1.isShuttingDown || x.1.breakerTripped || !x.1.queueForks e ||
      decide (x.2.waitingSince = x.2.resets) ||
      decide (e.cfg.restart.backoffMultiplier = 1) ||
      decide (e.cfg.restart.maxBackoffMs = e.cfg.restart.backoffMs)
  | _ => true

/-! ## The bookkeeping behind the law -/

structure BackoffTracked (e : Host) (v : QueueView) (h : BackoffHistory) : Prop where
  lawful : BackoffLawful e v h
  waitingSince : h.waitingSince ≤ h.resets
  past : ∀ k ∈ h.restarts, k ≤ h.resets
  waitingPast : v.inBackoff = true → ∀ k ∈ h.restarts, k ≤ h.waitingSince

theorem backoffLaw_zero (hcfg : BackoffAccepted e.cfg.restart) :
    backoffLaw e 0 = e.cfg.restart.backoffMs :=
  cappedPow_zero hcfg.ordered

theorem backoffLaw_nonneg (hcfg : BackoffAccepted e.cfg.restart) (j : Nat) : 0 ≤ backoffLaw e j := by
  have hcap : 0 ≤ e.cfg.restart.maxBackoffMs := le_trans (by norm_num) hcfg.max
  exact cappedPow_nonneg hcfg.backoff hcfg.multiplier hcap j

theorem backoffLaw_pos_iff (hcfg : BackoffAccepted e.cfg.restart) (j : Nat) :
    0 < backoffLaw e j ↔ 0 < e.cfg.restart.backoffMs := by
  have hcap : 0 < e.cfg.restart.maxBackoffMs := lt_of_lt_of_le (by norm_num) hcfg.max
  exact cappedPow_pos_iff hcfg.multiplier hcap j

/-- Without a first delay there is no delay. -/
theorem backoffLaw_of_zero (hcfg : BackoffAccepted e.cfg.restart)
    (hb : ¬ 0 < e.cfg.restart.backoffMs) (j : Nat) : backoffLaw e j = 0 :=
  le_antisymm (not_lt.mp (mt (backoffLaw_pos_iff hcfg j).mp hb)) (backoffLaw_nonneg hcfg j)

/-- A restart that waited as the law says leaves the next delay of the law. -/
theorem restartDelay_next (hcfg : BackoffAccepted e.cfg.restart) {j : Nat}
    (hv : v.backoffDelay = nextBackoffDelay e (backoffLaw e j)) :
    v.restartDelay e = backoffLaw e (j + 1) := by
  by_cases hb : 0 < e.cfg.restart.backoffMs
  · have hcap : 0 ≤ e.cfg.restart.maxBackoffMs := le_trans (by norm_num) hcfg.max
    have hnext : v.backoffDelay = backoffLaw e (j + 1) := by
      rw [hv, nextBackoffDelay, if_pos ((backoffLaw_pos_iff hcfg j).mpr hb)]
      exact cappedPow_succ hcfg.multiplier hcap j
    rw [QueueView.restartDelay, hnext, if_pos ((backoffLaw_pos_iff hcfg (j + 1)).mpr hb)]
  · have hzero : e.cfg.restart.backoffMs = 0 := le_antisymm (not_lt.mp hb) hcfg.backoff
    have hnext : v.backoffDelay ≤ 0 := by
      rw [hv, nextBackoffDelay, backoffLaw_of_zero hcfg hb, if_neg (lt_irrefl _), hzero]
      exact min_le_left _ _
    rw [QueueView.restartDelay, if_neg (not_lt.mpr hnext), hzero, backoffLaw_of_zero hcfg hb]

/-- Where the delays grow, a restart from before the last reset leaves another delay than the
first. -/
theorem restartDelay_stale (hcfg : BackoffAccepted e.cfg.restart) {j : Nat}
    (hpos : 0 < backoffLaw e j) (hv : v.backoffDelay = nextBackoffDelay e (backoffLaw e j)) :
    v.restartDelay e = e.cfg.restart.backoffMs ↔
      e.cfg.restart.backoffMultiplier = 1 ∨
        e.cfg.restart.maxBackoffMs = e.cfg.restart.backoffMs := by
  have hb : 0 < e.cfg.restart.backoffMs := (backoffLaw_pos_iff hcfg j).mp hpos
  rw [restartDelay_next hcfg hv]
  exact cappedPow_succ_eq_iff hb hcfg.multiplier hcfg.ordered j

/-! ## What the observer's notes say after a segment -/

section History

variable {h : BackoffHistory}

theorem BackoffHistory.count_above {k : Nat} (hk : ∀ i ∈ h.restarts, i < k) :
    h.restarts.count k = 0 :=
  List.count_eq_zero_of_not_mem fun hmem => absurd (hk k hmem) (Nat.lt_irrefl k)

theorem QueueView.inBackoff_of_frame {entry : RestartQueueEntry} {delayMs : ℚ} {since : Nat}
    (hf : v.frame = some (.backoff entry delayMs since)) : v.inBackoff = true := by
  rw [inBackoff, hf]

/-- Nothing happened to the backoff. -/
theorem BackoffTracked.kept (ht : BackoffTracked e v h) (hf : w.frame = v.frame)
    (hd : w.backoffDelay = v.backoffDelay) : BackoffTracked e w (h.opened false v.inBackoff) := by
  have hin : w.inBackoff = v.inBackoff := by rw [QueueView.inBackoff, hf, QueueView.inBackoff]
  have hwaiting (hv : v.inBackoff = true) : (h.opened false v.inBackoff).waitingSince = h.waitingSince :=
    if_pos hv
  constructor
  case lawful =>
    constructor
    case waits =>
      intro entry delayMs since hw
      rw [BackoffHistory.sinceWaitReset, hwaiting (v.inBackoff_of_frame (hf ▸ hw))]
      exact ht.lawful.waits entry delayMs since (hf ▸ hw)
    case next =>
      rw [QueueView.restartDelay, hd]
      exact ht.lawful.next
  case waitingSince =>
    show (if v.inBackoff then h.waitingSince else h.resets) ≤ h.resets
    split
    · exact ht.waitingSince
    · exact Nat.le_refl _
  case past => exact ht.past
  case waitingPast =>
    intro hw
    rw [hin] at hw
    rw [hwaiting hw]
    exact ht.waitingPast hw

/-- The backoff was reset: a wait in progress keeps its count, the next one starts from none. -/
theorem BackoffTracked.reset (hcfg : BackoffAccepted e.cfg.restart) (ht : BackoffTracked e v h)
    (hf : w.frame = v.frame) (hd : w.backoffDelay = 0) :
    BackoffTracked e w (h.opened true v.inBackoff) := by
  have hin : w.inBackoff = v.inBackoff := by rw [QueueView.inBackoff, hf, QueueView.inBackoff]
  have hwaiting (hv : v.inBackoff = true) : (h.opened true v.inBackoff).waitingSince = h.waitingSince :=
    if_pos hv
  have hfresh : (h.opened true v.inBackoff).sinceReset = 0 :=
    BackoffHistory.count_above fun i hi => Nat.lt_succ_of_le (ht.past i hi)
  constructor
  case lawful =>
    constructor
    case waits =>
      intro entry delayMs since hw
      rw [BackoffHistory.sinceWaitReset, hwaiting (v.inBackoff_of_frame (hf ▸ hw))]
      exact ht.lawful.waits entry delayMs since (hf ▸ hw)
    case next =>
      rw [hfresh, backoffLaw_zero hcfg, QueueView.restartDelay, hd, if_neg (lt_irrefl _)]
  case waitingSince =>
    show (if v.inBackoff then h.waitingSince else h.resets + 1) ≤ h.resets + 1
    split
    · exact Nat.le_succ_of_le ht.waitingSince
    · exact Nat.le_refl _
  case past => exact fun i hi => Nat.le_succ_of_le (ht.past i hi)
  case waitingPast =>
    intro hw
    rw [hin] at hw
    rw [hwaiting hw]
    exact ht.waitingPast hw

theorem BackoffTracked.same (ht : BackoffTracked e v h) (hf : w.frame = v.frame)
    (hd : w.backoffDelay = v.backoffDelay) : BackoffTracked e w h where
  lawful.waits entry delayMs since hw := ht.lawful.waits entry delayMs since (hf ▸ hw)
  lawful.next := by
    rw [QueueView.restartDelay, hd]
    exact ht.lawful.next
  waitingSince := ht.waitingSince
  past := ht.past
  waitingPast hw := by
    rw [QueueView.inBackoff, hf] at hw
    exact ht.waitingPast hw

/-- No wait is in progress and the delays are those of `v`. -/
theorem BackoffTracked.idle (ht : BackoffTracked e v h) (hf : w.inBackoff = false)
    (hd : w.backoffDelay = v.backoffDelay) : BackoffTracked e w h where
  lawful.waits _ _ _ hw := absurd (hf.symm.trans (w.inBackoff_of_frame hw)) Bool.false_ne_true
  lawful.next := by
    rw [QueueView.restartDelay, hd]
    exact ht.lawful.next
  waitingSince := ht.waitingSince
  past := ht.past
  waitingPast hw := absurd (hf.symm.trans hw) Bool.false_ne_true

/-- A restart whose wait began before the last reset does not count. -/
theorem BackoffHistory.sinceReset_stale (hold : h.waitingSince < h.resets)
    (hpast : ∀ k ∈ h.restarts, k ≤ h.waitingSince) :
    ({ h with restarts := h.waitingSince :: h.restarts } : BackoffHistory).sinceReset = 0 := by
  refine BackoffHistory.count_above fun k hk => ?_
  rcases List.mem_cons.mp hk with rfl | hk
  · exact hold
  · exact Nat.lt_of_le_of_lt (hpast k hk) hold

theorem BackoffTracked.restartedStale (hcfg : BackoffAccepted e.cfg.restart)
    (ht : BackoffTracked e v h) (hold : h.waitingSince < h.resets)
    (hpast : ∀ k ∈ h.restarts, k ≤ h.waitingSince) (hf : w.inBackoff = false)
    (hd : w.restartDelay e = e.cfg.restart.backoffMs) :
    BackoffTracked e w { h with restarts := h.waitingSince :: h.restarts } where
  lawful.waits _ _ _ hw := absurd (hf.symm.trans (w.inBackoff_of_frame hw)) Bool.false_ne_true
  lawful.next := by rw [BackoffHistory.sinceReset_stale hold hpast, backoffLaw_zero hcfg, hd]
  waitingSince := ht.waitingSince
  past k hk := by
    rcases List.mem_cons.mp hk with rfl | hk
    · exact ht.waitingSince
    · exact ht.past k hk
  waitingPast hw := absurd (hf.symm.trans hw) Bool.false_ne_true

/-- A restart whose wait obeyed the law, and began after the last reset. -/
theorem BackoffTracked.restarted (hcfg : BackoffAccepted e.cfg.restart) (ht : BackoffTracked e v h)
    (hwait : h.waitingSince = h.resets) (hf : w.inBackoff = false)
    (hd : w.backoffDelay = nextBackoffDelay e (backoffLaw e h.sinceReset)) :
    BackoffTracked e w { h with restarts := h.waitingSince :: h.restarts } where
  lawful.waits _ _ _ hw := absurd (hf.symm.trans (w.inBackoff_of_frame hw)) Bool.false_ne_true
  lawful.next := by
    have hcount : ({ h with restarts := h.waitingSince :: h.restarts } : BackoffHistory).sinceReset =
        h.sinceReset + 1 := by
      rw [hwait]
      exact List.count_cons_self
    rw [hcount]
    exact restartDelay_next hcfg hd
  waitingSince := ht.waitingSince
  past k hk := by
    rcases List.mem_cons.mp hk with rfl | hk
    · exact ht.waitingSince
    · exact ht.past k hk
  waitingPast hw := absurd (hf.symm.trans hw) Bool.false_ne_true

theorem BackoffTracked.closed {n : Nat} (ht : BackoffTracked e w h) (hn : w.restarts = n) :
    BackoffTracked e w (h.closed n w.restarts) := by
  have hsame : h.closed n w.restarts = h := if_pos hn
  rwa [hsame]

theorem BackoffHistory.closed_succ (n : Nat) :
    h.closed n (n + 1) = { h with restarts := h.waitingSince :: h.restarts } :=
  if_neg (Nat.succ_ne_self n)

theorem QueueView.inBackoff_of_returned (hf : v.frame = some .returned) : v.inBackoff = false := by
  rw [inBackoff, hf]

/-- An attempt whose wait began after the last reset. -/
theorem BackoffTracked.attempted {entry : RestartQueueEntry} (hcfg : BackoffAccepted e.cfg.restart)
    (ht : BackoffTracked e v h) (hwait : h.waitingSince = h.resets)
    (ha : Attempted e entry (backoffLaw e h.sinceReset) s v w) :
    BackoffTracked e w (h.closed v.restarts w.restarts) := by
  have hidle := QueueView.inBackoff_of_returned ha.frame
  cases ha with
  | restarted call hc hs htr hok =>
    rw [BackoffHistory.closed_succ]
    exact ht.restarted hcfg hwait hidle rfl
  | stopped | requeued | gaveUp => exact (ht.idle hidle rfl).closed rfl

/-- A run of the loop, from where no wait is in progress. -/
theorem BackoffTracked.loopRan (hcfg : BackoffAccepted e.cfg.restart) (ht : BackoffTracked e v h)
    (hwait : h.waitingSince = h.resets) (hd : s.restartDelay e = v.restartDelay e)
    (hran : LoopRan e s v w) : BackoffTracked e w (h.closed v.restarts w.restarts) := by
  have hlaw : s.restartDelay e = backoffLaw e h.sinceReset := hd.trans ht.lawful.next
  cases hran with
  | ended hend =>
    have hkept := ht.idle (w := { v with running := false, frame := none, queue := [] }) rfl rfl
    exact hkept.closed rfl
  | waits entry rest hq hs hdelay =>
    refine BackoffTracked.closed ?_ rfl
    constructor
    case lawful =>
      refine ⟨fun entry' delayMs since hf => ?_, ht.lawful.next⟩
      cases hf
      rw [hlaw, BackoffHistory.sinceWaitReset, hwait]
      rfl
    case waitingSince => exact ht.waitingSince
    case past => exact ht.past
    case waitingPast => exact fun _ => hwait ▸ ht.past
  | tried entry rest w hq hs hdelay ha =>
    rw [hlaw] at ha
    have htaken : BackoffTracked e { v with queue := rest } h :=
      ⟨⟨ht.lawful.waits, ht.lawful.next⟩, ht.waitingSince, ht.past, ht.waitingPast⟩
    exact BackoffTracked.attempted (v := { v with queue := rest }) hcfg htaken hwait ha

end History

/-! ## Waits are never empty -/

def QueueView.WaitsPositive (v : QueueView) : Prop :=
  ∀ entry delayMs since, v.frame = some (.backoff entry delayMs since) → 0 < delayMs

theorem Attempted.waitsPositive {entry : RestartQueueEntry} {delayMs : ℚ}
    (ha : Attempted e entry delayMs s v w) : w.WaitsPositive := fun _ _ _ hf =>
  absurd (ha.frame.symm.trans hf) nofun

theorem LoopRan.waitsPositive (h : LoopRan e s v w) : w.WaitsPositive := by
  cases h with
  | ended h => exact nofun
  | waits entry rest hq hs hdelay =>
    intro entry' delayMs since hf
    cases hf
    exact hdelay
  | tried entry rest w hq hs hdelay ha => exact ha.waitsPositive

theorem WaitsPositive.act {a : Action} (h : s.queueView.WaitsPositive) (hw : WellFormed s)
    (hact : s.act e a = some t) : t.queueView.WaitsPositive := by
  cases ha : a.runsQueue with
  | false =>
    have hframe : t.queueView.frame = s.queueView.frame := (QueueKept.act hw ha hact).frame
    intro entry delayMs since hf
    exact h entry delayMs since (hframe ▸ hf)
  | true =>
    have hfound : (foundQueue s a).frame = s.queueView.frame := by cases a <;> rfl
    cases queueSegment_of_act hw ha hact with
    | untouched a t harr hv =>
      intro entry delayMs since hf
      rw [hv, hfound] at hf
      exact h entry delayMs since hf
    | kicked a t x hx hs ht hk =>
      rcases hk.cases with ⟨-, hv⟩ | ⟨-, hl⟩
      · intro entry delayMs since hf
        rw [hv, hx] at hf
        exact h entry delayMs since (hfound ▸ hf)
      · exact hl.waitsPositive
    | abandoned t entry delayMs since hf hs hv =>
      rw [hv]
      exact nofun
    | attempted t entry delayMs since hf hdue hs ha => exact ha.waitsPositive
    | resumed t hf hl => exact hl.waitsPositive

theorem reachable_waitsPositive {count : WorkerCount} {env : ProcessEnv}
    (h : (orchestrator e count env).Reachable s) : s.queueView.WaitsPositive :=
  run_preserves h nofun fun _ _ _ hw hx _ hact => WaitsPositive.act hx hw hact

/-! ## The delay and the stability timer -/

/-- `t` has the delay of `s`, and its timer unless that was cancelled. -/
structure BackoffKept (s t : State) : Prop where
  delay : t.restart.restartBackoffDelay = s.restart.restartBackoffDelay
  timer : t.restart.backoffResetTimer = s.restart.backoffResetTimer ∨
    t.restart.backoffResetTimer = none

namespace BackoffKept

variable {a : Action}

theorem of_eq (hd : t.restart.restartBackoffDelay = s.restart.restartBackoffDelay)
    (ht : t.restart.backoffResetTimer = s.restart.backoffResetTimer) : BackoffKept s t :=
  ⟨hd, .inl ht⟩

theorem trans {u : State} (h : BackoffKept s t) (h' : BackoffKept t u) : BackoffKept s u := by
  refine ⟨h'.delay.trans h.delay, ?_⟩
  rcases h'.timer with ht | ht
  · rw [ht]
    exact h.timer
  · exact .inr ht

/-- Segments that neither run the queue nor reset the backoff. -/
theorem effect (ha : a.runsQueue = false) (honline : ∀ id, a ≠ .workerOnline id)
    (htimer : a ≠ .timer .backoffReset) (h : Effect e a s t) : BackoffKept s t := by
  have hruns {P : Prop} (h : a.runsQueue = true) : P := absurd (ha.symm.trans h) Bool.false_ne_true
  cases h with
  | queue r hq hm => exact hruns hq
  | attemptFailed entry hq hf => exact hruns hq
  | attempted delayMs hq hs ht hf hok => exact hruns hq
  | backoffScheduled id hid hpos => exact absurd hid (honline id)
  | backoffReset t hb ht => exact absurd hb htimer
  | backoffCancelled => exact ⟨rfl, .inr rfl⟩
  | recomputed hf => rw [recomputeFleetHealth_eq]; exact .of_eq rfl rfl
  | degraded t hd ht => rw [degradedElapsed_eq ht]; exact .of_eq rfl rfl
  | drained r hr hd hs hwhy => rw [drainOldWorker_eq]; exact .of_eq rfl rfl
  | shutdown t hs hm => rw [hm.eq]; exact .of_eq rfl rfl
  | _ => exact .of_eq rfl rfl

theorem bit (ha : a.runsQueue = false) (h : Bit e a s t) : BackoffKept s t := by
  cases h with
  | died | removed | quarantined | crashed | tripped | queued | resetShutting | breakerReset
  | resetRefilled | rollEnded | rollCompleted | rollRefilled => cases ha
  | shutdownEntered _ signal hs =>
    rw [shutdownPrimary_eq signal hs]
    exact ⟨rfl, .inr rfl⟩
  | _ => exact .of_eq rfl rfl

theorem act (hw : WellFormed s) (ha : a.runsQueue = false) (honline : ∀ id, a ≠ .workerOnline id)
    (htimer : a ≠ .timer .backoffReset) (h : s.act e a = some t) : BackoffKept s t :=
  (act_turns hw h).preserves (P := fun x => BackoffKept s x) hw
    (fun _ _ _ hx ht => hx.trans (ht.elim (effect ha honline htimer) (bit ha))) (.of_eq rfl rfl)

end BackoffKept

/-- What an online event does to the backoff. -/
theorem workerOnline_backoff {id : Nat} (h : s.workerOnline e id = some t) :
    t.restart.restartBackoffDelay =
        (if resetsBackoff e s (.workerOnline id) then 0 else s.restart.restartBackoffDelay) ∧
      t.restart.backoffResetTimer =
        if !s.manager.disposed && decide (0 < s.restart.restartBackoffDelay) &&
            decide (e.cfg.restart.stabilityWindowMs ≠ 0) then
          some (s.now + e.cfg.restart.stabilityWindowMs)
        else s.restart.backoffResetTimer := by
  obtain ⟨-, y, hy, hheard⟩ := workerOnline_cases h
  rw [onReplacementOnline_eq] at hy
  have hrestart : y.restart = s.restart := by rw [hy]; rfl
  have hnow : y.now = s.now := by rw [hy]; rfl
  rcases hheard with ⟨hd, rfl⟩ | ⟨hd, rfl⟩
  · simp [resetsBackoff, hd, hrestart]
  · have hheard : (y.handleWorkerOnline e id).restart = (y.restartOnWorkerOnline e).restart := by
      rw [handleWorkerOnline_eq, recomputeFleetHealth_eq]
      rfl
    rw [hheard]
    unfold restartOnWorkerOnline scheduleBackoffReset
    simp only [hrestart, hnow, resetsBackoff, hd, gt_iff_lt]
    by_cases hpos : 0 < s.restart.restartBackoffDelay
    · by_cases hwin : e.cfg.restart.stabilityWindowMs = 0
      · simp [hpos, hwin]
      · simp [hpos, hwin]
    · simp [hpos]

/-- What the stability timer does. -/
theorem backoffResetElapsed_cases (h : s.backoffResetElapsed = some t) :
    (∃ deadline, s.restart.backoffResetTimer = some deadline ∧ deadline ≤ s.now) ∧
      t.restart.backoffResetTimer = none ∧
      t.restart.restartBackoffDelay =
        if resetsBackoff e s (.timer .backoffReset) then 0 else s.restart.restartBackoffDelay := by
  unfold backoffResetElapsed at h
  split at h
  · cases h
  · rename_i deadline htimer
    split at h
    · rename_i hdue
      refine ⟨⟨deadline, htimer, hdue⟩, ?_⟩
      simp only at h
      split at h
      · rename_i hquiet
        have hreset : resetsBackoff e s (.timer .backoffReset) = false := by
          rcases Bool.or_eq_true_iff.mp hquiet with hs | hd
          · have hs : s.isShuttingDown = true := hs
            simp [resetsBackoff, hs]
          · have hd : s.restart.restartBackoffDelay = 0 := of_decide_eq_true hd
            simp [resetsBackoff, hd]
        rw [← Option.some.inj h, hreset]
        exact ⟨rfl, rfl⟩
      · rename_i hquiet
        rw [Bool.or_eq_true, not_or, Bool.not_eq_true, decide_eq_true_eq] at hquiet
        have hs : s.isShuttingDown = false := hquiet.1
        have hd : s.restart.restartBackoffDelay ≠ 0 := hquiet.2
        have hreset : resetsBackoff e s (.timer .backoffReset) = true := by simp [resetsBackoff, hs, hd]
        rw [← Option.some.inj h, hreset]
        exact ⟨rfl, rfl⟩
    · cases h

/-- A segment that does not run the queue leaves the delay alone or resets it. -/
theorem backoffDelay_of_act {a : Action} (hw : WellFormed s) (ha : a.runsQueue = false)
    (h : s.act e a = some t) :
    t.restart.restartBackoffDelay =
      if resetsBackoff e s a then 0 else s.restart.restartBackoffDelay := by
  by_cases honline : ∃ id, a = .workerOnline id
  · obtain ⟨id, rfl⟩ := honline
    exact (workerOnline_backoff h).1
  by_cases htimer : a = .timer .backoffReset
  · subst htimer
    exact (backoffResetElapsed_cases h).2.2
  have honline (id : Nat) : a ≠ .workerOnline id := fun heq => honline ⟨id, heq⟩
  have hreset : resetsBackoff e s a = false := by
    cases a with
    | workerOnline id => exact absurd rfl (honline id)
    | resetCircuitBreaker => cases ha
    | timer timer =>
      cases timer with
      | backoffReset => exact absurd rfl htimer
      | _ => rfl
    | _ => rfl
  rw [hreset]
  exact (BackoffKept.act hw ha honline htimer h).delay

/-! ## Runs -/

/-- The wait that the timer ends, and what its attempt is allowed to do. -/
theorem BackoffTracked.waitOver {entry : RestartQueueEntry} {delayMs : ℚ} {since : Nat}
    {h : BackoffHistory} (hcfg : BackoffAccepted e.cfg.restart) (ht : BackoffTracked e s.queueView h)
    (hpos : s.queueView.WaitsPositive) (hf : s.restart.frame = some (.backoff entry delayMs since))
    (hs : s.isShuttingDown = false) (ha : Attempted e entry delayMs s s.queueView w) :
    (restartsUnreset e (s, h) (.timer .backoffWait) = true →
        BackoffTracked e w (h.closed s.metrics.workerRestarts w.restarts)) ∧
      (restartsUnreset e (s, h) (.timer .backoffWait) = false →
        ¬ BackoffLawful e w (h.closed s.metrics.workerRestarts w.restarts)) := by
  have hwaits : delayMs = backoffLaw e h.sinceWaitReset := ht.lawful.waits entry delayMs since hf
  by_cases hwait : h.waitingSince = h.resets
  · have hok : restartsUnreset e (s, h) (.timer .backoffWait) = true := by
      simp [restartsUnreset, hwait]
    rw [hok]
    refine ⟨fun _ => ?_, fun hbad => absurd hbad.symm Bool.false_ne_true⟩
    rw [BackoffHistory.sinceWaitReset, hwait] at hwaits
    rw [hwaits] at ha
    exact ht.attempted hcfg hwait ha
  · have hold : h.waitingSince < h.resets := Nat.lt_of_le_of_ne ht.waitingSince hwait
    have hpast := ht.waitingPast (s.queueView.inBackoff_of_frame hf)
    have hidle := QueueView.inBackoff_of_returned ha.frame
    cases ha with
    | restarted call hc hcs htr hok =>
      have hlaw : 0 < backoffLaw e h.sinceWaitReset := hwaits ▸ hpos entry delayMs since hf
      have hstale : _ ↔ _ := restartDelay_stale (v := { s.queueView with
        frame := some .returned
        backoffDelay := nextBackoffDelay e delayMs
        forkFailures := 0
        restarts := s.queueView.restarts + 1
        forkCalls := call :: s.queueView.forkCalls }) hcfg hlaw (congrArg (nextBackoffDelay e) hwaits)
      have hcond : restartsUnreset e (s, h) (.timer .backoffWait) = true ↔
          e.cfg.restart.backoffMultiplier = 1 ∨
            e.cfg.restart.maxBackoffMs = e.cfg.restart.backoffMs := by
        simp [restartsUnreset, hs, htr, hok, hwait]
      rw [← hcond] at hstale
      have hclosed : h.closed s.metrics.workerRestarts (s.queueView.restarts + 1) = _ :=
        BackoffHistory.closed_succ s.metrics.workerRestarts
      rw [hclosed]
      refine ⟨fun hgood => ?_, fun hbad hlawful => ?_⟩
      · exact ht.restartedStale hcfg hold hpast hidle (hstale.mpr hgood)
      · have hnext := hlawful.next
        rw [BackoffHistory.sinceReset_stale hold hpast, backoffLaw_zero hcfg] at hnext
        exact absurd (hbad.symm.trans (hstale.mp hnext)) Bool.false_ne_true
    | stopped htr =>
      have hok : restartsUnreset e (s, h) (.timer .backoffWait) = true := by
        simp [restartsUnreset, htr]
      rw [hok]
      exact ⟨fun _ => (ht.idle hidle rfl).closed rfl, fun hbad => absurd hbad.symm Bool.false_ne_true⟩
    | requeued calls hc htr hfails hlimit | gaveUp calls hc htr hfails hlimit =>
      have hok : restartsUnreset e (s, h) (.timer .backoffWait) = true := by
        simp [restartsUnreset, hfails]
      rw [hok]
      exact ⟨fun _ => (ht.idle hidle rfl).closed rfl, fun hbad => absurd hbad.symm Bool.false_ne_true⟩

section Segments

variable {h : BackoffHistory} {a : Action}

/-- Without a wait in progress, the next one begins after all the resets so far. -/
theorem BackoffHistory.opened_idle (reset : Bool) {waiting : Bool} (hidle : waiting = false) :
    (h.opened reset waiting).waitingSince = (h.opened reset waiting).resets := by
  rw [hidle]
  rfl

theorem BackoffTracked.found (hcfg : BackoffAccepted e.cfg.restart)
    (ht : BackoffTracked e s.queueView h) (ha : a.runsQueue = true) :
    BackoffTracked e (foundQueue s a) (h.opened (resetsBackoff e s a) s.queueView.inBackoff) := by
  cases a with
  | resetCircuitBreaker => exact ht.reset hcfg rfl rfl
  | workerExit => exact ht.kept rfl rfl
  | resume => exact ht.kept rfl rfl
  | timer timer =>
    cases timer with
    | backoffWait => exact ht.kept rfl rfl
    | _ => cases ha
  | _ => cases ha

/-- A segment that does not run the queue. -/
theorem BackoffTracked.unrun (hcfg : BackoffAccepted e.cfg.restart)
    (ht : BackoffTracked e s.queueView h) (hw : WellFormed s) (ha : a.runsQueue = false)
    (hact : s.act e a = some t) : BackoffTracked e t.queueView (noteBackoff e s a t h) := by
  have hkept : QueueKept s t := .act hw ha hact
  have hdelay := backoffDelay_of_act hw ha hact
  refine BackoffTracked.closed ?_ hkept.restarts
  cases hreset : resetsBackoff e s a with
  | true => exact ht.reset hcfg hkept.frame (by rw [hreset] at hdelay; exact hdelay)
  | false => exact ht.kept hkept.frame (by rw [hreset] at hdelay; exact hdelay)

theorem foundQueue_restarts : (foundQueue s a).restarts = s.metrics.workerRestarts := by
  cases a <;> rfl

/-- **Segment rule.** A segment that meets the condition keeps the law. -/
theorem BackoffTracked.act (hcfg : BackoffAccepted e.cfg.restart)
    (ht : BackoffTracked e s.queueView h) (hpos : s.queueView.WaitsPositive) (hw : WellFormed s)
    (hok : restartsUnreset e (s, h) a = true) (hact : s.act e a = some t) :
    BackoffTracked e t.queueView (noteBackoff e s a t h) := by
  cases ha : a.runsQueue with
  | false => exact ht.unrun hcfg hw ha hact
  | true =>
    have hfound := ht.found hcfg ha
    cases queueSegment_of_act hw ha hact with
    | untouched a t harr hv =>
      rw [← hv] at hfound
      exact hfound.closed ((congrArg QueueView.restarts hv).trans foundQueue_restarts)
    | kicked a t x hx hs htr hk =>
      have hrestarts : x.queueView.restarts = s.metrics.workerRestarts :=
        (congrArg QueueView.restarts hx).trans foundQueue_restarts
      have hframe : x.queueView.frame = (foundQueue s a).frame := by rw [hx]
      have hdelay : x.queueView.backoffDelay = (foundQueue s a).backoffDelay := by rw [hx]
      have harrived : BackoffTracked e x.queueView _ := hfound.same hframe hdelay
      rcases hk.cases with ⟨-, hv⟩ | ⟨hr, hl⟩
      · rw [← hv] at harrived
        exact harrived.closed ((congrArg QueueView.restarts hv).trans hrestarts)
      · have hrunning : s.restart.restartLoopRunning = false := by
          have hx : x.restart.restartLoopRunning = (foundQueue s a).running :=
            congrArg QueueView.running hx
          cases a <;> exact hx.symm.trans hr
        have hidle : s.queueView.inBackoff = false := by
          rw [QueueView.inBackoff]
          show (match s.restart.frame with | some (.backoff ..) => true | _ => false) = false
          rw [hw.loop hrunning]
        have hkicked : BackoffTracked e { x.queueView with running := true } _ :=
          harrived.same rfl rfl
        have hlooped := hkicked.loopRan hcfg (BackoffHistory.opened_idle _ hidle) rfl hl
        rwa [show ({ x.queueView with running := true } : QueueView).restarts =
          s.metrics.workerRestarts from hrestarts] at hlooped
    | abandoned t entry delayMs since hf hs hv =>
      have hidle : t.queueView.inBackoff = false :=
        QueueView.inBackoff_of_returned (congrArg QueueView.frame hv)
      have hkept : BackoffTracked e t.queueView _ := hfound.idle hidle (by rw [hv]; rfl)
      exact hkept.closed (congrArg QueueView.restarts hv)
    | attempted t entry delayMs since hf hdue hs hatt =>
      have hin := s.queueView.inBackoff_of_frame hf
      rw [noteBackoff, hin]
      exact (ht.waitOver hcfg hpos hf hs hatt).1 hok
    | resumed t hf hl =>
      have hidle : s.queueView.inBackoff = false := QueueView.inBackoff_of_returned hf
      have hresumed : BackoffTracked e { s.queueView with frame := none } _ := hfound.idle rfl rfl
      exact hresumed.loopRan hcfg (BackoffHistory.opened_idle _ hidle) rfl hl

/-- A segment that breaks the condition breaks the law. -/
theorem BackoffTracked.act_broken (hcfg : BackoffAccepted e.cfg.restart)
    (ht : BackoffTracked e s.queueView h) (hpos : s.queueView.WaitsPositive)
    (hbad : restartsUnreset e (s, h) a = false) (hact : s.act e a = some t) :
    ¬ BackoffLawful e t.queueView (noteBackoff e s a t h) := by
  have ha : a = .timer .backoffWait := by
    cases a with
    | timer timer =>
      cases timer with
      | backoffWait => rfl
      | _ => cases hbad
    | _ => cases hbad
  subst ha
  have hs : s.isShuttingDown = false := by
    simp only [restartsUnreset, Bool.or_eq_false_iff] at hbad
    exact hbad.1.1.1.1.1
  obtain ⟨entry, delayMs, since, hf, hdue, hend⟩ := backoffElapsed_cases hact
  rcases hend with ⟨hshut, -⟩ | ⟨-, hatt⟩
  · exact absurd (hs.symm.trans hshut) Bool.false_ne_true
  · have hin := s.queueView.inBackoff_of_frame hf
    rw [noteBackoff, hin]
    exact (ht.waitOver hcfg hpos hf hs hatt).2 hbad

end Segments

theorem BackoffTracked.initial (hcfg : BackoffAccepted e.cfg.restart) (count : WorkerCount)
    (env : ProcessEnv) : BackoffTracked e (State.initial e count env).queueView {} where
  lawful.waits := nofun
  lawful.next := (backoffLaw_zero hcfg).symm
  waitingSince := Nat.le_refl 0
  past := nofun
  waitingPast := nofun

/-- **Backoff law**, as long as no restart succeeds that was waiting when the backoff was
reset: every wait is as long as the law says. A restart that breaks the condition leaves a
delay that is not. -/
theorem waits_follow_backoff_law (e : Host) (hcfg : e.Accepted) (count : WorkerCount)
    (env : ProcessEnv) (x : State × BackoffHistory)
    (hrun : ((orchestrator e count env).observed {} (noteBackoff e)).Run
      (fun x a => restartsUnreset e x a = true) (State.initial e count env, {}) x) :
    BackoffLawful e x.1.queueView x.2 ∧
      ∀ a t, (orchestrator e count env).step x.1 a = some t → restartsUnreset e x a = false →
        ¬ BackoffLawful e t.queueView (noteBackoff e x.1 a t x.2) := by
  have hcfg := hcfg.backoff
  have htracked : BackoffTracked e x.1.queueView x.2 := by
    refine hrun.observed_preserves (P := fun x => BackoffTracked e x.1.queueView x.2)
      (Q := fun s => WellFormed s ∧ s.queueView.WaitsPositive)
      (fun s hs => ⟨reachable_wellFormed hs, reachable_waitsPositive hs⟩) ?_
      (BackoffTracked.initial hcfg count env)
    rintro ⟨s, h⟩ a t ⟨hw, hpos⟩ htracked hok hstep
    exact htracked.act hcfg hpos hw hok (orchestrator_step hstep)
  refine ⟨htracked.lawful, fun a t hstep hbad => ?_⟩
  exact htracked.act_broken hcfg (reachable_waitsPositive hrun.unobserved) hbad
    (orchestrator_step hstep)

/-- Two crashes in a row: the second restart waits twice as long. -/
theorem waits_follow_backoff_law_two_crashes :
    ∃ x : State × BackoffHistory,
      (∃ entry since, x.1.restart.frame = some (.backoff entry 2000 since)) ∧
        BackoffLawful {} x.1.queueView x.2 := by
  have hrun := StepSystem.exists_run_of_any
    ((orchestrator {} (.fixed 2) fun _ => none).observed {} (noteBackoff {}))
    (State.initial {} (.fixed 2) fun _ => none, {}) (restartsUnreset {})
    [.run, .pluginsInstalled, .workerExit 1 (some 1) none, .tick 1000, .timer .backoffWait,
      .resume .restartQueue, .workerExit 2 (some 1) none]
    (fun x => match x.1.restart.frame with
      | some (.backoff _ delayMs _) => decide (delayMs = 2000)
      | _ => false) (by decide +kernel)
  obtain ⟨x, hrun, hx⟩ := hrun
  split at hx
  · rename_i entry delayMs since hf
    rw [of_decide_eq_true hx] at hf
    exact ⟨x, ⟨entry, since, hf⟩, (waits_follow_backoff_law {} ⟨{}, rfl⟩ _ _ x hrun).1⟩
  · cases hx

/-- The breaker is reset while a restart waits; the restart succeeds, and the next one waits
twice the first delay although no restart began after the reset. -/
theorem reset_undone_by_waiting_restart :
    ¬ ∀ (e : Host) (count : WorkerCount) (env : ProcessEnv) (x : State × BackoffHistory),
      e.Accepted → ((orchestrator e count env).observed {} (noteBackoff e)).Reachable x →
        ∀ entry delayMs since, x.1.restart.frame = some (.backoff entry delayMs since) →
          delayMs = backoffLaw e x.2.sinceWaitReset := by
  intro h
  have hrun := StepSystem.exists_reachable_of_any
    ((orchestrator {} (.fixed 2) fun _ => none).observed {} (noteBackoff {}))
    [.run, .pluginsInstalled, .workerExit 1 (some 1) none, .resetCircuitBreaker, .tick 1000,
      .timer .backoffWait, .resume .restartQueue, .workerExit 2 (some 1) none]
    (fun x => match x.1.restart.frame with
      | some (.backoff _ delayMs _) => decide (delayMs ≠ backoffLaw {} x.2.sinceWaitReset)
      | _ => false) (by decide +kernel)
  obtain ⟨x, hx, hwrong⟩ := hrun
  split at hwrong
  · rename_i entry delayMs since hf
    exact of_decide_eq_true hwrong (h {} _ _ x ⟨{}, rfl⟩ hx entry delayMs since hf)
  · cases hwrong

end ClusterKit
