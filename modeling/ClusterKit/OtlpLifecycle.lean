import ClusterKit.OtlpMeter
import Mathlib.Order.MinMax
import Mathlib.Order.Nat

/-! The life of the providers of the OTLP meter plugin. While calls keep the order of
`inOrder`, the slot holds the only provider that has not been shut down. -/

namespace ClusterKit

namespace OtlpMeter

variable {s t : OtlpMeter} {w : OtlpNotes} {onWorker : Bool}

/-! ## What a step does -/

/-- **Spec of `shutdownProvider`.** It returns at once, or shuts down what the slot holds. -/
theorem shutdownProvider_cases (caller : ProviderCaller) (s : OtlpMeter) :
    (∀ provider ∈ s.meterProvider, s.isShutdown = true) ∧
        s.shutdownProvider caller = (s, none) ∨
      ∃ provider, s.meterProvider = some provider ∧ s.isShutdown = false ∧
        s.shutdownProvider caller =
          ({ s with
              isShutdown := true
              shutdowns := provider :: s.shutdowns
              stopping := ⟨provider, caller⟩ :: s.stopping },
            some ⟨provider, caller⟩) := by
  unfold shutdownProvider
  cases hslot : s.meterProvider with
  | none =>
    refine .inl ⟨?_, rfl⟩
    intro provider hmem
    cases hmem
  | some provider =>
    cases hlatch : s.isShutdown with
    | true => exact .inl ⟨fun _ _ => rfl, rfl⟩
    | false => exact .inr ⟨provider, rfl, rfl, rfl⟩

/-! ## The provider in the slot -/

/-- The slot holds `provider`, ready to be used and to be shut down. -/
structure Holds (s : OtlpMeter) (provider : Nat) : Prop where
  slot : s.meterProvider = some provider
  latch : s.isShutdown = false
  sound : provider ∉ s.rejected

/-- Only the slot, the latch and the rejections matter. -/
theorem Holds.frame {provider : Nat} (h : Holds s provider)
    (hslot : t.meterProvider = s.meterProvider) (hlatch : t.isShutdown = s.isShutdown)
    (hrejected : t.rejected = s.rejected) : Holds t provider where
  slot := hslot.trans h.slot
  latch := hlatch.trans h.latch
  sound := hrejected ▸ h.sound

/-- The invariant of orderly runs. -/
structure Owned (s : OtlpMeter) : Prop where
  /-- One shutdown is awaited at most: that of the provider in the slot. -/
  stopping : s.stopping = [] ∨ ∃ wait, s.stopping = [wait] ∧
    s.meterProvider = some wait.provider ∧ s.isShutdown = true
  kept : ∀ provider < s.created, provider ∈ s.shutdowns ∨ s.meterProvider = some provider
  known : ∀ provider ∈ s.shutdowns, provider < s.created
  slot : ∀ provider ∈ s.meterProvider, provider < s.created
  once : s.shutdowns.Nodup
  latched : s.isShutdown = true → ∀ provider ∈ s.meterProvider, provider ∈ s.shutdowns
  ready : s.isShutdown = false → ∀ provider ∈ s.meterProvider, provider ∉ s.rejected →
    provider ∉ s.shutdowns
  rejected : ∀ provider ∈ s.rejected, provider ∈ s.shutdowns
  failed : s.isShutdown = true → s.stopping = [] → ∀ provider ∈ s.meterProvider,
    provider ∈ s.rejected
  waiting : ∀ provider ∈ s.hostMetrics, Holds s provider
  asked : ∀ wait ∈ s.stopping, ∀ created, wait.caller = .stop created →
    ∀ provider < created, provider ∈ s.shutdowns

theorem new_owned : Owned {} := by
  refine ⟨.inl rfl, ?_, List.forall_mem_nil _, ?_, .nil, ?_, ?_, List.forall_mem_nil _, ?_,
    List.forall_mem_nil _, List.forall_mem_nil _⟩
  · intro provider hlt
    exact absurd hlt (Nat.not_lt_zero provider)
  · intro provider hmem
    cases hmem
  · intro hlatch
    cases hlatch
  · intro _ provider hmem
    cases hmem
  · intro hlatch
    cases hlatch

namespace Owned

/-- An open latch: no shutdown is awaited. -/
theorem stopping_of_open (h : Owned s) (hopen : s.isShutdown = false) : s.stopping = [] := by
  obtain hnone | ⟨wait, -, -, hlatch⟩ := h.stopping
  · exact hnone
  · rw [hopen] at hlatch
    cases hlatch

theorem stopping_of_empty (h : Owned s) (hempty : s.meterProvider = none) : s.stopping = [] := by
  obtain hnone | ⟨wait, -, hslot, -⟩ := h.stopping
  · exact hnone
  · rw [hempty] at hslot
    cases hslot

/-- When `shutdownProvider` returns at once, every provider has been shut down. -/
theorem all_shut (h : Owned s) (hdone : ∀ provider ∈ s.meterProvider, s.isShutdown = true) :
    ∀ provider < s.created, provider ∈ s.shutdowns := by
  intro provider hlt
  rcases h.kept provider hlt with hshut | hslot
  · exact hshut
  · exact h.latched (hdone provider hslot) provider hslot

/-- The shutdown of the provider in the slot begins. -/
theorem begins (h : Owned s) {provider : Nat} (hslot : s.meterProvider = some provider)
    (hopen : s.isShutdown = false) (hsound : provider ∉ s.rejected) (hwait : s.hostMetrics = [])
    {caller : ProviderCaller} (hcaller : caller = .install ∨ caller = .stop s.created) :
    Owned { s with
      isShutdown := true
      shutdowns := provider :: s.shutdowns
      stopping := ⟨provider, caller⟩ :: s.stopping } := by
  have hstopping := h.stopping_of_open hopen
  have hall : ∀ other < s.created, other ∈ provider :: s.shutdowns := by
    intro other hlt
    rcases h.kept other hlt with hshut | hother
    · exact List.mem_cons_of_mem _ hshut
    · rw [hslot, Option.some.injEq] at hother
      exact hother ▸ List.mem_cons_self
  refine ⟨.inr ⟨⟨provider, caller⟩, by rw [hstopping], hslot, rfl⟩, ?_, ?_, h.slot, ?_, ?_, ?_, ?_,
    ?_, ?_, ?_⟩
  · exact fun other hlt => .inl (hall other hlt)
  · intro other hshut
    rcases List.mem_cons.mp hshut with rfl | hshut
    · exact h.slot other hslot
    · exact h.known other hshut
  · exact List.nodup_cons.mpr ⟨h.ready hopen provider hslot hsound, h.once⟩
  · intro _ other hother
    exact hall other (h.slot other hother)
  · intro hlatch
    cases hlatch
  · exact fun other hother => List.mem_cons_of_mem _ (h.rejected other hother)
  · intro _ hnone
    cases hnone
  · intro other hother
    rw [show ({ s with
      isShutdown := true
      shutdowns := provider :: s.shutdowns
      stopping := ⟨provider, caller⟩ :: s.stopping } : OtlpMeter).hostMetrics = s.hostMetrics
      from rfl, hwait] at hother
    cases hother
  · intro wait hmem created hcreated other hlt
    rw [hstopping] at hmem
    rw [List.mem_singleton.mp hmem] at hcreated
    rcases hcaller with rfl | rfl
    · cases hcreated
    · cases hcreated
      exact hall other hlt

/-- The latch is opened behind an empty slot, or a provider that could not be shut down. -/
theorem openLatch (h : Owned s) (hstopping : s.isShutdown = true → s.stopping = []) :
    Owned s.openLatch := by
  cases hlatch : s.isShutdown with
  | false =>
    have heq : s.openLatch = { s with exporting := s.exporting + 1 } := by
      rw [OtlpMeter.openLatch, ← hlatch]
    rw [heq]
    exact ⟨h.stopping, h.kept, h.known, h.slot, h.once, h.latched, h.ready, h.rejected, h.failed,
      fun other hother => (h.waiting other hother).frame rfl rfl rfl, h.asked⟩
  | true =>
    refine ⟨.inl (hstopping hlatch), h.kept, h.known, h.slot, h.once, ?_, ?_, h.rejected, ?_, ?_,
      h.asked⟩
    · intro hno
      cases hno
    · intro _ other hslot hsound
      exact absurd (h.failed hlatch (hstopping hlatch) other hslot) hsound
    · intro hno
      cases hno
    · intro other hother
      have hopen := (h.waiting other hother).latch
      rw [hlatch] at hopen
      cases hopen

/-- A new provider takes an empty slot, or that of one that could not be shut down. -/
theorem createProvider (h : Owned s) (hopen : s.isShutdown = false)
    (hgone : ∀ provider ∈ s.meterProvider, provider ∈ s.rejected) :
    Owned (s.createProvider onWorker) := by
  have hfresh : s.created ∉ s.shutdowns := by
    intro hshut
    exact absurd (h.known _ hshut) (Nat.lt_irrefl _)
  have hsound : s.created ∉ s.rejected := fun hrejected => hfresh (h.rejected _ hrejected)
  refine ⟨.inl (h.stopping_of_open hopen), ?_, ?_, ?_, h.once, ?_, ?_, h.rejected, ?_, ?_, h.asked⟩
  · intro provider hlt
    rcases Nat.lt_succ_iff_lt_or_eq.mp hlt with hlt | rfl
    · rcases h.kept provider hlt with hshut | hslot
      · exact .inl hshut
      · exact .inl (h.rejected provider (hgone provider hslot))
    · exact .inr rfl
  · exact fun provider hshut => Nat.lt_succ_of_lt (h.known provider hshut)
  · intro provider hslot
    cases hslot
    exact Nat.lt_succ_self _
  · intro hlatch
    exact absurd (hlatch.symm.trans hopen) Bool.true_eq_false.mp
  · intro _ provider hslot _
    cases hslot
    exact hfresh
  · intro hlatch
    exact absurd (hlatch.symm.trans hopen) Bool.true_eq_false.mp
  · intro provider hwait
    have hone : provider = s.created ∨ provider ∈ s.hostMetrics := by
      simp only [OtlpMeter.createProvider] at hwait
      split at hwait
      · exact List.mem_cons.mp hwait
      · exact .inr hwait
    rcases hone with rfl | hwait
    · exact ⟨rfl, hopen, hsound⟩
    · have hold := h.waiting provider hwait
      exact absurd (hgone provider hold.slot) hold.sound

/-- The awaited shutdown. -/
theorem stopping_eq (h : Owned s) {wait : ProviderShutdown} (hmem : wait ∈ s.stopping) :
    s.stopping = [wait] ∧ s.meterProvider = some wait.provider ∧ s.isShutdown = true := by
  obtain hnone | ⟨other, hone, hslot, hlatch⟩ := h.stopping
  · rw [hnone] at hmem
    cases hmem
  · rw [hone] at hmem
    rw [List.mem_singleton.mp hmem]
    exact ⟨hone, hslot, hlatch⟩

/-- Behind a closed latch no installation waits for host metrics. -/
theorem not_waiting (h : Owned s) (hlatch : s.isShutdown = true) (provider : Nat) :
    provider ∉ s.hostMetrics := by
  intro hwait
  have hopen := (h.waiting provider hwait).latch
  rw [hlatch] at hopen
  cases hopen

theorem stopped (h : Owned s) {wait : ProviderShutdown} (hmem : wait ∈ s.stopping) :
    Owned (s.stopped wait) := by
  obtain ⟨hone, hslot, hlatch⟩ := h.stopping_eq hmem
  have hnone : (s.stopped wait).stopping = [] := by
    simp only [OtlpMeter.stopped, hone, List.erase_cons_head]
  refine ⟨.inl hnone, ?_, h.known, ?_, h.once, ?_, ?_, h.rejected, ?_, ?_, ?_⟩
  · intro provider hlt
    rcases h.kept provider hlt with hshut | hother
    · exact .inl hshut
    · exact .inl (h.latched hlatch provider hother)
  · intro provider hempty
    cases hempty
  · intro _ provider hempty
    cases hempty
  · intro hopen
    exact absurd (hopen.symm.trans hlatch) Bool.false_ne_true
  · intro _ _ provider hempty
    cases hempty
  · intro provider hwait
    exact absurd hwait (h.not_waiting hlatch provider)
  · rw [hnone]
    exact List.forall_mem_nil _

theorem stopFailed (h : Owned s) {wait : ProviderShutdown} (hmem : wait ∈ s.stopping) :
    Owned (s.stopFailed wait) := by
  obtain ⟨hone, hslot, hlatch⟩ := h.stopping_eq hmem
  have hnone : (s.stopFailed wait).stopping = [] := by
    simp only [OtlpMeter.stopFailed, hone, List.erase_cons_head]
  refine ⟨.inl hnone, h.kept, h.known, h.slot, h.once, h.latched, ?_, ?_, ?_, ?_, ?_⟩
  · intro hopen
    exact absurd (hopen.symm.trans hlatch) Bool.false_ne_true
  · intro provider hrejected
    rcases List.mem_cons.mp hrejected with rfl | hrejected
    · exact h.latched hlatch _ hslot
    · exact h.rejected provider hrejected
  · intro _ _ provider hother
    have heq : some provider = some wait.provider := (Option.mem_def.mp hother).symm.trans hslot
    rw [Option.some.inj heq]
    exact List.mem_cons_self
  · intro provider hwait
    exact absurd hwait (h.not_waiting hlatch provider)
  · rw [hnone]
    exact List.forall_mem_nil _

/-- `shutdownProvider` by any caller. -/
theorem shutdownProvider (h : Owned s) (hwait : s.hostMetrics = [])
    (hsound : s.isShutdown = true ∨ ∀ provider ∈ s.meterProvider, provider ∉ s.rejected)
    {caller : ProviderCaller} (hcaller : caller = .install ∨ caller = .stop s.created) :
    Owned (s.shutdownProvider caller).1 := by
  obtain ⟨-, heq⟩ | ⟨provider, hslot, hopen, heq⟩ := s.shutdownProvider_cases caller
  · rw [heq]
    exact h
  · rw [heq]
    rcases hsound with hlatch | hsound
    · exact absurd (hlatch.symm.trans hopen) Bool.true_eq_false.mp
    · exact h.begins hslot hopen (hsound provider hslot) hwait hcaller

/-- Counters of waiting installations do not matter. -/
theorem recount (h : Owned s) (resuming exporting : Nat) :
    Owned { s with resuming := resuming, exporting := exporting } :=
  ⟨h.stopping, h.kept, h.known, h.slot, h.once, h.latched, h.ready, h.rejected, h.failed,
    fun other hother => (h.waiting other hother).frame rfl rfl rfl, h.asked⟩

theorem install (h : Owned s) (hwait : s.hostMetrics = [])
    (hsound : s.isShutdown = true ∨ ∀ provider ∈ s.meterProvider, provider ∉ s.rejected) :
    Owned s.install := by
  have hshut := h.shutdownProvider hwait hsound (.inl rfl : ProviderCaller.install = .install ∨ _)
  unfold OtlpMeter.install
  cases hslot : s.meterProvider with
  | none =>
    simp only
    exact h.openLatch fun _ => h.stopping_of_empty hslot
  | some provider =>
    simp only
    split
    · rename_i t wait heq
      rw [heq] at hshut
      exact hshut
    · rename_i t heq
      rw [heq] at hshut
      exact hshut.recount _ _

theorem done (h : Owned s) (provider : Nat) :
    Owned { s with hostMetrics := s.hostMetrics.erase provider } :=
  ⟨h.stopping, h.kept, h.known, h.slot, h.once, h.latched, h.ready, h.rejected, h.failed,
    fun other hother => (h.waiting other (List.mem_of_mem_erase hother)).frame rfl rfl rfl, h.asked⟩

end Owned

/-- What `inOrder` asks of a call. -/
theorem inOrder_call {s : OtlpMeter} (h : (s.hostMetrics.isEmpty && (s.isShutdown ||
      s.meterProvider.all fun provider => decide (provider ∉ s.rejected))) = true) :
    s.hostMetrics = [] ∧
      (s.isShutdown = true ∨ ∀ provider ∈ s.meterProvider, provider ∉ s.rejected) := by
  simp only [Bool.and_eq_true, List.isEmpty_iff, Bool.or_eq_true, Option.all_eq_true,
    decide_eq_true_eq] at h
  exact h

/-- **Step lemma.** -/
theorem Owned.step (h : Owned s) {a : OtlpAction} (ha : s.inOrder a = true)
    (hs : s.act onWorker a = some t) : Owned t := by
  cases a with
  | install =>
    cases hs
    obtain ⟨hwait, hsound⟩ := inOrder_call ha
    exact h.install hwait hsound
  | resume =>
    simp only [act, Option.ite_none_right_eq_some, Option.some.injEq] at hs
    obtain ⟨-, rfl⟩ := hs
    simp only [inOrder, Bool.or_eq_true, Bool.not_eq_true', List.isEmpty_iff] at ha
    refine (h.openLatch ?_).recount _ _
    intro hlatch
    rcases ha with hopen | hnone
    · exact absurd (hlatch.symm.trans hopen) Bool.true_eq_false.mp
    · exact hnone
  | exporter =>
    simp only [act, Option.ite_none_right_eq_some, Option.some.injEq] at hs
    obtain ⟨-, rfl⟩ := hs
    simp only [inOrder, Bool.and_eq_true, Bool.not_eq_true', Option.all_eq_true,
      decide_eq_true_eq] at ha
    exact h.createProvider ha.1 ha.2
  | exporterFailed =>
    simp only [act, Option.ite_none_right_eq_some, Option.some.injEq] at hs
    obtain ⟨-, rfl⟩ := hs
    exact h.recount _ _
  | hostMetrics provider =>
    simp only [act, Option.ite_none_right_eq_some, Option.some.injEq] at hs
    obtain ⟨-, rfl⟩ := hs
    exact h.done provider
  | hostMetricsFailed provider =>
    simp only [act, Option.ite_none_right_eq_some, Option.some.injEq] at hs
    obtain ⟨-, rfl⟩ := hs
    exact h.done provider
  | uninstall =>
    cases hs
    obtain ⟨hwait, hsound⟩ := inOrder_call ha
    exact h.shutdownProvider hwait hsound (.inr rfl)
  | shutdown =>
    cases hs
    obtain ⟨hwait, hsound⟩ := inOrder_call ha
    exact h.shutdownProvider hwait hsound (.inr rfl)
  | stopped wait =>
    simp only [act, Option.ite_none_right_eq_some, Option.some.injEq] at hs
    obtain ⟨hmem, rfl⟩ := hs
    exact h.stopped hmem
  | stopFailed wait =>
    simp only [act, Option.ite_none_right_eq_some, Option.some.injEq] at hs
    obtain ⟨hmem, rfl⟩ := hs
    exact h.stopFailed hmem

/-! ## What the observer notes -/

theorem shutdownProvider_shutdowns (caller : ProviderCaller) (s : OtlpMeter) :
    ∀ provider ∈ s.shutdowns, provider ∈ (s.shutdownProvider caller).1.shutdowns := by
  intro provider hshut
  obtain ⟨-, heq⟩ | ⟨other, -, -, heq⟩ := s.shutdownProvider_cases caller
  · rw [heq]
    exact hshut
  · rw [heq]
    exact List.mem_cons_of_mem _ hshut

theorem install_shutdowns (s : OtlpMeter) :
    ∀ provider ∈ s.shutdowns, provider ∈ s.install.shutdowns := by
  intro provider hshut
  have hkept := shutdownProvider_shutdowns .install s provider hshut
  unfold install
  cases hslot : s.meterProvider with
  | none => exact hshut
  | some other =>
    simp only
    split
    · rename_i t wait heq
      rw [heq] at hkept
      exact hkept
    · rename_i t heq
      rw [heq] at hkept
      exact hkept

/-- The notes are true. -/
structure Noted (s : OtlpMeter) (w : OtlpNotes) : Prop where
  installed : ∀ provider ∈ w.installed, Holds s provider
  stopped : ∀ provider < w.stopped, provider ∈ s.shutdowns

theorem Noted.frame (h : Noted s w) (hslot : t.meterProvider = s.meterProvider)
    (hlatch : t.isShutdown = s.isShutdown) (hrejected : t.rejected = s.rejected)
    (hshut : t.shutdowns = s.shutdowns) : Noted t w where
  installed := fun provider hmem => (h.installed provider hmem).frame hslot hlatch hrejected
  stopped := hshut ▸ h.stopped

theorem Noted.resolved {caller : ProviderCaller} (h : Noted s w)
    (hshut : ∀ created, caller = .stop created → ∀ provider < created, provider ∈ s.shutdowns) :
    Noted s (w.resolved caller) := by
  cases caller with
  | install => exact h
  | stop created =>
    refine ⟨h.installed, ?_⟩
    intro provider hlt
    rcases lt_max_iff.mp hlt with hlt | hlt
    · exact h.stopped provider hlt
    · exact hshut created rfl provider hlt

/-- `uninstall()` or `shutdown()` begins. -/
theorem Noted.begins (h : Noted s w) (ho : Owned s) :
    Noted (s.shutdownProvider (.stop s.created)).1 (w.begins s) := by
  have hkept := shutdownProvider_shutdowns (.stop s.created) s
  unfold OtlpNotes.begins
  obtain ⟨hdone, heq⟩ | ⟨provider, -, -, heq⟩ := s.shutdownProvider_cases (.stop s.created)
  · rw [heq]
    refine Noted.resolved ⟨List.forall_mem_nil _, h.stopped⟩ ?_
    intro created hcreated
    cases hcreated
    exact ho.all_shut hdone
  · rw [heq] at hkept ⊢
    exact ⟨List.forall_mem_nil _, fun other hlt => hkept other (h.stopped other hlt)⟩

/-- Behind a closed latch no installation has resolved since the last call. -/
theorem Noted.not_installed (h : Noted s w) (hlatch : s.isShutdown = true) (provider : Nat) :
    provider ∉ w.installed := by
  intro hmem
  have hopen := (h.installed provider hmem).latch
  rw [hlatch] at hopen
  cases hopen

/-- **Step lemma.** -/
theorem Noted.step (h : Noted s w) (ho : Owned s) {a : OtlpAction} (ha : s.inOrder a = true)
    (hs : s.act onWorker a = some t) : Noted t (w.note onWorker s a t) := by
  cases a with
  | install =>
    cases hs
    exact ⟨List.forall_mem_nil _, fun p hlt => install_shutdowns s p (h.stopped p hlt)⟩
  | resume =>
    simp only [act, Option.ite_none_right_eq_some, Option.some.injEq] at hs
    obtain ⟨-, rfl⟩ := hs
    refine ⟨?_, h.stopped⟩
    intro provider hmem
    have hold := h.installed provider hmem
    exact ⟨hold.slot, rfl, hold.sound⟩
  | exporter =>
    simp only [act, Option.ite_none_right_eq_some, Option.some.injEq] at hs
    obtain ⟨-, rfl⟩ := hs
    simp only [inOrder, Bool.and_eq_true, Bool.not_eq_true', Option.all_eq_true,
      decide_eq_true_eq] at ha
    have hnew : Holds (s.createProvider onWorker) s.created := by
      refine ⟨rfl, ha.1, ?_⟩
      intro hrejected
      exact absurd (ho.known _ (ho.rejected _ hrejected)) (Nat.lt_irrefl _)
    have hold : ∀ provider ∈ w.installed, Holds (s.createProvider onWorker) provider := by
      -- the provider before could not be shut down, so nobody counts on it
      intro provider hmem
      have hheld := h.installed provider hmem
      exact absurd (ha.2 provider hheld.slot) hheld.sound
    cases onWorker with
    | true => exact ⟨hold, h.stopped⟩
    | false => exact ⟨List.forall_mem_cons.mpr ⟨hnew, hold⟩, h.stopped⟩
  | exporterFailed =>
    simp only [act, Option.ite_none_right_eq_some, Option.some.injEq] at hs
    obtain ⟨-, rfl⟩ := hs
    exact h.frame rfl rfl rfl rfl
  | hostMetrics provider =>
    simp only [act, Option.ite_none_right_eq_some, Option.some.injEq] at hs
    obtain ⟨hwait, rfl⟩ := hs
    have hkept : Noted { s with hostMetrics := s.hostMetrics.erase provider } w :=
      h.frame rfl rfl rfl rfl
    have hnew : Holds { s with hostMetrics := s.hostMetrics.erase provider } provider :=
      (ho.waiting provider hwait).frame rfl rfl rfl
    exact ⟨List.forall_mem_cons.mpr ⟨hnew, hkept.installed⟩, h.stopped⟩
  | hostMetricsFailed provider =>
    simp only [act, Option.ite_none_right_eq_some, Option.some.injEq] at hs
    obtain ⟨-, rfl⟩ := hs
    exact h.frame rfl rfl rfl rfl
  | uninstall =>
    cases hs
    exact h.begins ho
  | shutdown =>
    cases hs
    exact h.begins ho
  | stopped wait =>
    simp only [act, Option.ite_none_right_eq_some, Option.some.injEq] at hs
    obtain ⟨hmem, rfl⟩ := hs
    obtain ⟨-, -, hlatch⟩ := ho.stopping_eq hmem
    have hcleared : Noted (s.stopped wait) w :=
      ⟨fun provider hin => absurd hin (h.not_installed hlatch provider), h.stopped⟩
    exact hcleared.resolved (ho.asked wait hmem)
  | stopFailed wait =>
    simp only [act, Option.ite_none_right_eq_some, Option.some.injEq] at hs
    obtain ⟨hmem, rfl⟩ := hs
    obtain ⟨-, -, hlatch⟩ := ho.stopping_eq hmem
    exact ⟨fun provider hin => absurd hin (h.not_installed hlatch provider), h.stopped⟩

/-- **Run lemma.** -/
theorem run_owned_noted {y : OtlpMeter × OtlpNotes}
    (hrun : (otlpMeter onWorker).Run (fun x a => x.1.inOrder a = true) (otlpMeter onWorker).init y) :
    Owned y.1 ∧ Noted y.1 y.2 := by
  have hinit : Owned {} ∧ Noted {} {} :=
    ⟨new_owned, List.forall_mem_nil _, fun p hlt => absurd hlt (Nat.not_lt_zero p)⟩
  refine hrun.preserves (P := fun x => Owned x.1 ∧ Noted x.1 x.2) ?_ hinit
  rintro x a z ⟨ho, hn⟩ ha hs
  obtain ⟨hact, hnote⟩ := StepSystem.observed_step hs
  rw [hnote]
  exact ⟨ho.step ha hact, hn.step ho ha hact⟩

/-- While calls keep their order, an installation that has resolved owns the slot until the
next call, no provider is shut down twice, and an uninstallation or a shutdown that has
resolved leaves no earlier provider behind. -/
theorem providers_owned_in_order (onWorker : Bool) {y : OtlpMeter × OtlpNotes}
    (hrun : (otlpMeter onWorker).Run (fun x a => x.1.inOrder a = true) (otlpMeter onWorker).init y) :
    (∀ provider ∈ y.2.installed, y.1.meterProvider = some provider) ∧
      y.1.shutdowns.Nodup ∧ ∀ provider < y.2.stopped, provider ∈ y.1.shutdowns := by
  obtain ⟨ho, hn⟩ := run_owned_noted hrun
  exact ⟨fun provider hmem => (hn.installed provider hmem).slot, ho.once, hn.stopped⟩

/-- An installation, a complete uninstallation and a second installation. -/
def reinstallation : List OtlpAction :=
  [.install, .exporter, .uninstall, .stopped ⟨0, .stop 1⟩, .install, .exporter]

theorem providers_owned_in_order_reinstallation :
    ∃ y, (otlpMeter false).Run (fun x a => x.1.inOrder a = true) (otlpMeter false).init y ∧
      (y.2.installed = [1] ∧ y.2.stopped = 1) ∧
      y.1.meterProvider = some 1 ∧ y.1.shutdowns.Nodup ∧ 0 ∈ y.1.shutdowns := by
  obtain ⟨y, hrun, htest⟩ := StepSystem.exists_run_of_any (otlpMeter false) (otlpMeter false).init
    (fun x a => x.1.inOrder a) reinstallation
    (fun y => decide (y.2.installed = [1] ∧ y.2.stopped = 1)) (by decide)
  have hnotes := of_decide_eq_true htest
  obtain ⟨hslot, honce, hstopped⟩ := providers_owned_in_order false hrun
  exact ⟨y, hrun, hnotes, hslot 1 (by rw [hnotes.1]; exact List.mem_cons_self), honce,
    hstopped 0 (by rw [hnotes.2]; exact Nat.zero_lt_one)⟩

/-- Installations beside an awaited shutdown: the shutdown clears the slot of the provider
that was installed last, which no later shutdown reaches; and a provider is shut down twice. -/
theorem providers_lost_and_shut_twice :
    (∃ y, (otlpMeter false).Reachable y ∧ 1 ∈ y.2.installed ∧ y.1.meterProvider = none) ∧
      (∃ y, (otlpMeter false).Reachable y ∧ 1 < y.2.stopped ∧ 1 ∉ y.1.shutdowns) ∧
      ∃ y, (otlpMeter false).Reachable y ∧ ¬y.1.shutdowns.Nodup := by
  have hoverlap : ∀ (as : List OtlpAction) (q : OtlpMeter × OtlpNotes → Prop) [DecidablePred q],
      ((otlpMeter false).exec (fun _ _ => true) (otlpMeter false).init
        (.install :: .exporter :: .shutdown :: .install :: .resume :: as)).any
          (fun y => decide (q y)) = true → ∃ y, (otlpMeter false).Reachable y ∧ q y := by
    intro as q _ htest
    obtain ⟨y, hy, hq⟩ := StepSystem.exists_reachable_of_any (otlpMeter false) _ _ htest
    exact ⟨y, hy, of_decide_eq_true hq⟩
  exact ⟨hoverlap [.exporter, .stopped ⟨0, .stop 1⟩]
      (fun y => 1 ∈ y.2.installed ∧ y.1.meterProvider = none) (by decide),
    hoverlap [.exporter, .stopped ⟨0, .stop 1⟩, .shutdown]
      (fun y => 1 < y.2.stopped ∧ 1 ∉ y.1.shutdowns) (by decide),
    hoverlap [.shutdown] (fun y => ¬y.1.shutdowns.Nodup) (by decide)⟩

end OtlpMeter

end ClusterKit
