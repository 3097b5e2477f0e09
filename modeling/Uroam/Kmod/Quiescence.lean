import Uroam.Kmod.Scanner

namespace Uroam.Kmod
open Runs

structure Good (s : Scanner) : Prop where
  objects : (s.workqueue,s.procDir,s.procStatus,s.registered) = s.point.objects
  header : s.registered = true → s.sysctlHeader = true
  armed : s.pending = (s.point.ticks && !s.timer.isSome)
  timer : s.point.ticks = false → s.timer = none
  taken : s.taken = s.finished + s.scan.toList.length
  issued : s.taken ≤ s.issued
  works : s.point.works = false → s.issued = s.finished
  awaited : ∀ n, s.point = .awaitFlush n → n = s.issued
  knobs : ∀ knob, knob.least ≤ s.knobs.get knob ∧ s.knobs.get knob ≤ knob.most
  delay : s.pending = true → 100 ≤ s.delay

variable {s : Scanner}

theorem knobs_loaded (knob : Knob) :
    knob.least ≤ Knobs.loaded.get knob ∧ Knobs.loaded.get knob ≤ knob.most := by
  cases knob <;> decide

theorem set_get (k : Knobs) (knob other : Knob) (v : Int) :
    (k.set knob v).get other = if other = knob then v else k.get other := by
  cases knob <;> cases other <;> rfl

theorem minmax_within {k : Knobs} (h : ∀ o : Knob, o.least ≤ k.get o ∧ k.get o ≤ o.most)
    (knob : Knob) (v : Int) (o : Knob) :
    o.least ≤ (procDointvecMinmax k knob v).get o ∧ (procDointvecMinmax k knob v).get o ≤ o.most := by
  unfold procDointvecMinmax
  split
  · rename_i hv
    rw [set_get]
    split
    · rename_i ho
      exact ho ▸ hv
    · exact h o
  · exact h o

theorem out_good (ksmRun : Nat) : Good (.out ksmRun) where
  objects := rfl
  header := fun h => h
  armed := rfl
  timer := fun _ => rfl
  taken := rfl
  issued := Nat.le_refl 0
  works := fun _ => rfl
  awaited := fun _ h => by cases h
  knobs := knobs_loaded
  delay := fun h => by cases h

theorem works_of_ticks {p : Point} (h : p.works = false) : p.ticks = false := by
  cases p <;> first | rfl | cases h

theorem Good.resting (h : Good s) (hw : s.point.works = false) : s.Resting := by
  have ht := works_of_ticks hw
  have hissued := h.works hw
  have htaken := h.taken
  have hle := h.issued
  refine ⟨?_,h.timer ht,hissued,?_⟩
  · simpa [ht] using h.armed
  · have hlen : s.scan.toList.length = 0 := by omega
    simpa using hlen

theorem good_quiet (h : Good s) : Quiet s where
  released := by
    intro hp
    have ho := h.objects
    rw [hp] at ho
    obtain ⟨hq,hd,hs,hr⟩ : _ ∧ _ ∧ _ ∧ _ := by simpa [Point.objects] using ho
    exact ⟨hq,hd,hs,hr,h.resting (by rw [hp]; rfl)⟩
  serving := by
    intro hp
    have ho := h.objects
    have ha := h.armed
    rw [hp] at ho ha
    obtain ⟨hq,hd,hs,hr⟩ : _ ∧ _ ∧ _ ∧ _ := by simpa [Point.objects] using ho
    exact ⟨hq,hd,hs,hr,by simpa [Point.ticks] using ha⟩
  knobs := h.knobs
  delay := h.delay

theorem insmod_good (h : Good s) : Good (step s .insmod) := by
  simp only [step]
  split
  · exact { out_good s.ksmRun with
      objects := rfl
      works := fun _ => rfl
      timer := fun _ => rfl
      awaited := fun _ h => by cases h }
  · exact h

theorem rmmod_good (h : Good s) : Good (step s .rmmod) := by
  simp only [step]
  split
  · rename_i hp
    have ho := h.objects
    have ha := h.armed
    have ht := h.timer
    have hw := h.works
    rw [hp] at ho ha ht hw
    exact { h with
      objects := ho
      armed := ha
      timer := ht
      works := hw
      awaited := fun _ h => by cases h }
  · exact h

theorem expire_good (h : Good s) : Good (step s .expire) := by
  simp only [step]
  split
  · rename_i hc
    obtain ⟨hp,ht⟩ := hc
    have hticks : s.point.ticks = true := by
      have ha := h.armed
      rw [hp,ht] at ha
      simpa using ha.symm
    exact { h with
      armed := by simp
      timer := fun hn => by rw [hticks] at hn; cases hn
      delay := fun hd => by cases hd }
  · exact h

theorem ticks_of_timer (h : Good s) {p : TimerPoint} (ht : s.timer = some p) :
    s.point.ticks = true := by
  by_contra hn
  have := h.timer (by simpa using hn)
  rw [ht] at this
  cases this

theorem works_of_live {p : Point} (h : p.ticks = true) : p.works = true := by
  cases p <;> first | rfl | cases h

theorem awaits_not {p : Point} (h : p.ticks = true) (n : Nat) : p ≠ .awaitFlush n := by
  rintro rfl
  cases h

theorem queue_good (h : Good s) (hticks : s.point.ticks = true) : Good (queueWork s) := by
  unfold queueWork
  split
  · exact h
  · have hi := h.issued
    exact { h with
      issued := Nat.le_succ_of_le hi
      works := fun hn => by rw [works_of_live hticks] at hn; cases hn
      awaited := fun n hn => absurd hn (awaits_not hticks n) }

theorem timer_good (h : Good s) : Good (step s .timer) := by
  simp only [step,uroamScanTimerFn]
  split
  · exact h
  · rename_i ht
    have hticks := ticks_of_timer h ht
    have hq := queue_good h hticks
    have hf : (queueWork s).point = s.point ∧ (queueWork s).pending = s.pending ∧
        (queueWork s).timer = s.timer := by
      unfold queueWork
      split <;> exact ⟨rfl,rfl,rfl⟩
    have ha := hq.armed
    rw [hf.1,hf.2.2,hticks,ht] at ha
    exact { hq with
      armed := by simpa [hf.1,hticks] using ha
      timer := fun hn => by rw [hf.1,hticks] at hn; cases hn }
  · rename_i ht
    have hticks := ticks_of_timer h ht
    exact { h with
      armed := by simp [hticks]
      timer := fun _ => rfl
      delay := fun _ => (h.knobs .scanIntervalMs).1 }

theorem Good.moved (h : Good s) {q p : Point} (hq : s.point = q) (hqw : q.works = false)
    (hpw : p.works = false) {w d e r o : Bool}
    (hobjects : (s.workqueue,s.procDir,s.procStatus,s.registered) = q.objects →
      (w,d,e,r) = p.objects) (hheader : r = true → o = true) :
    Good { s with
      workqueue := w, procDir := d, procStatus := e, registered := r, sysctlHeader := o
      point := p } :=
  have hr := h.resting (hq ▸ hqw)
  { h with
    objects := hobjects (hq ▸ h.objects)
    header := hheader
    armed := by simp [hr.pending,works_of_ticks hpw]
    timer := fun _ => hr.timer
    works := fun _ => hr.issued
    awaited := fun _ hn => by rw [show p = _ from hn] at hpw; cases hpw }

theorem start_good (h : Good s) (hp : s.point = .modTimer) :
    Good { s with pending := true, delay := 5000, point := .live } :=
  have hrest := h.resting (by rw [hp]; rfl)
  { h with
    objects := by rw [h.objects,hp]; rfl
    armed := by simp [hrest.timer,Point.ticks]
    timer := fun hn => by cases hn
    works := fun hn => by cases hn
    awaited := fun _ hn => by cases hn
    delay := fun _ => show (100 : Int) ≤ 5000 by decide }

theorem stop_good (h : Good s) (hp : s.point = .delTimerSync) (ht : s.timer = none) :
    Good { s with pending := false, point := .flushWorkqueue } :=
  { h with
    objects := by rw [h.objects,hp]; rfl
    armed := by simp [Point.ticks]
    timer := fun _ => ht
    works := fun hn => by cases hn
    awaited := fun _ hn => by cases hn
    delay := fun hn => by cases hn }

theorem flush_good (h : Good s) (hp : s.point = .flushWorkqueue) :
    Good { s with point := .awaitFlush s.issued } :=
  { h with
    objects := by rw [h.objects,hp]; rfl
    armed := by rw [h.armed,hp]; rfl
    timer := fun _ => h.timer (by rw [hp]; rfl)
    works := fun hn => by cases hn
    awaited := fun n hn => by cases hn; rfl }

theorem flushed_good (h : Good s) {n : Nat} (hp : s.point = .awaitFlush n) (hle : n ≤ s.finished) :
    Good { s with point := .unregisterSysctl } :=
  have hn := h.awaited n hp
  have htaken := h.taken
  have hissued := h.issued
  { h with
    objects := by rw [h.objects,hp]; rfl
    armed := by rw [h.armed,hp]; rfl
    timer := fun _ => h.timer (by rw [hp]; rfl)
    works := fun _ => show s.issued = s.finished by omega
    awaited := fun _ hn => by cases hn }

theorem call_good (h : Good s) (granted : Bool) : Good (step s (.call granted)) := by
  have hr := h.header
  simp only [step]
  cases hp : s.point with
  | out => simpa [call,hp] using h
  | live => simpa [call,hp] using h
  | allocWorkqueue =>
    simp only [call,hp]
    split
    · exact h.moved hp rfl rfl (by simp +contextual [Point.objects]) hr
    · exact h.moved hp rfl rfl id hr
  | procMkdir =>
    simp only [call,hp]
    split
    · exact h.moved hp rfl rfl (by simp +contextual [Point.objects]) hr
    · exact h.moved hp rfl rfl id hr
  | procCreate =>
    simp only [call,hp]
    split
    · exact h.moved hp rfl rfl (by simp +contextual [Point.objects]) hr
    · exact h.moved hp rfl rfl id hr
  | registerSysctl =>
    simp only [call,hp]
    split
    · exact h.moved hp rfl rfl (by simp +contextual [Point.objects]) fun _ => rfl
    · exact h.moved hp rfl rfl id hr
  | modTimer =>
    simp only [call,hp]
    exact start_good h hp
  | errSysctl =>
    simp only [call,hp]
    exact h.moved hp rfl rfl (by simp +contextual [Point.objects]) hr
  | errEntry =>
    simp only [call,hp]
    exact h.moved hp rfl rfl (by simp +contextual [Point.objects]) hr
  | errProc =>
    simp only [call,hp]
    exact h.moved hp rfl rfl (by simp +contextual [Point.objects]) hr
  | delTimerSync =>
    simp only [call,hp]
    split
    · rename_i ht
      exact stop_good h hp ht
    · exact h
  | flushWorkqueue =>
    simp only [call,hp]
    exact flush_good h hp
  | awaitFlush n =>
    simp only [call,hp]
    split
    · rename_i hle
      exact flushed_good h hp hle
    · exact h
  | unregisterSysctl =>
    have hg : s.registered = true := by
      have ho := h.objects
      rw [hp] at ho
      exact (Prod.mk.inj (Prod.mk.inj (Prod.mk.inj ho).2).2).2
    simp only [call,hp,hr hg,if_true]
    exact h.moved hp rfl rfl (by simp +contextual [Point.objects]) fun hn => by cases hn
  | removeStatus =>
    simp only [call,hp]
    exact h.moved hp rfl rfl (by simp +contextual [Point.objects]) hr
  | removeDir =>
    simp only [call,hp]
    exact h.moved hp rfl rfl (by simp +contextual [Point.objects]) hr
  | destroyWorkqueue =>
    simp only [call,hp]
    exact h.moved hp rfl rfl (by simp +contextual [Point.objects]) hr

theorem scan_fn_good (h : Good s) {p : ScanPoint} (hp : s.scan = some p) :
    Good (uroamScanWorkFn s p) := by
  have ht : s.taken = s.finished + 1 := by simpa [hp] using h.taken
  have hi := h.issued
  have hw : s.point.works = false → False := fun hn => by
    have := h.works hn
    omega
  cases p with
  | leave => exact { h with
      taken := ht
      works := fun hn => (hw hn).elim }
  | _ => exact { h with taken := ht }

theorem worker_good (h : Good s) : Good (step s .worker) := by
  simp only [step,worker]
  split
  · rename_i hscan
    split
    · rename_i hlt
      have ht : s.taken = s.finished := by simpa [hscan] using h.taken
      exact { h with
        taken := by rw [ht]; rfl
        issued := hlt }
    · exact h
  · rename_i p hscan
    exact scan_fn_good h hscan

theorem step_good (h : Good s) (t : Turn) : Good (step s t) := by
  cases t with
  | insmod => exact insmod_good h
  | rmmod => exact rmmod_good h
  | call granted => exact call_good h granted
  | expire => exact expire_good h
  | timer => exact timer_good h
  | worker => exact worker_good h
  | sysctl knob v =>
    simp only [step]
    split
    · exact { h with knobs := minmax_within h.knobs knob v }
    · exact h
  | ksm run => exact { h with }

theorem works_objects {p : Point} (h : p.works = true) : p.objects.1 = true ∧ p ≠ .out := by
  cases p <;> first | exact ⟨rfl,fun hn => by cases hn⟩ | cases h

theorem Good.workqueue (h : Good s) (hw : s.point.works = true) :
    s.workqueue = true ∧ s.point ≠ .out := by
  obtain ⟨hq,hout⟩ := works_objects hw
  rw [← h.objects] at hq
  exact ⟨hq,hout⟩

theorem Good.outstanding (h : Good s) (ho : s.taken < s.issued ∨ s.scan ≠ none) :
    s.point.works = true := by
  by_contra hn
  obtain ⟨_,_,hissued,hscan⟩ := h.resting (by simpa using hn)
  have ht : s.taken = s.finished := by simpa [hscan] using h.taken
  rcases ho with hlt | hne
  · omega
  · exact hne hscan

theorem good_sound (h : Good s) (t : Turn) : Sound s t := by
  cases t with
  | call granted =>
    have ho := h.objects
    simp only [Sound]
    cases hp : s.point with
    | errSysctl => simp_all [Point.objects]
    | removeStatus => simp_all [Point.objects]
    | errEntry => simp_all [Point.objects]
    | removeDir => simp_all [Point.objects]
    | unregisterSysctl => simp_all [Point.objects]
    | errProc =>
      have hq : s.workqueue = true := by simp_all [Point.objects]
      exact ⟨hq,h.resting (by rw [hp]; rfl)⟩
    | destroyWorkqueue =>
      have hq : s.workqueue = true := by simp_all [Point.objects]
      exact ⟨hq,h.resting (by rw [hp]; rfl)⟩
    | _ => trivial
  | timer =>
    intro ht
    obtain ⟨p,hp⟩ := Option.ne_none_iff_exists'.mp ht
    exact h.workqueue (works_of_live (ticks_of_timer h hp))
  | worker => exact fun ho => h.workqueue (h.outstanding ho)
  | _ => trivial

theorem kmod_quiet (ksmRun : Nat) (turns : List Turn) :
    Throughout step Quiet (.out ksmRun) turns ∧ Along step Sound (.out ksmRun) turns := by
  constructor
  · exact throughout_of_invariant step (fun _ t h => step_good h t) (fun _ => good_quiet) turns
      (.out ksmRun) (out_good ksmRun)
  · exact along_of_invariant step (fun _ t h _ => ⟨step_good h t,good_sound h t⟩) turns
      (.out ksmRun) (out_good ksmRun) (along_true step turns (.out ksmRun))

def StopKept (s : Scanner) (t : Turn) : Prop :=
  (∀ run, t ≠ .ksm run) → s.ksmRun = ksmRunStop → (step s t).ksmRun = ksmRunStop

def StopTimely (s : Scanner) (t : Turn) : Prop :=
  t = .ksm ksmRunStop → s.scan ≠ some .setMerge

def LosesStop (s : Scanner) : Prop := s.scan = some .setMerge ∧ s.ksmRun = ksmRunStop

theorem call_frame (granted : Bool) :
    (call s granted).scan = s.scan ∧ (call s granted).ksmRun = s.ksmRun := by
  unfold call
  split <;> first | exact ⟨rfl,rfl⟩ | split <;> exact ⟨rfl,rfl⟩

theorem timer_frame :
    (uroamScanTimerFn s).scan = s.scan ∧ (uroamScanTimerFn s).ksmRun = s.ksmRun := by
  unfold uroamScanTimerFn queueWork
  split <;> first | exact ⟨rfl,rfl⟩ | split <;> exact ⟨rfl,rfl⟩

theorem other_frame {t : Turn} (hw : t ≠ .worker) (hk : ∀ run, t ≠ .ksm run) :
    ((step s t).scan = none ∨ (step s t).scan = s.scan) ∧ (step s t).ksmRun = s.ksmRun := by
  cases t with
  | insmod =>
    simp only [step]
    split
    · exact ⟨.inl rfl,rfl⟩
    · exact ⟨.inr rfl,rfl⟩
  | rmmod =>
    simp only [step]
    split <;> exact ⟨.inr rfl,rfl⟩
  | call granted => exact ⟨.inr (call_frame granted).1,(call_frame granted).2⟩
  | expire =>
    simp only [step]
    split <;> exact ⟨.inr rfl,rfl⟩
  | timer => exact ⟨.inr timer_frame.1,timer_frame.2⟩
  | worker => exact absurd rfl hw
  | sysctl knob v =>
    simp only [step]
    split <;> exact ⟨.inr rfl,rfl⟩
  | ksm run => exact absurd rfl (hk run)

theorem worker_ksmRun (h : s.ksmRun = ksmRunStop) :
    (step s .worker).ksmRun = ksmRunStop ↔ s.scan ≠ some .setMerge := by
  simp only [step,worker]
  cases hs : s.scan with
  | none =>
    dsimp only
    split <;> simp [h]
  | some p => cases p <;> simp [uroamScanWorkFn,h,ksmRunMerge,ksmRunStop]

theorem worker_reaches (h : (step s .worker).scan = some .setMerge) :
    (step s .worker).ksmRun ≠ ksmRunStop := by
  simp only [step,worker] at h ⊢
  cases hs : s.scan with
  | none =>
    rw [hs] at h
    dsimp only at h
    split at h <;> simp [hs] at h
  | some p =>
    rw [hs] at h
    cases p with
    | testKsmRun =>
      dsimp only [uroamScanWorkFn] at h ⊢
      split at h
      · simp at h
      · rename_i hr
        exact hr
    | _ => simp [uroamScanWorkFn] at h <;> split at h <;> simp at h

theorem stopKept_iff (t : Turn) : StopKept s t ↔ ¬ (LosesStop s ∧ t = .worker) := by
  constructor
  · rintro h ⟨⟨hs,hr⟩,rfl⟩
    exact (worker_ksmRun hr).mp (h (fun _ hn => by cases hn) hr) hs
  · intro h hk hr
    by_cases hw : t = .worker
    · subst hw
      exact (worker_ksmRun hr).mpr fun hs => h ⟨⟨hs,hr⟩,rfl⟩
    · rw [(other_frame hw hk).2]
      exact hr

theorem timely_step {t : Turn} (h : ¬ LosesStop s) (ht : StopTimely s t) :
    ¬ LosesStop (step s t) := by
  rintro ⟨hs,hr⟩
  by_cases hw : t = .worker
  · rw [hw] at hs hr
    exact worker_reaches hs hr
  · by_cases hk : ∀ run, t ≠ .ksm run
    · obtain ⟨hscan,hrun⟩ := other_frame (s := s) hw hk
      rw [hrun] at hr
      rcases hscan with hscan | hscan
      · rw [hscan] at hs
        cases hs
      · rw [hscan] at hs
        exact h ⟨hs,hr⟩
    · push Not at hk
      obtain ⟨run,rfl⟩ := hk
      have hrun : run = ksmRunStop := hr
      exact ht (by rw [hrun]) hs

theorem worker_timely (n : Nat) : Along step StopTimely s (List.replicate n .worker) := by
  induction n generalizing s with
  | zero => trivial
  | succ n ih => exact ⟨(fun h => by cases h),ih⟩

theorem stop_kept_iff (ksmRun : Nat) (turns : List Turn) :
    (∀ pre, pre <+: turns → ∀ n,
      Along step StopKept (.out ksmRun) (pre ++ List.replicate n .worker)) ↔
    Along step StopTimely (.out ksmRun) turns := by
  constructor
  · intro h
    rw [along_iff]
    rintro pre _ hpre rfl hs
    have hkept := (along_append step _ _ _).mp (h (pre ++ [.ksm ksmRunStop]) hpre 1)
    have hloses : LosesStop (exec step (.out ksmRun) (pre ++ [.ksm ksmRunStop])) := by
      rw [exec_append]
      exact ⟨hs,rfl⟩
    exact (stopKept_iff .worker).mp hkept.2.1 ⟨hloses,rfl⟩
  · rintro h pre ⟨rest,rfl⟩ n
    have htimely : Along step StopTimely (.out ksmRun) (pre ++ List.replicate n .worker) :=
      (along_append step _ _ _).mpr ⟨((along_append step _ _ _).mp h).1,worker_timely n⟩
    have hout : ¬ LosesStop (.out ksmRun) := fun hl => by cases hl.1
    apply along_of_invariant step (G := fun s => ¬ LosesStop s) _ _ _ hout htimely
    exact fun _ t hl ht => ⟨timely_step hl ht,(stopKept_iff t).mpr fun hn => hl hn.1⟩

end Uroam.Kmod
