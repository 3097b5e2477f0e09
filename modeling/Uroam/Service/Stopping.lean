import Uroam.Service.Answering

namespace Uroam.Service.Ipc
open Runs

variable {s : IpcServer} {l : Listener}

structure Listener.Waiting (l : Listener) : Prop where
  point : l.point = .accept
  backlog : l.backlog = []

structure Stranded (s : IpcServer) (i : Nat) : Prop where
  bound : i < s.bound
  unlinked : s.path ≠ some i
  owner : s.owner ≠ .setRunning i ∧ s.owner ≠ .spawn i
  waiting : (s.listeners i).Waiting

theorem thread_waiting (h : l.Waiting) (running : Bool) (ready : Nat → Bool) :
    l.thread running ready = l := by
  simp [Listener.thread,h.point,h.backlog]

structure Advances (s t : IpcServer) : Prop where
  bound : s.bound ≤ t.bound
  path : ∀ i, t.path = some i → s.path = some i ∨ i = s.bound
  setRunning : ∀ i, t.owner = .setRunning i → i = s.bound
  spawn : ∀ i, t.owner = .spawn i → s.owner = .setRunning i

theorem owner_advances (granted : Bool) : Advances s (s.step (.owner granted)) := by
  simp only [IpcServer.step,IpcServer.ownerTurn]
  cases ho : s.owner with
  | idle => exact ⟨Nat.le_refl _,fun i => .inl,by simp [ho],by simp [ho]⟩
  | bind =>
    dsimp only
    split_ifs
    · exact ⟨Nat.le_succ _,by simp [eq_comm],by simp [eq_comm],by simp⟩
    · exact ⟨Nat.le_refl _,fun i => .inl,by simp,by simp⟩
  | setRunning j => exact ⟨Nat.le_refl _,fun i => .inl,by simp,by simp [ho]⟩
  | spawn j => exact ⟨Nat.le_refl _,fun i => .inl,by simp,by simp⟩
  | clearRunning => exact ⟨Nat.le_refl _,fun i => .inl,by simp,by simp⟩
  | removeStale =>
    cases granted <;> exact ⟨Nat.le_refl _,fun i hi => .inl (removeFile_path hi),by simp,by simp⟩
  | removeFile =>
    cases granted <;> exact ⟨Nat.le_refl _,fun i hi => .inl (removeFile_path hi),by simp,by simp⟩

theorem owner_stranded {i : Nat} (h : Stranded s i) (granted : Bool) :
    Stranded (s.step (.owner granted)) i := by
  obtain ⟨hbound,hpath,hset,hspawn⟩ := owner_advances (s := s) granted
  have hne : i ≠ s.bound := Nat.ne_of_lt h.bound
  refine ⟨Nat.lt_of_lt_of_le h.bound hbound,fun hp => ?_,⟨fun ho => ?_,fun ho => ?_⟩,?_⟩
  · exact (hpath i hp).elim h.unlinked hne
  · exact hne (hset i ho)
  · exact h.owner.1 (hspawn i ho)
  · rw [owner_listener h.owner.2]
    exact h.waiting

theorem connect_stranded {i : Nat} (h : s.path ≠ some i) :
    (s.step .connect).listeners i = s.listeners i := by
  simp only [IpcServer.step]
  split
  · rfl
  · rename_i j hj
    have hij : i ≠ j := fun hij => h (hij ▸ hj)
    exact (set_listener j i _).trans (if_neg hij)

theorem thread_stranded {i : Nat} (h : (s.listeners i).Waiting) (j : Nat) :
    (s.step (.thread j)).listeners i = s.listeners i := by
  rw [IpcServer.step,set_listener]
  split
  · rename_i hij
    rw [← hij]
    exact thread_waiting h s.running s.ready
  · rfl

theorem step_stranded {i : Nat} (h : Stranded s i) (t : Turn) :
    Stranded (s.step t) i ∧ (s.step t).listeners i = s.listeners i := by
  cases t with
  | start =>
    simp only [IpcServer.step]
    split
    · exact ⟨{ h with owner := by simp },rfl⟩
    · exact ⟨h,rfl⟩
  | stop =>
    simp only [IpcServer.step]
    split
    · exact ⟨{ h with owner := by simp },rfl⟩
    · exact ⟨h,rfl⟩
  | owner granted => exact ⟨owner_stranded h granted,owner_listener h.owner.2 granted⟩
  | connect =>
    have hsame := connect_stranded h.unlinked
    have hframe : (s.step .connect).bound = s.bound ∧ (s.step .connect).path = s.path ∧
        (s.step .connect).owner = s.owner := by
      simp only [IpcServer.step]
      split <;> exact ⟨rfl,rfl,rfl⟩
    obtain ⟨hbound,hpath,howner⟩ := hframe
    exact ⟨⟨hbound ▸ h.bound,hpath ▸ h.unlinked,howner ▸ h.owner,hsame ▸ h.waiting⟩,hsame⟩
  | speak conn => exact ⟨{ h with },rfl⟩
  | thread j =>
    have hsame := thread_stranded h.waiting j
    exact ⟨⟨h.bound,h.unlinked,h.owner,hsame ▸ h.waiting⟩,hsame⟩

theorem stranded_forever {i : Nat} (h : Stranded s i) (turns : List Turn) :
    (exec IpcServer.step s turns).listeners i = s.listeners i := by
  induction turns generalizing s with
  | nil => rfl
  | cons t turns ih =>
    obtain ⟨hnext,hsame⟩ := step_stranded h t
    exact (ih hnext).trans hsame

def Listener.Woken (l : Listener) : Prop :=
  match l.point with
  | .accept => l.backlog ≠ []
  | .unspawned => False
  | .handle _ => False
  | _ => True

theorem woken_thread (h : l.Woken) (ready : Nat → Bool) :
    (l.thread false ready).Woken ∧ (l.thread false ready).point ≠ .accept := by
  unfold Listener.Woken at h
  unfold Listener.thread
  cases hp : l.point with
  | accept =>
    cases hb : l.backlog with
    | nil => simp [hp,hb] at h
    | cons conn rest => simp [Listener.Woken]
  | handle conn => simp [hp] at h
  | unspawned => simp [hp] at h
  | testRunning conn => simp [Listener.Woken]
  | closing conn => simp [Listener.Woken]
  | ended => simp [Listener.Woken,hp]

theorem woken_connect (h : l.Waiting ∨ l.Woken) (conn : Nat) : (l.connect conn).Woken := by
  unfold Listener.connect
  split
  · rename_i hp
    simp [Listener.Woken,hp]
  · rcases h with h | h
    · simp [Listener.Woken,h.point]
    · unfold Listener.Woken at h ⊢
      cases hp : l.point <;> simp_all

structure Halted (s : IpcServer) (i : Nat) : Prop where
  owner : s.owner = .removeFile
  down : s.running = false
  path : s.path = some i

theorem connect_listener {i : Nat} (h : s.path = some i) :
    (s.step .connect).listeners i = (s.listeners i).connect s.clients := by
  simp only [IpcServer.step,h]
  exact (set_listener i i _).trans (if_pos rfl)

theorem connect_wakes {i : Nat} (hpath : s.path = some i)
    (h : (s.listeners i).Waiting ∨ (s.listeners i).Woken) : ((s.step .connect).listeners i).Woken := by
  rw [connect_listener hpath]
  exact woken_connect h s.clients

theorem halted_busy {i : Nat} (h : Halted s i) : s.step .start = s ∧ s.step .stop = s := by
  simp [IpcServer.step,h.owner]

theorem step_halted {i : Nat} (h : Halted s i) {t : Turn} (ht : ∀ b, t ≠ .owner b) :
    Halted (s.step t) i := by
  cases t with
  | start => rwa [(halted_busy h).1]
  | stop => rwa [(halted_busy h).2]
  | owner b => exact absurd rfl (ht b)
  | connect =>
    simp only [IpcServer.step,h.path]
    exact ⟨h.owner,h.down,h.path⟩
  | speak conn => exact { h with }
  | thread j => exact ⟨h.owner,h.down,h.path⟩

theorem step_woken {i : Nat} (h : Halted s i) {t : Turn} (ht : ∀ b, t ≠ .owner b)
    (hl : (s.listeners i).Woken) : ((s.step t).listeners i).Woken := by
  cases t with
  | start => rwa [(halted_busy h).1]
  | stop => rwa [(halted_busy h).2]
  | owner b => exact absurd rfl (ht b)
  | connect => exact connect_wakes h.path (.inr hl)
  | speak conn => exact hl
  | thread j =>
    rw [IpcServer.step,set_listener]
    split
    · rename_i hij
      rw [← hij,h.down]
      exact (woken_thread hl s.ready).1
    · exact hl

theorem step_waiting {i : Nat} (h : Halted s i) {t : Turn} (ht : ∀ b, t ≠ .owner b)
    (hc : t ≠ .connect) (hl : (s.listeners i).Waiting) : ((s.step t).listeners i).Waiting := by
  cases t with
  | start => rwa [(halted_busy h).1]
  | stop => rwa [(halted_busy h).2]
  | owner b => exact absurd rfl (ht b)
  | connect => exact absurd rfl hc
  | speak conn => exact hl
  | thread j => exact (thread_stranded hl j).symm ▸ hl

theorem halted_run {i : Nat} (between : List Turn) (hbetween : ∀ b, .owner b ∉ between) :
    ∀ {s : IpcServer}, Halted s i → Halted (exec IpcServer.step s between) i ∧
      ((s.listeners i).Woken → ((exec IpcServer.step s between).listeners i).Woken) ∧
      ((s.listeners i).Waiting →
        if .connect ∈ between then ((exec IpcServer.step s between).listeners i).Woken
        else ((exec IpcServer.step s between).listeners i).Waiting) := by
  induction between with
  | nil => exact fun h => ⟨h,id,id⟩
  | cons t between ih =>
    intro s h
    have ht : ∀ b, t ≠ .owner b := fun b hb => hbetween b (hb ▸ List.mem_cons_self ..)
    obtain ⟨hhalted,hwoken,hwaiting⟩ :=
      ih (fun b hb => hbetween b (List.mem_cons_of_mem t hb)) (step_halted h ht)
    refine ⟨hhalted,fun hl => hwoken (step_woken h ht hl),fun hl => ?_⟩
    by_cases hc : t = .connect
    · subst hc
      rw [if_pos (List.mem_cons_self ..)]
      exact hwoken (connect_wakes h.path (.inl hl))
    · have hmem : (.connect ∈ t :: between) ↔ .connect ∈ between := by
        simp [List.mem_cons,Ne.symm hc]
      simp only [hmem]
      exact hwaiting (step_waiting h ht hc hl)

theorem woken_leaves {i : Nat} (hdown : s.running = false) (h : (s.listeners i).Woken) :
    ((exec IpcServer.step s [.thread i]).listeners i).point ≠ .accept := by
  have hself : (s.step (.thread i)).listeners i = (s.listeners i).thread false s.ready :=
    (set_listener i i _).trans ((if_pos rfl).trans (by rw [hdown]))
  rw [exec_cons,exec_nil,hself]
  exact (woken_thread h s.ready).2

theorem halted_removes {i : Nat} (h : Halted s i) (removed : Bool) :
    s.step (.owner removed) = { s.removeFile removed with owner := .idle } := by
  simp [IpcServer.step,IpcServer.ownerTurn,h.owner]

theorem removed_leaves_iff {i : Nat} {c : Prop} [Decidable c] (hg : Good s) (h : Halted s i)
    (hl : if c then (s.listeners i).Woken else (s.listeners i).Waiting) (removed : Bool) :
    (∀ later, ((exec IpcServer.step (s.step (.owner removed)) later).listeners i).point = .accept) ↔
      removed = true ∧ ¬ c := by
  have hkept : (s.step (.owner removed)).listeners i = s.listeners i := by
    rw [halted_removes h]
    cases removed <;> rfl
  have hdown : (s.step (.owner removed)).running = false := by
    rw [halted_removes h]
    cases removed <;> exact h.down
  constructor
  · intro hall
    by_cases hc : c
    · rw [if_pos hc,← hkept] at hl
      exact absurd (hall [.thread i]) (woken_leaves hdown hl)
    · rw [if_neg hc,← hkept] at hl
      cases removed with
      | true => exact ⟨rfl,hc⟩
      | false =>
        have hpath : (s.step (.owner false)).path = some i := by
          rw [halted_removes h]
          exact h.path
        have hflag : ((s.step (.owner false)).step .connect).running = false := by
          simp only [IpcServer.step] at hpath ⊢
          rw [hpath]
          exact hdown
        exact absurd (hall [.connect,.thread i]) (woken_leaves hflag (connect_wakes hpath (.inl hl)))
  · rintro ⟨rfl,hc⟩ later
    rw [if_neg hc] at hl
    have hstranded : Stranded (s.step (.owner true)) i := by
      rw [halted_removes h]
      exact ⟨hg.path i h.path,by simp [IpcServer.removeFile],by simp,hl⟩
    rw [stranded_forever hstranded later,hkept]
    exact hl.point

theorem stop_halts {i : Nat} (hidle : s.owner = .idle) (hpath : s.path = some i)
    (hwaits : (s.listeners i).Waiting) (granted : Bool) :
    Halted (exec IpcServer.step s [.stop,.owner granted]) i ∧
      ((exec IpcServer.step s [.stop,.owner granted]).listeners i).Waiting := by
  simp only [exec_cons,exec_nil,IpcServer.step,hidle,if_true,IpcServer.ownerTurn]
  exact ⟨⟨rfl,rfl,hpath⟩,hwaits⟩

theorem stop_leaves_thread (turns between : List Turn) (i : Nat)
    (hidle : (exec IpcServer.step .new turns).owner = .idle)
    (hpath : (exec IpcServer.step .new turns).path = some i)
    (hwaits : ((exec IpcServer.step .new turns).listeners i).Waiting)
    (hbetween : ∀ b, .owner b ∉ between) (granted removed : Bool) :
    let stopped := turns ++ [.stop,.owner granted] ++ between ++ [.owner removed]
    (exec IpcServer.step .new stopped).running = false ∧
    ((∀ later, ((exec IpcServer.step .new (stopped ++ later)).listeners i).point = .accept) ↔
      removed = true ∧ .connect ∉ between) := by
  intro stopped
  have hgood := invariant IpcServer.step (I := Good) (fun _ t h _ => step_good h t)
    (turns ++ [.stop,.owner granted] ++ between) .new new_good (along_true IpcServer.step _ .new)
  have hstopped : exec IpcServer.step .new stopped =
      (exec IpcServer.step .new (turns ++ [.stop,.owner granted] ++ between)).step (.owner removed) :=
    exec_append IpcServer.step _ _ _
  obtain ⟨hcleared,hstill⟩ := stop_halts hidle hpath hwaits granted
  obtain ⟨hhalted,-,hwaiting⟩ := halted_run between hbetween hcleared
  simp only [exec_append IpcServer.step _ stopped,hstopped]
  rw [exec_append,exec_append] at hgood ⊢
  refine ⟨?_,removed_leaves_iff hgood hhalted (hwaiting hstill) removed⟩
  rw [halted_removes hhalted]
  cases removed <;> exact hhalted.down

theorem stop_leaves_thread_started :
    let stopped : List Turn := [.start,.owner true,.owner true,.owner true,.owner true] ++
      [.stop,.owner true] ++ [.thread 0] ++ [.owner true]
    (exec IpcServer.step .new stopped).running = false ∧
    ((∀ later, ((exec IpcServer.step .new (stopped ++ later)).listeners 0).point = .accept) ↔
      true = true ∧ Turn.connect ∉ [Turn.thread 0]) :=
  stop_leaves_thread [.start,.owner true,.owner true,.owner true,.owner true] [.thread 0] 0 rfl rfl
    ⟨rfl,rfl⟩ (by simp) true true

end Uroam.Service.Ipc
