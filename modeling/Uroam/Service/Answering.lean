import Uroam.Service.Server

namespace Uroam.Service.Ipc
open Runs

variable {s : IpcServer} {l : Listener}

-- While the flag is up and not about to fall, a connection is answered once its thread has had
-- three turns for it and for each one before it, if these have spoken.
def IpcServer.Prompt (s : IpcServer) : Prop :=
  ∀ i ahead conn behind, s.running = true → s.owner ≠ .clearRunning → (s.listeners i).point.Serving →
    (s.listeners i).point.inHand ++ (s.listeners i).backlog = ahead ++ conn :: behind →
    (∀ c ∈ ahead ++ [conn], s.ready c = true) →
    ∀ later : List Turn, .stop ∉ later → 3 * (ahead.length + 1) ≤ later.count (.thread i) →
      (conn,true) ∈ ((exec IpcServer.step s later).listeners i).served

def Listener.due (l : Listener) (k : Nat) : Nat :=
  match l.point with
  | .testRunning _ => 3 * k + 2
  | .handle _ => 3 * k + 1
  | _ => 3 * k + 3

structure Listener.Awaits (l : Listener) (ready : Nat → Bool) (conn k : Nat) : Prop where
  serving : l.point.Serving
  queued : ∃ ahead behind, l.point.inHand ++ l.backlog = ahead ++ conn :: behind ∧
    ahead.length = k ∧ ∀ c ∈ ahead ++ [conn], ready c = true

theorem connect_awaits {ready : Nat → Bool} {conn k : Nat} (h : l.Awaits ready conn k) (new : Nat) :
    (l.connect new).Awaits ready conn k ∧ (l.connect new).due k = l.due k := by
  obtain ⟨hserving,ahead,behind,hqueue,hlen,hready⟩ := h
  have hdue : (l.connect new).due k = l.due k := by
    rw [Listener.due,Listener.due,connect_point]
  refine ⟨⟨(connect_point new).symm ▸ hserving,ahead,?_⟩,hdue⟩
  unfold Listener.connect
  split
  · exact ⟨behind,hqueue,hlen,hready⟩
  · refine ⟨behind ++ [new],?_,hlen,hready⟩
    rw [← List.append_assoc,hqueue]
    simp

theorem thread_accept {conn : Nat} {rest : List Nat} (hp : l.point = .accept)
    (hb : l.backlog = conn :: rest) (running : Bool) (ready : Nat → Bool) :
    l.thread running ready = { l with point := .testRunning conn, backlog := rest } := by
  simp [Listener.thread,hp,hb]

theorem thread_testRunning {conn : Nat} (hp : l.point = .testRunning conn) (ready : Nat → Bool) :
    l.thread true ready = { l with point := .handle conn } := by
  simp [Listener.thread,hp]

theorem thread_handle {conn : Nat} {ready : Nat → Bool} (hp : l.point = .handle conn)
    (hr : ready conn = true) (running : Bool) :
    l.thread running ready = { l with point := .accept, served := l.served ++ [(conn,true)] } := by
  simp [Listener.thread,hp,hr]

theorem thread_awaits {ready : Nat → Bool} {conn k : Nat} (h : l.Awaits ready conn k) :
    (conn,true) ∈ (l.thread true ready).served ∨
      ∃ m, (l.thread true ready).Awaits ready conn m ∧
        (l.thread true ready).due m + 1 = l.due k := by
  obtain ⟨hserving,ahead,behind,hqueue,hlen,hready⟩ := h
  cases hp : l.point with
  | accept =>
    rw [hp] at hqueue
    change l.backlog = ahead ++ conn :: behind at hqueue
    cases hb : l.backlog with
    | nil => simp [hb] at hqueue
    | cons first rest =>
      rw [hb] at hqueue
      rw [thread_accept hp hb]
      refine .inr ⟨k,⟨trivial,ahead,behind,hqueue,hlen,hready⟩,?_⟩
      simp only [Listener.due,hp]
  | testRunning first =>
    rw [hp] at hqueue
    rw [thread_testRunning hp]
    refine .inr ⟨k,⟨trivial,ahead,behind,hqueue,hlen,hready⟩,?_⟩
    simp only [Listener.due,hp]
  | handle first =>
    rw [hp] at hqueue
    change first :: l.backlog = ahead ++ conn :: behind at hqueue
    cases ahead with
    | nil =>
      obtain ⟨rfl,-⟩ := List.cons.inj hqueue
      rw [thread_handle hp (hready first (by simp))]
      exact .inl (by simp)
    | cons c ahead =>
      obtain ⟨rfl,hrest⟩ := List.cons.inj hqueue
      rw [thread_handle hp (hready first (by simp))]
      refine .inr ⟨ahead.length,⟨trivial,ahead,behind,hrest,rfl,fun c hc => ?_⟩,?_⟩
      · exact hready c (List.mem_cons_of_mem first hc)
      · simp only [Listener.due,hp,← hlen,List.length_cons]
        omega
  | closing first => simp [AcceptPoint.Serving,hp] at hserving
  | unspawned => simp [AcceptPoint.Serving,hp] at hserving
  | ended => simp [AcceptPoint.Serving,hp] at hserving

theorem thread_served (running : Bool) (ready : Nat → Bool) {e : Nat × Bool} (h : e ∈ l.served) :
    e ∈ (l.thread running ready).served := by
  unfold Listener.thread
  split
  · split <;> exact h
  · exact h
  · split
    · exact List.mem_append_left _ h
    · exact h
  · simp [h]
  · exact h
  · exact h

theorem owner_listener {i : Nat} (h : s.owner ≠ .spawn i) (granted : Bool) :
    (s.step (.owner granted)).listeners i = s.listeners i := by
  simp only [IpcServer.step,IpcServer.ownerTurn]
  cases ho : s.owner with
  | bind =>
    dsimp only
    split_ifs <;> rfl
  | spawn j =>
    have hj : i ≠ j := fun hj => h (hj ▸ ho)
    exact (set_listener j i _).trans (if_neg hj)
  | removeStale => cases granted <;> rfl
  | removeFile => cases granted <;> rfl
  | _ => rfl

theorem owner_served {i : Nat} (granted : Bool) :
    ((s.step (.owner granted)).listeners i).served = (s.listeners i).served := by
  by_cases ho : s.owner = .spawn i
  · simp [IpcServer.step,IpcServer.ownerTurn,ho,set_listener]
  · rw [owner_listener ho]

theorem step_served {i : Nat} {e : Nat × Bool} (h : e ∈ (s.listeners i).served) (t : Turn) :
    e ∈ ((s.step t).listeners i).served := by
  have hset : ∀ j l, (e ∈ (s.listeners j).served → e ∈ l.served) →
      e ∈ ((s.set j l).listeners i).served := by
    intro j l hl
    rw [set_listener]
    split
    · rename_i hij
      exact hl (hij ▸ h)
    · exact h
  cases t with
  | start =>
    simp only [IpcServer.step]
    split <;> exact h
  | stop =>
    simp only [IpcServer.step]
    split <;> exact h
  | owner granted =>
    rw [owner_served]
    exact h
  | connect =>
    simp only [IpcServer.step]
    split
    · exact h
    · refine hset _ _ fun hj => ?_
      unfold Listener.connect
      split <;> exact hj
  | speak conn => exact h
  | thread j => exact hset j _ fun hj => thread_served s.running s.ready hj

theorem up_kept (hup : s.running = true) (hclear : s.owner ≠ .clearRunning) {t : Turn}
    (ht : t ≠ .stop) : (s.step t).running = true ∧ (s.step t).owner ≠ .clearRunning := by
  cases t with
  | start =>
    simp only [IpcServer.step]
    split
    · exact ⟨hup,by simp⟩
    · exact ⟨hup,hclear⟩
  | stop => exact absurd rfl ht
  | owner granted =>
    simp only [IpcServer.step,IpcServer.ownerTurn]
    cases ho : s.owner with
    | clearRunning => exact absurd ho hclear
    | bind =>
      dsimp only
      split_ifs <;> exact ⟨hup,by simp⟩
    | idle => exact ⟨hup,by simp [ho]⟩
    | setRunning j => exact ⟨rfl,by simp⟩
    | _ => cases granted <;> exact ⟨hup,by simp⟩
  | connect =>
    simp only [IpcServer.step]
    split <;> exact ⟨hup,hclear⟩
  | speak conn => exact ⟨hup,hclear⟩
  | thread j => exact ⟨hup,hclear⟩

def AnsweredIn (s : IpcServer) (i conn n : Nat) : Prop :=
  (conn,true) ∈ (s.listeners i).served ∨
    ∃ k, (s.listeners i).Awaits s.ready conn k ∧ (s.listeners i).due k ≤ n

theorem speak_awaits {ready : Nat → Bool} {conn k : Nat} (h : l.Awaits ready conn k) (c : Nat) :
    l.Awaits (Function.update ready c true) conn k := by
  obtain ⟨hserving,ahead,behind,hqueue,hlen,hready⟩ := h
  refine ⟨hserving,ahead,behind,hqueue,hlen,fun c' hc => ?_⟩
  by_cases hcc : c' = c
  · subst hcc
    exact Function.update_self c' true ready
  · exact (Function.update_of_ne hcc true ready).trans (hready c' hc)

theorem owner_ready (granted : Bool) : (s.step (.owner granted)).ready = s.ready := by
  simp only [IpcServer.step,IpcServer.ownerTurn]
  cases ho : s.owner with
  | bind =>
    dsimp only
    split_ifs <;> rfl
  | _ => cases granted <;> rfl

theorem serving_spawned (hg : Good s) {i : Nat} (h : (s.listeners i).point.Serving) :
    s.owner ≠ .spawn i := by
  intro ho
  have hstaged := hg.staged
  simp only [Staged,ho] at hstaged
  rw [hstaged.2] at h
  exact h

theorem answeredIn_kept {i conn n : Nat} (hg : Good s) (h : AnsweredIn s i conn n) {t : Turn}
    (ht : t ≠ .thread i) : AnsweredIn (s.step t) i conn n := by
  rcases h with h | ⟨k,hk,hdue⟩
  · exact .inl (step_served h t)
  · refine .inr ⟨k,?_⟩
    cases t with
    | start =>
      simp only [IpcServer.step]
      split <;> exact ⟨hk,hdue⟩
    | stop =>
      simp only [IpcServer.step]
      split <;> exact ⟨hk,hdue⟩
    | owner granted =>
      rw [owner_listener (serving_spawned hg hk.serving),owner_ready]
      exact ⟨hk,hdue⟩
    | connect =>
      simp only [IpcServer.step]
      split
      · exact ⟨hk,hdue⟩
      · rename_i j hj
        obtain ⟨hconnect,hsame⟩ := connect_awaits hk s.clients
        by_cases hij : i = j
        · subst hij
          rw [show ((s.set i _).listeners i) = _ from (set_listener i i _).trans (if_pos rfl)]
          exact ⟨hconnect,hsame.trans_le hdue⟩
        · rw [show ((s.set j _).listeners i) = _ from (set_listener j i _).trans (if_neg hij)]
          exact ⟨hk,hdue⟩
    | speak c => exact ⟨speak_awaits hk c,hdue⟩
    | thread j =>
      have hij : i ≠ j := fun hij => ht (hij ▸ rfl)
      rw [show (s.step (.thread j)).listeners i = _ from (set_listener j i _).trans (if_neg hij)]
      exact ⟨hk,hdue⟩

theorem answeredIn_thread {i conn n : Nat} (hup : s.running = true)
    (h : AnsweredIn s i conn (n + 1)) : AnsweredIn (s.step (.thread i)) i conn n := by
  rcases h with h | ⟨k,hk,hdue⟩
  · exact .inl (step_served h _)
  · have hself : (s.step (.thread i)).listeners i = (s.listeners i).thread true s.ready :=
      (set_listener i i _).trans ((if_pos rfl).trans (by rw [hup]))
    unfold AnsweredIn
    rw [hself]
    rcases thread_awaits hk with h | ⟨m,hm,hnext⟩
    · exact .inl h
    · exact .inr ⟨m,hm,by omega⟩

theorem answered_of_zero {i conn : Nat} (h : AnsweredIn s i conn 0) :
    (conn,true) ∈ (s.listeners i).served := by
  rcases h with h | ⟨k,_,hdue⟩
  · exact h
  · have hpositive : 0 < (s.listeners i).due k := by
      unfold Listener.due
      split <;> omega
    omega

theorem answered_of_turns {i conn : Nat} (later : List Turn) :
    ∀ {s : IpcServer} {n : Nat}, Good s → s.running = true → s.owner ≠ .clearRunning →
      AnsweredIn s i conn n → .stop ∉ later → n ≤ later.count (.thread i) →
      (conn,true) ∈ ((exec IpcServer.step s later).listeners i).served := by
  induction later with
  | nil =>
    intro s n _ _ _ h _ hn
    obtain rfl : n = 0 := Nat.le_zero.mp hn
    exact answered_of_zero h
  | cons t later ih =>
    intro s n hg hup hclear h hstop hn
    obtain ⟨ht,hlater⟩ := not_or.mp (mt List.mem_cons.mpr hstop)
    obtain ⟨hup',hclear'⟩ := up_kept hup hclear (Ne.symm ht)
    by_cases hthread : t = .thread i
    · subst hthread
      rw [List.count_cons_self] at hn
      cases n with
      | zero =>
        have hserved := step_served (answered_of_zero h) (.thread i)
        exact ih (step_good hg _) hup' hclear' (.inl hserved) hlater (Nat.zero_le _)
      | succ n => exact ih (step_good hg _) hup' hclear' (answeredIn_thread hup h) hlater (by omega)
    · rw [List.count_cons_of_ne hthread] at hn
      exact ih (step_good hg _) hup' hclear' (answeredIn_kept hg h hthread) hlater hn

theorem due_le (k : Nat) : l.due k ≤ 3 * (k + 1) := by
  unfold Listener.due
  split <;> omega

theorem good_prompt (hg : Good s) : s.Prompt := by
  intro i ahead conn behind hup hclear hserving hqueue hready later hstop hcount
  exact answered_of_turns later hg hup hclear
    (.inr ⟨ahead.length,⟨hserving,ahead,behind,hqueue,rfl,hready⟩,due_le _⟩) hstop hcount

theorem server_answers (turns : List Turn) :
    Throughout IpcServer.step (fun s => (∀ i, (s.listeners i).Sound s.clients) ∧ s.Prompt) .new turns ∧
    (Throughout IpcServer.step IpcServer.Answers .new turns ↔
      Along IpcServer.step Unlinks .new turns) :=
  ⟨throughout_of_invariant IpcServer.step (G := Good) (fun _ t h => step_good h t)
    (fun _ h => ⟨h.listeners,good_prompt h⟩) turns .new new_good,answers_iff turns⟩

end Uroam.Service.Ipc
