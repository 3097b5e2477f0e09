import Mathlib.Data.List.Infix

namespace Pipes

structure Pipe (A : Type) where
  unsent : List (List A)
  queued : List A
  got : List A
  deriving DecidableEq

variable {A : Type}

def Pipe.sending (buffers : List (List A)) : Pipe A := ⟨buffers,[],[]⟩

def Pipe.content (p : Pipe A) : List A := p.got ++ (p.queued ++ p.unsent.flatten)

def Pipe.write (p : Pipe A) (n : ℕ) : Pipe A :=
  match p.unsent with
  | [] => p
  | buffer :: rest =>
    { p with
      unsent := if buffer.length ≤ n then rest else buffer.drop n :: rest
      queued := p.queued ++ buffer.take n }

def Pipe.read (p : Pipe A) (n : ℕ) : Pipe A :=
  { p with queued := p.queued.drop n, got := p.got ++ p.queued.take n }

@[simp] theorem read_unsent (p : Pipe A) (n : ℕ) : (p.read n).unsent = p.unsent := rfl

@[simp] theorem read_got (p : Pipe A) (n : ℕ) : (p.read n).got = p.got ++ p.queued.take n := rfl

@[simp] theorem write_got (p : Pipe A) (n : ℕ) : (p.write n).got = p.got := by
  unfold Pipe.write
  cases p.unsent <;> rfl

@[simp] theorem sending_content (buffers : List (List A)) :
    (Pipe.sending buffers).content = buffers.flatten := rfl

theorem write_content (p : Pipe A) (n : ℕ) : (p.write n).content = p.content := by
  unfold Pipe.write
  cases hunsent : p.unsent with
  | nil => rfl
  | cons buffer rest =>
    simp only [Pipe.content,hunsent,List.flatten_cons]
    split_ifs with hwhole
    · simp [List.take_of_length_le hwhole]
    · simp only [List.flatten_cons,List.append_assoc]
      rw [← List.append_assoc (buffer.take n),List.take_append_drop]

theorem read_content (p : Pipe A) (n : ℕ) : (p.read n).content = p.content := by
  simp only [Pipe.content,Pipe.read,List.append_assoc]
  rw [← List.append_assoc (p.queued.take n),List.take_append_drop]

theorem got_prefix (p : Pipe A) : p.got <+: p.content := List.prefix_append ..

theorem content_drained {p : Pipe A} (hqueued : p.queued = []) (hunsent : p.unsent = []) :
    p.got = p.content := by
  simp [Pipe.content,hqueued,hunsent]

theorem got_whole {p : Pipe A} (h : p.got = p.content) :
    p.queued = [] ∧ p.unsent.flatten = [] := by
  have hrest : p.queued ++ p.unsent.flatten = [] := List.self_eq_append_right.mp h
  exact List.append_eq_nil_iff.mp hrest

theorem write_whole {p : Pipe A} {buffer : List A} {rest : List (List A)}
    (h : p.unsent = buffer :: rest) : (p.write buffer.length).unsent = rest := by
  simp [Pipe.write,h]

theorem read_all (p : Pipe A) : (p.read p.queued.length).queued = [] := by
  simp [Pipe.read]

end Pipes
