import Mathlib.Data.List.Forall2
import Uroam.Library.ByteOrder

namespace Layout
open ByteOrder

section Words

variable {n : ℕ}

def wordBytes (w : BitVec n) : List Byte := (List.range (n / 8)).map (byte w)

@[simp] theorem wordBytes_length (w : BitVec n) : (wordBytes w).length = n / 8 := by
  simp [wordBytes]

theorem byte_ext {v w : BitVec n} (hn : n % 8 = 0) (h : ∀ j, j < n / 8 → byte v j = byte w j) :
    v = w := by
  apply BitVec.eq_of_getLsbD_eq
  intro i hi
  have hbit := congrArg (fun b => b.getLsbD (i % 8)) (h (i / 8) (by omega))
  have hr : i % 8 < 8 := Nat.mod_lt i (by omega)
  simp only [getLsbD_byte,decide_eq_true hr,Bool.true_and,Nat.div_add_mod] at hbit
  exact hbit

theorem join_wordBytes (w : BitVec n) (hn : n % 8 = 0) : join n (wordBytes w) = w := by
  apply byte_ext hn
  intro j hj
  rw [byte_join _ (by omega)]
  simp [wordBytes,hj]

end Words

structure Field where
  size : ℕ
  align : ℕ
  deriving DecidableEq, Repr

def word (bytes : ℕ) : Field := ⟨bytes,bytes⟩

def packed (bytes : ℕ) : Field := ⟨bytes,1⟩

def gap (offset align : ℕ) : ℕ := (align - offset % align) % align

def Field.start (f : Field) (offset : ℕ) : ℕ := offset + gap offset f.align

def extent : ℕ → List Field → ℕ
  | offset, [] => offset
  | offset, f :: fs => extent (f.start offset + f.size) fs

def strictest (fs : List Field) : ℕ := fs.foldr (fun f a => max f.align a) 1

def totalSize (fs : List Field) : ℕ := extent 0 fs + gap (extent 0 fs) (strictest fs)

def place : ℕ → List Field → List (List Byte) → List Byte
  | offset, f :: fs, v :: vs =>
    List.replicate (gap offset f.align) 0 ++ (v ++ place (f.start offset + f.size) fs vs)
  | _, _, _ => []

def fetch : ℕ → List Field → List Byte → List (List Byte)
  | _, [], _ => []
  | offset, f :: fs, bs =>
    (bs.drop (gap offset f.align)).take f.size ::
      fetch (f.start offset + f.size) fs (bs.drop (gap offset f.align + f.size))

def encode (fs : List Field) (vs : List (List Byte)) : List Byte :=
  place 0 fs vs ++ List.replicate (gap (extent 0 fs) (strictest fs)) 0

def decode (fs : List Field) (bs : List Byte) : List (List Byte) := fetch 0 fs bs

abbrev Fits : List Field → List (List Byte) → Prop :=
  List.Forall₂ fun f v => v.length = f.size

variable {fs : List Field} {vs : List (List Byte)}

theorem place_extent (h : Fits fs vs) (offset : ℕ) :
    offset + (place offset fs vs).length = extent offset fs := by
  induction h generalizing offset with
  | nil => rfl
  | @cons f v fs vs hsize _ ih =>
    rw [place,extent,← ih]
    simp only [List.length_append,List.length_replicate,hsize,Field.start]
    omega

theorem encode_length (h : Fits fs vs) : (encode fs vs).length = totalSize fs := by
  have hplace := place_extent h 0
  rw [encode,totalSize,List.length_append,List.length_replicate]
  omega

theorem fetch_place (h : Fits fs vs) (offset : ℕ) (rest : List Byte) :
    fetch offset fs (place offset fs vs ++ rest) = vs := by
  induction h generalizing offset with
  | nil => rfl
  | @cons f v fs vs hsize _ ih =>
    have hpad : (List.replicate (gap offset f.align) (0 : Byte)).length = gap offset f.align :=
      List.length_replicate
    have hfront : (List.replicate (gap offset f.align) (0 : Byte) ++ v).length =
        gap offset f.align + f.size := by simp [hsize]
    rw [place,fetch]
    congr 1
    · rw [List.append_assoc,List.drop_left' hpad,List.append_assoc,List.take_left' hsize]
    · rw [← List.append_assoc,List.append_assoc,List.drop_left' hfront]
      exact ih _

theorem decode_encode (h : Fits fs vs) (rest : List Byte) :
    decode fs (encode fs vs ++ rest) = vs := by
  rw [decode,encode,List.append_assoc]
  exact fetch_place h 0 _

end Layout
