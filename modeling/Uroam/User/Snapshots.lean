import Uroam.Library.Lines
import Uroam.Library.Occurrence
import Uroam.Tuning.Classifier

namespace Uroam.User
open Lines Occurrence
open Tuning (contains)

inductive WorkloadType where
  | aiMl
  | gaming
  | rendering
  | background
  | interactive
  | idle
  deriving DecidableEq, Repr

structure Python where
  lower : List Char → List Char
  isDigit : List Char → Bool
  int : List Char → Option ℤ

-- Python also counts the four separators below the blank among its whitespace.
def space (c : Char) : Bool := whitespace c || (0x1C ≤ c.toNat && c.toNat ≤ 0x1F)

def strip (text : List Char) : List Char := trim space text

def split (text : List Char) : List (List Char) := words space text

structure Snapshot where
  pid : ℤ
  name : List Char
  cmdline : List Char
  memoryUsage : ℤ
  deriving DecidableEq, Repr

-- `gone` is one of the three errors that pass the process over, `failed` is any other.
inductive Read where
  | text (contents : List Char)
  | gone
  | failed
  deriving DecidableEq, Repr

structure ProcDir where
  name : List Char
  comm : Read
  cmdline : Read
  status : Read
  deriving DecidableEq, Repr

-- `stopped` is an error that leaves the loop with what it has so far.
inductive Outcome where
  | skipped
  | taken (s : Snapshot)
  | stopped
  deriving DecidableEq, Repr

def Read.andThen (r : Read) (rest : List Char → Outcome) : Outcome :=
  match r with
  | .text contents => rest contents
  | .gone => .skipped
  | .failed => .stopped

def vmRssKey : List Char := ['V','m','R','S','S',':']

def blankNul (c : Char) : Char := if c = '\x00' then ' ' else c

def aiIndicators : List String :=
  ["python", "pytorch", "tensorflow", "torch", "llama", "transformers", "bert", "gpt", "ml", "nn",
    "deep"]

def gamingIndicators : List String := ["steam", "proton", "wine", "game", "gaming"]

def renderIndicators : List String :=
  ["blender", "render", "maya", "3dsmax", "cinema", "maya", "houdini", "nuke", "compositor"]

def backgroundIndicators : List String :=
  ["systemd", "cron", "daemon", "service", "kernel", "kworker", "migration", "rcu_"]

def interactiveIndicators : List String :=
  ["firefox", "chrome", "chromium", "vscode", "gedit", "vim", "emacs", "terminal", "ssh"]

def isAiWorkload (name cmdline : List Char) (mem : ℤ) : Bool :=
  aiIndicators.any fun indicator =>
    (contains name indicator || contains cmdline indicator) && decide (mem > 100 * 1024 * 1024)

def mentionsAny (name cmdline : List Char) (indicators : List String) : Bool :=
  indicators.any fun indicator => contains name indicator || contains cmdline indicator

def isGamingWorkload (name cmdline : List Char) : Bool := mentionsAny name cmdline gamingIndicators

def isRenderingWorkload (name cmdline : List Char) : Bool :=
  mentionsAny name cmdline renderIndicators

def isBackgroundWorkload (name : List Char) : Bool := backgroundIndicators.any (contains name)

def isInteractiveWorkload (name cmdline : List Char) : Bool :=
  mentionsAny name cmdline interactiveIndicators

section Snapshots

variable (py : Python)

def classifyProcess (s : Snapshot) : WorkloadType :=
  let name := py.lower s.name
  let cmdline := py.lower s.cmdline
  if isAiWorkload name cmdline s.memoryUsage then .aiMl
  else if isGamingWorkload name cmdline then .gaming
  else if isRenderingWorkload name cmdline then .rendering
  else if isBackgroundWorkload name then .background
  else if isInteractiveWorkload name cmdline then .interactive
  else .idle

def memUsage (status : List Char) : Option ℤ :=
  match (status.splitOn '\n').filter fun line => vmRssKey <+: line with
  | [] => some 0
  | line :: _ => (getElem? (split line) 1).bind py.int

def takeSnapshot (d : ProcDir) : Outcome :=
  if py.isDigit d.name = true then
    d.comm.andThen fun comm =>
      d.cmdline.andThen fun cmdline =>
        d.status.andThen fun status =>
          match memUsage py status,py.int d.name with
          | some mem,some pid =>
            .taken
              { pid
                name := strip comm
                cmdline := strip (cmdline.map blankNul)
                memoryUsage := mem }
          | _,_ => .stopped
  else .skipped

def collect : List ProcDir → List Snapshot
  | [] => []
  | d :: dirs =>
    match takeSnapshot py d with
    | .skipped => collect dirs
    | .taken s => s :: collect dirs
    | .stopped => []

def getProcessSnapshots (proc : Option (List ProcDir)) : List Snapshot :=
  ((proc.map (collect py)).getD []).take 50

theorem collect_taken {dirs : List ProcDir} {s : Snapshot} (h : s ∈ collect py dirs) :
    ∃ d ∈ dirs, takeSnapshot py d = .taken s := by
  induction dirs with
  | nil => cases h
  | cons d dirs ih =>
    have hlater : s ∈ collect py dirs → ∃ d' ∈ d :: dirs, takeSnapshot py d' = .taken s := by
      intro hs
      obtain ⟨d',hd',htaken⟩ := ih hs
      exact ⟨d',List.mem_cons_of_mem d hd',htaken⟩
    unfold collect at h
    cases htake : takeSnapshot py d with
    | skipped => exact hlater (by simpa only [htake] using h)
    | stopped => simp only [htake,List.not_mem_nil] at h
    | taken first =>
      simp only [htake,List.mem_cons] at h
      rcases h with rfl | hs
      · exact ⟨d,List.mem_cons_self,htake⟩
      · exact hlater hs

theorem snapshots_taken {dirs : List ProcDir} {s : Snapshot}
    (h : s ∈ getProcessSnapshots py (some dirs)) : ∃ d ∈ dirs, takeSnapshot py d = .taken s :=
  collect_taken py (List.mem_of_mem_take h)

end Snapshots

section Memory

def ReportsRss (status : List Char) (n : ℕ) : Prop :=
  ∃ gap, Gap space gap ∧ ((status.splitOn '\n').find? fun line => vmRssKey <+: line) =
    some (vmRssKey ++ (gap ++ (Nat.toDigits 10 n ++ [' ','k','B'])))

structure Readable (py : Python) (d : ProcDir) (comm cmdline : List Char) (n : ℕ) : Prop where
  digits : py.isDigit d.name = true
  pid : ∃ pid, py.int d.name = some pid
  comm : d.comm = .text comm
  cmdline : d.cmdline = .text cmdline
  status : ∃ status, d.status = .text status ∧ ReportsRss status n

def isBreak (c : Char) : Bool := space c || c = '\x00'

structure PythonReads (py : Python) (n : ℕ) : Prop where
  lower : Fold isBreak py.lower
  int : py.int (Nat.toDigits 10 n) = some (n : ℤ)

def MentionsAi (py : Python) (comm cmdline : List Char) : Prop :=
  ∃ indicator ∈ aiIndicators,
    indicator.toList <:+: py.lower comm ∨ indicator.toList <:+: py.lower cmdline

instance (py : Python) (comm cmdline : List Char) : Decidable (MentionsAi py comm cmdline) :=
  List.decidableBEx _ _

structure MemoryLaw (py : Python) (comm cmdline : List Char) (n : ℕ) (s : Snapshot) : Prop where
  large : MentionsAi py comm cmdline → 102400 < n → classifyProcess py s = .aiMl
  small : n ≤ 102400 → classifyProcess py s ≠ .aiMl

variable {py : Python}

theorem classified_ai_iff (s : Snapshot) :
    classifyProcess py s = .aiMl ↔
      MentionsAi py s.name s.cmdline ∧ 104857600 < s.memoryUsage := by
  have hai : isAiWorkload (py.lower s.name) (py.lower s.cmdline) s.memoryUsage = true ↔
      MentionsAi py s.name s.cmdline ∧ 104857600 < s.memoryUsage := by
    simp only [isAiWorkload,contains,MentionsAi,List.any_eq_true,Bool.and_eq_true,Bool.or_eq_true,
      decide_eq_true_eq]
    constructor
    · rintro ⟨indicator,hmem,hoccurs,hlarge⟩
      exact ⟨⟨indicator,hmem,hoccurs⟩,by omega⟩
    · rintro ⟨⟨indicator,hmem,hoccurs⟩,hlarge⟩
      exact ⟨indicator,hmem,hoccurs,by omega⟩
  rw [← hai]
  unfold classifyProcess
  dsimp only
  split_ifs with hfirst <;> simp [hfirst]

theorem digit_space {c : Char} (h : c.isDigit = true) : space c = false := by
  have hrange := digit_range h
  rw [space,digit_clean h]
  simp
  omega

theorem digits_space (n : ℕ) : Word space (Nat.toDigits 10 n) := numeral_word (fun _ => digit_space) n

theorem vmRss_word : Word space vmRssKey := ⟨by decide,clean_of_all rfl⟩

theorem split_rss {gap : List Char} (hgap : Gap space gap) (n : ℕ) :
    getElem? (split (vmRssKey ++ (gap ++ (Nat.toDigits 10 n ++ [' ','k','B'])))) 1 =
      some (Nat.toDigits 10 n) := by
  obtain ⟨b,rest,rfl⟩ := List.exists_cons_of_ne_nil hgap.some
  have hb : ∀ c, (b :: rest ++ (Nat.toDigits 10 n ++ [' ','k','B'])).head? = some c →
      space c = true := by
    rintro c ⟨⟩
    exact hgap.blanks b List.mem_cons_self
  have hblank : ∀ c, ([' ','k','B'] : List Char).head? = some c → space c = true := by
    rintro c ⟨⟩
    rfl
  rw [split,words_word vmRss_word hb,words_lead hgap.blanks,words_word (digits_space n) hblank]
  rfl

theorem memUsage_reported {status : List Char} {n : ℕ} (h : ReportsRss status n) :
    memUsage py status = py.int (Nat.toDigits 10 n) := by
  obtain ⟨gap,hgap,hfind⟩ := h
  rw [← List.head?_filter] at hfind
  obtain ⟨rest,hrest⟩ := List.head?_eq_some_iff.mp hfind
  rw [memUsage,hrest]
  dsimp only
  rw [split_rss hgap,Option.bind_some]

theorem takeSnapshot_readable {d : ProcDir} {comm cmdline : List Char} {n : ℕ}
    (hint : py.int (Nat.toDigits 10 n) = some (n : ℤ)) (h : Readable py d comm cmdline n) :
    ∃ pid, takeSnapshot py d =
      .taken ⟨pid,strip comm,strip (cmdline.map blankNul),(n : ℤ)⟩ := by
  obtain ⟨pid,hpid⟩ := h.pid
  obtain ⟨status,hstatus,hrss⟩ := h.status
  refine ⟨pid,?_⟩
  rw [takeSnapshot,if_pos h.digits,h.comm,h.cmdline,hstatus]
  simp only [Read.andThen,memUsage_reported hrss,hint,hpid]

theorem indicators_clean {indicator : String} (h : indicator ∈ aiIndicators) :
    indicator.toList ≠ [] ∧ ∀ c ∈ indicator.toList, isBreak c = false := by
  have hall : aiIndicators.all (fun i => !i.toList.isEmpty && i.toList.all fun c => !isBreak c) =
      true := by
    decide +kernel
  have hone := List.all_eq_true.mp hall indicator h
  rw [Bool.and_eq_true] at hone
  exact ⟨by simpa using hone.1,clean_of_all hone.2⟩

theorem mentions_kept (hfold : Fold isBreak py.lower) (comm cmdline : List Char) :
    MentionsAi py (strip comm) (strip (cmdline.map blankNul)) ↔ MentionsAi py comm cmdline := by
  have hblank : ∀ c, space c = true → isBreak c = true := fun c hc => by simp [isBreak,hc]
  have hnul : ∀ c, blankNul c = c ∨ isBreak c = true ∧ isBreak (blankNul c) = true := by
    intro c
    unfold blankNul
    split
    · next hc => exact .inr ⟨by rw [hc]; rfl,rfl⟩
    · exact .inl rfl
  unfold MentionsAi strip
  refine exists_congr fun indicator => and_congr_right fun hmem => ?_
  obtain ⟨hne,hclean⟩ := indicators_clean hmem
  rw [occurs_trim hfold hclean hblank hne,occurs_trim hfold hclean hblank hne,
    occurs_replace hfold hclean hnul]

theorem memory_law_iff (d : ProcDir) (comm cmdline : List Char) (n : ℕ) (hpy : PythonReads py n)
    (hd : Readable py d comm cmdline n) :
    (∃ s, takeSnapshot py d = .taken s ∧ MemoryLaw py comm cmdline n s) ↔
      (MentionsAi py comm cmdline → n ≤ 102400 ∨ 104857600 < n) := by
  obtain ⟨pid,htaken⟩ := takeSnapshot_readable hpy.int hd
  have hclass : classifyProcess py ⟨pid,strip comm,strip (cmdline.map blankNul),(n : ℤ)⟩ = .aiMl ↔
      MentionsAi py (strip comm) (strip (cmdline.map blankNul)) ∧ 104857600 < (n : ℤ) :=
    classified_ai_iff _
  rw [mentions_kept hpy.lower] at hclass
  constructor
  · rintro ⟨s,hs,hlaw⟩ hmentions
    obtain rfl := Outcome.taken.inj (htaken.symm.trans hs)
    rcases Nat.lt_or_ge 102400 n with hlarge | hsmall
    · exact .inr (Int.ofNat_lt.mp (hclass.mp (hlaw.large hmentions hlarge)).2)
    · exact .inl hsmall
  · intro hrange
    refine ⟨_,htaken,?_,?_⟩
    · intro hmentions hlarge
      refine hclass.mpr ⟨hmentions,?_⟩
      rcases hrange hmentions with hsmall | hover
      · exact absurd hsmall (Nat.not_le_of_lt hlarge)
      · exact Int.ofNat_lt.mpr hover
    · intro hsmall hai
      have hover := (hclass.mp hai).2
      omega

end Memory

section Sample

def asciiPython : Python :=
  { lower := List.map Char.toLower
    isDigit := fun text => !text.isEmpty && text.all Char.isDigit
    int := fun text =>
      if text ≠ [] ∧ text.all Char.isDigit = true then some (Nat.ofDigitChars 10 text 0) else none }

theorem toLower_break {c : Char} (h : isBreak c = true) : c.toLower = c := by
  refine dif_neg ?_
  rintro ⟨hlow,hhigh⟩
  have hlow : 65 ≤ c.toNat := UInt32.le_iff_toNat_le.mp hlow
  have hhigh : c.toNat ≤ 90 := UInt32.le_iff_toNat_le.mp hhigh
  have hnul : c ≠ '\x00' := by
    rintro rfl
    exact absurd hlow (by decide)
  simp only [isBreak,space,whitespace] at h
  simp [hnul] at h
  omega

theorem ascii_fold : Fold isBreak asciiPython.lower := by
  refine ⟨rfl,?_⟩
  intro before c after hc
  change (before ++ c :: after).map Char.toLower = _
  rw [List.map_append,List.map_cons,toLower_break hc]
  rfl

def pythonProcess : ProcDir :=
  { name := "42".toList
    comm := .text "python3\n".toList
    cmdline := .text "python3\x00train.py\x00".toList
    status := .text "Name:\tpython3\nVmRSS:\t  200000 kB\nThreads:\t1\n".toList }

theorem pythonProcess_readable :
    Readable asciiPython pythonProcess "python3\n".toList "python3\x00train.py\x00".toList
      200000 := by
  refine ⟨by decide +kernel,⟨42,by decide +kernel⟩,rfl,rfl,_,rfl,['\t',' ',' '],?_,by decide +kernel⟩
  exact ⟨List.cons_ne_nil '\t' _,List.all_eq_true.mp rfl⟩

theorem ascii_reads : PythonReads asciiPython 200000 := ⟨ascii_fold,by decide +kernel⟩

theorem memory_law_python :
    (∃ s, takeSnapshot asciiPython pythonProcess = .taken s ∧
      MemoryLaw asciiPython "python3\n".toList "python3\x00train.py\x00".toList 200000 s) ↔
      (MentionsAi asciiPython "python3\n".toList "python3\x00train.py\x00".toList →
        200000 ≤ 102400 ∨ 104857600 < 200000) :=
  memory_law_iff pythonProcess _ _ 200000 ascii_reads pythonProcess_readable

theorem python_of_195_mib_missed :
    PythonReads asciiPython 200000 ∧
      Readable asciiPython pythonProcess "python3\n".toList "python3\x00train.py\x00".toList
        200000 ∧
      ∃ s, takeSnapshot asciiPython pythonProcess = .taken s ∧
        classifyProcess asciiPython s = .idle ∧
        ¬ MemoryLaw asciiPython "python3\n".toList "python3\x00train.py\x00".toList 200000 s := by
  have hidle : classifyProcess asciiPython
      ⟨42,"python3".toList,"python3 train.py".toList,200000⟩ = .idle := by
    decide +kernel
  refine ⟨ascii_reads,pythonProcess_readable,_,by decide +kernel,hidle,?_⟩
  intro hlaw
  have hai := hlaw.large (by decide +kernel) (by decide)
  rw [hidle] at hai
  exact WorkloadType.noConfusion hai

end Sample

end Uroam.User
