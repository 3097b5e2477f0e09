import Mathlib.Data.List.Chain
import Uroam.Aal.Detect

namespace Uroam.Aal
open Loops

def aalGetNumaNodeMemSize (info : SystemInfo) (node : U32) : U64 :=
  if node.toNat < aalMaxNumaNodes then info.numa.nodeMemSize node.toNat else 0

def joinLines : List (List Char) → List Char
  | [] => []
  | [line] => line
  | line :: lines => line ++ '\n' :: joinLines lines

def totalLine (node spaces memory : ℕ) : List Char :=
  "Node ".toList ++ Nat.toDigits 10 node ++ " MemTotal: ".toList ++ List.replicate spaces ' ' ++
    Nat.toDigits 10 memory ++ [' ', 'k', 'B']

def PlainLine (line : List Char) : Prop := '\n' ∉ line ∧ ¬ "MemTotal:".toList <:+: line

structure NodeDir where
  node : ℕ
  spaces : ℕ
  memory : ℕ
  above : List (List Char)
  below : List (List Char)
  node_lt : node < aalMaxNumaNodes
  memory_lt : memory * 1024 < 2 ^ 63
  plain : ∀ line ∈ above ++ below, PlainLine line

def NodeDir.lines (d : NodeDir) : List (List Char) :=
  d.above ++ totalLine d.node d.spaces d.memory :: d.below

def NodeDir.entry (d : NodeDir) : Dirent where
  dName := "node".toList ++ Nat.toDigits 10 d.node
  meminfo := some (joinLines d.lines)

def Dirent.isNode (entry : Dirent) : Bool := decide ("node".toList <+: cString entry.dName)

section Lines

def UnitsApart (text : List Char) : Prop := text.IsChain fun c d => d = 'k' → c = ' '

theorem apart_of_none {text : List Char} (h : 'k' ∉ text) : UnitsApart text := by
  apply List.Pairwise.isChain
  apply List.pairwise_of_forall_mem_list
  intro c _ d hd hk
  exact absurd (hk ▸ hd) h

theorem digits_lack {c : Char} (hc : ¬ c.isDigit = true) (n : ℕ) : c ∉ Nat.toDigits 10 n := by
  intro h
  have hdigit := Nat.isDigit_of_mem_toDigits (by decide) (by decide) h
  exact hc hdigit

theorem apart_unit {text : List Char} (h : 'k' ∉ text) :
    UnitsApart (text ++ ([' ', 'k', 'B'] ++ ['\n'])) := by
  apply List.isChain_append.mpr
  refine ⟨apart_of_none h,?_,?_⟩
  · simp
  · intro c _ d hd hk
    subst hk
    simp at hd

theorem totalLine_apart (node spaces memory : ℕ) :
    UnitsApart (totalLine node spaces memory ++ ['\n']) := by
  have hbefore : 'k' ∉ "Node ".toList ++ Nat.toDigits 10 node ++ " MemTotal: ".toList ++
      List.replicate spaces ' ' ++ Nat.toDigits 10 memory := by
    simp [digits_lack (c := 'k') (by decide)]
  unfold totalLine
  rw [List.append_assoc]
  exact apart_unit hbefore

theorem totalLine_single (node spaces memory : ℕ) : '\n' ∉ totalLine node spaces memory := by
  have hdigits := digits_lack (c := '\n') (by decide)
  unfold totalLine
  simp only [List.mem_append,hdigits,or_false,List.mem_replicate]
  simp

theorem strstr_some {text pattern : List Char} {i : ℕ} (h : strstr text pattern = some i) :
    pattern <+: text.drop i := by
  simpa using List.find?_some h

theorem back_apart {line : List Char} (h : UnitsApart line) {kbp : ℕ}
    (hk : strstr line "kB".toList = some kbp) : backToBlank line kbp = kbp := by
  obtain ⟨rest,hrest⟩ := strstr_some hk
  cases kbp with
  | zero => rfl
  | succ k =>
    have hchain := h.drop k
    have hk : k < line.length := by
      have := congrArg List.length hrest
      simp at this
      omega
    rw [List.drop_eq_getElem_cons hk,← hrest] at hchain
    have hblank := (List.isChain_cons_cons.mp hchain).1 rfl
    rw [backToBlank,if_pos]
    rw [List.getElem?_eq_getElem hk,hblank]

theorem atoll_unit (rest : List Char) : atoll ('k' :: rest) = 0 := by
  have hspace : List.dropWhile isspace ('k' :: rest) = 'k' :: rest :=
    List.dropWhile_cons_of_neg (by decide)
  have hvalue : strtol ('k' :: rest) = 0 := by
    unfold strtol
    rw [hspace]
    rfl
  rw [atoll,hvalue]
  rfl

theorem memTotal_apart {line : List Char} (h : UnitsApart line) :
    memTotal line = none ∨ memTotal line = some 0 := by
  unfold memTotal
  split
  · next kbp _ hk =>
    obtain ⟨rest,hrest⟩ := strstr_some hk
    right
    have hdigit : List.dropWhile Char.isDigit ("kB".toList ++ rest) = 'k' :: 'B' :: rest :=
      List.dropWhile_cons_of_neg (by decide)
    rw [back_apart h hk,← hrest,hdigit,atoll_unit]
    rfl
  · exact .inl rfl

theorem memTotal_plain {line : List Char} (h : ¬ "MemTotal:".toList <:+: line) :
    memTotal line = none := by
  unfold memTotal
  split
  · next i kbp hi hk => 
    exact absurd ((strstr_some hi).isInfix.trans (List.drop_suffix i line).isInfix) h
  · rfl

def Harmless (text : List Char) : Prop := UnitsApart text ∨ ¬ "MemTotal:".toList <:+: text

theorem Harmless.part {text part : List Char} (h : Harmless text) (hpart : part <:+: text) :
    Harmless part := by
  rcases h with hunits | hplain
  · left
    exact List.IsChain.infix hunits hpart
  · exact .inr fun hin => hplain (hin.trans hpart)

theorem Harmless.memTotal {text : List Char} (h : Harmless text) :
    memTotal text = none ∨ memTotal text = some 0 := by
  rcases h with hunits | hplain
  · exact memTotal_apart hunits
  · exact .inl (memTotal_plain hplain)

def HarmlessLine (line : List Char) : Prop := '\n' ∉ line ∧ Harmless (line ++ ['\n'])

def HarmlessRest (size : ℕ) (rest tail : List Char) : Prop :=
  ∀ acc room, Harmless (acc.reverse ++ rest ++ ['\n']) →
    ∀ chunk ∈ readLines size room acc (rest ++ tail), Harmless chunk

theorem harmless_rest {size : ℕ} {tail : List Char} (htail : HarmlessRest size [] tail)
    {rest : List Char} (hrest : '\n' ∉ rest) : HarmlessRest size rest tail := by
  induction rest with
  | nil => exact htail
  | cons c rest ih =>
    intro acc room hacc chunk hchunk
    have hc : c ≠ '\n' := fun hc => hrest (by simp [hc])
    have hih := ih fun hin => hrest (List.mem_cons_of_mem c hin)
    rw [List.cons_append,readLines] at hchunk
    by_cases hfull : room ≤ 1
    · rw [if_pos (.inr hfull)] at hchunk
      rcases List.mem_cons.mp hchunk with rfl | hchunk
      · exact hacc.part ⟨[],rest ++ ['\n'],by simp⟩
      · exact hih [] _ (hacc.part ⟨acc.reverse ++ [c],[],by simp⟩) chunk hchunk
    · rw [if_neg (not_or.mpr ⟨hc,hfull⟩)] at hchunk
      exact hih (c :: acc) _ (by simpa using hacc) chunk hchunk

theorem harmless_lines (size : ℕ) {lines : List (List Char)} {line : List Char}
    (h : ∀ l ∈ line :: lines, HarmlessLine l) :
    ∀ room, ∀ chunk ∈ readLines size room [] (joinLines (line :: lines)), Harmless chunk := by
  induction lines generalizing line with
  | nil =>
    have hend : HarmlessRest size [] [] := by
      intro acc room hacc chunk hchunk
      cases acc with
      | nil => cases hchunk
      | cons c acc =>
        rw [List.mem_singleton.mp hchunk]
        exact hacc.part ⟨[],['\n'],by simp⟩
    intro room
    have hline := h line (List.mem_singleton_self line)
    simpa [joinLines] using harmless_rest hend hline.1 [] room hline.2
  | cons next lines ih =>
    have hnext := ih fun l hl => h l (List.mem_cons_of_mem line hl)
    have hend : HarmlessRest size [] ('\n' :: joinLines (next :: lines)) := by
      intro acc room hacc chunk hchunk
      rw [List.nil_append,readLines,if_pos (.inl rfl)] at hchunk
      rcases List.mem_cons.mp hchunk with rfl | hchunk
      · simpa using hacc
      · exact hnext _ chunk hchunk
    intro room
    have hline := h line (List.mem_cons_self ..)
    exact harmless_rest hend hline.1 [] room hline.2

theorem harmless_fgets (size : ℕ) {lines : List (List Char)} (h : ∀ l ∈ lines, HarmlessLine l) :
    ∀ line ∈ fgets size (joinLines lines), Harmless line := by
  intro line hline
  obtain ⟨chunk,hchunk,rfl⟩ := List.mem_map.mp hline
  cases lines with
  | nil => cases hchunk
  | cons first lines =>
    exact (harmless_lines size h _ chunk hchunk).part (List.takeWhile_prefix _).isInfix

theorem NodeDir.harmless (d : NodeDir) : ∀ line ∈ d.lines, HarmlessLine line := by
  intro line hline
  have hplain : PlainLine line → HarmlessLine line := by
    rintro ⟨hsingle,htotal⟩
    refine ⟨hsingle,.inr fun hin => ?_⟩
    rcases List.infix_concat_iff.mp hin with hend | hin
    · rcases List.suffix_concat_iff.mp hend with hnil | ⟨t,ht,_⟩
      · simp at hnil
      · have hlast := congrArg List.getLast? ht
        simp at hlast
    · exact htotal hin
  rcases List.mem_append.mp hline with habove | hline
  · exact hplain (d.plain line (List.mem_append_left _ habove))
  · rcases List.mem_cons.mp hline with rfl | hbelow
    · exact ⟨totalLine_single d.node d.spaces d.memory,.inl (totalLine_apart ..)⟩
    · exact hplain (d.plain line (List.mem_append_right _ hbelow))

end Lines

section Nodes

theorem readMeminfo_zero {node : ℕ} {sizes : ℕ → U64} (h : sizes = fun _ => 0) {line : List Char}
    (hline : Harmless line) : readMeminfo node sizes line = fun _ => 0 := by
  unfold readMeminfo
  rcases hline.memTotal with hnone | hzero
  · rw [hnone]
    exact h
  · rw [hzero,h]
    exact Function.update_eq_self node fun _ => 0

theorem meminfo_zero (node : ℕ) {lines : List (List Char)} (h : ∀ line ∈ lines, Harmless line) :
    lines.foldl (readMeminfo node) (fun _ => 0) = fun _ => 0 := by
  induction lines with
  | nil => rfl
  | cons line lines ih =>
    rw [List.foldl_cons,readMeminfo_zero rfl (h line (List.mem_cons_self ..))]
    exact ih fun l hl => h l (List.mem_cons_of_mem line hl)

theorem readNode_zero (d : NodeDir) : readNode (fun _ => 0) d.entry = fun _ => 0 := by
  unfold readNode
  dsimp only
  split
  · exact meminfo_zero _ (harmless_fgets 128 d.harmless)
  · rfl

theorem readNode_other {entry : Dirent} (h : entry.isNode = false) (sizes : ℕ → U64) :
    readNode sizes entry = sizes := by
  have hname := of_decide_eq_false h
  unfold readNode
  exact if_neg fun hnode => hname hnode.1

theorem nodes_zero {entries : List Dirent} {dirs : List NodeDir}
    (h : entries.filter Dirent.isNode = dirs.map NodeDir.entry) :
    entries.foldl readNode (fun _ => 0) = fun _ => 0 := by
  have hentry : ∀ e ∈ entries, readNode (fun _ => 0) e = fun _ => 0 := by
    intro e he
    cases hnode : e.isNode with
    | false => exact readNode_other hnode _
    | true =>
      have hdir : e ∈ dirs.map NodeDir.entry := h ▸ List.mem_filter.mpr ⟨he,hnode⟩
      obtain ⟨d,_,rfl⟩ := List.mem_map.mp hdir
      exact readNode_zero d
  clear h
  induction entries with
  | nil => rfl
  | cons e entries ih =>
    rw [List.foldl_cons,hentry e (List.mem_cons_self ..)]
    exact ih fun e he => hentry e (List.mem_cons_of_mem _ he)

theorem countNodes_zero (total : U64) :
    countNodes (Function.update (fun _ => 0) 0 total) = 1 := by
  have hround : ∀ i (count : U32), i < aalMaxNumaNodes → count = 1 →
      (if 0 < Function.update (fun _ => (0 : U64)) 0 total i then BitVec.ofNat 32 (i + 1)
        else count) = 1 := by
    intro i count _ hcount
    cases i with
    | zero =>
      rw [hcount]
      exact ite_self _
    | succ i => simpa using hcount
  exact upTo_invariant (I := fun _ (count : U32) => count = 1) rfl hround

section Reports

variable (os : Answers) (info : SystemInfo)

theorem detect_numa_eq {entries : List Dirent} {dirs : List NodeDir}
    (haccess : os.nodeAccess = true) (hdir : os.nodeDir = some entries)
    (h : entries.filter Dirent.isNode = dirs.map NodeDir.entry) :
    (aalDetectNuma os info).numa.nodeMemSize =
        Function.update (fun _ => 0) 0 (info.totalRamKb * 1024) ∧
      (aalDetectNuma os info).numa.nodeCount = 1 := by
  unfold aalDetectNuma
  simp only [haccess,hdir,nodes_zero h,if_true]
  exact ⟨trivial,countNodes_zero _⟩

structure Reported (dirs : List NodeDir) (info : SystemInfo) : Prop where
  sizes : ∀ d ∈ dirs, 0 < d.memory →
    aalGetNumaNodeMemSize info (.ofNat 32 d.node) = .ofNat 64 (d.memory * 1024)
  count : ∀ d ∈ dirs, 0 < d.memory → (∀ e ∈ dirs, 0 < e.memory → e.node ≤ d.node) →
    info.numa.nodeCount = .ofNat 32 (d.node + 1)

theorem node_size (d : NodeDir) {total : U64}
    (hsizes : info.numa.nodeMemSize = Function.update (fun _ => 0) 0 total) :
    aalGetNumaNodeMemSize info (.ofNat 32 d.node) = if d.node = 0 then total else 0 := by
  have hlt := d.node_lt
  have hnode : (BitVec.ofNat 32 d.node).toNat = d.node := by
    simp only [aalMaxNumaNodes] at hlt
    simp only [BitVec.toNat_ofNat]
    omega
  rw [aalGetNumaNodeMemSize,hnode,if_pos hlt,hsizes]
  by_cases hzero : d.node = 0
  · rw [if_pos hzero,hzero,Function.update_self]
  · rw [if_neg hzero,Function.update_of_ne hzero]

theorem node_memory_iff {entries : List Dirent} {dirs : List NodeDir}
    (haccess : os.nodeAccess = true) (hdir : os.nodeDir = some entries)
    (h : entries.filter Dirent.isNode = dirs.map NodeDir.entry) :
    Reported dirs (aalDetectNuma os info) ↔
      ∀ d ∈ dirs, 0 < d.memory →
        d.node = 0 ∧ (info.totalRamKb * 1024).toNat = d.memory * 1024 := by
  obtain ⟨hsizes,hcount⟩ := detect_numa_eq os info haccess hdir h
  constructor
  · intro hr d hd hpos
    have hsmall := d.memory_lt
    have hsize := hr.sizes d hd hpos
    have hbytes : (BitVec.ofNat 64 (d.memory * 1024)).toNat = d.memory * 1024 := by
      simp only [BitVec.toNat_ofNat]
      omega
    rw [node_size _ d hsizes] at hsize
    by_cases hzero : d.node = 0
    · rw [if_pos hzero] at hsize
      exact ⟨hzero,by rw [hsize,hbytes]⟩
    · rw [if_neg hzero] at hsize
      have hnone : 0 = d.memory * 1024 := by rw [← hbytes,← hsize]; rfl
      omega
  · intro hall
    refine ⟨?_,?_⟩
    · intro d hd hpos
      obtain ⟨hzero,htotal⟩ := hall d hd hpos
      rw [node_size _ d hsizes,if_pos hzero,← htotal,BitVec.ofNat_toNat,
        BitVec.setWidth_eq]
    · intro d hd hpos _
      rw [hcount,(hall d hd hpos).1]
      rfl

end Reports

def numaMachine (entries : List Dirent) : Answers :=
  { machine 8 8 with nodeAccess := true, nodeDir := some entries }

def plainNode (node memory : ℕ) (hnode : node < aalMaxNumaNodes) (h : memory * 1024 < 2 ^ 63) :
    NodeDir where
  node := node
  spaces := 7
  memory := memory
  above := []
  below := [[]]
  node_lt := hnode
  memory_lt := h
  plain := by
    intro line hline
    simp at hline
    subst hline
    exact ⟨by decide,by decide⟩

def nodePair : List NodeDir :=
  [plainNode 1 8388608 (by decide) (by decide),plainNode 0 8388608 (by decide) (by decide)]

def total16 : SystemInfo := { SystemInfo.zero with totalRamKb := 16777216 }

theorem nodePair_listed :
    (nodePair.map NodeDir.entry).filter Dirent.isNode = nodePair.map NodeDir.entry := by
  decide +kernel

theorem node_memory_iff_pair :
    Reported nodePair (aalDetectNuma (numaMachine (nodePair.map NodeDir.entry)) total16) ↔
      ∀ d ∈ nodePair, 0 < d.memory →
        d.node = 0 ∧ (total16.totalRamKb * 1024).toNat = d.memory * 1024 :=
  node_memory_iff (numaMachine (nodePair.map NodeDir.entry)) total16 rfl rfl nodePair_listed

theorem second_node_lost :
    ¬ ∀ (os : Answers) (info : SystemInfo) (entries : List Dirent) (dirs : List NodeDir),
      os.nodeAccess = true → os.nodeDir = some entries →
        entries.filter Dirent.isNode = dirs.map NodeDir.entry →
          Reported dirs (aalDetectNuma os info) := by
  intro h
  have hsize := (h (numaMachine (nodePair.map NodeDir.entry)) total16 _ nodePair rfl rfl
    nodePair_listed).sizes _ (List.mem_cons_self ..) (by decide)
  exact absurd hsize (by decide +kernel)

end Nodes

end Uroam.Aal
