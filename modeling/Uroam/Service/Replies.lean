import Uroam.Service.Framing

namespace Uroam.Service.Ipc
open Tuning (parseU64)

structure ReplyJson where
  toString : IpcResponse → List Char
  fromStr : List Char → Except String IpcResponse

structure Status.Fits (s : Status) : Prop where
  total : s.memoryTotalKb < 2 ^ 64
  used : s.memoryUsedKb < 2 ^ 64
  available : s.memoryAvailableKb < 2 ^ 64
  swapTotal : s.swapTotalKb < 2 ^ 64
  swapUsed : s.swapUsedKb < 2 ^ 64
  swappiness : s.swappiness < 2 ^ 32

def IpcResponse.Fits (response : IpcResponse) : Prop := ∀ s, response = .status s → s.Fits

structure ReplyJson.Documented (replies : ReplyJson) : Prop where
  trailing : ∀ response blanks, response.Fits → (∀ c ∈ blanks, Char.isWhitespace c = true) →
    replies.fromStr (replies.toString response ++ blanks) = .ok response
  empty : ∃ e, replies.fromStr [] = .error e

section Bounds

theorem parseU64_lt (text : List Char) : parseU64 text < 2 ^ 64 := by
  unfold parseU64
  dsimp only
  split_ifs with h
  · exact h.2.2
  · exact Nat.two_pow_pos 64

theorem parseU32_lt (text : List Char) : parseU32 text < 2 ^ 32 := by
  unfold parseU32
  split_ifs with h
  · exact h
  · exact Nat.two_pow_pos 32

structure MemoryLines.Fits (m : MemoryLines) : Prop where
  total : m.totalKb < 2 ^ 64
  available : m.availableKb < 2 ^ 64
  swapTotal : m.swapTotalKb < 2 ^ 64

theorem read_fits {m : MemoryLines} (h : m.Fits) (line : List Char × List Char) :
    (m.read line).Fits := by
  have hvalue := parseU64_lt line.2
  unfold MemoryLines.read
  split_ifs
  · exact ⟨hvalue,h.available,h.swapTotal⟩
  · exact ⟨h.total,hvalue,h.swapTotal⟩
  · exact ⟨h.total,h.available,hvalue⟩
  · exact ⟨h.total,h.available,h.swapTotal⟩
  · exact h

theorem lines_fit (lines : List (List Char × List Char)) {m : MemoryLines} (h : m.Fits) :
    (lines.foldl MemoryLines.read m).Fits := by
  induction lines generalizing m with
  | nil => exact h
  | cons line lines ih => exact ih (read_fits h line)

theorem getStatus_fits {machine : Machine} {s : Status} (h : getStatus machine = .ok s) :
    s.Fits := by
  unfold getStatus at h
  cases hmeminfo : machine.meminfo with
  | error e =>
    rw [hmeminfo] at h
    cases h
  | ok text =>
    have hm := lines_fit (Lines.keyedLines text) (m := ⟨0,0,0,0⟩) ⟨by decide,by decide,by decide⟩
    rw [← Lines.eachLine_keyed] at hm
    rw [hmeminfo] at h
    obtain rfl := Except.ok.inj h
    refine ⟨hm.total,?_,hm.available,hm.swapTotal,?_,?_⟩
    · exact Nat.lt_of_le_of_lt (Nat.sub_le ..) hm.total
    · exact Nat.lt_of_le_of_lt (Nat.sub_le ..) hm.swapTotal
    · cases machine.swappiness with
      | none => exact Nat.two_pow_pos 32
      | some text => exact parseU32_lt (Lines.trimmed text)

theorem dispatch_fits {machine : Machine} {cmd : IpcCommand} {response : IpcResponse}
    (h : (dispatch machine cmd).response = some response) : response.Fits := by
  intro s hs
  subst hs
  cases cmd with
  | status =>
    cases hstatus : getStatus machine with
    | ok t =>
      simp only [dispatch,hstatus,reply,Option.some.injEq,IpcResponse.status.injEq] at h
      exact h ▸ getStatus_fits hstatus
    | error e => simp [dispatch,hstatus,reply] at h
  | optimize | clean =>
    simp only [dispatch,writeDropCaches] at h
    split at h <;> simp [reply] at h
  | _ => simp [dispatch,reply] at h

end Bounds

section Sample

open Reading
open JsonText
open Utf8 (replacement)

def label (name : String) : List Char := quoted name.toList ++ [':']

def numberText (before : List Char) (n : ℕ) (stop : Char) : List Char :=
  before ++ (Nat.toDigits 10 n ++ [stop])

def flagText (b : Bool) : List Char := if b then "true".toList else "false".toList

def statusText (s : Status) : List Char :=
  numberText ('{' :: label "memory_total_kb") s.memoryTotalKb ',' ++
  (numberText (label "memory_used_kb") s.memoryUsedKb ',' ++
  (numberText (label "memory_available_kb") s.memoryAvailableKb ',' ++
  (numberText (label "swap_total_kb") s.swapTotalKb ',' ++
  (numberText (label "swap_used_kb") s.swapUsedKb ',' ++
  (numberText (label "swappiness") s.swappiness ',' ++
  (label "zram_active" ++ (flagText s.zramActive ++
  (',' :: label "profile" ++ (quoted s.profile.toList ++
  (',' :: label "workload" ++ (quoted s.workload.toList ++ (['}'] ++ []))))))))))))

def responseText : IpcResponse → List Char
  | .ok text => newtypeText "Ok" text
  | .error text => newtypeText "Error" text
  | .status s =>
    ['{'] ++ (quoted "Status".toList ++ ([':'] ++ (statusText s ++ (['}'] ++ []))))

def readNumber (before : List Char) (width : ℕ) (stop : Char) : Reader ℕ :=
  andThen (literal before) fun _ => numeral width stop

def readFlag : Reader Bool :=
  onHead 't' (andThen (literal "true".toList) fun _ => give (some true))
    (andThen (literal "false".toList) fun _ => give (some false))

def readStatus : Reader Status :=
  andThen (readNumber ('{' :: label "memory_total_kb") 64 ',') fun total =>
  andThen (readNumber (label "memory_used_kb") 64 ',') fun used =>
  andThen (readNumber (label "memory_available_kb") 64 ',') fun available =>
  andThen (readNumber (label "swap_total_kb") 64 ',') fun swapTotal =>
  andThen (readNumber (label "swap_used_kb") 64 ',') fun swapUsed =>
  andThen (readNumber (label "swappiness") 32 ',') fun swappiness =>
  andThen (literal (label "zram_active")) fun _ => andThen readFlag fun zramActive =>
  andThen (literal (',' :: label "profile")) fun _ => andThen JsonText.string fun profile =>
  andThen (literal (',' :: label "workload")) fun _ => andThen JsonText.string fun workload =>
  andThen (literal ['}']) fun _ =>
    give (some ⟨total,used,available,swapTotal,swapUsed,swappiness,zramActive,
      String.ofList profile,String.ofList workload⟩)

def textResponse (name : List Char) (text : String) : Option IpcResponse :=
  if name = "Ok".toList then some (.ok text)
  else if name = "Error".toList then some (.error text)
  else none

def readVariant (name : List Char) : Reader IpcResponse :=
  if name = "Status".toList then
    andThen readStatus fun s => andThen (literal ['}']) fun _ => give (some (.status s))
  else
    andThen JsonText.string fun text =>
    andThen (literal ['}']) fun _ => give (textResponse name (String.ofList text))

def readResponse : Reader IpcResponse :=
  andThen (literal ['{']) fun _ => andThen JsonText.string fun name =>
  andThen (literal [':']) fun _ => readVariant name

def replyText : ReplyJson :=
  { toString := responseText
    fromStr := fun text =>
      match readResponse text with
      | some (response,rest) =>
        if rest.all Char.isWhitespace then .ok response else .error "trailing characters"
      | none => .error "expected value" }

theorem reads_number {before : List Char} (hbefore : replacement ∉ before) {width n : ℕ}
    (h : n < 2 ^ width) :
    Reads (readNumber before width ',') (numberText before n ',') n :=
  reads_andThen (reads_literal hbefore) (reads_numeral h (by decide) (by decide))

theorem reads_flag (b : Bool) : Reads readFlag (flagText b) b := by
  cases b with
  | true =>
    apply reads_onHead
    · exact reads_andThen (reads_literal (by decide)) (reads_give true)
    · rfl
    · rfl
  | false =>
    apply reads_onHead_other
    · exact reads_andThen (reads_literal (by decide)) (reads_give false)
    · decide
    · decide

theorem reads_status {s : Status} (h : s.Fits) : Reads readStatus (statusText s) s := by
  apply reads_andThen (reads_number (by decide) h.total)
  apply reads_andThen (reads_number (by decide) h.used)
  apply reads_andThen (reads_number (by decide) h.available)
  apply reads_andThen (reads_number (by decide) h.swapTotal)
  apply reads_andThen (reads_number (by decide) h.swapUsed)
  apply reads_andThen (reads_number (by decide) h.swappiness)
  apply reads_andThen (reads_literal (by decide))
  apply reads_andThen (reads_flag s.zramActive)
  apply reads_andThen (reads_literal (by decide))
  apply reads_andThen (reads_string s.profile.toList)
  apply reads_andThen (reads_literal (by decide))
  apply reads_andThen (reads_string s.workload.toList)
  apply reads_andThen (reads_literal (by decide))
  rw [String.ofList_toList,String.ofList_toList]
  exact reads_give s

theorem reads_text {response : IpcResponse} {name text : String}
    (hname : name.toList ≠ "Status".toList)
    (h : textResponse name.toList text = some response) :
    Reads readResponse (newtypeText name text) response := by
  apply reads_andThen (reads_literal (by decide))
  apply reads_andThen (reads_string name.toList)
  apply reads_andThen (reads_literal (by decide))
  rw [readVariant,if_neg hname]
  apply reads_andThen (reads_string text.toList)
  apply reads_andThen (reads_literal (by decide))
  rw [String.ofList_toList,h]
  exact reads_give response

theorem reads_response {response : IpcResponse} (h : response.Fits) :
    Reads readResponse (responseText response) response := by
  cases response with
  | ok text => exact reads_text (by decide) rfl
  | error text => exact reads_text (by decide) rfl
  | status s =>
    apply reads_andThen (reads_literal (by decide))
    apply reads_andThen (reads_string "Status".toList)
    apply reads_andThen (reads_literal (by decide))
    rw [readVariant,if_pos rfl]
    apply reads_andThen (reads_status (h s rfl))
    apply reads_andThen (reads_literal (by decide))
    exact reads_give _

theorem replyText_documented : replyText.Documented := by
  constructor
  · intro response blanks hfits hblanks
    simp only [replyText]
    rw [(reads_response hfits).whole blanks]
    exact if_pos (List.all_eq_true.mpr hblanks)
  · exact ⟨"expected value",rfl⟩

end Sample

end Uroam.Service.Ipc
