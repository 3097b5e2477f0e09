import Uroam.Library.JsonText
import Uroam.Service.Ipc

namespace Uroam.Service.Ipc

structure SerdeJson.Documented (serde : SerdeJson) : Prop where
  trailing : ∀ cmd blanks, (∀ c ∈ blanks, Char.isWhitespace c = true) →
    serde.fromStr (serde.toString cmd ++ blanks) = .ok cmd
  unfinished : ∀ cmd part, Utf8.Cut (serde.toString cmd) part → ∃ e, serde.fromStr part = .error e

theorem dispatch_dispatched (machine : Machine) (cmd : IpcCommand) :
    (dispatch machine cmd).dispatched = some cmd := by
  unfold dispatch writeDropCaches
  cases cmd <;> dsimp only <;> first | rfl | (split <;> rfl)

theorem first_read {stream : List (List UInt8)} {bytes : List UInt8}
    (h : Delivers stream bytes) (size : Nat) : read size stream <+: bytes := by
  obtain ⟨rfl,-⟩ := h
  cases stream with
  | nil => exact List.nil_prefix
  | cons chunk rest => exact (List.take_prefix size chunk).trans (List.prefix_append chunk _)

theorem read_length (size : Nat) (stream : List (List UInt8)) :
    (read size stream).length = min size (stream.headD []).length := by
  cases stream with
  | nil => simp [read]
  | cons chunk rest => simp [read]

theorem read_ne_nil {stream : List (List UInt8)} {bytes : List UInt8} (h : Delivers stream bytes)
    (hbytes : bytes ≠ []) (size : Nat) (hsize : 0 < size) : read size stream ≠ [] := by
  obtain ⟨rfl,hchunks⟩ := h
  cases stream with
  | nil => exact absurd rfl hbytes
  | cons chunk rest =>
    have hchunk := hchunks chunk List.mem_cons_self
    simpa [read,Nat.pos_iff_ne_zero.mp hsize] using hchunk

section Serde

variable {serde : SerdeJson} (machine : Machine) {cmd : IpcCommand} {stream : List (List UInt8)}

theorem handle_eq (h : read 4096 stream ≠ []) :
    (handleClient serde machine stream).dispatched =
      match serde.fromStr (Utf8.lossy (read 4096 stream)) with
      | .ok cmd => some cmd
      | .error _ => none := by
  unfold handleClient
  dsimp only
  rw [if_neg h]
  cases serde.fromStr (Utf8.lossy (read 4096 stream)) with
  | ok cmd => exact dispatch_dispatched machine cmd
  | error e => rfl

theorem handle_cut (hserde : serde.Documented) (h : read 4096 stream ≠ [])
    (hpart : read 4096 stream <+: commandBytes serde cmd)
    (hne : read 4096 stream ≠ commandBytes serde cmd) :
    (handleClient serde machine stream).dispatched = none := by
  obtain ⟨e,he⟩ := hserde.unfinished cmd _ (Utf8.lossy_prefix hpart hne)
  rw [handle_eq machine h,he]

theorem lossy_newline {rest : List UInt8} (h : rest <+: Utf8.encode ['\n']) :
    ∀ c ∈ Utf8.lossy rest, Char.isWhitespace c = true := by
  have hnewline : Utf8.encode ['\n'] = [10] := by decide
  rw [hnewline] at h
  cases rest with
  | nil => simp [Utf8.lossy,Utf8.decodeFrom]
  | cons b rest =>
    obtain ⟨rfl,hrest⟩ := List.cons_prefix_cons.mp h
    have hlossy : Utf8.lossy [10] = ['\n'] := by
      rw [← hnewline,← List.append_nil (Utf8.encode _),Utf8.lossy_encode]
      rfl
    rw [List.prefix_nil.mp hrest,hlossy]
    intro c hc
    rw [List.mem_singleton.mp hc]
    rfl

theorem handle_whole (hserde : serde.Documented) (h : read 4096 stream ≠ []) {rest : List UInt8}
    (hread : read 4096 stream = commandBytes serde cmd ++ rest)
    (hrest : rest <+: Utf8.encode ['\n']) :
    (handleClient serde machine stream).dispatched = some cmd := by
  rw [handle_eq machine h,hread,commandBytes,Utf8.lossy_encode,
    hserde.trailing cmd _ (lossy_newline hrest)]

theorem dispatched_iff (hserde : serde.Documented)
    (hstream : Delivers stream (sendCommand serde cmd)) :
    (handleClient serde machine stream).dispatched = some cmd ↔
      (commandBytes serde cmd).length ≤ 4096 ∧
        (commandBytes serde cmd).length ≤ (stream.headD []).length := by
  have hsent : sendCommand serde cmd ≠ [] := by
    have hnewline : Utf8.encode ['\n'] ≠ [] := by decide
    simp [sendCommand,hnewline]
  have hread := read_ne_nil hstream hsent 4096 (by decide)
  have hlength := read_length 4096 stream
  rw [← Nat.le_min,← hlength]
  rcases Utf8.prefix_cases (first_read hstream 4096) with ⟨hpart,hne⟩ | ⟨rest,heq,hrest⟩
  · have hlt := Nat.lt_of_le_of_ne hpart.length_le fun he => hne (hpart.eq_of_length he)
    rw [handle_cut machine hserde hread hpart hne]
    constructor
    · intro hnone
      cases hnone
    · intro hle
      exact absurd hlt (Nat.not_lt.mpr hle)
  · refine iff_of_true (handle_whole machine hserde hread heq hrest) ?_
    rw [heq,List.length_append]
    exact Nat.le_add_right ..

end Serde

section Sample

open Reading
open JsonText

def unitCommands : List IpcCommand :=
  [.status,.optimize,.profileGet,.clean,.monitorStart,.monitorStop,.zramStatus,.configReload,
    .shutdown]

def variantName : IpcCommand → String
  | .status => "Status"
  | .optimize => "Optimize"
  | .profileGet => "ProfileGet"
  | .profileSet _ => "ProfileSet"
  | .clean => "Clean"
  | .monitorStart => "MonitorStart"
  | .monitorStop => "MonitorStop"
  | .zramStatus => "ZramStatus"
  | .zramResize _ => "ZramResize"
  | .configReload => "ConfigReload"
  | .shutdown => "Shutdown"

def newtypeText (name value : String) : List Char :=
  ['{'] ++ (quoted name.toList ++ ([':'] ++ (quoted value.toList ++ (['}'] ++ []))))

def commandText (cmd : IpcCommand) : List Char :=
  match cmd with
  | .profileSet name => newtypeText "ProfileSet" name
  | .zramResize size => newtypeText "ZramResize" size
  | _ => quoted (variantName cmd).toList ++ []

def unitCommand (name : List Char) : Option IpcCommand :=
  unitCommands.find? fun cmd => (variantName cmd).toList = name

def newtypeCommand (name value : List Char) : Option IpcCommand :=
  if name = "ProfileSet".toList then some (.profileSet (String.ofList value))
  else if name = "ZramResize".toList then some (.zramResize (String.ofList value))
  else none

def readUnit : Reader IpcCommand := andThen JsonText.string fun name => give (unitCommand name)

def readNewtype : Reader IpcCommand :=
  andThen (literal ['{']) fun _ => andThen JsonText.string fun name =>
  andThen (literal [':']) fun _ => andThen JsonText.string fun value =>
  andThen (literal ['}']) fun _ => give (newtypeCommand name value)

def readCommand : Reader IpcCommand := onHead '{' readNewtype readUnit

def serdeText : SerdeJson :=
  { toString := commandText
    fromStr := fun text =>
      match readCommand text with
      | some (cmd,rest) => if rest.all Char.isWhitespace then .ok cmd else .error "trailing characters"
      | none => .error "expected value" }

theorem reads_newtype {cmd : IpcCommand} {name value : String}
    (h : newtypeCommand name.toList value.toList = some cmd) :
    Reads readCommand (newtypeText name value) cmd := by
  apply reads_onHead
  · apply reads_andThen (reads_literal (by decide))
    apply reads_andThen (reads_string name.toList)
    apply reads_andThen (reads_literal (by decide))
    apply reads_andThen (reads_string value.toList)
    apply reads_andThen (reads_literal (by decide))
    rw [h]
    exact reads_give cmd
  · rfl
  · rfl

theorem reads_unit {cmd : IpcCommand} {name : String} (h : unitCommand name.toList = some cmd) :
    Reads readCommand (quoted name.toList ++ []) cmd := by
  apply reads_onHead_other
  · apply reads_andThen (reads_string name.toList)
    rw [h]
    exact reads_give cmd
  · decide
  · decide

theorem reads_command (cmd : IpcCommand) : Reads readCommand (commandText cmd) cmd := by
  cases cmd with
  | profileSet name => exact reads_newtype (by simp [newtypeCommand])
  | zramResize size => exact reads_newtype (by simp [newtypeCommand])
  | status | optimize | profileGet | clean | monitorStart | monitorStop | zramStatus
  | configReload | shutdown => exact reads_unit rfl

theorem serdeText_documented : serdeText.Documented := by
  constructor
  · intro cmd blanks hblanks
    simp only [serdeText]
    rw [(reads_command cmd).whole blanks]
    exact if_pos (List.all_eq_true.mpr hblanks)
  · intro cmd part hcut
    refine ⟨"expected value",?_⟩
    simp only [serdeText]
    rw [(reads_command cmd).cut part hcut]

def idleMachine : Machine := ⟨.ok [],none,false,none⟩

theorem dispatched_iff_sample :
    (handleClient serdeText idleMachine [sendCommand serdeText (.profileSet "gaming")]).dispatched =
      some (.profileSet "gaming") :=
  (dispatched_iff idleMachine serdeText_documented
    ⟨by decide +kernel,by decide +kernel⟩).mpr ⟨by decide +kernel,by decide +kernel⟩

theorem split_command_not_dispatched :
    ¬ ∀ serde : SerdeJson, serde.Documented → ∀ machine cmd stream,
      Delivers stream (sendCommand serde cmd) →
        (handleClient serde machine stream).dispatched = some cmd := by
  intro hall
  have hsplit := hall serdeText serdeText_documented idleMachine .status
    [(sendCommand serdeText .status).take 3,(sendCommand serdeText .status).drop 3]
    ⟨by decide +kernel,by decide +kernel⟩
  exact absurd hsplit (by decide +kernel)

end Sample

end Uroam.Service.Ipc
