import Uroam.Library.Pipes
import Uroam.Library.Runs
import Uroam.Service.Replies

namespace Uroam.Service.Ipc
open Pipes Runs

inductive Fault where
  | brokenPipe
  | connectionReset
  | invalidData (message : String)
  deriving DecidableEq, Repr

def readToString (bytes : List UInt8) : Except Fault (List Char) :=
  let text := Utf8.lossy bytes
  if Utf8.encode text = bytes then .ok text
  else .error (.invalidData "stream did not contain valid UTF-8")

def sendBuffers (serde : SerdeJson) (cmd : IpcCommand) : List (List UInt8) :=
  [commandBytes serde cmd,Utf8.encode ['\n']]

structure Exchange where
  request : Pipe UInt8
  response : Pipe UInt8
  handled : Option Handled
  closed : Bool
  result : Option (Except Fault IpcResponse)
  deriving DecidableEq

def Exchange.connect (serde : SerdeJson) (cmd : IpcCommand) : Exchange :=
  ⟨.sending (sendBuffers serde cmd),.sending [],none,false,none⟩

inductive Call where
  | client (moved : ℕ)
  | server (moved : ℕ)

section Steps

variable (serde : SerdeJson) (replies : ReplyJson) (machine : Machine)

def replyBuffers (response : Option IpcResponse) : List (List UInt8) :=
  match response with
  | none => []
  | some response => [Utf8.encode (replies.toString response),Utf8.encode ['\n']]

def decodeReply (bytes : List UInt8) : Except Fault IpcResponse :=
  match readToString bytes with
  | .error fault => .error fault
  | .ok text =>
    match replies.fromStr text with
    | .ok response => .ok response
    | .error e => .error (.invalidData e)

def Exchange.finish (x : Exchange) : Except Fault IpcResponse :=
  if x.request.queued = [] then decodeReply replies x.response.got else .error .connectionReset

def Exchange.client (x : Exchange) (moved : ℕ) : Exchange :=
  match x.result,x.request.unsent with
  | some _,_ => x
  | none,buffer :: _ =>
    if x.closed = true ∧ buffer ≠ [] then { x with result := some (.error .brokenPipe) }
    else { x with request := x.request.write moved }
  | none,[] =>
    if x.response.queued ≠ [] then { x with response := x.response.read moved }
    else if x.closed then { x with result := some (x.finish replies) }
    else x

-- The client keeps its end open until the server has closed, so a read that finds nothing waits.
def Exchange.server (x : Exchange) (moved : ℕ) : Exchange :=
  if x.closed then x
  else
    match x.handled with
    | none =>
      if x.request.queued = [] then x
      else
        let handled := handleClient serde machine [x.request.queued]
        { x with
          request := x.request.read 4096
          response := .sending (replyBuffers replies handled.response)
          handled := some handled }
    | some _ =>
      if x.response.unsent = [] then { x with closed := true }
      else { x with response := x.response.write moved }

def Exchange.step (x : Exchange) : Call → Exchange
  | .client moved => x.client replies moved
  | .server moved => x.server serde replies machine moved

end Steps

section Invariant

variable (serde : SerdeJson) (replies : ReplyJson) (machine : Machine)

structure Exchange.Waiting (x : Exchange) : Prop where
  untaken : x.request.got = []
  silent : x.response = .sending []
  held : x.closed = false

structure Exchange.Served (x : Exchange) (handled : Handled) : Prop where
  taken : x.request.got ≠ []
  fits : x.request.got.length ≤ 4096
  called : handled = handleClient serde machine [x.request.got]
  replied : x.response.content = (replyBuffers replies handled.response).flatten
  written : x.closed = true → x.response.unsent = []

inductive Exchange.Ended (x : Exchange) : Except Fault IpcResponse → Prop where
  | broken (h : x.request.unsent.flatten ≠ []) : Ended x (.error .brokenPipe)
  | drained (hsent : x.request.unsent = []) (hread : x.response.queued = []) :
    Ended x (x.finish replies)

structure Exchange.Sound (cmd : IpcCommand) (x : Exchange) : Prop where
  sent : x.request.content = sendCommand serde cmd
  waiting : x.handled = none → x.Waiting
  served : ∀ handled, x.handled = some handled → x.Served serde replies machine handled
  ended : ∀ r, x.result = some r → x.closed = true ∧ x.Ended replies r

variable {serde replies machine} {cmd : IpcCommand} {x : Exchange}

theorem opens_sound : (Exchange.connect serde cmd).Sound serde replies machine cmd where
  sent := by simp [Exchange.connect,sendBuffers,sendCommand]
  waiting _ := ⟨rfl,rfl,rfl⟩
  served handled h := by cases h
  ended r h := by cases h

theorem handle_taken {queued : List UInt8} :
    handleClient serde machine [queued] = handleClient serde machine [queued.take 4096] := by
  simp [handleClient,read,List.take_take]

theorem write_sound (h : x.Sound serde replies machine cmd) (hnone : x.result = none) (n : ℕ) :
    Exchange.Sound serde replies machine cmd { x with request := x.request.write n } where
  sent := by rw [write_content,h.sent]
  waiting hw := ⟨by rw [write_got,(h.waiting hw).untaken],(h.waiting hw).silent,(h.waiting hw).held⟩
  served handled hs := by
    have hserved := h.served handled hs
    refine ⟨?_,?_,?_,hserved.replied,hserved.written⟩
    · rw [write_got]
      exact hserved.taken
    · rw [write_got]
      exact hserved.fits
    · rw [write_got]
      exact hserved.called
  ended r hr := absurd (hnone.symm.trans hr) (by simp)

theorem read_sound (h : x.Sound serde replies machine cmd) (hnone : x.result = none) (n : ℕ) :
    Exchange.Sound serde replies machine cmd { x with response := x.response.read n } where
  sent := h.sent
  waiting hw := by
    have hwait := h.waiting hw
    refine ⟨hwait.untaken,?_,hwait.held⟩
    rw [hwait.silent]
    simp [Pipe.read,Pipe.sending]
  served handled hs := by
    have hserved := h.served handled hs
    exact ⟨hserved.taken,hserved.fits,hserved.called,by rw [read_content,hserved.replied],
      hserved.written⟩
  ended r hr := absurd (hnone.symm.trans hr) (by simp)

theorem result_sound {r : Except Fault IpcResponse} (h : x.Sound serde replies machine cmd)
    (hclosed : x.closed = true) (hended : x.Ended replies r) :
    Exchange.Sound serde replies machine cmd { x with result := some r } where
  sent := h.sent
  waiting hw := ⟨(h.waiting hw).untaken,(h.waiting hw).silent,(h.waiting hw).held⟩
  served handled hs := by
    have hserved := h.served handled hs
    exact ⟨hserved.taken,hserved.fits,hserved.called,hserved.replied,hserved.written⟩
  ended s hs := by
    obtain rfl : r = s := Option.some.inj hs
    refine ⟨hclosed,?_⟩
    cases hended with
    | broken hunsent => exact .broken hunsent
    | drained hsent hread => exact .drained hsent hread

theorem client_sound (h : x.Sound serde replies machine cmd) (n : ℕ) :
    (x.client replies n).Sound serde replies machine cmd := by
  unfold Exchange.client
  split
  · exact h
  · rename_i buffer rest hnone hunsent
    split_ifs with hbroken
    · refine result_sound h hbroken.1 (.broken ?_)
      rw [hunsent,List.flatten_cons]
      exact List.append_ne_nil_of_left_ne_nil hbroken.2 _
    · exact write_sound h hnone n
  · rename_i hnone hunsent
    split_ifs with hqueued hclosed
    · exact read_sound h hnone n
    · exact result_sound h hclosed (.drained hunsent (not_not.mp hqueued))
    · exact h

theorem take_sound (h : x.Sound serde replies machine cmd) (hnone : x.handled = none)
    (hqueued : x.request.queued ≠ []) (hheld : x.closed = false) :
    Exchange.Sound serde replies machine cmd
      { x with
        request := x.request.read 4096
        response := .sending
          (replyBuffers replies (handleClient serde machine [x.request.queued]).response)
        handled := some (handleClient serde machine [x.request.queued]) } where
  sent := by rw [read_content,h.sent]
  waiting hw := by cases hw
  served handled hs := by
    obtain rfl := Option.some.inj hs
    have hgot : (x.request.read 4096).got = x.request.queued.take 4096 := by
      rw [read_got,(h.waiting hnone).untaken,List.nil_append]
    refine ⟨?_,?_,?_,sending_content _,fun hclosed => ?_⟩
    · rw [hgot]
      simpa using hqueued
    · rw [hgot]
      exact List.length_take_le ..
    · rw [hgot]
      exact handle_taken
    · exact absurd (hheld.symm.trans hclosed) (by decide)
  ended r hr := absurd (hheld.symm.trans (h.ended r hr).1) (by decide)

theorem server_sound (h : x.Sound serde replies machine cmd) (n : ℕ) :
    (x.server serde replies machine n).Sound serde replies machine cmd := by
  unfold Exchange.server
  split
  · exact h
  · rename_i hclosed
    have hheld : x.closed = false := by simpa using hclosed
    split
    · rename_i hnone
      split_ifs with hqueued
      · exact h
      · exact take_sound h hnone hqueued hheld
    · rename_i handled hsome
      have hserved := h.served handled hsome
      have hrunning : ∀ r, x.result ≠ some r := fun r hr => hclosed (h.ended r hr).1
      split_ifs with hunsent
      · refine ⟨h.sent,fun hw => absurd (hw.symm.trans hsome) (by simp),fun other hs => ?_,
          fun r hr => absurd hr (hrunning r)⟩
        have hother := h.served other hs
        exact ⟨hother.taken,hother.fits,hother.called,hother.replied,fun _ => hunsent⟩
      · refine ⟨h.sent,fun hw => absurd (hw.symm.trans hsome) (by simp),fun other hs => ?_,
          fun r hr => absurd hr (hrunning r)⟩
        have hother := h.served other hs
        exact ⟨hother.taken,hother.fits,hother.called,by rw [write_content,hother.replied],
          fun hc => absurd hc hclosed⟩

theorem step_sound (h : x.Sound serde replies machine cmd) (call : Call) :
    (x.step serde replies machine call).Sound serde replies machine cmd := by
  cases call with
  | client moved => exact client_sound h moved
  | server moved => exact server_sound h moved

theorem run_sound (calls : List Call) :
    (exec (Exchange.step serde replies machine) (.connect serde cmd) calls).Sound serde replies
      machine cmd := by
  refine invariant (Exchange.step serde replies machine) (E := fun _ _ => True) ?_ calls _
    opens_sound (along_true ..)
  intro x call hx _
  exact step_sound hx call

end Invariant

section Results

variable {serde : SerdeJson} {replies : ReplyJson} {machine : Machine} {cmd : IpcCommand}
  {x : Exchange}

theorem lossy_exact (text : List Char) : Utf8.lossy (Utf8.encode text) = text := by
  have h := Utf8.lossy_encode text []
  rwa [List.append_nil,show Utf8.lossy [] = [] from rfl,List.append_nil] at h

theorem encode_newline (text : List Char) :
    Utf8.encode text ++ Utf8.encode ['\n'] = Utf8.encode (text ++ ['\n']) :=
  List.flatMap_append.symm

theorem newline_blank : ∀ c ∈ ['\n'], Char.isWhitespace c = true := by
  intro c hc
  rw [List.mem_singleton.mp hc]
  rfl

theorem readToString_encode (text : List Char) : readToString (Utf8.encode text) = .ok text := by
  simp [readToString,lossy_exact]

theorem decode_reply (hreplies : replies.Documented) {response : IpcResponse}
    (h : response.Fits) :
    decodeReply replies (replyBuffers replies (some response)).flatten = .ok response := by
  have hbytes : (replyBuffers replies (some response)).flatten =
      Utf8.encode (replies.toString response ++ ['\n']) := by
    rw [← encode_newline]
    simp [replyBuffers]
  rw [hbytes,decodeReply,readToString_encode]
  dsimp only
  rw [hreplies.trailing response _ h newline_blank]

theorem decode_silence (hreplies : replies.Documented) (response : IpcResponse) :
    decodeReply replies (replyBuffers replies none).flatten ≠ .ok response := by
  obtain ⟨e,he⟩ := hreplies.empty
  have hempty : readToString [] = .ok [] := readToString_encode []
  simp [replyBuffers,decodeReply,hempty,he]

theorem handle_sent (hserde : serde.Documented) (hfits : (sendCommand serde cmd).length ≤ 4096) :
    handleClient serde machine [sendCommand serde cmd] = dispatch machine cmd := by
  have hread : read 4096 [sendCommand serde cmd] = Utf8.encode (serde.toString cmd ++ ['\n']) := by
    rw [← encode_newline]
    exact List.take_of_length_le hfits
  have hne : Utf8.encode (serde.toString cmd ++ ['\n']) ≠ [] := by
    have hnewline : Utf8.encode ['\n'] ≠ [] := by decide
    rw [← encode_newline]
    exact List.append_ne_nil_of_right_ne_nil _ hnewline
  simp only [handleClient]
  rw [hread,if_neg hne,lossy_exact,hserde.trailing cmd _ newline_blank]

theorem sent_ne_nil : sendCommand serde cmd ≠ [] := by
  have hnewline : Utf8.encode ['\n'] ≠ [] := by decide
  exact List.append_ne_nil_of_right_ne_nil _ hnewline

theorem sent_whole (h : x.Sound serde replies machine cmd)
    (hgot : x.request.got = sendCommand serde cmd) :
    x.request.queued = [] ∧ x.request.unsent.flatten = [] := got_whole (hgot.trans h.sent.symm)

theorem closed_handled (h : x.Sound serde replies machine cmd) (hclosed : x.closed = true) :
    ∃ handled, x.handled = some handled ∧ x.Served serde replies machine handled := by
  cases hhandled : x.handled with
  | none => exact absurd ((h.waiting hhandled).held.symm.trans hclosed) (by decide)
  | some handled => exact ⟨handled,rfl,h.served handled hhandled⟩

theorem replied_whole (hserde : serde.Documented) (h : x.Sound serde replies machine cmd)
    (hclosed : x.closed = true) (hgot : x.request.got = sendCommand serde cmd)
    (hread : x.response.queued = []) :
    x.response.got = (replyBuffers replies (dispatch machine cmd).response).flatten := by
  obtain ⟨handled,-,hserved⟩ := closed_handled h hclosed
  have hdispatch : handled = dispatch machine cmd := by
    rw [hserved.called,hgot]
    exact handle_sent hserde (hgot ▸ hserved.fits)
  rw [content_drained hread (hserved.written hclosed),hserved.replied,hdispatch]

theorem decoded_iff (hreplies : replies.Documented) (response : IpcResponse) :
    decodeReply replies (replyBuffers replies (dispatch machine cmd).response).flatten =
      .ok response ↔ (dispatch machine cmd).response = some response := by
  cases hresponse : (dispatch machine cmd).response with
  | none => exact iff_of_false (decode_silence hreplies response) fun h => by cases h
  | some sent =>
    rw [decode_reply hreplies (dispatch_fits hresponse)]
    constructor
    · intro hok
      rw [Except.ok.inj hok]
    · intro hsome
      rw [Option.some.inj hsome]

theorem answer_iff (hserde : serde.Documented) (hreplies : replies.Documented)
    (h : x.Sound serde replies machine cmd) {r : Except Fault IpcResponse}
    (hr : x.result = some r) (response : IpcResponse) :
    r = .ok response ↔
      x.request.got = sendCommand serde cmd ∧ (dispatch machine cmd).response = some response := by
  obtain ⟨hclosed,hended⟩ := h.ended r hr
  cases hended with
  | broken hunsent =>
    refine iff_of_false (fun hok => by cases hok) ?_
    rintro ⟨hgot,-⟩
    exact hunsent (sent_whole h hgot).2
  | drained hsent hread =>
    unfold Exchange.finish
    split_ifs with hqueued
    · have hgot : x.request.got = sendCommand serde cmd :=
        (content_drained hqueued hsent).trans h.sent
      rw [replied_whole hserde h hclosed hgot hread,decoded_iff hreplies,and_iff_right hgot]
    · refine iff_of_false (fun hok => by cases hok) ?_
      rintro ⟨hgot,-⟩
      exact hqueued (sent_whole h hgot).1

theorem dispatched_taken_iff (hserde : serde.Documented) (h : x.Sound serde replies machine cmd)
    (hclosed : x.closed = true) :
    x.handled.bind Handled.dispatched = some cmd ↔
      x.request.got = commandBytes serde cmd ∨ x.request.got = sendCommand serde cmd := by
  obtain ⟨handled,hhandled,hserved⟩ := closed_handled h hclosed
  have hread : read 4096 [x.request.got] = x.request.got := List.take_of_length_le hserved.fits
  have hne : read 4096 [x.request.got] ≠ [] := by
    rw [hread]
    exact hserved.taken
  have hprefix : x.request.got <+: sendCommand serde cmd := by
    rw [← h.sent]
    exact got_prefix x.request
  rw [hhandled,Option.bind_some,hserved.called]
  rcases Utf8.prefix_cases hprefix with ⟨hpart,hproper⟩ | ⟨rest,hgot,hrest⟩
  · rw [handle_cut machine hserde hne (hread.symm ▸ hpart) (hread.symm ▸ hproper)]
    refine iff_of_false (fun hd => by cases hd) ?_
    rintro (hcommand | hsent)
    · exact hproper hcommand
    · have hlonger : (sendCommand serde cmd).length ≤ (commandBytes serde cmd).length :=
        hsent ▸ hpart.length_le
      have hnewline : (Utf8.encode ['\n']).length = 1 := by decide
      rw [sendCommand,List.length_append] at hlonger
      omega
  · rw [handle_whole machine hserde hne (hread.trans hgot) hrest]
    refine iff_of_true rfl ?_
    have hnewline : Utf8.encode ['\n'] = [10] := by decide
    rw [hnewline] at hrest
    cases rest with
    | nil => exact .inl (hgot.trans (List.append_nil _))
    | cons b rest =>
      obtain ⟨rfl,hnil⟩ := List.cons_prefix_cons.mp hrest
      rw [List.prefix_nil.mp hnil] at hgot
      exact .inr (by rw [hgot,sendCommand,hnewline])

theorem silent_iff : (dispatch machine cmd).response = none ↔ cmd = .shutdown := by
  cases cmd with
  | shutdown => exact iff_of_true rfl rfl
  | status =>
    refine iff_of_false ?_ (fun h => by cases h)
    simp only [dispatch]
    split <;> simp [reply]
  | optimize | clean =>
    refine iff_of_false ?_ (fun h => by cases h)
    simp only [dispatch,writeDropCaches]
    split <;> simp [reply]
  | _ => exact iff_of_false (by simp [dispatch,reply]) (fun h => by cases h)

end Results

section Progress

variable {serde : SerdeJson} {replies : ReplyJson} {machine : Machine} {cmd : IpcCommand}
  {x : Exchange}

def Exchange.owed (x : Exchange) : ℕ :=
  x.request.unsent.length + (if x.handled = none then 5 else 0) + 2 * x.response.unsent.length +
    (if x.response.queued = [] then 0 else 1) + (if x.closed then 0 else 1) +
    (if x.result = none then 1 else 0)

theorem replyBuffers_length (response : Option IpcResponse) :
    (replyBuffers replies response).length ≤ 2 := by
  cases response <;> simp [replyBuffers]

theorem client_sends {buffer : List UInt8} {rest : List (List UInt8)} (hnone : x.result = none)
    (hunsent : x.request.unsent = buffer :: rest) :
    (x.client replies buffer.length).owed < x.owed := by
  have hwrite := write_whole hunsent
  unfold Exchange.client
  rw [hnone,hunsent]
  dsimp only
  split_ifs
  · simp [Exchange.owed,hnone]
  · simp only [Exchange.owed,hwrite,hunsent,hnone,List.length_cons]
    omega

theorem client_reads (hnone : x.result = none) (hunsent : x.request.unsent = [])
    (hqueued : x.response.queued ≠ []) :
    (x.client replies x.response.queued.length).owed < x.owed := by
  unfold Exchange.client
  rw [hnone,hunsent]
  dsimp only
  rw [if_pos hqueued]
  simp only [Exchange.owed,read_all,read_unsent,if_true,if_neg hqueued,hnone]
  omega

theorem client_ends (hnone : x.result = none) (hunsent : x.request.unsent = [])
    (hqueued : x.response.queued = []) (hclosed : x.closed = true) :
    (x.client replies 0).owed < x.owed := by
  simp [Exchange.client,Exchange.owed,hnone,hunsent,hqueued,hclosed]

theorem server_takes (h : x.Sound serde replies machine cmd) (hwait : x.handled = none)
    (hunsent : x.request.unsent = []) : (x.server serde replies machine 0).owed < x.owed := by
  have hwaiting := h.waiting hwait
  have hqueued : x.request.queued ≠ [] := by
    intro hempty
    have hgot := (content_drained hempty hunsent).trans h.sent
    exact sent_ne_nil (hgot.symm.trans hwaiting.untaken)
  have hbuffers : (replyBuffers replies
      (handleClient serde machine [x.request.queued]).response).length ≤ 2 := replyBuffers_length _
  simp [Exchange.server,Exchange.owed,hwait,hqueued,hwaiting.held,hwaiting.silent,Pipe.sending]
  omega

theorem server_replies {handled : Handled} (hsome : x.handled = some handled)
    (hheld : x.closed = false) :
    (x.server serde replies machine (x.response.unsent.headD []).length).owed < x.owed := by
  unfold Exchange.server
  rw [hheld,hsome]
  cases hunsent : x.response.unsent with
  | nil =>
    simp only [Exchange.owed,hsome,hunsent,hheld,if_true,Bool.false_eq_true,if_false]
    omega
  | cons buffer rest =>
    have hwrite := write_whole hunsent
    have hreplying : buffer :: rest ≠ [] := List.cons_ne_nil buffer rest
    simp only [Exchange.owed,hsome,hunsent,Bool.false_eq_true,if_false,if_neg hreplying,
      List.headD_cons,hwrite,hheld,List.length_cons]
    split_ifs <;> omega

theorem call_advances (h : x.Sound serde replies machine cmd) (hnone : x.result = none) :
    ∃ call, (x.step serde replies machine call).owed < x.owed := by
  cases hunsent : x.request.unsent with
  | cons buffer rest => exact ⟨.client buffer.length,client_sends hnone hunsent⟩
  | nil =>
    by_cases hqueued : x.response.queued = []
    · cases hclosed : x.closed with
      | true => exact ⟨.client 0,client_ends hnone hunsent hqueued hclosed⟩
      | false =>
        cases hhandled : x.handled with
        | none => exact ⟨.server 0,server_takes h hhandled hunsent⟩
        | some handled => exact ⟨.server _,server_replies hhandled hclosed⟩
    · exact ⟨.client _,client_reads hnone hunsent hqueued⟩

end Progress

section Exchanges

variable {serde : SerdeJson} {replies : ReplyJson}

theorem exchange_answered (hserde : serde.Documented) (hreplies : replies.Documented)
    (machine : Machine) (cmd : IpcCommand) (calls : List Call) (r : Except Fault IpcResponse)
    (hr : (exec (Exchange.step serde replies machine) (.connect serde cmd) calls).result = some r)
    (response : IpcResponse) :
    r = .ok response ↔
      (exec (Exchange.step serde replies machine) (.connect serde cmd) calls).request.got =
          sendCommand serde cmd ∧
        (dispatch machine cmd).response = some response :=
  answer_iff hserde hreplies (run_sound calls) hr response

def answeredCalls : List Call :=
  [.client 99,.client 1,.server 0,.server 99,.server 1,.server 0,.client 99,.client 0]

theorem exchange_answered_profile :
    (exec (Exchange.step serdeText replyText idleMachine)
          (.connect serdeText (.profileSet "gaming")) answeredCalls).request.got =
        sendCommand serdeText (.profileSet "gaming") ∧
      (dispatch idleMachine (.profileSet "gaming")).response = some (.ok "Profile set to gaming") :=
  (exchange_answered serdeText_documented replyText_documented idleMachine (.profileSet "gaming")
    answeredCalls (.ok (.ok "Profile set to gaming")) (by decide +kernel) _).mp rfl

theorem exchange_lost (hserde : serde.Documented) (hreplies : replies.Documented)
    (machine : Machine) (cmd : IpcCommand) (calls : List Call) (fault : Fault)
    (hr : (exec (Exchange.step serde replies machine) (.connect serde cmd) calls).result =
      some (.error fault)) :
    (exec (Exchange.step serde replies machine) (.connect serde cmd) calls).handled.bind
          Handled.dispatched = some cmd ↔
      (exec (Exchange.step serde replies machine) (.connect serde cmd) calls).request.got =
          commandBytes serde cmd ∨
        cmd = .shutdown ∧
          (exec (Exchange.step serde replies machine) (.connect serde cmd) calls).request.got =
            sendCommand serde cmd := by
  have hsound : (exec (Exchange.step serde replies machine) (.connect serde cmd) calls).Sound serde
      replies machine cmd := run_sound calls
  generalize exec (Exchange.step serde replies machine) (.connect serde cmd) calls = x at hsound hr ⊢
  rw [dispatched_taken_iff hserde hsound (hsound.ended _ hr).1]
  refine or_congr_right ⟨fun hgot => ⟨?_,hgot⟩,And.right⟩
  cases hresponse : (dispatch machine cmd).response with
  | none => exact silent_iff.mp hresponse
  | some response =>
    have hok := (answer_iff hserde hreplies hsound hr response).mpr ⟨hgot,hresponse⟩
    cases hok

def lostCalls : List Call :=
  [.client 99,.server 0,.server 99,.server 1,.server 0,.client 1]

theorem exchange_lost_clean :
    (exec (Exchange.step serdeText replyText idleMachine) (.connect serdeText .clean)
      lostCalls).handled.bind Handled.dispatched = some .clean :=
  (exchange_lost serdeText_documented replyText_documented idleMachine .clean lostCalls .brokenPipe
    (by decide +kernel)).mpr (.inl (by decide +kernel))

theorem exchange_completes (machine : Machine) (cmd : IpcCommand) (calls : List Call) :
    ∃ more, (exec (Exchange.step serde replies machine) (.connect serde cmd)
      (calls ++ more)).result ≠ none := by
  let step := Exchange.step serde replies machine
  have hadvance : ∀ x : Exchange, x.Sound serde replies machine cmd → ¬ x.result ≠ none →
      ∃ call, (step x call).Sound serde replies machine cmd ∧ (step x call).owed < x.owed := by
    intro x hx hresult
    obtain ⟨call,hless⟩ := call_advances hx (not_not.mp hresult)
    exact ⟨call,step_sound hx call,hless⟩
  obtain ⟨more,-,hend⟩ := reaches_of_measure step Exchange.owed hadvance _ (run_sound calls)
  exact ⟨more,by rwa [exec_append]⟩

end Exchanges

end Uroam.Service.Ipc
