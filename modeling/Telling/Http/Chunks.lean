import Telling.Http.Recycle
import Telling.Msg.Partial

/-!
# Responses that arrive in parts

After each read the client parses what it has received from the beginning and
hands it over when it is complete.  For a response with a declared length the
outcome does not depend on where the reads divide it, with one exception: a
response without a body whose last byte, the LF of the empty line, comes alone is
handed over without that byte.
-/

namespace Telling.Http

open Lib Msg

/-- The operation succeeded and the handler is there to hear of it. -/
def Completion.Succeeds (completion : Completion) : Prop :=
  completion.result = .success ∧ completion.live

/-- The bytes that a series of reads deliver. -/
def bytesOf (reads : List Completion) : Bytes :=
  (reads.map Completion.data).flatten

/-- The reads deliver the bytes of `msg`, each of them at least one byte and at
most what it asked for. -/
structure Reads (msg : Bytes) (reads : List Completion) : Prop where
  succeed : ∀ read ∈ reads, read.Succeeds
  sizes : ∀ read ∈ reads, 0 < read.data.length ∧ read.data.length ≤ readSize
  bytes : bytesOf reads = msg

@[simp] theorem bytesOf_cons (read : Completion) (reads : List Completion) :
    bytesOf (read :: reads) = read.data ++ bytesOf reads := rfl

namespace Reads

variable {msg : Bytes} {read : Completion} {reads : List Completion}

theorem head (split : Reads msg (read :: reads)) : read.Succeeds :=
  split.succeed read (by simp)

theorem tail (split : Reads msg (read :: reads)) : Reads (bytesOf reads) reads where
  succeed := (List.forall_mem_cons.mp split.succeed).2
  sizes := (List.forall_mem_cons.mp split.sizes).2
  bytes := rfl

theorem length_le (split : Reads msg reads) : reads.length ≤ msg.length := by
  rw [← split.bytes]
  induction reads generalizing msg with
  | nil => exact Nat.le_refl _
  | cons read reads ih =>
      have rest := ih split.tail
      have positive := (split.sizes read (by simp)).1
      rw [bytesOf_cons, List.length_append, List.length_cons]
      omega

end Reads

/-- The last byte of the response, the LF of an empty line behind which there is no
body, arrives alone. -/
def Clipped (msg : Bytes) (length : Nat) (reads : List Completion) : Prop :=
  length = 0 ∧ reads.getLast?.map Completion.data = some [lf] ∧ [cr, lf] <:+ msg

instance (msg : Bytes) (length : Nat) (reads : List Completion) :
    Decidable (Clipped msg length reads) :=
  inferInstanceAs (Decidable (_ ∧ _ ∧ _))

namespace Action

/-- The outputs of each callback, up to the one that returns the action to the
pool. -/
def callbacks : Action → List Completion → List (List Output)
  | _, [] => []
  | action, completion :: completions =>
      if (action.callback completion).1.state = .idle then
        [(action.callback completion).2]
      else
        (action.callback completion).2 ::
          callbacks (action.callback completion).1 completions

/-- The calls of each callback that end the query. -/
def endings (action : Action) (completions : List Completion) : List (List Output) :=
  (action.callbacks completions).map fun outputs => outputs.filter Output.isTerminal

section Endings

variable {action : Action} {completion : Completion} {completions : List Completion}

theorem endings_last (ends : (action.callback completion).1.state = .idle) :
    action.endings (completion :: completions) =
      [(action.callback completion).2.filter Output.isTerminal] := by
  rw [endings, callbacks, if_pos ends]
  rfl

theorem endings_cons (continues : (action.callback completion).1.state ≠ .idle) :
    action.endings (completion :: completions) =
      (action.callback completion).2.filter Output.isTerminal ::
        (action.callback completion).1.endings completions := by
  rw [endings, callbacks, if_neg continues]
  rfl

end Endings

/-! ## The buffer -/

/-- The action is reading and has received `bytes`, which do not make a complete
response. -/
structure Receiving (action : Action) (bytes : Bytes) : Prop where
  state : action.state = .recv
  recvCount : action.recvCount = bytes.length
  offset : action.iov.offset = bytes.length
  buffer : (action.res.getD []).take bytes.length = bytes
  incomplete : action.resCompletion.complete = false

theorem realloc_store {buffer bytes : Bytes} (holds : buffer.take bytes.length = bytes)
    (data : Bytes) :
    realloc (store buffer bytes.length data) (bytes.length + data.length) =
      bytes ++ data := by
  have whole : store buffer bytes.length data =
      bytes ++ data ++ buffer.drop (bytes.length + data.length) := by
    rw [store, holds]
  have enough : bytes.length + data.length - (store buffer bytes.length data).length =
      0 := by
    rw [whole, List.length_append, List.length_append]
    omega
  rw [realloc, enough, whole, List.take_left' (List.length_append)]
  simp

theorem take_realloc {buffer : Bytes} {size : Nat} (within : buffer.length ≤ size) :
    (realloc buffer size).take buffer.length = buffer := by
  rw [realloc, List.take_of_length_le within, List.take_left]

variable {action : Action} {completion : Completion} {bytes : Bytes}

/-- A read appends its bytes, and the record is that of the bytes received. -/
theorem Receiving.received (receiving : Receiving action bytes) (data : Bytes) :
    (action.received data).action.res = some (bytes ++ data) ∧
      (action.received data).action.recvCount = (bytes ++ data).length ∧
      ((action.received data).action.resCompletion.complete = true ↔
        ∃ view, MsgView.parse (bytes ++ data) .reply = .ok view ∧
          view.completion.complete = true) := by
  have stored : realloc (store (action.res.getD []) action.iov.offset data)
      (action.recvCount + data.length) = bytes ++ data := by
    rw [receiving.offset, receiving.recvCount, realloc_store receiving.buffer]
  simp only [Action.received, stored]
  cases parsed : MsgView.parse (bytes ++ data) .reply with
  | ok view => simp [receiving.recvCount]
  | error exception => simp [receiving.recvCount, receiving.incomplete]

/-- The read that completes the response: it is handed over. -/
theorem Receiving.complete (receiving : Receiving action bytes)
    (succeeds : completion.Succeeds)
    (complete : ∃ view, MsgView.parse (bytes ++ completion.data) .reply = .ok view ∧
      view.completion.complete = true) :
    (action.callback completion).1.state = .idle ∧
      (action.callback completion).2.filter Output.isTerminal =
        [.recv (some (bytes ++ completion.data))] := by
  obtain ⟨success, live⟩ := succeeds
  obtain ⟨res, _, completeIff⟩ := receiving.received completion.data
  have quiet := (received_shape action completion.data).2.2
  have recorded := completeIff.mpr complete
  rw [callback_ends (react_recv live success receiving.state) (.inr recorded)]
  refine ⟨rfl, ?_⟩
  rw [List.filter_append, List.filter_eq_nil_iff.mpr fun output member => by
    simp [quiet output member], List.nil_append, parting, recorded, res, live]
  cases (action.received completion.data).action.conn <;> rfl

/-- Any other read is followed by the next. -/
theorem Receiving.incomplete_read (receiving : Receiving action bytes)
    (succeeds : completion.Succeeds)
    (incomplete : ¬∃ view, MsgView.parse (bytes ++ completion.data) .reply = .ok view ∧
      view.completion.complete = true) :
    Receiving (action.callback completion).1 (bytes ++ completion.data) ∧
      (action.callback completion).2.filter Output.isTerminal = [] := by
  obtain ⟨success, live⟩ := succeeds
  obtain ⟨res, recvCount, completeIff⟩ := receiving.received completion.data
  obtain ⟨connected, state, quiet⟩ := received_shape action completion.data
  have recorded : (action.received completion.data).action.resCompletion.complete =
      false := by
    rw [← Bool.not_eq_true, completeIff]
    exact incomplete
  rw [callback_continues (react_recv live success receiving.state) connected recorded,
    advance_recv connected (state.trans receiving.state)]
  refine ⟨⟨state.trans receiving.state, recvCount, recvCount, ?_, recorded⟩, ?_⟩
  · simp only [res, recvCount, Option.getD_some]
    exact take_realloc (Nat.le_add_right _ _)
  · rw [List.filter_append, List.filter_eq_nil_iff.mpr fun output member => by
      simp [quiet output member]]
    rfl

/-! ## Whole responses -/

theorem callback_connected (state : action.state = .connect)
    (incomplete : action.resCompletion.complete = false)
    (succeeds : completion.Succeeds) :
    (action.callback completion).1.state = .send ∧
      (action.callback completion).1.resCompletion.complete = false ∧
      (action.callback completion).2.filter Output.isTerminal = [] := by
  rw [callback_continues (react_connect succeeds.2 succeeds.1 state) rfl incomplete,
    advance_connect rfl state]
  exact ⟨rfl, incomplete, rfl⟩

theorem callback_sent (state : action.state = .send)
    (incomplete : action.resCompletion.complete = false)
    (succeeds : completion.Succeeds) :
    Receiving (action.callback completion).1 [] ∧
      (action.callback completion).2.filter Output.isTerminal = [] := by
  rw [callback_continues (react_send succeeds.2 succeeds.1 state) rfl incomplete,
    advance_send rfl state]
  exact ⟨⟨rfl, rfl, rfl, rfl, rfl⟩, rfl⟩

/-- Once the request is sent, the action has received nothing. -/
theorem endings_of_sent {connected sent : Completion} (connects : connected.Succeeds)
    (sends : sent.Succeeds) (req : Bytes) (reads : List Completion) :
    ∃ reader, Receiving reader [] ∧
      (Action.fresh.start req).endings (connected :: sent :: reads) =
        [] :: [] :: reader.endings reads := by
  obtain ⟨sending, incomplete, quiet⟩ :=
    callback_connected (start_state Action.fresh req) rfl connects
  obtain ⟨receiving, quiet'⟩ := callback_sent sending incomplete sends
  refine ⟨_, receiving, ?_⟩
  rw [endings_cons (by rw [sending]; simp), quiet,
    endings_cons (by rw [receiving.state]; simp), quiet']

section Response

variable {msg : Bytes} {view : MsgView} {length : Nat}

/-- Between two reads the bytes received are taken for a complete response exactly
when the LF that is still missing is the last byte. -/
theorem complete_iff_clipped (measured : Measured view length)
    (accepted : MsgView.parse msg .reply = .ok view) (small : msg.length ≤ maxSize)
    {bytes rest : Bytes} {reads : List Completion} (pending : reads ≠ [])
    (split : Reads rest reads) (whole : bytes ++ rest = msg) :
    (∃ early, MsgView.parse bytes .reply = .ok early ∧
        early.completion.complete = true) ↔
      Clipped msg length reads ∧ reads.length = 1 := by
  subst whole
  have count := split.length_le
  have some := List.length_pos_of_ne_nil pending
  constructor
  · rintro ⟨early, acceptedEarly, completeEarly⟩
    have proper : rest ≠ [] := List.ne_nil_of_length_pos (some.trans_le count)
    obtain ⟨bodyless, rfl, ends⟩ :=
      measured.clipped_of_complete accepted small proper acceptedEarly completeEarly
    obtain ⟨before, rfl⟩ := List.getLast?_eq_some_iff.mp ends
    have single : reads.length = 1 := Nat.le_antisymm count some
    obtain ⟨read, rfl⟩ := List.length_eq_one_iff.mp single
    have last : read.data = [lf] := by simpa [bytesOf] using split.bytes
    exact ⟨⟨bodyless, by simp [last], before, by simp⟩, single⟩
  · rintro ⟨⟨rfl, last, before, ends⟩, single⟩
    obtain ⟨read, rfl⟩ := List.length_eq_one_iff.mp single
    have lastByte : read.data = [lf] := by simpa using last
    obtain rfl : [lf] = rest := by simpa [bytesOf, lastByte] using split.bytes
    apply measured.complete_clipped accepted small
    have cut : before ++ [cr] = bytes := by
      rw [← List.append_left_inj [lf], ← ends]
      simp
    rw [← cut, List.getLast?_concat]

variable (measured : Measured view length)
  (accepted : MsgView.parse msg .reply = .ok view) (small : msg.length ≤ maxSize)

include measured accepted small

/-- The reads of a response that is not clipped: only the last one ends the query,
and it hands over the whole response. -/
theorem endings_whole (reads : List Completion) :
    (action : Action) → (bytes rest : Bytes) → (read : Completion) →
    Receiving action bytes → Reads rest (read :: reads) → bytes ++ rest = msg →
    ¬Clipped msg length (read :: reads) →
    action.endings (read :: reads) =
      List.replicate reads.length [] ++ [[.recv (some msg)]] := by
  induction reads with
  | nil =>
      rintro action bytes rest read receiving split rfl _
      obtain rfl : read.data = rest := by simpa [bytesOf] using split.bytes
      have complete := measured.complete accepted small
      obtain ⟨idle, delivered⟩ :=
        receiving.complete split.head ⟨view, accepted, complete⟩
      rw [endings_last idle, delivered]
      rfl
  | cons next reads ih =>
      intro action bytes rest read receiving split whole notClipped
      have whole' : bytes ++ read.data ++ bytesOf (next :: reads) = msg := by
        rw [← whole, ← split.bytes, List.append_assoc]
        rfl
      have notClipped' : ¬Clipped msg length (next :: reads) := by
        simpa [Clipped] using notClipped
      have incomplete := mt (complete_iff_clipped measured accepted small
        (List.cons_ne_nil next reads) split.tail whole').mp
        fun both => notClipped' both.1
      obtain ⟨receiving', quiet⟩ := receiving.incomplete_read split.head incomplete
      rw [endings_cons (by rw [receiving'.state]; simp), quiet,
        ih _ _ _ next receiving' split.tail whole' notClipped']
      rfl

/-- A clipped response is ended before its last read. -/
theorem endings_clipped (reads : List Completion) :
    (action : Action) → (bytes rest : Bytes) → (read next : Completion) →
    Receiving action bytes → Reads rest (read :: next :: reads) →
    bytes ++ rest = msg → Clipped msg length (next :: reads) →
    (action.endings (read :: next :: reads)).length = (next :: reads).length := by
  induction reads with
  | nil =>
      intro action bytes rest read next receiving split whole clipped
      have whole' : bytes ++ read.data ++ bytesOf [next] = msg := by
        rw [← whole, ← split.bytes, List.append_assoc]
        rfl
      have complete := (complete_iff_clipped measured accepted small
        (List.cons_ne_nil next []) split.tail whole').mpr ⟨clipped, rfl⟩
      rw [endings_last (receiving.complete split.head complete).1]
      rfl
  | cons after reads ih =>
      intro action bytes rest read next receiving split whole clipped
      have whole' : bytes ++ read.data ++ bytesOf (next :: after :: reads) = msg := by
        rw [← whole, ← split.bytes, List.append_assoc]
        rfl
      have incomplete := mt (complete_iff_clipped measured accepted small
        (List.cons_ne_nil next _) split.tail whole').mp fun both => by simp at both
      obtain ⟨receiving', quiet⟩ := receiving.incomplete_read split.head incomplete
      rw [endings_cons (by rw [receiving'.state]; simp), List.length_cons,
        ih _ _ _ next after receiving' split.tail whole'
          (by simpa [Clipped] using clipped)]
      rfl

end Response

end Action

/-- A response with a declared length is handed over whole, by the callback of the
last read and by no other, however the reads divide it; except that a clipped one
is handed over before its last read. -/
theorem chunks_delivered_iff (msg : Bytes) (view : MsgView) (length : Nat)
    (accepted : MsgView.parse msg .reply = .ok view)
    (measured : Measured view length) (small : msg.length ≤ maxSize)
    (req : Bytes) (connected sent : Completion) (reads : List Completion)
    (connects : connected.Succeeds) (sends : sent.Succeeds)
    (split : Reads msg reads) :
    (Action.fresh.start req).endings (connected :: sent :: reads) =
        List.replicate (reads.length + 1) [] ++ [[.recv (some msg)]] ↔
      ¬Clipped msg length reads := by
  obtain ⟨reader, receiving, endings⟩ := Action.endings_of_sent connects sends req reads
  rw [endings]
  cases reads with
  | nil =>
      -- an accepted response is not empty
      obtain rfl : [] = msg := split.bytes
      exact absurd accepted (by simp [MsgView.parse, parseMsg, Parsed.fail])
  | cons read reads =>
      constructor
      · intro delivered clipped
        cases reads with
        | nil =>
            obtain ⟨_, last, before, ends⟩ := clipped
            obtain rfl : read.data = msg := by simpa [bytesOf] using split.bytes
            have short : read.data = [lf] := by simpa using last
            have lengths := congrArg List.length ends
            rw [short] at lengths
            simp at lengths
        | cons next reads =>
            have ended := Action.endings_clipped measured accepted small reads reader []
              msg read next receiving split rfl (by simpa [Clipped] using clipped)
            have lengths := congrArg List.length delivered
            simp only [List.length_cons, List.length_append, List.length_replicate,
              ended, List.length_nil] at lengths
            omega
      · intro notClipped
        rw [Action.endings_whole measured accepted small reads reader [] msg read
          receiving split rfl notClipped]
        simp [List.replicate_succ]

/-- A successful operation that delivered `data`. -/
def arrived (data : Bytes) : Completion := ⟨.success, 1, data, true⟩

/-- A response without a body, up to its last byte. -/
def bodylessHead : Bytes := ascii "HTTP/1.1 204 No Content\r\nContent-Length: 0\r\n\r"

/-- A response with two bytes of body, divided inside its header. -/
def twoByteParts : Bytes × Bytes :=
  (ascii "HTTP/1.1 200 OK\nContent-Len", ascii "gth: 2\n\nhi")

/-- The view that a successful parse of a response gives. -/
def replyView (msg : Bytes) : MsgView := ⟨msg, (parseMsg .reset msg .reply).layout⟩

theorem measured_of_header {view : MsgView} {length : Nat} (value : Bytes)
    (headers : view.headers = [⟨0, ascii "Content-Length", value⟩])
    (numeral : value = MsgWriter.digitsText length)
    (body : view.bodyString.length = length) : Measured view length where
  declared := ⟨[], _, [], headers, rfl, numeral, by simp⟩
  unencoded := by
    rw [headers, List.forall_mem_singleton]
    exact (by decide +kernel :
      MsgHeaderView.is ⟨0, ascii "Content-Length", []⟩ (ascii "Transfer-Encoding") =
        false)
  body := body

/-- Two reads that divide a header. -/
theorem chunks_delivered_two :
    (Action.fresh.start []).endings [arrived [], arrived [], arrived twoByteParts.1,
        arrived twoByteParts.2] =
      [[], [], [], [.recv (some (twoByteParts.1 ++ twoByteParts.2))]] :=
  (chunks_delivered_iff (twoByteParts.1 ++ twoByteParts.2)
    (replyView (twoByteParts.1 ++ twoByteParts.2)) 2 (by decide +kernel)
    (measured_of_header (ascii "2") (by decide +kernel)
      (by rw [MsgWriter.digitsText]; rfl) (by decide +kernel))
    (by decide +kernel) [] (arrived []) (arrived [])
    [arrived twoByteParts.1, arrived twoByteParts.2] ⟨rfl, rfl⟩ ⟨rfl, rfl⟩
    ⟨by simp [Completion.Succeeds, arrived], by decide +kernel, rfl⟩).mpr
    (by decide +kernel)

/-- A response without a body whose last byte arrives alone is handed over without
it. -/
theorem chunks_clipped :
    MsgView.parse (bodylessHead ++ [lf]) .reply =
      .ok (replyView (bodylessHead ++ [lf])) ∧
    Measured (replyView (bodylessHead ++ [lf])) 0 ∧
    Reads (bodylessHead ++ [lf]) [arrived bodylessHead, arrived [lf]] ∧
    (Action.fresh.start []).endings
        [arrived [], arrived [], arrived bodylessHead, arrived [lf]] =
      [[], [], [.recv (some bodylessHead)]] := by
  refine ⟨by decide +kernel, ?_, ?_, by decide +kernel⟩
  · exact measured_of_header (ascii "0") (by decide +kernel)
      (by rw [MsgWriter.digitsText]; rfl) (by decide +kernel)
  · exact ⟨by simp [Completion.Succeeds, arrived], by decide +kernel, rfl⟩

end Telling.Http
