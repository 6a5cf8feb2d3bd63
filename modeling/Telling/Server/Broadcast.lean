import Telling.Io.Inbox
import Telling.Lib.Wire
import Telling.Server.Traffic

/-!
# Reports, from the server to a subscriber

The server publishes what it receives as reports.  NNG carries the publications to the
subscribers in order, may lose some, and passes on those that begin with a topic of the
subscriber.  A `Subscribe_Box` receives them in its loop and keeps them until they are
consumed.  Topics are compared with the bytes of a message; for a report this is a
comparison with its URI.
-/

namespace Telling.Msg

open Lib

/-! ## Topics -/

/-- A topic that is one word. -/
def IsWord (topic : Bytes) : Prop := sp ∉ topic ∧ Plain topic

theorem partPos_one_of_space {word after : Bytes} (single : sp ∉ word) :
    partPos (lineParts (word ++ sp :: after)) 1 = some (word.length + 1) := by
  have parts : lineParts (word ++ sp :: after) =
      ⟨0, word⟩ :: partsFrom 2 (word.length + 1) after := by
    simp [lineParts, partsFrom_word single]
  rcases word_cases after with last | ⟨second, rest, rfl, secondWord⟩
  · simp [parts, partPos, partsFrom_last last]
  · simp [parts, partPos, partsFrom_word secondWord]

/-- The URI of a report is the first word of its start line, or the whole line when that
word is followed by a single space. -/
theorem uriString_report {msg : Bytes} {view : MsgView}
    (accepted : MsgView.parse msg .report = .ok view) :
    ∃ line eol rest, LineAt msg line eol rest ∧
      ((sp ∉ line ∧ view.uriString = line) ∨
        ∃ word after, line = word ++ sp :: after ∧ sp ∉ word ∧
          (view.uriString = word ∨ view.uriString = word ++ [sp])) := by
  obtain ⟨rfl, line, eol, lines, blank, body, framed, described⟩ :=
    MsgView.described_of_parse accepted
  refine ⟨line, eol, _, framed.startLine, ?_⟩
  obtain ⟨slLen, _, uriPos, prtRpos, _⟩ := described.stores
  obtain ⟨_, uriEq, _⟩ := MsgLayout.fields_eq described.ordered
  have start : view.layout.uriPos.toNat = 0 := by
    simp only [detectType, startLineOffsets] at uriPos
    omega
  have beginning : line <+: view.msg := ⟨_, framed.startLine.split.symm⟩
  rw [start, slLen] at uriEq
  rcases word_cases line with single | ⟨word, after, rfl, single⟩
  · left
    have noSecond : partPos (lineParts line) 1 = none := by
      by_cases empty : line = []
      · simp [lineParts, empty, partPos]
      · simp [lineParts, empty, partPos, partsFrom_last single]
    simp only [detectType, startLineOffsets, noSecond, fromRight] at prtRpos
    refine ⟨single, string_of_range [] line [] (by simpa using beginning) ?_ ?_⟩
    · simp [uriEq]
    · simp only [uriEq]
      split_ifs <;> omega
  · right
    simp only [detectType, startLineOffsets, partPos_one_of_space single, fromRight,
      List.length_append, List.length_cons] at prtRpos
    refine ⟨word, after, rfl, single, ?_⟩
    by_cases last : after = []
    · right
      subst last
      refine string_of_range [] (word ++ [sp]) [] (by simpa using beginning) ?_ ?_
      · simp [uriEq]
      · simp only [uriEq, List.length_append, List.length_cons, List.length_nil] at prtRpos ⊢
        split_ifs <;> omega
    · left
      have more := List.length_pos_of_ne_nil last
      refine string_of_range [] word (sp :: after) (by simpa using beginning) ?_ ?_
      · simp [uriEq]
      · simp only [uriEq, List.length_append, List.length_cons]
        split_ifs <;> omega

theorem prefix_startLine_iff {input line eol rest topic : Bytes}
    (lineAt : LineAt input line eol rest) (plain : Plain topic) :
    topic <+: input ↔ topic <+: line := by
  have noCr : cr ∉ topic := fun member => (plain cr member).1 rfl
  have noLf : lf ∉ topic := fun member => (plain lf member).2 rfl
  rw [lineAt.split]
  rcases lineAt.newline with rfl | rfl | ⟨rfl, _⟩
  · exact prefix_append_cons_iff noLf
  · exact prefix_append_cons_iff noCr
  · exact prefix_append_cons_iff noCr

/-- NNG compares a topic with the first bytes of a message.  For a report and a topic of
one word this is a comparison with the URI. -/
theorem topic_prefix_iff {msg topic : Bytes} {view : MsgView}
    (accepted : MsgView.parse msg .report = .ok view) (word : IsWord topic) :
    topic <+: msg ↔ topic <+: view.uriString := by
  obtain ⟨line, eol, rest, lineAt, ⟨_, uri⟩ | ⟨first, after, rfl, _, uri⟩⟩ :=
    uriString_report accepted
  · rw [prefix_startLine_iff lineAt word.2, uri]
  · rw [prefix_startLine_iff lineAt word.2, prefix_append_cons_iff word.1]
    rcases uri with uri | uri
    · rw [uri]
    · rw [uri, prefix_append_cons_iff word.1]

end Telling.Msg

namespace Telling.Server

open Lib Msg
open Io (Inbox RecvLoop)

/-- A server and a `Subscribe_Box` that is connected to its publisher. -/
structure Broadcast where
  traffic : Traffic
  /-- The subscriptions of the context. -/
  topics : List Bytes := []
  /-- The way of the publications to the subscriber. -/
  wire : Wire NngMsg := {}
  box : Inbox NngMsg := {}
  /-- What was delivered, with the subscriptions of the moment. -/
  delivered : List (NngMsg × List Bytes) := []

namespace Broadcast

inductive Label where
  | server (event : Traffic.Event)
  | subscribe (topic : Bytes)
  | unsubscribe (topic : Bytes)
  | carry
  | lose
  | loop (label : RecvLoop.Label NngMsg)
  | consume

def construct (name : Bytes) (openInproc : Bool) : Broadcast where
  traffic := .construct name openInproc

/-- The publication that NNG is to carry next. -/
def publication (broadcast : Broadcast) : Option NngMsg :=
  broadcast.wire.next broadcast.traffic.server.publish.loop.aio.sent

/-- One step.  NNG gives a publication to the subscriber if it begins with a topic; the
loop of the subscriber gets no other messages. -/
def step (broadcast : Broadcast) : Label → Option Broadcast
  | .server event =>
      (broadcast.traffic.step event).map fun traffic => { broadcast with traffic := traffic }
  | .subscribe topic => some { broadcast with topics := broadcast.topics.insert topic }
  | .unsubscribe topic => some { broadcast with topics := broadcast.topics.erase topic }
  | .carry => do
      let msg ← broadcast.publication
      if broadcast.topics.any fun topic => topic.isPrefixOf msg.body then
        let box ← broadcast.box.proceed (.finish .success (some msg))
        some { broadcast with
          wire := broadcast.wire.deliver msg
          box := box
          delivered := broadcast.delivered ++ [(msg, broadcast.topics)] }
      else none
  | .lose =>
      broadcast.publication.map fun _ => { broadcast with wire := broadcast.wire.lose }
  | .loop label =>
      if label.brings.isNone then
        (broadcast.box.step (.proceed label)).map fun box => { broadcast with box := box }
      else none
  | .consume => some { broadcast with box := broadcast.box.pull.2 }

/-! ## The invariant -/

/-- A delivery that the subscriptions of its moment ask for. -/
def Wanted (delivery : NngMsg × List Bytes) : Prop :=
  ∃ topic ∈ delivery.2, topic <+: delivery.1.body

structure Sound (broadcast : Broadcast) : Prop where
  traffic : broadcast.traffic.Sound
  attended : broadcast.box.loop.Attended
  conveys : broadcast.box.Conveys
  brought : broadcast.box.loop.received ++ broadcast.box.loop.inAir =
    broadcast.delivered.map fun delivery => some delivery.1
  faithful : broadcast.wire.Faithful broadcast.traffic.reports
  recorded : broadcast.delivered.map Prod.fst = broadcast.wire.delivered
  wanted : ∀ delivery ∈ broadcast.delivered, Wanted delivery

theorem sound_construct (name : Bytes) (openInproc : Bool) :
    (construct name openInproc).Sound where
  traffic := Traffic.sound_construct name openInproc
  attended _ := rfl
  conveys := rfl
  brought := rfl
  faithful := Wire.faithful_empty _
  recorded := rfl
  wanted := by simp [construct]

variable {broadcast next : Broadcast}

/-- What is published next is a report that has arrived. -/
theorem Sound.published (sound : broadcast.Sound) {msg : NngMsg}
    (publication : broadcast.publication = some msg) :
    broadcast.wire.next broadcast.traffic.reports = some msg :=
  Wire.next_of_prefix sound.traffic.publishing.sent_beginning publication

theorem Sound.carry (sound : broadcast.Sound) {msg : NngMsg} {box : Inbox NngMsg}
    (publication : broadcast.publication = some msg)
    (wanted : broadcast.topics.any (fun topic => topic.isPrefixOf msg.body) = true)
    (finished : broadcast.box.proceed (.finish .success (some msg)) = some box) :
    Sound { broadcast with
      wire := broadcast.wire.deliver msg
      box := box
      delivered := broadcast.delivered ++ [(msg, broadcast.topics)] } := by
  have conveys := sound.conveys.proceed finished
  obtain ⟨loop, stepped, rfl⟩ := Option.map_eq_some_iff.mp finished
  refine ⟨sound.traffic, sound.attended.step stepped, conveys, ?_,
    sound.faithful.deliver (sound.published publication), ?_, ?_⟩
  · rw [RecvLoop.step_inAir sound.attended stepped, sound.brought]
    simp [RecvLoop.Label.brings]
  · simp [sound.recorded, Wire.deliver]
  · rw [List.forall_mem_append, List.forall_mem_singleton]
    obtain ⟨topic, member, isPrefix⟩ := List.any_eq_true.mp wanted
    exact ⟨sound.wanted, topic, member, List.isPrefixOf_iff_prefix.mp isPrefix⟩

theorem Sound.loop (sound : broadcast.Sound) {label : RecvLoop.Label NngMsg}
    {box : Inbox NngMsg} (barren : label.brings = none)
    (proceeded : broadcast.box.proceed label = some box) :
    Sound { broadcast with box := box } := by
  have conveys := sound.conveys.proceed proceeded
  obtain ⟨loop, stepped, rfl⟩ := Option.map_eq_some_iff.mp proceeded
  refine ⟨sound.traffic, sound.attended.step stepped, conveys, ?_, sound.faithful,
    sound.recorded, sound.wanted⟩
  rw [RecvLoop.step_inAir sound.attended stepped, sound.brought, barren]
  simp

theorem Sound.step (sound : broadcast.Sound) {label : Label}
    (stepped : broadcast.step label = some next) : next.Sound := by
  cases label with
  | server event =>
      obtain ⟨traffic, moved, rfl⟩ := Option.map_eq_some_iff.mp stepped
      exact ⟨sound.traffic.step moved, sound.attended, sound.conveys, sound.brought,
        sound.faithful.grow (Traffic.reports_step moved), sound.recorded, sound.wanted⟩
  | subscribe topic | unsubscribe topic =>
      obtain rfl := Option.some.inj stepped
      exact ⟨sound.traffic, sound.attended, sound.conveys, sound.brought, sound.faithful,
        sound.recorded, sound.wanted⟩
  | carry =>
      obtain ⟨msg, publication, stepped⟩ := Option.bind_eq_some_iff.mp stepped
      split at stepped
      · next wanted =>
          obtain ⟨box, finished, equal⟩ := Option.bind_eq_some_iff.mp stepped
          exact Option.some.inj equal ▸ sound.carry publication wanted finished
      · contradiction
  | lose =>
      obtain ⟨msg, publication, rfl⟩ := Option.map_eq_some_iff.mp stepped
      exact ⟨sound.traffic, sound.attended, sound.conveys, sound.brought,
        sound.faithful.lose (sound.published publication), sound.recorded, sound.wanted⟩
  | loop label =>
      simp only [Broadcast.step] at stepped
      split at stepped
      · next barren =>
          obtain ⟨box, moved, rfl⟩ := Option.map_eq_some_iff.mp stepped
          exact sound.loop (Option.isNone_iff_eq_none.mp barren)
            (Inbox.proceed_of_step moved)
      · contradiction
  | consume =>
      obtain rfl := Option.some.inj stepped
      exact ⟨sound.traffic, sound.attended, sound.conveys.pull, sound.brought,
        sound.faithful, sound.recorded, sound.wanted⟩

/-! ## Whole runs -/

/-- In every run, what the subscriber has consumed, what waits in its box and what is in
the air is what was delivered to it.  These are reports that arrived at the server, each
at most once, unaltered and in the order of their arrival, and each began with a topic
to which the subscriber was subscribed.  A topic of one word is then a beginning of the
report's URI. -/
theorem subscribers_hear_reports (name : Bytes) (openInproc : Bool) (labels : List Label)
    (broadcast : Broadcast)
    (reached : run step (construct name openInproc) labels = some broadcast) :
    broadcast.box.pulled ++ broadcast.box.queue.deq ++ broadcast.box.loop.inAir =
        broadcast.delivered.map (fun delivery => some delivery.1) ∧
      (broadcast.delivered.map Prod.fst).Sublist broadcast.traffic.reports ∧
      ∀ delivery ∈ broadcast.delivered, ∃ report topic,
        MsgView.parse delivery.1.body .report = .ok report ∧
        topic ∈ delivery.2 ∧ topic <+: delivery.1.body ∧
        (IsWord topic → topic <+: report.uriString) := by
  have sound : broadcast.Sound := invariant_of_run Sound (sound_construct name openInproc)
    (fun _ _ _ sound _ stepped => sound.step stepped) (meets_true _ _) reached
  have ordered : (broadcast.delivered.map Prod.fst).Sublist broadcast.traffic.reports :=
    sound.recorded ▸ sound.faithful.sublist
  refine ⟨?_, ordered, fun delivery member => ?_⟩
  · rw [sound.conveys]
    exact sound.brought
  · obtain ⟨topic, subscribed, isPrefix⟩ := sound.wanted delivery member
    obtain ⟨report, parsed⟩ :=
      Traffic.parse_of_report (ordered.subset (List.mem_map_of_mem member))
    exact ⟨report, topic, parsed, subscribed, isPrefix,
      fun word => (topic_prefix_iff parsed word).mp isPrefix⟩

/-- Two reports are published; the subscriber asks for the second one only. -/
def evening : List Label :=
  [.loop (.recvStart false false), .subscribe (ascii "/b"),
    .server (.arrive .published ⟨[], ascii "/a/x Tell/0 200 OK\n\n1"⟩),
    .server (.publishing (.handOver 0)),
    .server (.arrive .published ⟨[], ascii "/b/y Tell/0 200 OK\n\n2"⟩),
    .server (.publishing (.handOver 0)),
    .server (.publishing (.complete .success)), .server (.publishing .callback),
    .server (.publishing (.handOver 0)), .lose, .carry, .loop .callback, .consume]

theorem subscribers_hear_reports_evening :
    ∃ broadcast, run step (construct (ascii "server") true) evening = some broadcast ∧
      broadcast.delivered.map Prod.fst = [⟨[], ascii "/b/y Tell/0 200 OK\n\n2"⟩] ∧
      (broadcast.delivered.map Prod.fst).Sublist broadcast.traffic.reports := by
  have delivers : (run step (construct (ascii "server") true) evening).map
      (fun broadcast => broadcast.delivered.map Prod.fst) =
        some [⟨[], ascii "/b/y Tell/0 200 OK\n\n2"⟩] := by decide +kernel
  obtain ⟨broadcast, reached, delivered⟩ := Option.map_eq_some_iff.mp delivers
  have hear := subscribers_hear_reports (ascii "server") true evening broadcast reached
  exact ⟨broadcast, reached, delivered, hear.2.1⟩

end Broadcast

end Telling.Server
