import Mathlib.Algebra.Order.Ring.Nat
import Telling.Msg.Composed
import Telling.Service.Reactor

/-!
# What a reactor says it allows

A reactor that does not override `async_options` answers with the methods that it
allows for the URI, and so do the defaults of the other handlers, except
`async_trace`.  The methods are a bit mask on one side and names in a header on the
other.  The header is read here as HTTP has it: the names stand between commas, with
blanks around them, and each is parsed and inserted into a mask.  What is read is what
the reactor allows, for every mask.
-/

namespace Telling.Msg

open Lib

/-! ## Masks as sets -/

theorem Method.toInt_injective : Function.Injective Method.toInt := by
  intro left right same
  cases left <;> cases right <;> first | rfl | contradiction

theorem Method.toInt_toNat_lt (method : Method) : method.toInt.toNat < 32 := by
  cases method <;> decide

theorem Method.toInt_pos {method : Method} (valid : method.isValid) :
    Method.none.toInt < method.toInt := by
  simp only [Method.isValid, Bool.and_eq_true, decide_eq_true_eq] at valid
  exact valid.1

namespace MsgWriter.Methods

/-- `Methods::insert`. -/
def insert (methods : Methods) (method : Method) : Methods :=
  if Method.none.toInt < method.toInt then
    ⟨methods.mask ||| (1 <<< UInt32.ofNat method.toInt.toNat)⟩
  else methods

theorem contains_eq_testBit (methods : Methods) (method : Method) :
    methods.contains method = methods.mask.toNat.testBit method.toInt.toNat := by
  have code := method.toInt_toNat_lt
  rw [contains, Bool.eq_iff_iff, decide_eq_true_eq, ne_eq, ← UInt32.toNat_inj]
  simp [Nat.testBit, UInt32.toNat_shiftRight, Nat.mod_eq_of_lt code, Nat.and_comm]

theorem mask_insert {methods : Methods} {method : Method}
    (named : Method.none.toInt < method.toInt) :
    (methods.insert method).mask.toNat =
      methods.mask.toNat ||| 2 ^ method.toInt.toNat := by
  have code := method.toInt_toNat_lt
  have fits : 2 ^ method.toInt.toNat < 4294967296 :=
    Nat.pow_lt_pow_right (by decide) code
  rw [insert, if_pos named, UInt32.toNat_or, UInt32.toNat_shiftLeft]
  simp [Nat.mod_eq_of_lt code, Nat.one_shiftLeft, Nat.mod_eq_of_lt fits]

/-- The codes that are no methods are not inserted, or have a bit of their own. -/
theorem contains_insert (methods : Methods) (method : Method) {other : Method}
    (valid : other.isValid) :
    (methods.insert method).contains other =
      (decide (method = other) || methods.contains other) := by
  have positive := Method.toInt_pos valid
  rw [contains_eq_testBit, contains_eq_testBit]
  by_cases named : Method.none.toInt < method.toInt
  · have sameCode : method.toInt.toNat = other.toInt.toNat ↔ method = other := by
      constructor
      · intro same
        apply Method.toInt_injective
        have zero : Method.none.toInt = 0 := rfl
        omega
      · intro same
        rw [same]
    rw [mask_insert named, Nat.testBit_or, Nat.testBit_two_pow, Bool.or_comm]
    simp only [sameCode]
  · have different : method ≠ other := by
      intro same
      rw [same] at named
      exact named positive
    rw [insert, if_neg named, decide_eq_false different, Bool.false_or]

theorem contains_foldl_insert {other : Method} (valid : other.isValid)
    (list : List Method) (methods : Methods) :
    (list.foldl insert methods).contains other =
      (decide (other ∈ list) || methods.contains other) := by
  induction list generalizing methods with
  | nil => simp
  | cons method rest ih =>
      rw [List.foldl_cons, ih, contains_insert methods method valid]
      by_cases same : method = other
      · simp [same]
      · simp [same, Ne.symm same]

end MsgWriter.Methods

/-! ## The header -/

open MsgWriter (Methods validMethods)

def comma : Byte := 44

/-- The methods that a list of names stands for. -/
def readMethods (value : Bytes) : Methods :=
  ((items comma isBlank value).map Method.parse).foldl Methods.insert ⟨0⟩

theorem Method.word_toText {method : Method} (valid : method.isValid) :
    Word comma isBlank method.toText := by
  have shape : method.toText ≠ [] ∧ (∀ byte ∈ method.toText, isBlank byte = false) ∧
      comma ∉ method.toText := by
    cases method <;> revert valid <;> decide +kernel
  exact ⟨shape.1, shape.2.1, shape.2.2⟩

theorem isValid_of_mem_validMethods {method : Method} (member : method ∈ validMethods) :
    method.isValid := by
  revert member method
  decide

theorem mem_validMethods {method : Method} (valid : method.isValid) :
    method ∈ validMethods := by
  cases method <;> revert valid <;> decide

/-- A list of names, as `writeHeader_Allow` writes it, is read as the methods. -/
theorem items_names {methods : List Method} (valid : ∀ method ∈ methods, method.isValid) :
    ((items comma isBlank (List.intercalate (ascii ", ")
      (methods.map Method.toText))).map Method.parse).filter Method.isValid = methods := by
  have separator : ascii ", " = [comma, sp] := by decide +kernel
  cases methods with
  | nil =>
      simp only [List.map_nil, List.intercalate_nil]
      decide
  | cons first rest =>
      have words : ∀ text ∈ (first :: rest).map Method.toText,
          Word comma isBlank text := by
        intro text member
        obtain ⟨method, listed, named⟩ := List.mem_map.mp member
        rw [← named]
        exact Method.word_toText (valid method listed)
      have parsed : ((first :: rest).map Method.toText).map Method.parse =
          first :: rest := by
        rw [List.map_map]
        conv_rhs => rw [← List.map_id (first :: rest)]
        apply List.map_congr_left
        intro method listed
        exact Method.parse_toText (valid method listed)
      rw [separator, items_intercalate (by decide) (by decide) words (by simp), parsed,
        List.filter_eq_self]
      exact valid

theorem contains_readMethods {methods : List Method}
    (valid : ∀ method ∈ methods, method.isValid) {other : Method}
    (otherValid : other.isValid) :
    (readMethods (List.intercalate (ascii ", ") (methods.map Method.toText))).contains
      other = decide (other ∈ methods) := by
  have empty : (⟨0⟩ : Methods).contains other = false := by
    rw [Methods.contains_eq_testBit]
    exact Nat.zero_testBit _
  have listed := congrArg (other ∈ ·) (items_names valid)
  simp only [List.mem_filter, otherValid, and_true] at listed
  rw [readMethods, Methods.contains_foldl_insert otherValid, empty, Bool.or_false]
  simp only [listed]

end Telling.Msg

namespace Telling.Service

open Lib Msg
open Msg.MsgWriter (Methods validMethods)

/-- The `Allow` header of a mask is read as the methods in the mask. -/
theorem contains_readMethods_allowHeader (methods : Methods) {method : Method}
    (valid : method.isValid) :
    (readMethods (trim isBlank (allowHeader methods).2)).contains method =
      methods.contains method := by
  have kept : ∀ method ∈ validMethods.filter methods.contains, method.isValid :=
    fun method member => isValid_of_mem_validMethods (List.mem_of_mem_filter member)
  have words : ∀ text ∈ (validMethods.filter methods.contains).map Method.toText,
      Word comma isBlank text := by
    intro text member
    obtain ⟨method, listed, named⟩ := List.mem_map.mp member
    rw [← named]
    exact Method.word_toText (kept method listed)
  rw [allowHeader, trim_intercalate words, contains_readMethods kept valid]
  simp [List.mem_filter, mem_validMethods valid]

theorem inherited_eq_writeAllowed (methods : Methods) {handler : Handler}
    (other : handler ≠ .trace) :
    inherited methods handler = writeAllowed (inheritedStatus handler) methods := by
  cases handler with
  | trace => contradiction
  | _ => rfl

theorem inheritedStatus_readsBack (handler : Handler) :
    (inheritedStatus handler).ReadsBack := by
  cases handler <;> decide

/-- The reply that is written tells the methods. -/
theorem writeAllowed_tells {status : Status} (readsBack : status.ReadsBack)
    (methods : Methods) :
    ∃ reply view value, (writeAllowed status methods).result = .ok (some reply) ∧
      MsgView.parse reply .reply = .ok view ∧ view.status = status ∧
      view.headers.map MsgHeaderView.toPair = [(ascii "Allow", value)] ∧
      view.bodyString = [] ∧
      ∀ method : Method, method.isValid →
        (readMethods value).contains method = methods.contains method := by
  have fit := allowHeader_fits methods
  obtain ⟨view, parsed, read⟩ := parse_replyHead status fit []
  have written := writeReply_result status fit none
  refine ⟨replyHead status [allowHeader methods] ++ [], view,
    trim isBlank (allowHeader methods).2, ?_, parsed, ?_, ?_, ?_, ?_⟩
  · rw [writeAllowed_eq]
    exact written
  · rw [read]
    exact (Status.parse_toText_iff status).mpr readsBack
  · exact headers_replyHead fit parsed
  · exact bodyString_replyHead fit parsed
  · intro method valid
    exact contains_readMethods_allowHeader methods valid

namespace Reactor

variable {reactor : Reactor} {msg : Bytes} {request : MsgView} {handler : Handler}

/-- What the default of a handler writes is the reply to the request. -/
theorem Reaches.dest_of_inherited (reaches : reactor.Reaches msg request)
    (served : handlerOf request.method = some handler)
    (inherits : reactor.overrides handler = none) {reply : Bytes}
    (written : (inherited (reactor.allowed request.uriString) handler).result =
      .ok (some reply)) :
    (reactor.recvReplying msg).dest = some reply := by
  have reacts : reactor.react handler request = .replies (some reply) := by
    simp only [react, inherits, Reaction.ofWritten, written]
  rw [recvReplying, reaches.handle, dispatch, served]
  simp only [reacts]
  rfl

/-- A client whose request meets the default of a handler other than `async_trace`
reads from the reply which methods the reactor allows for the URI. -/
theorem defaults_tell_allowed_methods (reactor : Reactor) (msg : Bytes)
    (request : MsgView) (handler : Handler) (reaches : reactor.Reaches msg request)
    (served : handlerOf request.method = some handler)
    (inherits : reactor.overrides handler = none) (other : handler ≠ .trace) :
    ∃ reply view value, (reactor.recvReplying msg).dest = some reply ∧
      MsgView.parse reply .reply = .ok view ∧ view.status = inheritedStatus handler ∧
      view.headers.map MsgHeaderView.toPair = [(ascii "Allow", value)] ∧
      view.bodyString = [] ∧
      ∀ method : Method, method.isValid → (readMethods value).contains method =
        (reactor.allowed request.uriString).contains method := by
  obtain ⟨reply, view, value, written, parsed, status, headers, body, told⟩ :=
    writeAllowed_tells (inheritedStatus_readsBack handler)
      (reactor.allowed request.uriString)
  rw [← inherited_eq_writeAllowed _ other] at written
  exact ⟨reply, view, value, reaches.dest_of_inherited served inherits written, parsed,
    status, headers, body, told⟩

/-- A reactor at `/lamp` that can be read and, below, switched. -/
def lamp : Reactor where
  uriPrefix := ascii "/lamp"
  allowed uri := if uri = ascii "/lamp" then ⟨2⟩ else ⟨2 + 16⟩
  overrides
    | .get => some fun _ => .replies (some (ascii "Tell/0 200 OK\n\non"))
    | _ => none
  implementsGet := rfl

theorem defaults_tell_allowed_methods_lamp :
    ∃ reply view value,
      (lamp.recvReplying (ascii "OPTIONS /lamp/1 Tell/0\n\n")).dest = some reply ∧
      MsgView.parse reply .reply = .ok view ∧ view.status = .ok ∧
      view.headers.map MsgHeaderView.toPair = [(ascii "Allow", value)] ∧
      (readMethods value).contains .put ∧ ¬(readMethods value).contains .post := by
  have read : (MsgView.parse (ascii "OPTIONS /lamp/1 Tell/0\n\n") .request).map
      (fun request => (request.method, request.uriString)) =
        .ok (.options, ascii "/lamp/1") := by
    decide +kernel
  cases parsed : MsgView.parse (ascii "OPTIONS /lamp/1 Tell/0\n\n") .request with
  | error exception =>
      rw [parsed] at read
      contradiction
  | ok request =>
      rw [parsed] at read
      obtain ⟨method, uri⟩ := Prod.mk.inj (Except.ok.inj read)
      have reaches : lamp.Reaches (ascii "OPTIONS /lamp/1 Tell/0\n\n") request := by
        refine ⟨parsed, ?_⟩
        rw [uri]
        decide +kernel
      have served : handlerOf request.method = some .options := by
        rw [method]
        rfl
      obtain ⟨reply, view, value, dest, parsedReply, status, headers, _, told⟩ :=
        defaults_tell_allowed_methods lamp _ request .options reaches served rfl
          (by decide)
      refine ⟨reply, view, value, dest, parsedReply, status, headers, ?_, ?_⟩
      · rw [told .put rfl, uri]
        decide +kernel
      · rw [told .post rfl, uri]
        decide +kernel

end Reactor

end Telling.Service
