import Mathlib.Algebra.GroupWithZero.Nat
import Vdba.Config

namespace Vdba.Guard

abbrev Bytes := List UInt8

/-- Text in ASCII. -/
def bytes (text : String) : Bytes := text.toList.map fun c => c.toNat.toUInt8

abbrev Headers := List (Bytes × Bytes)

/-- What the server hands to the application. -/
inductive Received
  | request (body : Option Bytes) (moreBody : Bool)
  | disconnect
  deriving DecidableEq

/-- What the application hands to the server. -/
inductive Message
  | start (status : Nat) (headers : Option Headers)
  | body (body : Bytes) (moreBody : Bool)
  | other (type : String)
  deriving DecidableEq

def lower (name : Bytes) : Bytes := name.map fun c => if 65 ≤ c ∧ c ≤ 90 then c + 32 else c

/-- `{k.lower(): v for k, v in headers}.get(name)`: the last of several wins. -/
def header (headers : Headers) (name : String) : Option Bytes :=
  (headers.reverse.find? fun entry => lower entry.1 = bytes name).map (·.2)

/-- The header that is found is there, and none of its name comes after it. -/
theorem header_iff {headers : Headers} {name : String} {value : Bytes} :
    header headers name = some value ↔ ∃ before entry after, headers = before ++ entry :: after ∧
      lower entry.1 = bytes name ∧ entry.2 = value ∧ ∀ other ∈ after, lower other.1 ≠ bytes name := by
  simp only [header, Option.map_eq_some_iff, List.find?_eq_some_iff_append, decide_eq_true_eq, Bool.not_eq_true',
    decide_eq_false_iff_not]
  constructor
  · rintro ⟨entry, ⟨named, late, early, whole, others⟩, rfl⟩
    have order : headers = early.reverse ++ entry :: late.reverse := by
      rw [← List.reverse_reverse headers, whole]
      simp
    exact ⟨early.reverse, entry, late.reverse, order, named, rfl, fun other member => others other (List.mem_reverse.mp member)⟩
  · rintro ⟨before, entry, after, rfl, named, rfl, others⟩
    refine ⟨entry, ⟨named, after.reverse, before.reverse, by simp, fun other member => ?_⟩, rfl⟩
    exact others other (List.mem_reverse.mp member)

/-- A header is found exactly if it is there. -/
theorem header_isSome {headers : Headers} {name : String} :
    (header headers name).isSome = true ↔ ∃ entry ∈ headers, lower entry.1 = bytes name := by
  simp [header]

/-- `bytes.isdigit`. -/
def isDigit (text : Bytes) : Bool := text ≠ [] && text.all fun c => 48 ≤ c && c ≤ 57

/-- The number digits stand for. -/
def decimal (digits : Bytes) : Nat := digits.foldl (fun n c => 10 * n + (c.toNat - 48)) 0

/-- `int` of digits, of which Python converts no more than 4300. -/
def pyInt (digits : Bytes) : Except Exc Nat :=
  if 4300 < digits.length then
    .error ⟨.valueError, "Exceeds the limit (4300 digits) for integer string conversion: value has " ++
      toString digits.length ++ " digits; use sys.set_int_max_str_digits() to increase the limit"⟩
  else .ok (decimal digits)

/-- The answer of `Guard.__call__` from the headers alone. -/
def refusal (headers : Headers) : Except Exc (Option (Nat × String)) :=
  match header headers "transfer-encoding", header headers "content-length" with
  | some _, some _ => .ok (some (400, "Transfer-Encoding and Content-Length together"))
  | none, some length =>
    if ¬isDigit length then .ok (some (413, "request body too large"))
    else match pyInt length with
      | .error exn => .error exn
      | .ok n => .ok (if BODY_LIMIT < n then some (413, "request body too large") else none)
  | _, none => .ok none

/-- `received` and `exceeded`. -/
structure Counter where
  received : Nat
  exceeded : Bool
  deriving DecidableEq

/-- `counting_receive`, once the server has handed it a message; the error is `TooLarge`. -/
def countingReceive (c : Counter) : Received → Counter × Except Unit Received
  | .request body moreBody =>
    let received := c.received + (body.getD []).length
    if BODY_LIMIT < received then (⟨received, true⟩, .error ())
    else (⟨received, c.exceeded⟩, .ok (.request body moreBody))
  | .disconnect => (c, .ok .disconnect)

def CSP : String :=
  "default-src 'none'; style-src 'unsafe-inline'; script-src 'unsafe-inline'; connect-src 'self'; " ++
    "form-action 'self'; frame-ancestors 'none'; base-uri 'none'"

def addedHeaders (rid : String) : Headers :=
  [(bytes "x-request-id", bytes rid), (bytes "cache-control", bytes "no-store"), (bytes "pragma", bytes "no-cache"),
    (bytes "x-content-type-options", bytes "nosniff"), (bytes "x-frame-options", bytes "DENY"),
    (bytes "referrer-policy", bytes "no-referrer"), (bytes "content-security-policy", bytes CSP)]

/-- `send_wrapper`: the message it passes on. -/
def sendWrapper (c : Counter) (rid : String) : Message → Message
  | .start status headers =>
    .start (if c.exceeded && status == 400 then 413 else status) (some (headers.getD [] ++ addedHeaders rid))
  | message => message

/-- `_reject`. -/
def reject (rid : String) (status : Nat) (text : String) : List Message :=
  let body := bytes ("\x7b\"detail\":\"" ++ text ++ "\"\x7d")
  [.start status (some [(bytes "content-type", bytes "application/json"),
      (bytes "content-length", bytes (toString body.length)), (bytes "x-request-id", bytes rid),
      (bytes "cache-control", bytes "no-store")]),
    .body body false]

/-- What the inner application does with the two callbacks, in the order in which their awaits end. -/
inductive Event
  | receive (msg : Received)
  | send (message : Message)
  deriving DecidableEq

/-- What comes of it: a message is handed to it, its receive raises, or a message reaches the server. -/
inductive Answer
  | handed (msg : Received)
  | tooLarge
  | sent (message : Message)
  deriving DecidableEq

def react (rid : String) (c : Counter) : Event → Counter × Answer
  | .receive msg => match countingReceive c msg with
    | (after, .ok msg) => (after, .handed msg)
    | (after, .error ()) => (after, .tooLarge)
  | .send message => (c, .sent (sendWrapper c rid message))

def serve (rid : String) : Counter → List Event → List Answer
  | _, [] => []
  | c, e :: rest => (react rid c e).2 :: serve rid (react rid c e).1 rest

/-- An inner application: what it does, and the exception it ends with. -/
structure Inner where
  events : List Event
  ended : Option Exc
  deriving DecidableEq

/-- What comes of a request. -/
structure Outcome where
  called : Bool
  own : List Message
  answers : List Answer
  raised : Option Exc
  deriving DecidableEq

/-- `Guard.__call__` for a request with these headers. -/
def call (headers : Headers) (rid : String) (inner : Inner) : Outcome :=
  match refusal headers with
  | .error exn => ⟨false, [], [], some exn⟩
  | .ok (some (status, text)) => ⟨false, reject rid status text, [], none⟩
  | .ok none => ⟨true, [], serve rid ⟨0, false⟩ inner.events, inner.ended⟩

/-- The body bytes of a message. -/
def Received.size : Received → Nat
  | request body _ => (body.getD []).length
  | disconnect => 0

def Event.size : Event → Nat
  | receive msg => msg.size
  | send _ => 0

def total (events : List Event) : Nat := (events.map Event.size).sum

def Answer.size : Answer → Nat
  | handed msg => msg.size
  | tooLarge | sent _ => 0

/-- The body bytes the inner application has been handed. -/
def handedBytes (answers : List Answer) : Nat := (answers.map Answer.size).sum

/-- Headers no body is read for. -/
def Unacceptable (headers : Headers) : Prop :=
  (header headers "transfer-encoding").isSome ∧ (header headers "content-length").isSome ∨
    ∃ length, header headers "content-length" = some length ∧ (isDigit length = false ∨ BODY_LIMIT < decimal length)

/-- A number of bytes that `int` does not convert. -/
def Unconvertible (headers : Headers) : Prop :=
  header headers "transfer-encoding" = none ∧
    ∃ length, header headers "content-length" = some length ∧ isDigit length = true ∧ 4300 < length.length

/-- One complete response of the guard's own, and nothing else. -/
def Refused (outcome : Outcome) : Prop :=
  outcome.called = false ∧ outcome.answers = [] ∧ outcome.raised = none ∧
    ∃ status headers body, (status = 400 ∨ status = 413) ∧ outcome.own = [.start status (some headers), .body body false]

/-- A response start with the headers of the guard. -/
def withHeaders (rid : String) : Message → Message
  | .start status headers => .start status (some (headers.getD [] ++ addedHeaders rid))
  | message => message

/-- The message goes through. -/
def unaltered (rid : String) : Event → Answer
  | .receive msg => .handed msg
  | .send message => .sent (withHeaders rid message)

/-- The message once the body has become too large. -/
def stopped (rid : String) : Event → Answer
  | .receive (.request _ _) => .tooLarge
  | .receive .disconnect => .handed .disconnect
  | .send (.start status headers) => .sent (withHeaders rid (.start (if status = 400 then 413 else status) headers))
  | .send message => .sent (withHeaders rid message)

/-- The request has been turned away, at once or while its body was read. -/
def TurnedAway (outcome : Outcome) : Prop := outcome.called = false ∨ .tooLarge ∈ outcome.answers

/-- The body limit does not depend on how the body is sent. -/
structure Limited (headers : Headers) : Prop where
  bounded : ∀ rid inner, handedBytes (call headers rid inner).answers ≤ BODY_LIMIT
  refused : Unacceptable headers → ∀ rid inner, Refused (call headers rid inner)
  passed : ¬Unacceptable headers → ∀ rid events ended, total events ≤ BODY_LIMIT →
    call headers rid ⟨events, ended⟩ = ⟨true, [], events.map (unaltered rid), ended⟩
  cut : ¬Unacceptable headers → ∀ rid before e late ended, total before ≤ BODY_LIMIT →
    BODY_LIMIT < total before + e.size → call headers rid ⟨before ++ e :: late, ended⟩ =
      ⟨true, [], before.map (unaltered rid) ++ (e :: late).map (stopped rid), ended⟩
  alike : ∀ rid inner inner', total inner.events = total inner'.events →
    (TurnedAway (call headers rid inner) ↔ TurnedAway (call headers rid inner'))

theorem react_within {rid : String} {c : Counter} {e : Event} (fresh : c.exceeded = false)
    (within : c.received + e.size ≤ BODY_LIMIT) :
    react rid c e = (⟨c.received + e.size, false⟩, unaltered rid e) := by
  obtain ⟨received, exceeded⟩ := c
  cases fresh
  cases e with
  | send message => cases message <;> simp [react, sendWrapper, unaltered, withHeaders, Event.size]
  | receive msg =>
    cases msg with
    | disconnect => rfl
    | request body moreBody =>
      have small : ¬BODY_LIMIT < received + (body.getD []).length := by
        simpa [Event.size, Received.size] using within
      simp [react, countingReceive, small, unaltered, Event.size, Received.size]

theorem react_exceeding {rid : String} {c : Counter} {e : Event} (large : BODY_LIMIT < c.received + e.size)
    (marked : c.exceeded = true ∨ 0 < e.size) :
    react rid c e = (⟨c.received + e.size, true⟩, stopped rid e) := by
  obtain ⟨received, exceeded⟩ := c
  cases e with
  | send message =>
    obtain rfl : exceeded = true := by simpa [Event.size] using marked
    cases message <;> simp [react, sendWrapper, stopped, withHeaders, Event.size]
  | receive msg =>
    cases msg with
    | disconnect =>
      obtain rfl : exceeded = true := by simpa [Event.size, Received.size] using marked
      rfl
    | request body moreBody =>
      have past : BODY_LIMIT < received + (body.getD []).length := large
      simp [react, countingReceive, past, stopped, Event.size, Received.size]

theorem serve_within {rid : String} {c : Counter} {events : List Event} (fresh : c.exceeded = false)
    (within : c.received + total events ≤ BODY_LIMIT) (rest : List Event) :
    serve rid c (events ++ rest) =
      events.map (unaltered rid) ++ serve rid ⟨c.received + total events, false⟩ rest := by
  induction events generalizing c with
  | nil =>
    obtain ⟨received, exceeded⟩ := c
    cases fresh
    rfl
  | cons e events ih =>
    have sum : total (e :: events) = e.size + total events := by simp [total]
    have step : react rid c e = (⟨c.received + e.size, false⟩, unaltered rid e) :=
      react_within fresh (by omega)
    rw [List.cons_append, serve, step, ih rfl (by simp only; omega)]
    simp [sum, Nat.add_assoc]

theorem serve_small {rid : String} {events : List Event} (within : total events ≤ BODY_LIMIT) :
    serve rid ⟨0, false⟩ events = events.map (unaltered rid) := by
  have whole : serve rid ⟨0, false⟩ (events ++ []) = events.map (unaltered rid) ++ serve rid ⟨0 + total events, false⟩ [] :=
    serve_within rfl (by simpa using within) []
  simpa [serve] using whole

theorem serve_exceeded {rid : String} {received : Nat} (large : BODY_LIMIT < received) (events : List Event) :
    serve rid ⟨received, true⟩ events = events.map (stopped rid) := by
  induction events generalizing received with
  | nil => rfl
  | cons e events ih =>
    have step : react rid ⟨received, true⟩ e = (⟨received + e.size, true⟩, stopped rid e) :=
      react_exceeding (by simp only; omega) (.inl rfl)
    rw [serve, step, ih (by omega)]
    rfl

theorem serve_cut {rid : String} {before late : List Event} {e : Event} (within : total before ≤ BODY_LIMIT)
    (large : BODY_LIMIT < total before + e.size) :
    serve rid ⟨0, false⟩ (before ++ e :: late) =
      before.map (unaltered rid) ++ (e :: late).map (stopped rid) := by
  have step : react rid ⟨0 + total before, false⟩ e = (⟨0 + total before + e.size, true⟩, stopped rid e) :=
    react_exceeding (by simp only; omega) (.inr (by omega))
  rw [serve_within rfl (by simp only; omega), serve, step, serve_exceeded (by omega)]
  rfl

/-- Every sequence either stays within the limit or has a first event that exceeds it. -/
theorem within_or_cut (events : List Event) :
    total events ≤ BODY_LIMIT ∨ ∃ before e late, events = before ++ e :: late ∧ total before ≤ BODY_LIMIT ∧
      BODY_LIMIT < total before + e.size := by
  induction events using List.reverseRecOn with
  | nil => exact .inl (Nat.zero_le _)
  | append_singleton events e ih =>
    rcases ih with within | ⟨before, first, late, rfl, within, large⟩
    · by_cases fits : total events + e.size ≤ BODY_LIMIT
      · exact .inl (by simpa [total] using fits)
      · exact .inr ⟨events, e, [], rfl, within, by omega⟩
    · exact .inr ⟨before, first, late ++ [e], by simp, within, large⟩

theorem unaltered_size (rid : String) (e : Event) : (unaltered rid e).size = e.size := by
  cases e <;> rfl

theorem stopped_size (rid : String) (e : Event) : (stopped rid e).size = 0 := by
  rcases e with (_ | _) | (_ | _ | _) <;> rfl

theorem handedBytes_unaltered (rid : String) (events : List Event) :
    handedBytes (events.map (unaltered rid)) = total events := by
  simp [handedBytes, total, Function.comp_def, unaltered_size]

theorem handedBytes_stopped (rid : String) (events : List Event) :
    handedBytes (events.map (stopped rid)) = 0 := by
  simp [handedBytes, Function.comp_def, stopped_size]

theorem handedBytes_append (answers answers' : List Answer) :
    handedBytes (answers ++ answers') = handedBytes answers + handedBytes answers' := by
  simp [handedBytes]

theorem serve_bounded (rid : String) (events : List Event) :
    handedBytes (serve rid ⟨0, false⟩ events) ≤ BODY_LIMIT := by
  rcases within_or_cut events with within | ⟨before, e, late, rfl, within, large⟩
  · rw [serve_small within, handedBytes_unaltered]
    exact within
  · rw [serve_cut within large, handedBytes_append, handedBytes_unaltered, handedBytes_stopped]
    exact within

/-- What has become of a body depends on its size alone. -/
theorem tooLarge_mem_serve {rid : String} {events : List Event} :
    .tooLarge ∈ serve rid ⟨0, false⟩ events ↔ BODY_LIMIT < total events := by
  rcases within_or_cut events with within | ⟨before, e, late, rfl, within, large⟩
  · have handed : ∀ e, unaltered rid e ≠ .tooLarge := fun e => by cases e <;> simp [unaltered]
    simp only [serve_small within, List.mem_map, handed, and_false, exists_false, false_iff]
    omega
  · have sum : total (before ++ e :: late) = total before + (e.size + total late) := by simp [total]
    have cut : stopped rid e = .tooLarge := by
      cases e with
      | send message => simp [Event.size] at large; omega
      | receive msg =>
        cases msg with
        | disconnect => simp [Event.size, Received.size] at large; omega
        | request body moreBody => rfl
    rw [serve_cut within large, sum]
    exact iff_of_true (by simp [cut]) (by omega)

theorem refusal_unconvertible {headers : Headers} (unconvertible : Unconvertible headers) :
    ∃ exn, refusal headers = .error exn := by
  obtain ⟨encoding, length, declared, digits, long⟩ := unconvertible
  simp [refusal, encoding, declared, digits, pyInt, long]

theorem refusal_unacceptable {headers : Headers} (convertible : ¬Unconvertible headers)
    (unacceptable : Unacceptable headers) :
    ∃ status text, (status = 400 ∨ status = 413) ∧ refusal headers = .ok (some (status, text)) := by
  cases encoding : header headers "transfer-encoding" with
  | some coding =>
    have both : ∃ length, header headers "content-length" = some length := by
      rcases unacceptable with ⟨-, declared⟩ | ⟨length, declared, -⟩
      · exact Option.isSome_iff_exists.mp declared
      · exact ⟨length, declared⟩
    obtain ⟨length, declared⟩ := both
    exact ⟨400, _, .inl rfl, by rw [refusal, encoding, declared]⟩
  | none =>
    obtain ⟨length, declared, wrong⟩ : ∃ length, header headers "content-length" = some length ∧
        (isDigit length = false ∨ BODY_LIMIT < decimal length) := by
      rcases unacceptable with ⟨coded, -⟩ | wrong
      · simp [encoding] at coded
      · exact wrong
    refine ⟨413, "request body too large", .inr rfl, ?_⟩
    cases digits : isDigit length with
    | false => simp [refusal, encoding, declared, digits]
    | true =>
      have large : BODY_LIMIT < decimal length := by simpa [digits] using wrong
      have short : ¬4300 < length.length := fun long => convertible ⟨encoding, length, declared, digits, long⟩
      simp [refusal, encoding, declared, digits, pyInt, short, large]

theorem refusal_acceptable {headers : Headers} (convertible : ¬Unconvertible headers)
    (acceptable : ¬Unacceptable headers) : refusal headers = .ok none := by
  cases declared : header headers "content-length" with
  | none => cases encoding : header headers "transfer-encoding" <;> simp [refusal, encoding, declared]
  | some length =>
    have encoding : header headers "transfer-encoding" = none := by
      by_contra coded
      exact acceptable (.inl ⟨Option.isSome_iff_ne_none.mpr coded, by simp [declared]⟩)
    have digits : isDigit length = true := by
      by_contra wrong
      exact acceptable (.inr ⟨length, declared, .inl (by simpa using wrong)⟩)
    have small : ¬BODY_LIMIT < decimal length := fun large => acceptable (.inr ⟨length, declared, .inr large⟩)
    have short : ¬4300 < length.length := fun long => convertible ⟨encoding, length, declared, digits, long⟩
    simp [refusal, encoding, declared, digits, pyInt, short, small]

theorem call_unacceptable {headers : Headers} (convertible : ¬Unconvertible headers)
    (unacceptable : Unacceptable headers) (rid : String) (inner : Inner) : Refused (call headers rid inner) := by
  obtain ⟨status, text, code, refused⟩ := refusal_unacceptable convertible unacceptable
  simp only [call, refused]
  exact ⟨rfl, rfl, rfl, status, _, _, code, rfl⟩

theorem call_acceptable {headers : Headers} (convertible : ¬Unconvertible headers)
    (acceptable : ¬Unacceptable headers) (rid : String) (inner : Inner) :
    call headers rid inner = ⟨true, [], serve rid ⟨0, false⟩ inner.events, inner.ended⟩ := by
  simp only [call, refusal_acceptable convertible acceptable]

theorem call_bounded (headers : Headers) (rid : String) (inner : Inner) :
    handedBytes (call headers rid inner).answers ≤ BODY_LIMIT := by
  unfold call
  split
  · exact Nat.zero_le _
  · exact Nat.zero_le _
  · exact serve_bounded rid inner.events

theorem turnedAway_iff (headers : Headers) (rid : String) (inner : Inner) :
    TurnedAway (call headers rid inner) ↔ refusal headers ≠ .ok none ∨ BODY_LIMIT < total inner.events := by
  unfold call
  split <;> rename_i answered
  · simp [TurnedAway, answered]
  · simp [TurnedAway, answered]
  · simp [TurnedAway, answered, tooLarge_mem_serve]

theorem limited_of_convertible {headers : Headers} (convertible : ¬Unconvertible headers) : Limited headers where
  bounded := call_bounded headers
  refused := call_unacceptable convertible
  passed acceptable rid events ended within := by
    rw [call_acceptable convertible acceptable, serve_small within]
  cut acceptable rid before e late ended within large := by
    rw [call_acceptable convertible acceptable, serve_cut within large]
  alike rid inner inner' same := by rw [turnedAway_iff, turnedAway_iff, same]

theorem not_limited {headers : Headers} (unconvertible : Unconvertible headers) : ¬Limited headers := by
  intro limited
  obtain ⟨exn, failed⟩ := refusal_unconvertible unconvertible
  by_cases unacceptable : Unacceptable headers
  · obtain ⟨-, -, silent, -⟩ := limited.refused unacceptable "" ⟨[], none⟩
    simp [call, failed] at silent
  · have passed := limited.passed unacceptable "" [] none (Nat.zero_le _)
    simp [call, failed] at passed

/-- The limit holds unless `int` does not convert the declared length. -/
theorem limited_iff (headers : Headers) : Limited headers ↔ ¬Unconvertible headers :=
  ⟨fun limited unconvertible => not_limited unconvertible limited, limited_of_convertible⟩

theorem isDigit_nines (n : Nat) : isDigit (List.replicate (n + 1) 57) = true := by
  simp [isDigit]

/-- A length of 4301 nines is neither taken nor refused. -/
theorem manyDigits_not_limited :
    ¬Limited [(bytes "host", bytes "portal"), (bytes "content-length", List.replicate 4301 57)] :=
  not_limited ⟨by decide +kernel, List.replicate 4301 57,
    header_iff.mpr ⟨[(bytes "host", bytes "portal")], (bytes "content-length", _), [], rfl, by decide +kernel, rfl,
      fun _ member => absurd member List.not_mem_nil⟩,
    isDigit_nines 4300, by rw [List.length_replicate]; omega⟩

end Vdba.Guard
