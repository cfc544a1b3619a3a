import Mathlib.Algebra.Ring.BooleanRing
import Mathlib.Data.Int.Notation
import Mathlib.Tactic.Common

set_option autoImplicit false
attribute [-instance] instBooleanRingBool

/-!
# Message contexts in headers
-/
namespace ServiceLib.ContextHeaders
open List

structure SpanContext where
 traceId : String := ""
 spanId : String := ""
 valid : Bool := false
 traceState : String := ""
 baggage : String := ""
deriving DecidableEq

/-- The fields that headers carry; the deadline is in nanoseconds of the steady clock. -/
structure MessageContext where
 streamId : String := ""
 deadline : Option ℤ := none
 sampling : Bool := false
 trace : SpanContext := {}
deriving DecidableEq

/-- The value of each header. HTTP compares names without case; all names below are in lower case. -/
abbrev Headers := String → Option String

def Headers.set (headers:Headers) (name value:String) : Headers :=
 fun other=>if other = name then some value else headers other

def Headers.setUnlessEmpty (headers:Headers) (name value:String) : Headers :=
 if value = "" then headers else headers.set name value

def hex (ch:Char) : ℤ :=
 if '0' ≤ ch ∧ ch ≤ '9' then (ch.toNat : ℤ) - '0'.toNat
 else if 'a' ≤ ch ∧ ch ≤ 'f' then (ch.toNat : ℤ) - 'a'.toNat + 10
 else if 'A' ≤ ch ∧ ch ≤ 'F' then (ch.toNat : ℤ) - 'A'.toNat + 10
 else -1

def isHex (ch:Char) : Bool :=
 ('0' ≤ ch && ch ≤ '9') || ('a' ≤ ch && ch ≤ 'f') || ('A' ≤ ch && ch ≤ 'F')

def separated (value:List Char) : Bool :=
 value.length == 55 && value[2]? == some '-' && value[35]? == some '-' && value[52]? == some '-'

def allDigits (digit:Char → Bool) (value:List Char) : Bool :=
 value.zipIdx.all fun (ch,i)=>i == 2 || i == 35 || i == 52 || digit ch

def substr (value:List Char) (start count:ℕ) : List Char :=
 (value.drop start).take count

def nonzero (id:List Char) : Bool :=
 id.any (· ≠ '0')

def parseTraceParent (text:String) : Option SpanContext :=
 let value:=text.toList
 if !separated value then none
 else if !allDigits isHex value then none
 else if substr value 0 2 == ['f', 'f'] || !nonzero (substr value 3 32) || !nonzero (substr value 36 16) then none
 else some { traceId := .ofList (substr value 3 32),spanId := .ofList (substr value 36 16),valid := true }

def sampledTraceParent (text:String) : Bool :=
 let value:=text.toList
 if !separated value then false
 else if !allDigits (fun ch=>!(hex ch < 0)) value then false
 else if substr value 0 2 == ['f', 'f'] then false
 else if !nonzero (substr value 3 32) || !nonzero (substr value 36 16) then false
 else ((value[53]?.elim 0 hex) * 16 + value[54]?.elim 0 hex) % 2 != 0

def traceParent (context:MessageContext) : String :=
 "00-" ++ context.trace.traceId ++ "-" ++ context.trace.spanId ++ if context.sampling then "-01" else "-00"

/-- `std::from_chars` for a 64-bit number of milliseconds that takes up the whole text. -/
def parseTimeout (text:String) : Option ℤ :=
 let number (digits:List Char) : Option ℕ :=
  if digits ≠ [] ∧ digits.all Char.isDigit then
   some (digits.foldl (fun n ch=>10 * n + (ch.toNat - '0'.toNat)) 0)
  else none
 match text.toList with
 | '-' :: digits => (number digits).bind fun n=>if n = 0 then some 0 else none
 | digits => (number digits).bind fun n=>if n < 2 ^ 63 then some n else none

def injectContext (now:ℤ) (context:MessageContext) (headers:Headers) (tracingEnabled:Bool) : Headers :=
 let headers:=headers.setUnlessEmpty "x-stream-id" context.streamId
 let headers:=match context.deadline with
  | some deadline => headers.set "x-timeout-ms" (toString (max (deadline - now) 0 / 1000000))
  | none => headers
 if !tracingEnabled then headers
 else
  let headers :=
   if context.trace.valid then
    (headers.set "traceparent" (traceParent context)).setUnlessEmpty "tracestate" context.trace.traceState
   else headers
  let headers:=headers.setUnlessEmpty "baggage" context.trace.baggage
  if context.sampling then headers.set "x-trace" "1" else headers

/-- The result of a signed 64-bit operation, if it does not overflow. -/
def checked (x:ℤ) : Option ℤ :=
 if -2 ^ 63 ≤ x ∧ x < 2 ^ 63 then some x else none

/-- `steady_clock::now() + milliseconds(milliseconds)`: the milliseconds are converted to
nanoseconds first. -/
def deadlineAfter (now milliseconds:ℤ) : Option ℤ :=
 (checked (milliseconds * 1000000)).bind fun nanoseconds=>checked (now + nanoseconds)

/-- `newStreamId` is what `NewStreamId` gives where the headers have no stream id. A deadline whose
computation overflows is undefined. -/
def contextFromHeaders (now:ℤ) (newStreamId:String) (headers:Headers) (tracingEnabled:Bool) : MessageContext :=
 let streamId:=(headers "x-stream-id").getD ""
 let deadline:=((headers "x-timeout-ms").bind parseTimeout).bind (deadlineAfter now)
 let context : MessageContext :=
  { streamId := if streamId = "" then newStreamId else streamId,deadline := deadline }
 if !tracingEnabled then context
 else
  let parent:=(headers "traceparent").bind parseTraceParent
  let sampled:=parent.isSome && (headers "traceparent").any sampledTraceParent
  let propagation : SpanContext:={ parent.getD {} with
   traceState := (headers "tracestate").getD ""
   baggage := (headers "baggage").getD "" }
  { context with
    sampling := sampled || (headers "x-trace").any (· ≠ "")
    trace :=
     if propagation.valid || propagation.traceState ≠ "" || propagation.baggage ≠ "" then propagation else {} }

def injectKafkaContext (context:MessageContext) (headers:Headers) (tracingEnabled:Bool) : Headers :=
 let headers:=headers.setUnlessEmpty "x-stream-id" context.streamId
 if !tracingEnabled then headers
 else
  let headers:=if context.trace.valid then headers.set "traceparent" (traceParent context) else headers
  let headers:=headers.setUnlessEmpty "tracestate" context.trace.traceState
  let headers:=headers.setUnlessEmpty "baggage" context.trace.baggage
  if context.sampling then headers.set "x-trace" "1" else headers

def contextFromKafkaHeaders (headers:Headers) (tracingEnabled:Bool) : MessageContext :=
 let context : MessageContext:={ streamId := (headers "x-stream-id").getD "" }
 if !tracingEnabled then context
 else
  let propagation : SpanContext:={ ((headers "traceparent").bind parseTraceParent).getD {} with
   traceState := (headers "tracestate").getD ""
   baggage := (headers "baggage").getD "" }
  { context with
    sampling := (headers "traceparent").any sampledTraceParent || (headers "x-trace").any (· ≠ "")
    trace :=
     if propagation.valid || propagation.traceState ≠ "" || propagation.baggage ≠ "" then propagation else {} }

structure IsId (count:ℕ) (id:String) : Prop where
 length : id.toList.length = count
 hex : id.toList.all isHex = true
 nonzero : nonzero id.toList = true

lemma hex_nonneg {ch:Char} (h:isHex ch=true) : ¬hex ch < 0 := by
 simp only[isHex,Bool.or_eq_true,Bool.and_eq_true,decide_eq_true_eq] at h
 have hle:∀ {a b:Char},a≤b→ a.toNat≤b.toNat:=fun h=>h
 unfold hex
 split
 · next hdigit => have := hle hdigit.1; omega
 · split
   · next hlower => have := hle hlower.1; omega
   · split
     · next hupper => have := hle hupper.1; omega
     · grind

section TraceParent
variable {traceId spanId:String} (ht:IsId 32 traceId) (hs:IsId 16 spanId)
include ht hs

lemma separated_traceParent (a b:Char) :
  separated (['0','0','-']++traceId.toList++['-']++spanId.toList++['-',a,b])=true := by
 simp[separated,ht.length,hs.length]

lemma allDigits_traceParent {digit:Char→ Bool} (hdigit:∀ ch,isHex ch=true→ digit ch=true) {a b:Char}
  (ha:isHex a=true) (hb:isHex b=true) :
  allDigits digit (['0','0','-']++traceId.toList++['-']++spanId.toList++['-',a,b])=true := by
 have hid:∀ {id:List Char} (start:ℕ),id.all isHex=true →
  (id.zipIdx start).all (fun (ch,i)=>i == 2 || i == 35 || i == 52 || digit ch)=true:=by
  intro id start hid
  refine all_eq_true.mpr fun (ch,i) hmem=>?_
  change (i == 2 || i == 35 || i == 52 || digit ch)=true
  rw[hdigit ch (all_eq_true.mp hid ch (fst_mem_of_mem_zipIdx hmem)),Bool.or_true]
 simp only[allDigits,zipIdx_append,all_append,hid _ ht.hex,hid _ hs.hex]
 simp[ht.length,hs.length,hdigit '0' rfl,hdigit a ha,hdigit b hb]

lemma substr_traceParent (a b:Char) :
    let value:=['0','0','-']++traceId.toList++['-']++spanId.toList++['-',a,b]
    substr value 0 2=['0','0']∧substr value 3 32=traceId.toList∧substr value 36 16=spanId.toList:=by
 simp[substr,drop_append,take_append,ht.length,hs.length]

lemma parse_traceParent {a b:Char} (ha:isHex a=true) (hb:isHex b=true) :
  parseTraceParent (.ofList (['0','0','-']++traceId.toList++['-']++spanId.toList++['-',a,b])) =
   some { traceId := traceId,spanId := spanId,valid := true } := by
 obtain ⟨h0,h3,h36⟩:=substr_traceParent ht hs a b
 simp only[parseTraceParent,String.toList_ofList,separated_traceParent ht hs a b,
  allDigits_traceParent ht hs (fun _ h=>h) ha hb,h0,h3,h36,ht.nonzero,hs.nonzero,String.ofList_toList]
 rfl

lemma sampled_traceParent {a b:Char} (ha:isHex a=true) (hb:isHex b=true) :
  sampledTraceParent (.ofList (['0','0','-']++traceId.toList++['-']++spanId.toList++['-',a,b])) =
   ((hex a * 16+hex b) % 2 != 0) := by
 obtain ⟨h0,h3,h36⟩:=substr_traceParent ht hs a b
 have hnonneg:∀ ch,isHex ch=true→(!decide (hex ch < 0))=true:=fun ch hch=>by simpa using hex_nonneg hch
 have hdigits:=allDigits_traceParent ht hs hnonneg ha hb
 simp only[sampledTraceParent,String.toList_ofList,separated_traceParent ht hs a b,hdigits,h0,h3,h36,
  ht.nonzero,hs.nonzero]
 simp[ht.length,hs.length]

end TraceParent

variable {c:MessageContext}

lemma traceParent_eq (c:MessageContext) : traceParent c =
  .ofList (['0','0','-']++c.trace.traceId.toList++['-']++c.trace.spanId.toList ++
   ['-','0',if c.sampling then '1' else '0']) := by
 rw[← String.toList_inj,String.toList_ofList,traceParent]
 cases c.sampling <;> simp

lemma parse_inject (ht:IsId 32 c.trace.traceId) (hs:IsId 16 c.trace.spanId) :
  parseTraceParent (traceParent c) =
    some { traceId := c.trace.traceId,spanId := c.trace.spanId,valid := true } ∧
   sampledTraceParent (traceParent c)=c.sampling := by
 have hflag:isHex (if c.sampling then '1' else '0')=true:=by cases c.sampling <;> rfl
 rw[traceParent_eq]
 refine ⟨parse_traceParent ht hs rfl hflag,(sampled_traceParent ht hs rfl hflag).trans ?_⟩
 cases c.sampling <;> rfl

lemma setUnlessEmpty_apply (headers:Headers) (name value other:String) :
  headers.setUnlessEmpty name value other=if other=name∧value≠ "" then some value else headers other := by
 by_cases h:value= "" <;> simp[Headers.setUnlessEmpty,Headers.set,h]

lemma inject_eq (now:ℤ) (c:MessageContext) :
    let headers:=injectContext now c (fun _=>none) true
    headers "x-stream-id"=(if c.streamId= "" then none else some c.streamId) ∧
      headers "traceparent"=(if c.trace.valid then some (traceParent c) else none) ∧
      headers "tracestate"=(if c.trace.valid∧c.trace.traceState≠ "" then some c.trace.traceState else none) ∧
      headers "baggage"=(if c.trace.baggage= "" then none else some c.trace.baggage) ∧
      headers "x-trace"=if c.sampling then some "1" else none:=by
 cases hvalid:c.trace.valid <;> cases hsampling : c.sampling <;> cases hdeadline : c.deadline <;>
  simp[injectContext,hvalid,hsampling,hdeadline,Headers.set,setUnlessEmpty_apply]

lemma injectKafka_eq (c:MessageContext) :
    let headers:=injectKafkaContext c (fun _=>none) true
    headers "x-stream-id"=(if c.streamId= "" then none else some c.streamId) ∧
      headers "traceparent"=(if c.trace.valid then some (traceParent c) else none) ∧
      headers "tracestate"=(if c.trace.traceState= "" then none else some c.trace.traceState) ∧
      headers "baggage"=(if c.trace.baggage= "" then none else some c.trace.baggage) ∧
      headers "x-trace"=if c.sampling then some "1" else none:=by
 cases hvalid:c.trace.valid <;> cases hsampling : c.sampling <;>
  simp[injectKafkaContext,hvalid,hsampling,Headers.set,setUnlessEmpty_apply]

/-- A context with a stream id, without a trace or with the identifiers of one. -/
def Propagates (c:MessageContext) : Prop :=
 c.streamId ≠ "" ∧ (c.trace.valid = false ∧ c.trace.traceId = "" ∧ c.trace.spanId = "" ∨
  c.trace.valid = true ∧ IsId 32 c.trace.traceId ∧ IsId 16 c.trace.spanId)

def SameFields (c c':MessageContext) : Prop :=
 c'.streamId = c.streamId ∧ c'.trace.traceId = c.trace.traceId ∧ c'.trace.spanId = c.trace.spanId ∧
  c'.trace.traceState = c.trace.traceState ∧ c'.trace.baggage = c.trace.baggage ∧ c'.sampling = c.sampling

lemma kafka_round_trip (h:Propagates c) :
  SameFields c (contextFromKafkaHeaders (injectKafkaContext c (fun _=>none) true) true) := by
 obtain ⟨hstream,hparent,hstate,hbaggage,hmarker⟩:=injectKafka_eq c
 obtain ⟨hid,⟨hvalid,htrace,hspan⟩ | ⟨hvalid,ht,hs⟩⟩:=h
 · grind[contextFromKafkaHeaders,SameFields]
 · obtain ⟨hparse,hsampled⟩:=parse_inject ht hs
   grind[contextFromKafkaHeaders,SameFields]

/-- Both round trips keep every context if and only if it has a trace or no trace state. -/
theorem context_round_trip_iff (h : Propagates c) (now now' : ℤ) (newStreamId : String) :
  (SameFields c (contextFromHeaders now' newStreamId (injectContext now c (fun _ => none) true) true) ∧
   SameFields c (contextFromKafkaHeaders (injectKafkaContext c (fun _ => none) true) true)) ↔
   (c.trace.valid = true ∨ c.trace.traceState = "") := by
 rw[and_iff_left (kafka_round_trip h)]
 obtain ⟨hstream,hparent,hstate,hbaggage,hmarker⟩:=inject_eq now c
 obtain ⟨hid,⟨hvalid,htrace,hspan⟩ | ⟨hvalid,ht,hs⟩⟩:=h
 · grind[contextFromHeaders,SameFields]
 · obtain ⟨hparse,hsampled⟩:=parse_inject ht hs
   grind[contextFromHeaders,SameFields]

def sampledContext : MessageContext :=
 { streamId := "order-42",sampling := true
   trace := ⟨"4bf92f3577b34da6a3ce929d0e0e4736", "00f067aa0ba902b7",true, "vendor=value", "tenant=acme"⟩ }

theorem context_round_trip_iff_sampled :
  SameFields sampledContext (contextFromHeaders 0 "" (injectContext 0 sampledContext (fun _ => none) true) true) :=
 ((context_round_trip_iff (c := sampledContext) ⟨by decide,.inr ⟨rfl,⟨rfl,rfl,rfl⟩,⟨rfl,rfl,rfl⟩⟩⟩ 0 0 "").mpr
  (.inl rfl)).1

/-- A trace state without a trace: the Kafka headers carry it, the HTTP ones do not. -/
theorem traceState_lost :
    let c : MessageContext:={ streamId := "order-42", trace := { traceState := "vendor=value" } }
    Propagates c ∧ (contextFromHeaders 0 "" (injectContext 0 c (fun _ => none) true) true).trace.traceState = "" ∧
      (contextFromKafkaHeaders (injectKafkaContext c (fun _ => none) true) true).trace.traceState = "vendor=value" :=
 ⟨⟨by decide,.inl ⟨rfl,rfl,rfl⟩⟩,rfl,rfl⟩

lemma parseTimeout_nonneg {text:String} {ms:ℤ} (h:parseTimeout text=some ms) : 0≤ ms := by
 simp only[parseTimeout] at h
 split at h <;> simp only[Option.bind_eq_some_iff] at h <;> obtain ⟨n,-,h⟩ := h <;> split at h <;> cases h <;> omega

/-- The deadline of an accepted timeout is the saturated sum exactly where neither the
conversion nor the addition overflows. -/
theorem deadline_saturates_iff {text : String} {now ms : ℤ} (hnow : -2 ^ 63 ≤ now ∧ now < 2 ^ 63)
  (htext : parseTimeout text = some ms) (headers : Headers) (hheader : headers "x-timeout-ms" = some text) :
  (∃ d, deadlineAfter now ms = some d ∧ now ≤ d ∧ d = min (now + ms * 1000000) (2 ^ 63 - 1) ∧
   ∀ newStreamId tracing, (contextFromHeaders now newStreamId headers tracing).deadline = some d) ↔
  ms * 1000000 < 2 ^ 63 ∧ now + ms * 1000000 < 2 ^ 63 := by
 have hms:=parseTimeout_nonneg htext
 constructor
 · rintro ⟨d,hd,-⟩
   simp only[deadlineAfter,checked,Option.bind_eq_some_iff] at hd
   obtain ⟨ns,hns,hd⟩:=hd
   split at hns <;> cases hns
   split at hd <;> cases hd
   omega
 · rintro ⟨hconverted,hadded⟩
   have hafter:deadlineAfter now ms=some (now+ms * 1000000):=by
    simp only[deadlineAfter,checked]
    rw[if_pos (by omega)]
    exact if_pos (by omega)
   refine ⟨now+ms * 1000000,hafter,by omega,by omega,fun newStreamId tracing=>?_⟩
   cases tracing <;> simp[contextFromHeaders,hheader,htext,hafter]

theorem deadline_saturates_iff_second : ∃ d, deadlineAfter 7 1000 = some d ∧ 7 ≤ d ∧ d = 1000000007 := by
 obtain ⟨d,hd,hle,heq,-⟩:=(@deadline_saturates_iff "1000" 7 1000 (by decide) rfl
  (fun _=>some "1000") rfl).mpr (by decide)
 exact ⟨d,hd,hle,heq⟩

/-- The largest number that the parser accepts overflows with any clock. -/
theorem deadline_overflows : parseTimeout "9223372036854775807" = some 9223372036854775807 ∧
  ∀ now, deadlineAfter now 9223372036854775807 = none :=
 ⟨rfl,fun now=>by rw[deadlineAfter,checked,if_neg (by decide)]; rfl⟩

end ServiceLib.ContextHeaders
