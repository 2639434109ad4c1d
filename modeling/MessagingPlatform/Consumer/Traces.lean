import MessagingPlatform.Consumer.Hops

/-! The trace of a message across its retry hops. A copy carries the trace context that is active when
it is published, and the one of the delivery only when none is. -/
namespace MessagingPlatform.Consumer

structure Traceparent where
  traceId : String
  parentId : String
  flags : String
  traceIdWidth : traceId.length = 32
  parentIdWidth : parentId.length = 16
  flagsWidth : flags.length = 2

namespace Traceparent

def spell (parent : Traceparent) : String :=
  "00-" ++ parent.traceId ++ "-" ++ parent.parentId ++ "-" ++ parent.flags

theorem traceId_eq_of_spell {parent other : Traceparent} (same : parent.spell = other.spell) :
    parent.traceId = other.traceId := by
  have letters := congrArg String.toList same
  simp only [spell,String.toList_append,List.append_assoc] at letters
  have tails := (List.append_inj letters rfl).2
  have widths : parent.traceId.toList.length = other.traceId.toList.length := by
    rw [String.length_toList,String.length_toList,parent.traceIdWidth,other.traceIdWidth]
  exact String.toList_injective (List.append_inj tails widths).1

end Traceparent

def TracedBy (traceId : String) (headers : Headers) : Prop :=
  ∃ parent : Traceparent, headers.lookup "traceparent" = some (.str parent.spell) ∧ parent.traceId = traceId

theorem TracedBy.unique {traceId : String} {headers : Headers} (traced : TracedBy traceId headers)
    {parent : Traceparent} (carries : headers.lookup "traceparent" = some (.str parent.spell)) :
    parent.traceId = traceId := by
  obtain ⟨other,spelled,rfl⟩ := traced
  have same : parent.spell = other.spell := HeaderValue.str.inj (Option.some.inj (carries.symm.trans spelled))
  exact Traceparent.traceId_eq_of_spell same

/-- What `propagation.inject` writes into an empty carrier: the trace parent of the active span, and
none when no span is active. -/
def InjectedUnder (active : Option Traceparent) (carrier : TraceCarrier) : Prop :=
  (injectTraceContext [] carrier).lookup "traceparent" = active.map (fun span => .str span.spell)

theorem lookup_injected {active : Option Traceparent} {carrier : TraceCarrier} (headers : Headers)
    (injected : InjectedUnder active carrier) : (injectTraceContext headers carrier).lookup "traceparent" =
      (active.map (fun span => .str span.spell)).or (headers.lookup "traceparent") := by
  unfold InjectedUnder injectTraceContext at injected
  rw [Headers.lookup_spread_or,List.lookup_nil,Option.or_none] at injected
  rw [injectTraceContext,Headers.lookup_spread_or,injected]

theorem Hop.Made.traceparent {settings : Settings} {hop : Hop} (made : hop.Made settings)
    {active : Option Traceparent} (injected : InjectedUnder active hop.carrier) :
    hop.copy.headers.lookup "traceparent" =
      (active.map (fun span => .str span.spell)).or (hop.delivery.headers.lookup "traceparent") := by
  rw [made.copied.2]
  have unset : "traceparent" ∉ trackingHeaders := by decide
  exact (lookup_injected _ injected).trans (congrArg _ (Headers.lookup_spread unset))

section chain
variable {settings : Settings} {message : Envelope} {hops : List Hop} {traceId : String}
  {active : Hop → Option Traceparent}

/-- Where every active span belongs to the trace, so does the message after every hop. -/
theorem Chain.traced (chain : Chain settings message hops) (first : TracedBy traceId message.headers)
    (injected : ∀ hop ∈ hops, InjectedUnder (active hop) hop.carrier)
    (own : ∀ hop ∈ hops, ∀ span, active hop = some span → span.traceId = traceId) :
    TracedBy traceId (latest message hops).2 ∧ ∀ hop ∈ hops, TracedBy traceId hop.copy.headers := by
  induction chain with
  | nil => exact ⟨first,fun _ impossible => by cases impossible⟩
  | @hop hops hop chain delivered made ih =>
    obtain ⟨arrived,earlier⟩ := ih (fun other member => injected other (List.mem_append_left _ member))
      (fun other member => own other (List.mem_append_left _ member))
    have last : hop ∈ hops ++ [hop] := List.mem_append_right _ (List.mem_singleton_self hop)
    have copied : TracedBy traceId hop.copy.headers := by
      have carried := made.traceparent (injected hop last)
      cases current : active hop with
      | some span =>
        rw [current] at carried
        exact ⟨span,carried,own hop last span current⟩
      | none =>
        obtain ⟨parent,spelled,same⟩ := arrived
        rw [current,delivered.headers "traceparent" (by decide),spelled] at carried
        exact ⟨parent,carried,same⟩
    rw [latest_append]
    refine ⟨copied,?_⟩
    intro other member
    rcases List.mem_append.mp member with before | here
    · exact earlier other before
    · obtain rfl := List.mem_singleton.mp here
      exact copied

theorem Chain.made (chain : Chain settings message hops) : ∀ hop ∈ hops, hop.Made settings := by
  intro hop member
  obtain ⟨earlier,later,rfl⟩ := List.append_of_mem member
  exact chain.split.2.2

end chain

/-- The copies of a traced message stay in its trace if and only if at every hop no span is active, or
one of that trace. -/
theorem original_trace_kept_iff (settings : Settings) (message : Envelope) (hops : List Hop)
    (chain : Chain settings message hops) (parent : Traceparent)
    (carries : message.headers.lookup "traceparent" = some (.str parent.spell)) (active : Hop → Option Traceparent)
    (injected : ∀ hop ∈ hops, InjectedUnder (active hop) hop.carrier) :
    (∀ hop ∈ hops, TracedBy parent.traceId hop.copy.headers) ↔
      ∀ hop ∈ hops, ∀ span, active hop = some span → span.traceId = parent.traceId := by
  constructor
  · intro traced hop member span current
    have carried := (chain.made hop member).traceparent (injected hop member)
    rw [current] at carried
    exact (traced hop member).unique carried
  · intro own
    exact (chain.traced ⟨parent,carries,rfl⟩ injected own).2

def sampleTrace : Traceparent :=
  ⟨"4bf92f3577b34da6a3ce929d0e0e4736","00f067aa0ba902b7","01",rfl,rfl,rfl⟩

def otherTrace : Traceparent :=
  ⟨"0af7651916cd43dd8448eb211c80319c","b7ad6b7169203331","01",rfl,rfl,rfl⟩

def tracedEnvelope : Envelope :=
  ⟨sampleDelivery.content,[("traceparent",.str sampleTrace.spell)],RoutingKeys.work⟩

def brokenUnder (span : Traceparent) : Environment := fun log request =>
  match request with
  | .inject => (.ok [("traceparent",span.spell)],true)
  | request => brokenConnection log request

def tracedHop (span : Traceparent) : Option Hop :=
  hopOf sampleConsumer (brokenUnder span) ⟨tracedEnvelope.body,tracedEnvelope.headers,sampleDelivery.data⟩

theorem tracedHop_chain {span : Traceparent} {hop : Hop} (found : tracedHop span = some hop) :
    Chain sampleConsumer tracedEnvelope [hop] := by
  obtain ⟨delivery,made⟩ := hopOf_made found
  apply Chain.hop .nil _ made
  rw [delivery]
  exact ⟨rfl,rfl,fun _ _ => rfl⟩

theorem traced_retry_kept :
    let hop := (tracedHop sampleTrace).get (by decide +kernel)
    ∀ other ∈ [hop], TracedBy sampleTrace.traceId other.copy.headers := by
  intro hop
  have chain : Chain sampleConsumer tracedEnvelope [hop] := tracedHop_chain (Option.some_get _).symm
  have carrier : hop.carrier = [("traceparent",sampleTrace.spell)] := by decide +kernel
  refine (original_trace_kept_iff sampleConsumer tracedEnvelope [hop] chain sampleTrace rfl
    (fun _ => some sampleTrace) ?_).mpr ?_
  · intro other member
    obtain rfl := List.mem_singleton.mp member
    unfold InjectedUnder
    rw [carrier]
    rfl
  · intro other _ span active
    obtain rfl := Option.some.inj active
    rfl

/-- The retry is published while a span of another trace is active. -/
theorem retry_leaves_trace : ¬ ∀ (settings : Settings) (message : Envelope) (hops : List Hop),
    Chain settings message hops → ∀ parent : Traceparent,
    message.headers.lookup "traceparent" = some (.str parent.spell) → ∀ active : Hop → Option Traceparent,
    (∀ hop ∈ hops, InjectedUnder (active hop) hop.carrier) →
    ∀ hop ∈ hops, TracedBy parent.traceId hop.copy.headers := by
  intro kept
  let hop := (tracedHop otherTrace).get (by decide +kernel)
  have chain : Chain sampleConsumer tracedEnvelope [hop] := tracedHop_chain (Option.some_get _).symm
  have carrier : hop.carrier = [("traceparent",otherTrace.spell)] := by decide +kernel
  have injected : ∀ other ∈ [hop], InjectedUnder (some otherTrace) other.carrier := by
    intro other member
    obtain rfl := List.mem_singleton.mp member
    unfold InjectedUnder
    rw [carrier]
    rfl
  have here := List.mem_singleton_self hop
  have traced := kept sampleConsumer tracedEnvelope [hop] chain sampleTrace rfl (fun _ => some otherTrace) injected
    hop here
  have carried := (chain.made hop here).traceparent (injected hop here)
  exact absurd (traced.unique carried) (by decide)

end MessagingPlatform.Consumer
