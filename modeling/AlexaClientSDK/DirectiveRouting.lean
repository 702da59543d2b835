import AlexaClientSDK.HandlerReferences

/-!
# Routing by specificity

A rule matches a directive if each of its parts is that of the directive or a wildcard. The router picks the most
specific rule that matches: the instance counts before the namespace, and the namespace before the name. Rules are
registered and removed with all others of their handler or not at all, in any order.
-/

namespace AlexaClientSDK.DirectiveRouting

open AList Option List LabelledRuns DirectiveRouter Router HandlerReferences
open DirectiveProcessor (BlockingPolicy)

def instanceOf (directive : Directive) : Option String :=
  if directive.instanceId.isEmpty then none else some directive.instanceId

def MatchesPart {α : Type} (wildcard part found : α) : Prop := part=wildcard ∨ part=found

structure Matches (rule : CapabilityTag) (directive : Directive) : Prop where
  endpointId : rule.endpointId=directive.endpointId.getD ""
  instanceId : MatchesPart (some WILDCARD) rule.instanceId (instanceOf directive)
  nameSpace : MatchesPart WILDCARD rule.nameSpace directive.nameSpace
  name : MatchesPart WILDCARD rule.name directive.name

/-- How specific a part of a rule is. -/
def weight {α : Type} [DecidableEq α] (wildcard part : α) (value : ℕ) : ℕ := if part=wildcard then 0 else value

/-- Instance before namespace, and namespace before name. -/
def specificity (rule : CapabilityTag) : ℕ :=
  weight (some WILDCARD) rule.instanceId 4+weight WILDCARD rule.nameSpace 2+weight WILDCARD rule.name 1

/-- The rules that the router looks for, in this order. -/
def matchers (directive : Directive) : List CapabilityTag :=
  let endpointId := directive.endpointId.getD ""
  [routingRulePerDirective endpointId (instanceOf directive) directive.nameSpace directive.name,
    routingRulePerNamespace endpointId (instanceOf directive) directive.nameSpace,
    routingRulePerInstance endpointId (instanceOf directive),
    routingRulePerNamespaceAnyInstance endpointId directive.nameSpace,
    routingRulePerEndpoint endpointId]

variable {directive : Directive} {rule other : CapabilityTag}

theorem parts_of_valid (hvalid : isDirectiveRoutingRuleValid rule=true) (hname : rule.name≠WILDCARD) :
    rule.instanceId≠some WILDCARD ∧ rule.nameSpace≠WILDCARD := by
  unfold isDirectiveRoutingRuleValid at hvalid
  split at hvalid
  · cases hvalid
  · constructor
    · intro hinstance
      rw [hinstance] at hvalid
      simp [hname] at hvalid
    · intro hnamespace
      rw [hnamespace] at hvalid
      simp [hname] at hvalid

theorem mem_matchers (hvalid : isDirectiveRoutingRuleValid rule=true) (h : Matches rule directive) :
    rule∈matchers directive := by
  obtain ⟨nameSpace,name,endpointId,instanceId⟩ := rule
  obtain ⟨hendpoint,hinstance,hnamespace,hname⟩ := h
  subst hendpoint
  unfold matchers
  by_cases hwild : name=WILDCARD
  · subst hwild
    rcases hinstance with rfl|rfl
    · rcases hnamespace with rfl|rfl
      · simp [routingRulePerEndpoint]
      · simp [routingRulePerNamespaceAnyInstance]
    · rcases hnamespace with rfl|rfl
      · simp [routingRulePerInstance]
      · simp [routingRulePerNamespace]
  · obtain ⟨hinstance',hnamespace'⟩ := parts_of_valid hvalid hwild
    obtain rfl := hinstance.resolve_left hinstance'
    obtain rfl := hnamespace.resolve_left hnamespace'
    obtain rfl := hname.resolve_left hwild
    simp [routingRulePerDirective]

theorem matches_of_mem (hmem : rule∈matchers directive) : Matches rule directive := by
  unfold matchers at hmem
  simp only [mem_cons,not_mem_nil,or_false] at hmem
  rcases hmem with rfl|rfl|rfl|rfl|rfl
  · exact ⟨rfl,.inr rfl,.inr rfl,.inr rfl⟩
  · exact ⟨rfl,.inr rfl,.inr rfl,.inl rfl⟩
  · exact ⟨rfl,.inr rfl,.inl rfl,.inl rfl⟩
  · exact ⟨rfl,.inl rfl,.inr rfl,.inl rfl⟩
  · exact ⟨rfl,.inl rfl,.inl rfl,.inl rfl⟩

section

variable {α : Type} [DecidableEq α] {wildcard part part' found : α} {value : ℕ}

theorem weight_eq_or (wildcard part : α) (value : ℕ) : weight wildcard part value=0 ∨ weight wildcard part value=value := by
  unfold weight
  split
  · exact .inl rfl
  · exact .inr rfl

theorem part_eq (h : MatchesPart wildcard part found) (h' : MatchesPart wildcard part' found) (hvalue : value≠0)
    (heq : weight wildcard part value=weight wildcard part' value) : part=part' := by
  unfold weight at heq
  rcases h with rfl|rfl
  · rw [if_pos rfl] at heq
    split at heq
    next hwild => exact hwild.symm
    · exact (hvalue heq.symm).elim
  · rcases h' with rfl|rfl
    · rw [if_pos rfl] at heq
      split at heq
      next hwild => exact hwild
      · exact (hvalue heq).elim
    · rfl

end

theorem eq_of_specificity (h : Matches rule directive) (h' : Matches other directive)
    (heq : specificity rule=specificity other) : rule=other := by
  have hinstance := weight_eq_or (some WILDCARD) rule.instanceId 4
  have hnamespace := weight_eq_or WILDCARD rule.nameSpace 2
  have hname := weight_eq_or WILDCARD rule.name 1
  have hinstance' := weight_eq_or (some WILDCARD) other.instanceId 4
  have hnamespace' := weight_eq_or WILDCARD other.nameSpace 2
  have hname' := weight_eq_or WILDCARD other.name 1
  unfold specificity at heq
  have hfirst := part_eq h.instanceId h'.instanceId (by decide : (4 : ℕ)≠0) (by omega)
  have hsecond := part_eq h.nameSpace h'.nameSpace (by decide : (2 : ℕ)≠0) (by omega)
  have hthird := part_eq h.name h'.name (by decide : (1 : ℕ)≠0) (by omega)
  have hendpoint := h.endpointId.trans h'.endpointId.symm
  obtain ⟨nameSpace,name,endpointId,instanceId⟩ := rule
  dsimp only at hfirst hsecond hthird hendpoint
  rw [hfirst,hsecond,hthird,hendpoint]

/-- No rule is looked for behind a less specific one, except once more. -/
theorem specificity_le {before after : List CapabilityTag} (hsplit : matchers directive=before++rule::after)
    (hmem : other∈after) : specificity other ≤ specificity rule ∨ other∈before := by
  have hinstance := weight_eq_or (some WILDCARD) (instanceOf directive) 4
  have hnamespace := weight_eq_or WILDCARD directive.nameSpace 2
  have hwild : weight (some WILDCARD) (some WILDCARD) 4=0 ∧ weight WILDCARD WILDCARD 2=0 ∧
      weight WILDCARD WILDCARD 1=0 := ⟨if_pos rfl,if_pos rfl,if_pos rfl⟩
  -- for a wildcard as the instance, the rule of the namespace stands in front of that of the instance too
  have hagain : weight (some WILDCARD) (instanceOf directive) 4=0 → instanceOf directive=some WILDCARD := by
    unfold weight
    split
    next heq => exact fun _ => heq
    · exact nofun
  unfold matchers at hsplit
  rcases before with _|⟨first,_|⟨second,_|⟨third,_|⟨fourth,before⟩⟩⟩⟩
  · rw [nil_append,List.cons.injEq] at hsplit
    obtain ⟨rfl,rfl⟩ := hsplit
    simp only [mem_cons,not_mem_nil,or_false] at hmem
    rcases hmem with rfl|rfl|rfl|rfl
    all_goals
      left
      simp only [specificity,routingRulePerDirective,routingRulePerNamespace,routingRulePerInstance,
        routingRulePerNamespaceAnyInstance,routingRulePerEndpoint]
      omega
  · rw [cons_append,List.cons.injEq,nil_append,List.cons.injEq] at hsplit
    obtain ⟨rfl,rfl,rfl⟩ := hsplit
    simp only [mem_cons,not_mem_nil,or_false] at hmem
    rcases hmem with rfl|rfl|rfl
    all_goals
      left
      simp only [specificity,routingRulePerNamespace,routingRulePerInstance,routingRulePerNamespaceAnyInstance,
        routingRulePerEndpoint]
      omega
  · simp only [cons_append,List.cons.injEq,nil_append] at hsplit
    obtain ⟨rfl,rfl,rfl,rfl⟩ := hsplit
    simp only [mem_cons,not_mem_nil,or_false] at hmem
    rcases hmem with rfl|rfl
    · rcases hinstance with hnone|hall
      · right
        simp [routingRulePerNamespace,routingRulePerNamespaceAnyInstance,hagain hnone]
      · left
        simp only [specificity,routingRulePerInstance,routingRulePerNamespaceAnyInstance]
        omega
    · left
      simp only [specificity,routingRulePerInstance,routingRulePerEndpoint]
      omega
  · simp only [cons_append,List.cons.injEq,nil_append] at hsplit
    obtain ⟨rfl,rfl,rfl,rfl,rfl⟩ := hsplit
    obtain rfl := mem_singleton.mp hmem
    left
    simp only [specificity,routingRulePerNamespaceAnyInstance,routingRulePerEndpoint]
    omega
  · have hshort := congrArg List.length hsplit
    simp only [length_cons,length_append,length_nil] at hshort
    have hpos := length_pos_of_mem hmem
    omega

variable {η : Type} {s t : Router η} {handler : η}

def RulesValid (s : Router η) : Prop :=
  ∀ rule,∀ pair∈s.configuration.lookup rule,isValid pair.policy=true ∧ isDirectiveRoutingRuleValid rule=true

structure MostSpecific (s : Router η) (directive : Directive) (rule : CapabilityTag) : Prop where
  registered : rule∈s.configuration
  matching : Matches rule directive
  most : ∀ other∈s.configuration,Matches other directive → specificity other ≤ specificity rule

theorem MostSpecific.unique (h : MostSpecific s directive rule) (h' : MostSpecific s directive other) : rule=other :=
  eq_of_specificity h.matching h'.matching
    (Nat.le_antisymm (h'.most rule h.registered h.matching) (h.most other h'.registered h'.matching))

section

variable (hvalid : RulesValid s)
include hvalid

theorem mostSpecific_of_findSome {pair : HandlerAndPolicy η}
    (hfound : ((matchers directive).findSome? fun rule => s.configuration.lookup rule)=some pair) :
    ∃ rule,MostSpecific s directive rule ∧ s.configuration.lookup rule=some pair := by
  obtain ⟨before,rule,after,hsplit,hlookup,hnone⟩ := List.findSome?_eq_some_iff.mp hfound
  have hmem : rule∈matchers directive := hsplit ▸ mem_append_right _ mem_cons_self
  refine ⟨rule,⟨lookup_isSome.mp (isSome_of_mem hlookup),matches_of_mem hmem,?_⟩,hlookup⟩
  intro other hregistered hmatches
  obtain ⟨found,hother⟩ := isSome_iff_exists.mp (lookup_isSome.mpr hregistered)
  -- a rule that is registered is not one of those that were not found
  have hlater : other∉before := by
    intro hearlier
    rw [hnone other hearlier] at hother
    cases hother
  have hlisted := mem_matchers (hvalid other found hother).2 hmatches
  rw [hsplit,mem_append,mem_cons] at hlisted
  rcases hlisted.resolve_left hlater with rfl|hafter
  · exact Nat.le_refl _
  · exact (specificity_le hsplit hafter).resolve_right hlater

theorem getHandlerAndPolicyLocked_eq :
    s.getHandlerAndPolicyLocked directive=(matchers directive).findSome? fun rule => s.configuration.lookup rule := by
  have hfilter : s.getHandlerAndPolicyLocked directive =
      ((matchers directive).findSome? fun rule => s.configuration.lookup rule).filter fun found =>
        isValid found.policy := rfl
  rw [hfilter]
  cases hfound : (matchers directive).findSome? fun rule => s.configuration.lookup rule with
  | none => rfl
  | some pair =>
    obtain ⟨rule,-,hlookup⟩ := mostSpecific_of_findSome hvalid hfound
    exact filter_some_pos (hvalid rule pair hlookup).1

theorem getHandlerLocked_eq_some : s.getHandlerLocked directive=some handler ↔
    ∃ rule,MostSpecific s directive rule ∧ ∃ policy,s.configuration.lookup rule=some ⟨handler,policy⟩ := by
  unfold getHandlerLocked
  rw [getHandlerAndPolicyLocked_eq hvalid,map_eq_some_iff]
  constructor
  · rintro ⟨pair,hfound,rfl⟩
    obtain ⟨rule,hmost,hlookup⟩ := mostSpecific_of_findSome hvalid hfound
    exact ⟨rule,hmost,pair.policy,hlookup⟩
  · rintro ⟨rule,hmost,policy,hlookup⟩
    have hlisted := mem_matchers (hvalid rule _ hlookup).2 hmost.matching
    have hsome : ((matchers directive).findSome? fun rule => s.configuration.lookup rule).isSome=true :=
      List.findSome?_isSome_iff.mpr ⟨rule,hlisted,isSome_of_mem hlookup⟩
    obtain ⟨pair,hfound⟩ := isSome_iff_exists.mp hsome
    obtain ⟨first,hfirst,hpair⟩ := mostSpecific_of_findSome hvalid hfound
    rw [hfirst.unique hmost,hlookup] at hpair
    exact ⟨pair,hfound,(congrArg HandlerAndPolicy.handler (Option.some.inj hpair)).symm⟩

theorem getHandlerLocked_eq_none : s.getHandlerLocked directive=none ↔
    ∀ rule∈s.configuration,¬Matches rule directive := by
  unfold getHandlerLocked
  rw [getHandlerAndPolicyLocked_eq hvalid,map_eq_none_iff,List.findSome?_eq_none_iff]
  constructor
  · intro hnone rule hregistered hmatches
    obtain ⟨pair,hlookup⟩ := isSome_iff_exists.mp (lookup_isSome.mpr hregistered)
    have hlisted := mem_matchers (hvalid rule pair hlookup).2 hmatches
    rw [hnone rule hlisted] at hlookup
    cases hlookup
  · intro hno rule hlisted
    refine lookup_eq_none.mpr fun hregistered => hno rule hregistered (matches_of_mem hlisted)

end

variable [DecidableEq η] {getConfiguration : η → AList fun _ : CapabilityTag => BlockingPolicy}

/-- All its rules change from one entry to another, and no others. -/
structure ChangesAll (configuration : AList fun _ : CapabilityTag => BlockingPolicy) (s t : Router η)
    (before after : BlockingPolicy → Option (HandlerAndPolicy η)) : Prop where
  own : ∀ rule,∀ policy∈configuration.lookup rule,
    s.configuration.lookup rule=before policy ∧ t.configuration.lookup rule=after policy
  other : ∀ rule,configuration.lookup rule=none → t.configuration.lookup rule=s.configuration.lookup rule

theorem addDirectiveHandler_allOrNone (s : Router η) (handler : Option η) :
    ((s.addDirectiveHandler getConfiguration handler).2=true ∧ ∃ added,handler=some added ∧
      ChangesAll (getConfiguration added) s (s.addDirectiveHandler getConfiguration handler).1 (fun _ => none)
        fun policy => some ⟨added,policy⟩) ∨ s.addDirectiveHandler getConfiguration handler=(s,false) := by
  cases handler with
  | none => exact .inr rfl
  | some handler =>
    unfold addDirectiveHandler
    dsimp only
    by_cases hshutdown : s.isShutdown=true
    · rw [if_pos hshutdown]
      exact .inr rfl
    rw [if_neg hshutdown]
    by_cases hadd : s.canAdd getConfiguration handler=true
    · left
      rw [if_pos hadd]
      have hlookup := (local_addRule handler).view_foldl (getConfiguration handler) s
      refine ⟨rfl,handler,rfl,fun rule policy hpolicy => ⟨lookup_of_canAdd hadd hpolicy,?_⟩,fun rule hnone => ?_⟩
      · exact (hlookup rule).trans (by rw [mem_def.mp hpolicy,elim_some])
      · exact (hlookup rule).trans (by rw [hnone,elim_none])
    · rw [if_neg hadd]
      exact .inr rfl

theorem removeDirectiveHandlerLocked_changesAll (hcan : s.canRemove getConfiguration handler=true) :
    ChangesAll (getConfiguration handler) s (s.removeDirectiveHandlerLocked getConfiguration handler).1
      (fun policy => some ⟨handler,policy⟩) fun _ => none := by
  have hlookup := (local_removeRule handler).view_foldl (getConfiguration handler) s
  unfold removeDirectiveHandlerLocked
  rw [if_pos hcan]
  refine ⟨fun rule policy hpolicy => ⟨lookup_of_canRemove hcan hpolicy,?_⟩,fun rule hnone => ?_⟩
  · exact (hlookup rule).trans (by rw [mem_def.mp hpolicy,elim_some])
  · exact (hlookup rule).trans (by rw [hnone,elim_none])

theorem removeDirectiveHandler_allOrNone (s : Router η) (handler : Option η) :
    ((s.removeDirectiveHandler getConfiguration handler).2=true ∧ ∃ removed,handler=some removed ∧
      ChangesAll (getConfiguration removed) s (s.removeDirectiveHandler getConfiguration handler).1
        (fun policy => some ⟨removed,policy⟩) fun _ => none) ∨
      s.removeDirectiveHandler getConfiguration handler=(s,false) := by
  cases handler with
  | none => exact .inr rfl
  | some handler =>
    unfold removeDirectiveHandler
    dsimp only
    by_cases hcan : s.canRemove getConfiguration handler=true
    · left
      have hchange := removeDirectiveHandlerLocked_changesAll hcan
      rw [if_pos (removeDirectiveHandlerLocked_true hcan)]
      exact ⟨rfl,handler,rfl,hchange.own,hchange.other⟩
    · right
      rw [if_neg (Bool.eq_false_iff.mp (removeDirectiveHandlerLocked_false hcan))]

/-- No rules but those of one router are registered with another. -/
def Fewer (s t : Router η) : Prop := ∀ rule,∀ pair∈t.configuration.lookup rule,pair∈s.configuration.lookup rule

omit [DecidableEq η] in
theorem RulesValid.fewer (h : RulesValid s) (hfewer : Fewer s t) : RulesValid t := fun rule pair hpair =>
  h rule pair (hfewer rule pair hpair)

theorem fewer_removeDirectiveHandlerLocked (s : Router η) (handler : η) :
    Fewer s (s.removeDirectiveHandlerLocked getConfiguration handler).1 := by
  intro rule pair hpair
  by_cases hcan : s.canRemove getConfiguration handler=true
  · have hchange := removeDirectiveHandlerLocked_changesAll hcan
    cases hrule : (getConfiguration handler).lookup rule with
    | none => exact hchange.other rule hrule ▸ hpair
    | some policy =>
      rw [(hchange.own rule policy hrule).2] at hpair
      exact (not_mem_none _ hpair).elim
  · unfold removeDirectiveHandlerLocked at hpair
    rw [if_neg hcan] at hpair
    exact hpair

theorem rulesValid_addDirectiveHandler (h : RulesValid s) (handler : Option η) :
    RulesValid (s.addDirectiveHandler getConfiguration handler).1 := by
  rcases addDirectiveHandler_allOrNone s handler with ⟨hadded,added,rfl,hchange⟩|hnothing
  · have hcan : s.canAdd getConfiguration added=true := by
      unfold addDirectiveHandler at hadded
      dsimp only at hadded
      by_contra hcan
      rw [if_neg hcan,ite_self] at hadded
      cases hadded
    intro rule pair hpair
    cases hrule : (getConfiguration added).lookup rule with
    | none => exact h rule pair (hchange.other rule hrule ▸ hpair)
    | some policy =>
      rw [(hchange.own rule policy hrule).2] at hpair
      obtain rfl := mem_some.mp hpair
      have hall := all_eq_true.mp hcan ⟨rule,policy⟩ (of_mem_dlookup hrule)
      rw [Bool.and_eq_true,Bool.and_eq_true] at hall
      exact hall.1
  · rw [hnothing]
    exact h

theorem rulesValid_step {event : Event η} (h : RulesValid s) (hstep : Step getConfiguration s event t) :
    RulesValid t := by
  obtain ⟨-,rfl⟩ := hstep
  cases event with
  | addDirectiveHandler handler =>
    unfold Router.next
    exact rulesValid_addDirectiveHandler h handler
  | removeDirectiveHandler handler =>
    unfold Router.next
    cases handler with
    | none => exact h
    | some handler =>
      unfold removeDirectiveHandler
      dsimp only
      split
      · exact h.fewer (fewer_removeDirectiveHandlerLocked s handler)
      · exact h
  | beginCall =>
    unfold Router.next beginCall
    dsimp only
    split
    · exact h
    · exact h
  | endCall =>
    unfold Router.next endCall decrementHandlerReferenceCountLocked
    dsimp only
    split
    · exact h
    · split
      · exact h
      · exact h
  | onDeregistered => exact h
  | shutdown =>
    unfold Router.next doShutdown
    dsimp only
    split
    · exact h
    · exact fun rule pair hpair => (not_mem_none _ hpair).elim
  | releaseHandler =>
    unfold Router.next
    dsimp only
    split
    · exact h
    · exact h
  | shutdownDone => exact h

variable (getConfiguration)

/-- In every run a directive has the handler of the most specific registered rule that matches, if any; runs
that lead to the same rules give every directive the same handler; and a handler is added or removed with all of
its rules or not at all. -/
theorem routed_by_specificity {events : List (Event η)} {s : Router η}
    (run : Run (Step getConfiguration) create events s) :
    (∀ directive handler,s.getHandlerLocked directive=some handler ↔
      ∃ rule,MostSpecific s directive rule ∧ ∃ policy,s.configuration.lookup rule=some ⟨handler,policy⟩) ∧
    (∀ directive,s.getHandlerLocked directive=none ↔ ∀ rule∈s.configuration,¬Matches rule directive) ∧
    (∀ events t,Run (Step getConfiguration) create events t →
      (∀ rule,t.configuration.lookup rule=s.configuration.lookup rule) →
        ∀ directive,t.getHandlerLocked directive=s.getHandlerLocked directive) ∧
    (∀ handler,((s.addDirectiveHandler getConfiguration handler).2=true ∧ ∃ added,handler=some added ∧
      ChangesAll (getConfiguration added) s (s.addDirectiveHandler getConfiguration handler).1 (fun _ => none)
        fun policy => some ⟨added,policy⟩) ∨ s.addDirectiveHandler getConfiguration handler=(s,false)) ∧
    ∀ handler,((s.removeDirectiveHandler getConfiguration handler).2=true ∧ ∃ removed,handler=some removed ∧
      ChangesAll (getConfiguration removed) s (s.removeDirectiveHandler getConfiguration handler).1
        (fun policy => some ⟨removed,policy⟩) fun _ => none) ∨
      s.removeDirectiveHandler getConfiguration handler=(s,false) := by
  have hrules : ∀ {events : List (Event η)} {s : Router η},Run (Step getConfiguration) create events s →
      RulesValid s := fun run =>
    run.invariant RulesValid (fun _ _ hpair => (not_mem_none _ hpair).elim) fun _ _ _ h hstep =>
      rulesValid_step h hstep
  have hvalid := hrules run
  refine ⟨fun directive handler => getHandlerLocked_eq_some hvalid,fun directive => getHandlerLocked_eq_none hvalid,
    fun events t run' hsame directive => ?_,addDirectiveHandler_allOrNone s,removeDirectiveHandler_allOrNone s⟩
  have hlookups : (fun rule => t.configuration.lookup rule)=fun rule => s.configuration.lookup rule :=
    funext hsame
  unfold getHandlerLocked
  rw [getHandlerAndPolicyLocked_eq (hrules run'),getHandlerAndPolicyLocked_eq hvalid,hlookups]

def instanceAndNamespace : Bool → AList fun _ : CapabilityTag => BlockingPolicy
  | true => singleton (routingRulePerInstance "stove" (some "left")) ⟨false,true,false⟩
  | false => singleton (routingRulePerNamespaceAnyInstance "stove" "Alexa.RangeController") ⟨false,true,false⟩

def setRangeValue : Directive := ⟨"Alexa.RangeController","SetRangeValue",some "stove","left"⟩

def both : Router Bool :=
  (create.next instanceAndNamespace (.addDirectiveHandler (some true))).next instanceAndNamespace
    (.addDirectiveHandler (some false))

theorem run_both : Run (Step instanceAndNamespace) create
    [.addDirectiveHandler (some true),.addDirectiveHandler (some false)] both := by
  have hstart : Run (Step instanceAndNamespace) create [] create := .refl
  have hfirst := hstart.snoc (step_next instanceAndNamespace (.addDirectiveHandler (some true)) rfl)
  exact hfirst.snoc (step_next instanceAndNamespace (.addDirectiveHandler (some false)) (by decide))

/-- The directive goes by the most specific rule. -/
theorem routed_by_specificity_stove :
    ∃ rule,MostSpecific both setRangeValue rule ∧ ∃ policy,both.configuration.lookup rule=some ⟨true,policy⟩ :=
  ((routed_by_specificity instanceAndNamespace run_both).1 setRangeValue true).mp (by decide)

/-- Of two rules the router picks the one for the instance. -/
theorem instance_before_namespace :
    (∃ events,Run (Step instanceAndNamespace) create events both) ∧ both.getHandlerLocked setRangeValue=some true ∧
      ([routingRulePerDirective "stove" (some "left") "Alexa.RangeController" "SetRangeValue",
        routingRulePerNamespace "stove" (some "left") "Alexa.RangeController",
        routingRulePerNamespaceAnyInstance "stove" "Alexa.RangeController",
        routingRulePerEndpoint "stove"].findSome? fun rule => both.configuration.lookup rule).map
          HandlerAndPolicy.handler=some false :=
  ⟨⟨_,run_both⟩,by decide,by decide⟩

end AlexaClientSDK.DirectiveRouting
