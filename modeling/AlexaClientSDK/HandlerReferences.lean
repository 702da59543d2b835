import AlexaClientSDK.DirectiveRouter

/-!
# The references of the handlers

The reference count of a handler is the number of its rules and of its calls that run. A handler is told by
`onDeregistered` as soon as its rules are removed, whether a call runs or not, and again when the last call has ended;
this happens outside of the lock, where it may have been registered again; and a handler without rules that was never
registered is removed.
-/

namespace AlexaClientSDK.HandlerReferences

open Nat AList Option List LabelledRuns Tallies DirectiveRouter Router HandlerReferences
open DirectiveProcessor (BlockingPolicy)

variable {η : Type} {s t : Router η} {handler other : η}
  {getConfiguration : η → AList fun _ : CapabilityTag => BlockingPolicy}

variable {rule : CapabilityTag} {policy : BlockingPolicy}

theorem lookup_of_canAdd (hadd : s.canAdd getConfiguration handler=true)
    (hpolicy : policy∈(getConfiguration handler).lookup rule) :
    s.configuration.lookup rule=none := by
  have hall := all_eq_true.mp hadd ⟨rule,policy⟩ (of_mem_dlookup hpolicy)
  exact isNone_iff_eq_none.mp (Bool.and_eq_true_iff.mp hall).2

variable [DecidableEq η]

section

variable (s)

def rules (handler : η) : ℕ := entriesOf (fun pair => decide (pair.handler=handler)) s.configuration

/-- The count of each handler is the number of its rules and of its calls. -/
def Balanced : Prop :=
  ∀ handler,countOf s.handlerReferenceCounts handler=rules s handler+s.running.count handler

/-- It is called, or about to be, once for each registration that has ended. -/
def Once : Prop :=
  ∀ handler,(s.deregistered.map Prod.fst).count handler+s.owed.count handler +
    s.releasedHandlers.count handler=s.ended.count handler

end

structure Accounted (s : Router η) : Prop where
  balanced : Balanced s
  once : Once s
  ended : ∀ handler,s.ended.count handler ≤ s.added.count handler
  idle : ∀ call∈s.deregistered,call.2=0

variable (getConfiguration)

/-- A handler is removed when no call runs, one without rules when just added, and no call begins before
`onDeregistered`. -/
def Allowed (s : Router η) : Event η → Prop
  | .removeDirectiveHandler handler => ∀ removed∈handler,s.canRemove getConfiguration removed=true →
      removed∉s.running ∧ (getConfiguration removed=∅ → Active s removed)
  | .shutdown => s.isShutdown=false → ∀ rule,∀ pair∈s.configuration.lookup rule,pair.handler∉s.running
  | .beginCall directive => ∀ called∈s.getHandlerLocked directive,called∉s.owed ∧ called∉s.releasedHandlers
  | .addDirectiveHandler _ | .endCall _ | .onDeregistered _ | .releaseHandler | .shutdownDone => True

structure Registered (s : Router η) : Prop where
  own : ∀ rule,∀ pair∈s.configuration.lookup rule,pair.policy∈(getConfiguration pair.handler).lookup rule
  /-- The other rules of the handler are registered too. -/
  complete : ∀ rule,∀ pair∈s.configuration.lookup rule,∀ second,∀ policy ∈
    (getConfiguration pair.handler).lookup second,s.configuration.lookup second=some ⟨pair.handler,policy⟩

theorem rules_pos : 0<rules s handler ↔ ∃ rule,∃ pair∈s.configuration.lookup rule,pair.handler=handler := by
  unfold rules
  rw [entriesOf_pos]
  simp only [decide_eq_true_eq]

variable {directive : Directive}

theorem rules_of_getHandlerLocked (h : s.getHandlerLocked directive=some handler) : 0<rules s handler := by
  obtain ⟨pair,hpair,rfl⟩ := map_eq_some_iff.mp h
  have hfound := (filter_eq_some_iff.mp hpair).1
  obtain ⟨rule,-,hlookup⟩ := exists_of_findSome?_eq_some hfound
  exact rules_pos.mpr ⟨rule,pair,hlookup,rfl⟩

section

variable (handler)

theorem local_addRule : MapFolds.Local (fun (s : Router η) rule => s.configuration.lookup rule) (addRule handler)
      fun _ (policy : BlockingPolicy) _ => some (⟨handler,policy⟩ : HandlerAndPolicy η) :=
  ⟨fun s _ => lookup_insert s.configuration,fun _ _ _ hne => lookup_insert_ne hne⟩

theorem local_removeRule : MapFolds.Local (fun (s : Router η) rule => s.configuration.lookup rule) (removeRule handler)
      fun _ (_ : BlockingPolicy) _ => (none : Option (HandlerAndPolicy η)) :=
  ⟨fun s item => lookup_erase item.1 s.configuration,fun _ _ _ hne => lookup_erase_ne hne⟩

omit [DecidableEq η] in
/-- The other fields stay while rules are registered or removed. -/
theorem foldl_frame (change : Router η → (Σ _ : CapabilityTag,BlockingPolicy) → Router η)
    (hchange : ∀ s item,∃ configuration counts,change s item =
      {s with configuration := configuration,handlerReferenceCounts := counts})
    (items : List (Σ _ : CapabilityTag,BlockingPolicy)) : ∀ s : Router η,∃ configuration counts,
      items.foldl change s={s with configuration := configuration,handlerReferenceCounts := counts} := by
  induction items with
  | nil => exact fun s => ⟨s.configuration,s.handlerReferenceCounts,rfl⟩
  | cons item items ih =>
    intro s
    obtain ⟨_,_,hitem⟩ := hchange s item
    obtain ⟨configuration,counts,heq⟩ := ih (change s item)
    exact ⟨configuration,counts,by rw [List.foldl_cons,heq,hitem]⟩

end

variable {item : Σ _ : CapabilityTag,BlockingPolicy}

theorem balanced_addRule (h : Balanced s) (hnew : item.1∉s.configuration) : Balanced (addRule handler s item) := by
  intro other
  have hcount := countOf_increment s.handlerReferenceCounts handler other
  have hrules := entriesOf_insert (fun pair => decide (pair.handler=other)) hnew (⟨handler,item.2⟩ : HandlerAndPolicy η)
  have hbefore := h other
  simp only [decide_eq_true_eq] at hrules
  change countOf (increment s.handlerReferenceCounts handler) other =
    entriesOf _ (s.configuration.insert item.1 ⟨handler,item.2⟩)+s.running.count other
  unfold rules at hbefore
  omega

/-- A rule that is removed does not count any more. -/
theorem balanced_removeRule (h : Balanced s)
    (hrule : s.configuration.lookup item.1=some ⟨handler,item.2⟩) : Balanced (removeRule handler s item) := by
  intro other
  have hcount := countOf_decrement s.handlerReferenceCounts handler other
  have hrules := entriesOf_erase (fun pair : HandlerAndPolicy η => decide (pair.handler=other)) hrule
  have hbefore := h other
  simp only [decide_eq_true_eq] at hrules
  change countOf (decrement s.handlerReferenceCounts handler) other =
    entriesOf _ (s.configuration.erase item.1)+s.running.count other
  unfold rules at hbefore
  omega

section

variable (items : List (Σ _ : CapabilityTag,BlockingPolicy))

theorem balanced_foldl_addRule : ∀ s : Router η,Balanced s → items.NodupKeys → (∀ item∈items,item.1∉s.configuration) →
      Balanced (items.foldl (addRule handler) s) := by
  induction items with
  | nil => exact fun s h _ _ => h
  | cons item items ih =>
    intro s h hnodup hnew
    rw [nodupKeys_cons] at hnodup
    refine ih _ (balanced_addRule h (hnew item mem_cons_self)) hnodup.2 fun later hmem hlater => ?_
    obtain heq|hold := (mem_insert s.configuration).mp hlater
    · exact hnodup.1 (heq ▸ mem_keys_of_mem hmem)
    · exact hnew later (mem_cons_of_mem _ hmem) hold

theorem balanced_foldl_removeRule : ∀ s : Router η,Balanced s → items.NodupKeys →
      (∀ item∈items,s.configuration.lookup item.1=some ⟨handler,item.2⟩) →
        Balanced (items.foldl (removeRule handler) s) ∧
          (items.foldl (removeRule handler) s).configuration.entries.length+items.length =
            s.configuration.entries.length := by
  induction items with
  | nil => exact fun s h _ _ => ⟨h,rfl⟩
  | cons item items ih =>
    intro s h hnodup hrules
    rw [nodupKeys_cons] at hnodup
    have hrule := hrules item mem_cons_self
    obtain ⟨hbalanced,hlength⟩ := ih _ (balanced_removeRule h hrule) hnodup.2 fun later hmem => by
      have hne : later.1≠item.1 := fun heq => hnodup.1 (heq ▸ mem_keys_of_mem hmem)
      exact (lookup_erase_ne hne).trans (hrules later (mem_cons_of_mem _ hmem))
    have hone := (MapFolds.entries_perm hrule).length_eq
    rw [length_cons] at hone
    refine ⟨hbalanced,?_⟩
    rw [foldl_cons,length_cons]
    change _=(s.configuration.erase item.1).entries.length at hlength
    omega

end

structure Removed (handler : η) (s t : Router η) : Prop where
  lookup : ∀ rule pair,pair∈t.configuration.lookup rule ↔ pair∈s.configuration.lookup rule ∧ pair.handler≠handler
  balanced : Balanced t
  length : t.configuration.entries.length+(getConfiguration handler).entries.length=s.configuration.entries.length
  running : t.running=s.running
  ended : t.ended=if s.ended.count handler<s.added.count handler then s.ended++[handler] else s.ended
  added : t.added=s.added
  /-- The threads that are about to call `onDeregistered` are the same. -/
  owed : t.owed=s.owed
  releasedHandlers : t.releasedHandlers=s.releasedHandlers
  deregistered : t.deregistered=s.deregistered

variable {getConfiguration}

theorem lookup_of_canRemove (hcan : s.canRemove getConfiguration handler=true)
    (hpolicy : policy∈(getConfiguration handler).lookup rule) :
    s.configuration.lookup rule=some ⟨handler,policy⟩ := by
  have hall := all_eq_true.mp hcan ⟨rule,policy⟩ (of_mem_dlookup hpolicy)
  exact of_decide_eq_true hall

theorem removed_removeDirectiveHandlerLocked (hbalanced : Balanced s) (hregistered : Registered getConfiguration s)
    (hcan : s.canRemove getConfiguration handler=true) :
    Removed getConfiguration handler s (s.removeDirectiveHandlerLocked getConfiguration handler).1 := by
  have hitems : ∀ item∈(getConfiguration handler).entries,
      s.configuration.lookup item.1=some ⟨handler,item.2⟩ := fun item hmem =>
    lookup_of_canRemove hcan (mem_dlookup (getConfiguration handler).nodupKeys hmem)
  obtain ⟨hbalance,hlength⟩ := balanced_foldl_removeRule (getConfiguration handler).entries s hbalanced
    (getConfiguration handler).nodupKeys hitems
  have hlookup := (local_removeRule handler).view_foldl (getConfiguration handler) s
  obtain ⟨configuration,counts,heq⟩ :=
    foldl_frame (removeRule handler) (fun _ _ => ⟨_,_,rfl⟩) (getConfiguration handler).entries s
  unfold removeDirectiveHandlerLocked
  rw [if_pos hcan]
  rw [heq] at hbalance hlength hlookup ⊢
  refine ⟨fun rule pair => ?_,hbalance,hlength,rfl,rfl,rfl,rfl,rfl,rfl⟩
  rw [hlookup rule]
  obtain hnone|⟨policy,hpolicy⟩ := eq_none_or_eq_some ((getConfiguration handler).lookup rule)
  · rw [hnone,elim_none]
    refine ⟨fun hpair => ⟨hpair,fun hself => ?_⟩,And.left⟩
    have hown := hregistered.own rule pair hpair
    rw [hself,hnone] at hown
    exact not_mem_none _ hown
  · rw [hpolicy,elim_some]
    refine ⟨fun hpair => (not_mem_none _ hpair).elim,fun hpair => ?_⟩
    have hrule := hpair.1
    rw [lookup_of_canRemove hcan hpolicy] at hrule
    exact (hpair.2 (congrArg HandlerAndPolicy.handler (mem_some.mp hrule)).symm).elim

theorem Removed.registered (h : Removed getConfiguration handler s t) (hregistered : Registered getConfiguration s) :
    Registered getConfiguration t where
  own rule pair hpair := hregistered.own rule pair ((h.lookup rule pair).mp hpair).1
  complete rule pair hpair second policy hpolicy := by
    obtain ⟨hbefore,hne⟩ := (h.lookup rule pair).mp hpair
    exact (h.lookup second _).mpr ⟨hregistered.complete rule pair hbefore second policy hpolicy,hne⟩

theorem Removed.rules_pos (h : Removed getConfiguration handler s t) :
    0<rules t other ↔ 0<rules s other ∧ other≠handler := by
  rw [HandlerReferences.rules_pos,HandlerReferences.rules_pos]
  constructor
  · rintro ⟨rule,pair,hpair,rfl⟩
    obtain ⟨hbefore,hne⟩ := (h.lookup rule pair).mp hpair
    exact ⟨⟨rule,pair,hbefore,rfl⟩,hne⟩
  · rintro ⟨⟨rule,pair,hpair,rfl⟩,hne⟩
    exact ⟨rule,pair,(h.lookup rule pair).mpr ⟨hpair,hne⟩,rfl⟩

theorem rules_of_canRemove (hcan : s.canRemove getConfiguration handler=true) :
    getConfiguration handler=∅ ∨ 0<rules s handler := by
  cases hentries : (getConfiguration handler).entries with
  | nil => exact .inl (ext hentries)
  | cons item =>
    have hmem : item∈(getConfiguration handler).entries := hentries ▸ mem_cons_self
    have hrule := lookup_of_canRemove hcan (mem_dlookup (getConfiguration handler).nodupKeys hmem)
    exact .inr (rules_pos.mpr ⟨item.1,_,hrule,rfl⟩)

section

variable (h : Registered getConfiguration s) (hrules : 0<rules s handler)
include h hrules

theorem Registered.canRemove : s.canRemove getConfiguration handler=true := by
  obtain ⟨rule,pair,hpair,rfl⟩ := rules_pos.mp hrules
  refine all_eq_true.mpr fun item hmem => decide_eq_true ?_
  exact h.complete rule pair hpair item.1 item.2 (mem_dlookup (getConfiguration pair.handler).nodupKeys hmem)

theorem Registered.entries_pos : 0<(getConfiguration handler).entries.length := by
  obtain ⟨rule,pair,hpair,rfl⟩ := rules_pos.mp hrules
  exact length_pos_of_mem (of_mem_dlookup (h.own rule pair hpair))

end

variable (getConfiguration)

/-- What holds of the router as long as only what is allowed happens. -/
structure Inv (s : Router η) : Prop where
  accounted : Accounted s
  registered : Registered getConfiguration s
  active : ∀ handler,0<rules s handler → Active s handler
  called : ∀ handler∈s.running,0<rules s handler
  /-- No call runs of a handler that is about to be told. -/
  waiting : ∀ handler,handler∈s.owed ∨ handler∈s.releasedHandlers → handler∉s.running

theorem inv_create : Inv getConfiguration (create : Router η) where
  accounted := ⟨fun _ => rfl,fun _ => rfl,fun _ => le_refl 0,fun _ hmem => (not_mem_nil hmem).elim⟩
  registered := ⟨fun _ _ hpair => (not_mem_none _ hpair).elim,fun _ _ hpair => (not_mem_none _ hpair).elim⟩
  active _ hrules := (lt_irrefl 0 hrules).elim
  called _ hmem := (not_mem_nil hmem).elim
  waiting _ _ := not_mem_nil

variable {getConfiguration}

/-- They are registered besides the other ones. -/
theorem lookup_addRules (hadd : s.canAdd getConfiguration handler=true) (rule : CapabilityTag)
    (pair : HandlerAndPolicy η) :
    pair∈((getConfiguration handler).entries.foldl (addRule handler) s).configuration.lookup rule ↔
      pair∈s.configuration.lookup rule ∨ ∃ policy∈(getConfiguration handler).lookup rule,pair=⟨handler,policy⟩ := by
  have hlookup := (local_addRule handler).view_foldl (getConfiguration handler) s rule
  rw [hlookup]
  obtain hnone|⟨policy,hpolicy⟩ := eq_none_or_eq_some ((getConfiguration handler).lookup rule)
  · rw [hnone,elim_none]
    refine ⟨.inl,fun h => h.elim id ?_⟩
    rintro ⟨policy,hpolicy,-⟩
    exact (not_mem_none _ hpolicy).elim
  · have hnew := lookup_of_canAdd hadd hpolicy
    rw [hpolicy,elim_some,hnew]
    constructor
    · exact fun h => .inr ⟨policy,rfl,(mem_some.mp h).symm⟩
    · rintro (h|⟨other,hother,rfl⟩)
      · exact (not_mem_none _ h).elim
      · rw [mem_some.mp hother]
        exact rfl

theorem count_single (hne : other≠handler) : [handler].count other=0 :=
  count_eq_zero_of_not_mem fun hmem => hne (mem_singleton.mp hmem)

theorem removeDirectiveHandlerLocked_true (hcan : s.canRemove getConfiguration handler=true) :
    (s.removeDirectiveHandlerLocked getConfiguration handler).2=true := by
  unfold removeDirectiveHandlerLocked
  rw [if_pos hcan]

theorem removeDirectiveHandlerLocked_false (hcan : ¬s.canRemove getConfiguration handler=true) :
    (s.removeDirectiveHandlerLocked getConfiguration handler).2=false := by
  unfold removeDirectiveHandlerLocked
  rw [if_neg hcan]

section

variable (h : Inv getConfiguration s)
include h

theorem inv_addDirectiveHandler (handler : Option η) :
    Inv getConfiguration (s.addDirectiveHandler getConfiguration handler).1 := by
  unfold addDirectiveHandler
  split
  · exact h
  next handler =>
    split
    · exact h
    · split
      next hadd =>
        have hnew : ∀ item∈(getConfiguration handler).entries,item.1∉s.configuration := fun item hmem =>
          lookup_eq_none.mp (lookup_of_canAdd hadd (mem_dlookup (getConfiguration handler).nodupKeys hmem))
        have hbalanced : Balanced ((getConfiguration handler).entries.foldl (addRule handler) s) :=
          balanced_foldl_addRule _ s h.accounted.balanced (getConfiguration handler).nodupKeys hnew
        have hlookup := lookup_addRules hadd
        obtain ⟨configuration,counts,heq⟩ :=
          foldl_frame (addRule handler) (fun _ _ => ⟨_,_,rfl⟩) (getConfiguration handler).entries s
        rw [heq] at hbalanced hlookup ⊢
        have hadded : ∀ other,(s.added++[handler]).count other=s.added.count other + [handler].count other :=
          fun other => count_append
        refine ⟨⟨hbalanced,h.accounted.once,fun other => ?_,h.accounted.idle⟩,⟨?_,?_⟩,?_,?_,h.waiting⟩
        · exact Nat.le_trans (h.accounted.ended other) (hadded other ▸ Nat.le_add_right _ _)
        · rintro rule pair hpair
          obtain hpair|⟨policy,hpolicy,rfl⟩ := (hlookup rule pair).mp hpair
          · exact h.registered.own rule pair hpair
          · exact hpolicy
        · intro rule pair hpair second policy hpolicy
          refine (hlookup second _).mpr ?_
          obtain hpair|⟨_,_,rfl⟩ := (hlookup rule pair).mp hpair
          · exact .inl (h.registered.complete rule pair hpair second policy hpolicy)
          · exact .inr ⟨policy,hpolicy,rfl⟩
        · intro other hrules
          obtain ⟨rule,pair,hpair,rfl⟩ := rules_pos.mp hrules
          unfold Active
          rw [hadded]
          obtain hpair|⟨policy,hpolicy,rfl⟩ := (hlookup rule pair).mp hpair
          · exact Nat.lt_add_right _ (h.active _ (rules_pos.mpr ⟨rule,pair,hpair,rfl⟩))
          · rw [count_singleton_self]
            exact Nat.lt_succ_of_le (h.accounted.ended handler)
        · intro other hmem
          obtain ⟨rule,pair,hpair,hpaired⟩ := rules_pos.mp (h.called other hmem)
          exact rules_pos.mpr ⟨rule,pair,(hlookup rule pair).mpr (.inl hpair),hpaired⟩
      · exact h

/-- A registration ends, and the handler is about to be told, by either way. -/
theorem Inv.removed (hremoved : Removed getConfiguration handler s t)
    (hactive : Active s handler) (hidle : handler∉s.running) {owed releasedHandlers : List η}
    (htold : owed++releasedHandlers=s.owed++[handler]++s.releasedHandlers ∨
      owed++releasedHandlers=s.owed++(s.releasedHandlers++[handler])) :
    Inv getConfiguration {t with owed := owed,releasedHandlers := releasedHandlers} := by
  have hregistered := hremoved.registered h.registered
  have hended : t.ended=s.ended++[handler] := hremoved.ended.trans (if_pos hactive)
  have htold' : ∀ other,owed.count other+releasedHandlers.count other =
      s.owed.count other+s.releasedHandlers.count other + [handler].count other := by
    intro other
    rw [←count_append]
    obtain htold|htold := htold
    · rw [htold,count_append,count_append]
      omega
    · rw [htold,count_append,count_append]
      omega
  have hcount : ∀ other,t.ended.count other=s.ended.count other + [handler].count other := fun other => by
    rw [hended,count_append]
  refine ⟨⟨hremoved.balanced,fun other => ?_,fun other => ?_,?_⟩,⟨hregistered.own,hregistered.complete⟩,?_,?_,?_⟩
  · have honce := h.accounted.once other
    have hnow := htold' other
    have hthen := hcount other
    dsimp only
    rw [hremoved.deregistered]
    omega
  · rw [hcount,hremoved.added]
    have hbefore := h.accounted.ended other
    rcases eq_or_ne other handler with rfl|hne
    · rw [count_singleton_self]
      exact hactive
    · rw [count_single hne]
      exact hbefore
  · rw [hremoved.deregistered]
    exact h.accounted.idle
  · intro other hrules
    obtain ⟨hbefore,hne⟩ := hremoved.rules_pos.mp hrules
    have hactive := h.active other hbefore
    unfold Active at hactive ⊢
    rw [hcount,hremoved.added,count_single hne]
    exact hactive
  · intro other hmem
    rw [hremoved.running] at hmem
    exact hremoved.rules_pos.mpr ⟨h.called other hmem,fun heq => hidle (heq ▸ hmem)⟩
  · intro other hmem
    rw [hremoved.running]
    have hone : other∈owed++releasedHandlers := mem_append.mpr hmem
    have hcases : other=handler ∨ other∈s.owed ∨ other∈s.releasedHandlers := by
      obtain htold|htold := htold
      · rw [htold] at hone
        simp only [mem_append,mem_singleton] at hone
        tauto
      · rw [htold] at hone
        simp only [mem_append,mem_singleton] at hone
        tauto
    obtain rfl|hmem := hcases
    · exact hidle
    · exact h.waiting other hmem

theorem inv_removeDirectiveHandler {handler : Option η}
    (hallowed : Allowed getConfiguration s (.removeDirectiveHandler handler)) :
    Inv getConfiguration (s.removeDirectiveHandler getConfiguration handler).1 := by
  unfold removeDirectiveHandler
  split
  · exact h
  next handler =>
    dsimp only
    by_cases hcan : s.canRemove getConfiguration handler=true
    · rw [if_pos (removeDirectiveHandlerLocked_true hcan)]
      have hremoved := removed_removeDirectiveHandlerLocked h.accounted.balanced h.registered hcan
      obtain ⟨hidle,hempty⟩ := hallowed handler rfl hcan
      have hactive : Active s handler := (rules_of_canRemove hcan).elim hempty (h.active handler)
      refine h.removed hremoved hactive hidle (.inl ?_)
      rw [hremoved.owed,hremoved.releasedHandlers]
    · rw [removeDirectiveHandlerLocked_false hcan]
      exact h

end

theorem rules_of_entries {entry : Σ _ : CapabilityTag,HandlerAndPolicy η}
    {entries : List (Σ _ : CapabilityTag,HandlerAndPolicy η)}
    (hentries : s.configuration.entries=entry::entries) : 0<rules s entry.2.handler := by
  have hmem : entry∈s.configuration.entries := hentries ▸ mem_cons_self
  exact rules_pos.mpr ⟨entry.1,entry.2,mem_dlookup s.configuration.nodupKeys hmem,rfl⟩

theorem inv_releaseHandlers :
    ∀ (n : ℕ) (s : Router η),Inv getConfiguration s → (∀ handler,0<rules s handler → handler∉s.running) →
      s.configuration.entries.length≤n → Inv getConfiguration (releaseHandlers getConfiguration n s) ∧
          (releaseHandlers getConfiguration n s).configuration=∅ := by
  intro n
  induction n with
  | zero => exact fun s h _ hlength => ⟨h,ext (eq_nil_of_length_eq_zero (le_zero.mp hlength))⟩
  | succ n ih =>
    intro s h hidle hlength
    unfold releaseHandlers
    split
    next hentries => exact ⟨h,ext hentries⟩
    next entry entries hentries =>
      have hrules := rules_of_entries hentries
      have hcan := h.registered.canRemove hrules
      have hremoved := removed_removeDirectiveHandlerLocked h.accounted.balanced h.registered hcan
      dsimp only
      rw [if_pos (removeDirectiveHandlerLocked_true hcan)]
      refine ih _ (h.removed hremoved (h.active _ hrules) (hidle _ hrules) (.inr ?_)) (fun other hother => ?_) ?_
      · rw [hremoved.owed,hremoved.releasedHandlers]
      · have hbefore := (hremoved.rules_pos.mp hother).1
        rw [hremoved.running]
        exact hidle other hbefore
      · have hfewer := hremoved.length
        have hsome := h.registered.entries_pos hrules
        dsimp only
        omega

section

variable (h : Inv getConfiguration s)
include h

theorem inv_doShutdown (hidle : ∀ handler,0<rules s handler → handler∉s.running) :
    Inv getConfiguration (s.doShutdown getConfiguration) := by
  obtain ⟨hinv,hempty⟩ := inv_releaseHandlers s.configuration.entries.length s h hidle (le_refl _)
  unfold doShutdown
  rw [←hempty]
  exact hinv

theorem inv_beginCall
    (hallowed : Allowed getConfiguration s (.beginCall directive)) : Inv getConfiguration (s.beginCall directive) := by
  unfold beginCall
  split
  · exact h
  next handler hhandler =>
    obtain ⟨howed,hreleased⟩ := hallowed handler hhandler
    have hrules : 0<rules s handler := rules_of_getHandlerLocked hhandler
    have hmore : ∀ other,(s.running++[handler]).count other = s.running.count other+if handler=other then 1 else 0 := by
      intro other
      rw [count_append,count_singleton]
      simp only [beq_iff_eq]
    refine ⟨⟨fun other => ?_,h.accounted.once,h.accounted.ended,h.accounted.idle⟩,
      ⟨h.registered.own,h.registered.complete⟩,h.active,fun other hmem => ?_,fun other hmem hrunning => ?_⟩
    · have hbefore := h.accounted.balanced other
      have hcount := countOf_increment s.handlerReferenceCounts handler other
      have hrunning := hmore other
      change countOf (increment s.handlerReferenceCounts handler) other =
        rules s other+(s.running++[handler]).count other
      omega
    · obtain hmem|hmem := mem_append.mp hmem
      · exact h.called other hmem
      · rw [mem_singleton.mp hmem]
        exact hrules
    · obtain hrunning|hrunning := mem_append.mp hrunning
      · exact h.waiting other hmem hrunning
      · obtain rfl := mem_singleton.mp hrunning
        exact hmem.elim howed hreleased

/-- Its handler has rules still, so the count stays above zero. -/
theorem inv_endCall (hrunning : handler∈s.running) : Inv getConfiguration (s.endCall handler) := by
  have hcount := h.accounted.balanced handler
  have hrules := h.called handler hrunning
  have hone := count_pos_iff.mpr hrunning
  have hpos : 0<countOf s.handlerReferenceCounts handler := by omega
  have hlookup := lookup_of_countOf_pos hpos
  unfold endCall decrementHandlerReferenceCountLocked
  rw [hlookup]
  dsimp only
  rw [if_neg (by omega)]
  refine ⟨⟨fun other => ?_,h.accounted.once,h.accounted.ended,h.accounted.idle⟩,
    ⟨h.registered.own,h.registered.complete⟩,h.active,fun other hmem => h.called other (mem_of_mem_erase hmem),
    fun other hmem hrunning => h.waiting other hmem (mem_of_mem_erase hrunning)⟩
  have hbefore := h.accounted.balanced other
  have hless := countOf_decrement s.handlerReferenceCounts handler other
  change countOf (decrement s.handlerReferenceCounts handler) other=rules s other+(s.running.erase handler).count other
  rw [count_erase]
  simp only [beq_iff_eq]
  rcases eq_or_ne handler other with rfl|hne
  · rw [if_pos rfl] at hless ⊢
    omega
  · rw [if_neg hne] at hless ⊢
    omega

/-- A handler is told, by either way. None of its calls runs. -/
theorem Inv.told (handler : η) {owed releasedHandlers : List η}
    (htold : owed.count handler+1+releasedHandlers.count handler=s.owed.count handler+s.releasedHandlers.count handler)
    (hothers : ∀ other,other≠handler → owed.count other=s.owed.count other ∧
      releasedHandlers.count other=s.releasedHandlers.count other) :
    Inv getConfiguration ({s with owed := owed,releasedHandlers := releasedHandlers}.onDeregistered handler) := by
  have hwaiting : ∀ other,other∈owed ∨ other∈releasedHandlers → other∈s.owed ∨ other∈s.releasedHandlers := by
    intro other hmem
    rw [←count_pos_iff,←count_pos_iff] at hmem ⊢
    rcases eq_or_ne other handler with rfl|hne
    · omega
    · obtain ⟨howed,hreleased⟩ := hothers other hne
      omega
  have hidle : s.running.count handler=0 := by
    refine count_eq_zero_of_not_mem (h.waiting handler ?_)
    rw [←count_pos_iff,←count_pos_iff]
    omega
  refine ⟨⟨h.accounted.balanced,fun other => ?_,h.accounted.ended,fun call hmem => ?_⟩,
    ⟨h.registered.own,h.registered.complete⟩,h.active,h.called,fun other hmem => h.waiting other (hwaiting other hmem)⟩
  · have honce := h.accounted.once other
    unfold onDeregistered
    dsimp only
    rw [map_append,count_append,map_singleton]
    rcases eq_or_ne other handler with rfl|hne
    · rw [count_singleton_self]
      omega
    · obtain ⟨howed,hreleased⟩ := hothers other hne
      rw [count_single hne,howed,hreleased]
      exact honce
  · obtain hmem|hmem := mem_append.mp hmem
    · exact h.accounted.idle call hmem
    · rw [mem_singleton.mp hmem]
      exact hidle

theorem inv_step {event : Event η} (hstep : Step getConfiguration s event t)
    (hallowed : Allowed getConfiguration s event) : Inv getConfiguration t := by
  obtain ⟨hpossible,rfl⟩ := hstep
  cases event with
  | addDirectiveHandler handler => exact inv_addDirectiveHandler h handler
  | removeDirectiveHandler => exact inv_removeDirectiveHandler h hallowed
  | beginCall => exact inv_beginCall h hallowed
  | endCall => exact inv_endCall h hpossible
  | onDeregistered handler =>
    refine h.told handler ?_ fun other hne => ⟨count_erase_of_ne hne,rfl⟩
    have hone := count_pos_iff.mpr hpossible
    rw [count_erase_self]
    omega
  | shutdown =>
    unfold Router.next
    dsimp only
    split
    · exact h
    next hup =>
      have hinv := inv_doShutdown h fun handler hrules => by
        obtain ⟨rule,pair,hpair,rfl⟩ := rules_pos.mp hrules
        exact hallowed (Bool.eq_false_iff.mpr hup) rule pair hpair
      exact ⟨⟨hinv.accounted.balanced,hinv.accounted.once,hinv.accounted.ended,hinv.accounted.idle⟩,
        ⟨hinv.registered.own,hinv.registered.complete⟩,hinv.active,hinv.called,hinv.waiting⟩
  | releaseHandler =>
    unfold Router.next
    dsimp only
    split
    · exact h
    next handler rest hreleased =>
      refine h.told handler ?_ fun other hne => ⟨rfl,?_⟩
      · rw [hreleased,count_cons_self]
        omega
      · rw [hreleased,count_cons_of_ne hne.symm]
  | shutdownDone =>
    exact ⟨⟨h.accounted.balanced,h.accounted.once,h.accounted.ended,h.accounted.idle⟩,
      ⟨h.registered.own,h.registered.complete⟩,h.active,h.called,h.waiting⟩

end

variable (getConfiguration)

/-- They go wrong although only what is allowed happens from now on. -/
def Breaks (s : Router η) : Prop :=
  ∃ more u,Run (Guarded (Step getConfiguration) (Allowed getConfiguration)) s more u ∧ ¬Accounted u

variable {getConfiguration}

theorem not_accounted_onDeregistered (hrunning : handler∈s.running) : ¬Accounted (s.onDeregistered handler) := by
  intro h
  have hidle := h.idle (handler,s.running.count handler) (mem_append_right _ mem_cons_self)
  have hcount := count_pos_iff.mpr hrunning
  exact absurd hidle (by dsimp only; omega)

theorem breaks_of_owed (hrunning : handler∈s.running) (howed : handler∈s.owed) : Breaks getConfiguration s :=
  ⟨_,_,Run.refl.allow (step_next getConfiguration (.onDeregistered handler) howed) trivial,
    not_accounted_onDeregistered hrunning⟩

theorem breaks_of_released :
    ∀ (released : List η) (s : Router η),s.releasedHandlers=released → handler∈released → handler∈s.running →
      Breaks getConfiguration s := by
  intro released
  induction released with
  | nil => exact fun _ _ hmem _ => (not_mem_nil hmem).elim
  | cons first rest ih =>
    intro s hreleased hmem hrunning
    have hsome : s.releasedHandlers≠[] := by
      rw [hreleased]
      exact cons_ne_nil first rest
    have hstep := step_next getConfiguration (.releaseHandler : Event η) hsome
    have hnext : s.next getConfiguration .releaseHandler={s with releasedHandlers := rest}.onDeregistered first := by
      unfold Router.next
      rw [hreleased]
    rw [hnext] at hstep
    obtain rfl|hmem := mem_cons.mp hmem
    · exact ⟨_,_,Run.refl.allow hstep trivial,not_accounted_onDeregistered hrunning⟩
    · obtain ⟨more,u,hrun,hbroken⟩ := ih ({s with releasedHandlers := rest}.onDeregistered first) rfl hmem hrunning
      exact ⟨_,u,(Run.refl.allow hstep trivial).append hrun,hbroken⟩

/-- It does not end a call, and does not forget a handler. -/
theorem releaseHandlers_keep : ∀ (n : ℕ) (s : Router η),(releaseHandlers getConfiguration n s).running=s.running ∧
      ∀ handler∈s.releasedHandlers,handler∈(releaseHandlers getConfiguration n s).releasedHandlers := by
  intro n
  induction n with
  | zero => exact fun s => ⟨rfl,fun _ hmem => hmem⟩
  | succ n ih =>
    intro s
    unfold releaseHandlers
    split
    · exact ⟨rfl,fun _ hmem => hmem⟩
    next entry _ hentries =>
      have hkeep : (s.removeDirectiveHandlerLocked getConfiguration entry.2.handler).1.running=s.running ∧
          (s.removeDirectiveHandlerLocked getConfiguration entry.2.handler).1.releasedHandlers=s.releasedHandlers := by
        unfold removeDirectiveHandlerLocked
        split
        · obtain ⟨configuration,counts,heq⟩ :=
            foldl_frame (removeRule entry.2.handler) (fun _ _ => ⟨_,_,rfl⟩) (getConfiguration entry.2.handler).entries s
          rw [heq]
          exact ⟨rfl,rfl⟩
        · exact ⟨rfl,rfl⟩
      dsimp only
      split
      · obtain ⟨hrunning,hreleased⟩ := ih
          {(s.removeDirectiveHandlerLocked getConfiguration entry.2.handler).1 with
            releasedHandlers := (s.removeDirectiveHandlerLocked getConfiguration entry.2.handler).1.releasedHandlers ++
              [entry.2.handler]}
        refine ⟨hrunning.trans hkeep.1,fun handler hmem => hreleased handler (mem_append_left _ ?_)⟩
        rw [hkeep.2]
        exact hmem
      · obtain ⟨hrunning,hreleased⟩ := ih (s.removeDirectiveHandlerLocked getConfiguration entry.2.handler).1
        refine ⟨hrunning.trans hkeep.1,fun handler hmem => hreleased handler ?_⟩
        rw [hkeep.2]
        exact hmem

theorem releaseHandlers_released :
    ∀ (n : ℕ) (s : Router η),Balanced s → Registered getConfiguration s → s.configuration.entries.length≤n →
      ∀ handler,0<rules s handler → handler∈(releaseHandlers getConfiguration n s).releasedHandlers := by
  intro n
  induction n with
  | zero =>
    intro s _ _ hlength handler hrules
    obtain ⟨rule,pair,hpair,-⟩ := rules_pos.mp hrules
    have hmem := length_pos_of_mem (of_mem_dlookup hpair)
    omega
  | succ n ih =>
    intro s hbalanced hregistered hlength handler hrules
    unfold releaseHandlers
    split
    next hentries =>
      obtain ⟨rule,pair,hpair,-⟩ := rules_pos.mp hrules
      have hmem := of_mem_dlookup hpair
      exact (not_mem_nil (hentries ▸ hmem)).elim
    next entry entries hentries =>
      have hfirst := rules_of_entries hentries
      have hcan := hregistered.canRemove hfirst
      have hremoved := removed_removeDirectiveHandlerLocked hbalanced hregistered hcan
      dsimp only
      rw [if_pos (removeDirectiveHandlerLocked_true hcan)]
      rcases eq_or_ne handler entry.2.handler with rfl|hne
      · exact (releaseHandlers_keep n _).2 _ (mem_append_right _ mem_cons_self)
      · have hfewer := hremoved.length
        have hsome := hregistered.entries_pos hfirst
        have hstill := hremoved.registered hregistered
        exact ih {(s.removeDirectiveHandlerLocked getConfiguration entry.2.handler).1 with
            releasedHandlers := (s.removeDirectiveHandlerLocked getConfiguration entry.2.handler).1.releasedHandlers ++
              [entry.2.handler]} hremoved.balanced ⟨hstill.own,hstill.complete⟩ (by dsimp only; omega) handler
          (hremoved.rules_pos.mpr ⟨hrules,hne⟩)

/-- After a step that is not allowed the references go wrong. -/
theorem Inv.breaks (h : Inv getConfiguration s) {event : Event η} (hstep : Step getConfiguration s event t)
    (hnot : ¬Allowed getConfiguration s event) : Breaks getConfiguration t := by
  obtain ⟨hpossible,rfl⟩ := hstep
  cases event with
  | removeDirectiveHandler handler =>
    unfold Allowed at hnot
    push Not at hnot
    obtain ⟨removed,rfl,hcan,hbad⟩ := hnot
    have hnext : s.next getConfiguration (.removeDirectiveHandler (some removed)) =
        {(s.removeDirectiveHandlerLocked getConfiguration removed).1 with
          owed := (s.removeDirectiveHandlerLocked getConfiguration removed).1.owed++[removed]} := by
      unfold Router.next removeDirectiveHandler
      dsimp only
      rw [if_pos (removeDirectiveHandlerLocked_true hcan)]
    have hremoved := removed_removeDirectiveHandlerLocked h.accounted.balanced h.registered hcan
    rw [hnext]
    by_cases hrunning : removed∈s.running
    · have hstill : removed∈(s.removeDirectiveHandlerLocked getConfiguration removed).1.running :=
        hremoved.running ▸ hrunning
      exact breaks_of_owed hstill (mem_append_right _ mem_cons_self)
    · -- A handler without rules that was not added is told of the end of no registration.
      have hnever : ¬s.ended.count removed<s.added.count removed := (hbad hrunning).2
      refine ⟨[],_,.refl,fun hafter => ?_⟩
      have hbefore := h.accounted.once removed
      have hthen := hafter.once removed
      rw [hremoved.ended,if_neg hnever,hremoved.owed,hremoved.releasedHandlers,hremoved.deregistered,
        count_append,count_singleton_self] at hthen
      omega
  | shutdown =>
    unfold Allowed at hnot
    push Not at hnot
    obtain ⟨hup,rule,pair,hpair,hrunning⟩ := hnot
    have hreleased := releaseHandlers_released s.configuration.entries.length s h.accounted.balanced h.registered
      (le_refl _) pair.handler (rules_pos.mpr ⟨rule,pair,hpair,rfl⟩)
    have hkeep : (releaseHandlers getConfiguration s.configuration.entries.length s).running=s.running :=
      (releaseHandlers_keep s.configuration.entries.length s).1
    have hstill : pair.handler∈(releaseHandlers getConfiguration s.configuration.entries.length s).running :=
      hkeep ▸ hrunning
    unfold Router.next
    rw [hup]
    exact breaks_of_released _ _ rfl hreleased hstill
  | beginCall directive =>
    unfold Allowed at hnot
    push Not at hnot
    obtain ⟨called,hcalled,hbad⟩ := hnot
    have hnext : s.next getConfiguration (.beginCall directive) =
        {s.incrementHandlerReferenceCountLocked called with running := s.running++[called]} := by
      unfold Router.next beginCall
      dsimp only
      rw [mem_def.mp hcalled]
    rw [hnext]
    have hrunning : called∈s.running++[called] := mem_append_right _ mem_cons_self
    by_cases howed : called∈s.owed
    · exact breaks_of_owed hrunning howed
    · exact breaks_of_released _ _ rfl (hbad howed) hrunning
  | addDirectiveHandler | endCall | onDeregistered | releaseHandler | shutdownDone => exact (hnot trivial).elim

/-- In every run of allowed steps the references are as they should be; any other step that can follow breaks
them, then or after more allowed steps. -/
theorem references_accounted {trace : List (Event η)}
    (run : Run (Guarded (Step getConfiguration) (Allowed getConfiguration)) create trace s) :
    Accounted s ∧ ∀ event t,Step getConfiguration s event t → ¬Allowed getConfiguration s event →
      Breaks getConfiguration t := by
  have hinv : Inv getConfiguration s := run.invariant (Inv getConfiguration) (inv_create getConfiguration)
    fun _ _ _ h hstep => inv_step h hstep.2 hstep.1
  exact ⟨hinv.accounted,fun _ _ => hinv.breaks⟩

def lampRule : CapabilityTag := routingRulePerDirective "lamp" none "Alexa.PowerController" "TurnOn"

def lampConfiguration (_ : Unit) : AList fun _ : CapabilityTag => BlockingPolicy :=
  singleton lampRule ⟨false,true,false⟩

def turnOn : Directive := ⟨"Alexa.PowerController","TurnOn",some "lamp",""⟩

def registered : Router Unit := create.next lampConfiguration (.addDirectiveHandler (some ()))

def called : Router Unit := registered.next lampConfiguration (.beginCall turnOn)

def returned : Router Unit := called.next lampConfiguration (.endCall ())

/-- The handler is called, and removed when the call has ended. -/
theorem references_accounted_lamp :
    Accounted ((returned.next lampConfiguration (.removeDirectiveHandler (some ()))).next lampConfiguration
      (.onDeregistered ())) := by
  have hstart : Run (Guarded (Step lampConfiguration) (Allowed lampConfiguration)) create [] create := .refl
  have hadded := hstart.allow (step_next lampConfiguration (.addDirectiveHandler (some ())) rfl) trivial
  have hcalled := hadded.allow (step_next lampConfiguration (.beginCall turnOn) trivial)
    fun _ _ => ⟨by decide +revert,by decide +revert⟩
  have hreturned := hcalled.allow (step_next lampConfiguration (.endCall ()) (by decide)) trivial
  have hremoved := hreturned.allow (step_next lampConfiguration (.removeDirectiveHandler (some ())) trivial)
    fun _ _ _ => ⟨by decide +revert,fun hempty => absurd (congrArg entries hempty) (cons_ne_nil _ _)⟩
  exact (references_accounted (hremoved.allow (step_next lampConfiguration (.onDeregistered ()) (by decide)) trivial)).1

/-- The handler is told at once, and again when the call ends. -/
theorem removal_tells_running_handler :
    ∃ (trace : List (Event Unit)) (s : Router Unit),Run (Step lampConfiguration) create trace s ∧
      s.ended=[()] ∧ s.deregistered=[((),1),((),0)] ∧ ¬Accounted s := by
  have hstart : Run (Step lampConfiguration) create [] create := .refl
  have hadded := hstart.snoc (step_next lampConfiguration (.addDirectiveHandler (some ())) rfl)
  have hcalled := hadded.snoc (step_next lampConfiguration (.beginCall turnOn) trivial)
  have hremoved := hcalled.snoc (step_next lampConfiguration (.removeDirectiveHandler (some ())) trivial)
  have htold := hremoved.snoc (step_next lampConfiguration (.onDeregistered ()) (by decide))
  have hreturned := htold.snoc (step_next lampConfiguration (.endCall ()) (by decide))
  refine ⟨_,_,hreturned.snoc (step_next lampConfiguration (.onDeregistered ()) (by decide)),
    by decide,by decide,fun h => ?_⟩
  exact absurd (h.once ()) (by decide)

end AlexaClientSDK.HandlerReferences
