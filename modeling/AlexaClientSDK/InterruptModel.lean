import AlexaClientSDK.FocusChannel

/-!
# The interrupt model

`InterruptModel` looks up how the activity of a channel is to mix with the foreground: by the name of the lower channel,
its content type, the name of the higher channel and its content type. What is not found is undefined.
-/

namespace AlexaClientSDK.InterruptModel

open FocusChannel

/-- A JSON value, as far as the configuration tells values apart. -/
inductive Value
  | object (members : List (String × Value))
  | string (text : String)
  | other

/-- `ConfigurationNode`: the members of an object, or nothing. -/
abbrev ConfigurationNode : Type := Option (List (String × Value))

/-- `FindMember`: the first member of that name. -/
def findMember (members : List (String × Value)) (key : String) : Option Value :=
  (members.find? fun member => member.1=key).map Prod.snd

/-- `operator[]`: the object of that name. -/
def ConfigurationNode.child (node : ConfigurationNode) (key : String) : ConfigurationNode :=
  match node with
  | none => none
  | some members =>
    match findMember members key with
    | some (.object members) => some members
    | _ => none

/-- `getString`, which fails on an empty key. -/
def ConfigurationNode.getString (node : ConfigurationNode) (key : String) : Option String :=
  match node with
  | none => none
  | some members =>
    if key = "" then none
    else
      match findMember members key with
      | some (.string text) => some text
      | _ => none

def contentTypeToString : ContentType → String
  | .mixable => "MIXABLE"
  | .nonmixable => "NONMIXABLE"
  | _ => "UNDEFINED"

def mixingBehaviorToString : MixingBehavior → String
  | .primary => "PRIMARY"
  | .mayDuck => "MAY_DUCK"
  | .mustPause => "MUST_PAUSE"
  | .mustStop => "MUST_STOP"
  | .undefined => "UNDEFINED"

/-- `avs::getMixingBehavior`. -/
def mixingBehaviorOf (input : String) : MixingBehavior :=
  if mixingBehaviorToString .primary=input then .primary
  else if mixingBehaviorToString .mayDuck=input then .mayDuck
  else if mixingBehaviorToString .mustPause=input then .mustPause
  else if mixingBehaviorToString .mustStop=input then .mustStop
  else .undefined

section

variable (interactionConfiguration : ConfigurationNode)

/-- `getMixingBehavior`, with its checks in the order of the source. -/
def getMixingBehavior (lowPrioChannel : String) (lowPrioContentType : ContentType) (highPrioChannel : String)
    (highPrioContentType : ContentType) : MixingBehavior :=
  let lowPrioChannelConfig := interactionConfiguration.child lowPrioChannel
  if lowPrioChannelConfig.isNone then .undefined
  else
    let lowPrioChannelInteractionConfig := lowPrioChannelConfig.child "contentType"
    if lowPrioChannelInteractionConfig.isNone then .undefined
    else
      let lowPrioChannelContentTypeConfig :=
        lowPrioChannelInteractionConfig.child (contentTypeToString lowPrioContentType)
      if lowPrioChannelContentTypeConfig.isNone then .undefined
      else
        let highPrioChannelConfigRoot := lowPrioChannelContentTypeConfig.child "incomingChannel"
        if highPrioChannelConfigRoot.isNone then .undefined
        else
          let highPrioChannelConfig := highPrioChannelConfigRoot.child highPrioChannel
          if highPrioChannelConfig.isNone then .undefined
          else
            let highPrioChannelContentTypeRoot := highPrioChannelConfig.child "incomingContentType"
            if highPrioChannelContentTypeRoot.isNone then .undefined
            else
              match highPrioChannelContentTypeRoot.getString
                  (contentTypeToString highPrioContentType) with
              | none => .undefined
              | some retMixingBehaviorStr => mixingBehaviorOf retMixingBehaviorStr

/-- `create`, which refuses an empty configuration. -/
def create : Option (String → ContentType → String → ContentType → MixingBehavior) :=
  interactionConfiguration.map fun members => getMixingBehavior (some members)

end

end AlexaClientSDK.InterruptModel
