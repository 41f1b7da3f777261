/- digest: Adapters, capabilities, continuity references, and provenance records. -/

import Ayo.Accounts.Repository
import Ayo.Kernel.StoredTexts

namespace Ayo.RequestAccess.Models

open Kernel.KeyedTable Kernel.StoredTexts Core.Values
open Accounts.Models (AccountLifecycle)

/-- `^[a-z][a-z0-9_.-]{1,126}$`. -/
def isCanonicalCode : String → Bool := isPattern Char.isLower isCodeChar 1 126

abbrev CanonicalCode := { text : String // isCanonicalCode text = true }

abbrev OpaqueReference := BoundedText 8 128

abbrev PositiveInt := { value : Int // 1 ≤ value }

def canonicalCode? (text : String) : Option CanonicalCode := refine? _ text

def opaqueReference? (text : String) : Option OpaqueReference := refine? _ text

def positiveInt? (value : Int) : Option PositiveInt := refine? _ value

inductive AccessChannel where
  | mobileApp
  | voiceAssistance
  | sms
  | ussd
  | businessPortal
  | supportTool
deriving DecidableEq

def AccessChannel.value : AccessChannel → String
  | .mobileApp => "mobile_app"
  | .voiceAssistance => "voice_assistance"
  | .sms => "sms"
  | .ussd => "ussd"
  | .businessPortal => "business_portal"
  | .supportTool => "support_tool"

instance : TextEnum AccessChannel where
  members := [.mobileApp, .voiceAssistance, .sms, .ussd, .businessPortal, .supportTool]
  value := AccessChannel.value
  mem_members := by rintro (_ | _ | _ | _ | _ | _) <;> decide
  value_injective := by rintro (_ | _ | _ | _ | _ | _) (_ | _ | _ | _ | _ | _) <;> decide

inductive InteractionMethod where
  | selfService
  | delegated
  | supportAssisted
  | automatedAssisted
deriving DecidableEq

def InteractionMethod.value : InteractionMethod → String
  | .selfService => "self_service"
  | .delegated => "delegated"
  | .supportAssisted => "support_assisted"
  | .automatedAssisted => "automated_assisted"

instance : TextEnum InteractionMethod where
  members := [.selfService, .delegated, .supportAssisted, .automatedAssisted]
  value := InteractionMethod.value
  mem_members := by rintro (_ | _ | _ | _) <;> decide
  value_injective := by rintro (_ | _ | _ | _) (_ | _ | _ | _) <;> decide

inductive ProvenancePurpose where
  | initiation
  | continuation
  | correction
  | legacyVerified
deriving DecidableEq

def ProvenancePurpose.value : ProvenancePurpose → String
  | .initiation => "initiation"
  | .continuation => "continuation"
  | .correction => "correction"
  | .legacyVerified => "legacy_verified"

instance : TextEnum ProvenancePurpose where
  members := [.initiation, .continuation, .correction, .legacyVerified]
  value := ProvenancePurpose.value
  mem_members := by rintro (_ | _ | _ | _) <;> decide
  value_injective := by rintro (_ | _ | _ | _) (_ | _ | _ | _) <;> decide

inductive DeviceCapabilityClass where
  | richScreen
  | limitedScreen
  | voiceOnly
  | textCapableBasicPhone
  | assistedChannel
  | unknown
deriving DecidableEq

def DeviceCapabilityClass.value : DeviceCapabilityClass → String
  | .richScreen => "rich_screen"
  | .limitedScreen => "limited_screen"
  | .voiceOnly => "voice_only"
  | .textCapableBasicPhone => "text_capable_basic_phone"
  | .assistedChannel => "assisted_channel"
  | .unknown => "unknown"

instance : TextEnum DeviceCapabilityClass where
  members := [.richScreen, .limitedScreen, .voiceOnly, .textCapableBasicPhone, .assistedChannel,
    .unknown]
  value := DeviceCapabilityClass.value
  mem_members := by rintro (_ | _ | _ | _ | _ | _) <;> decide
  value_injective := by rintro (_ | _ | _ | _ | _ | _) (_ | _ | _ | _ | _ | _) <;> decide

inductive CapabilityState where
  | supported
  | unsupported
  | assistedOnly
  | degraded
  | retired
deriving DecidableEq

def CapabilityState.value : CapabilityState → String
  | .supported => "supported"
  | .unsupported => "unsupported"
  | .assistedOnly => "assisted_only"
  | .degraded => "degraded"
  | .retired => "retired"

structure SourceAdapter where
  adapterId : Uuid
  adapterCode : CanonicalCode
  adapterVersion : PositiveInt
  channel : AccessChannel
  active : Bool
  createdAt : Instant

instance : Row SourceAdapter Uuid :=
  .keyedUnique SourceAdapter.adapterId fun adapter => (adapter.adapterCode, adapter.adapterVersion)

structure ChannelActionCapability where
  capabilityId : Uuid
  (targetDomain commandType : CanonicalCode)
  channel : AccessChannel
  adapterId : Uuid
  adapterVersion : PositiveInt
  state : CapabilityState
  effectiveFrom : Instant
  effectiveUntil : Option Instant
  version : PositiveInt
  (createdAt updatedAt : Instant)
  period : ∀ effectiveEnd ∈ effectiveUntil, effectiveFrom < effectiveEnd

/-- The columns of `uq_request_access_channel_capability`. -/
def ChannelActionCapability.name (capability : ChannelActionCapability) :
    CanonicalCode × CanonicalCode × AccessChannel × Uuid :=
  (capability.targetDomain, capability.commandType, capability.channel, capability.adapterId)

instance : Row ChannelActionCapability Uuid :=
  .keyedUnique ChannelActionCapability.capabilityId ChannelActionCapability.name

def ChannelActionCapability.SupportedAt (instant : Instant)
    (capability : ChannelActionCapability) : Prop :=
  capability.state = .supported ∧ capability.effectiveFrom ≤ instant ∧
    ∀ effectiveEnd ∈ capability.effectiveUntil, instant < effectiveEnd
deriving Decidable

structure ContinuityReference where
  continuityId : Uuid
  referenceHash : Digest
  (authenticatedAccountId actingSubjectId : Uuid)
  (targetDomain targetType : CanonicalCode)
  targetId : OpaqueReference
  (createdAt expiresAt : Instant)
  expiry : createdAt < expiresAt

instance : Row ContinuityReference Uuid :=
  .keyedUnique ContinuityReference.continuityId ContinuityReference.referenceHash

structure InteractionTerms where
  purpose : ProvenancePurpose
  (targetDomain targetType : CanonicalCode)
  targetId : OpaqueReference
  targetVersion : PositiveInt
  commandType : CanonicalCode
  channel : AccessChannel
  interactionMethod : InteractionMethod
  adapterId : Uuid
  adapterVersion : PositiveInt
  initiatingSubjectId : Option Uuid := none
  (authenticatedAccountId authenticatedSubjectId actingSubjectId : Uuid)
  requesterSubjectId : Option Uuid := none
  passengerSubjectId : Option Uuid := none
  delegatedAuthorityReference : Option OpaqueReference := none
  sponsorOrganizationId : Option Uuid := none
  supportAgentSubjectId : Option Uuid := none
  supportAgentAccountId : Option Uuid := none
  responseChannelPreference : Option AccessChannel := none
  interactionLanguageReference : Option CanonicalCode := none
  interfaceAccommodationReferences : List CanonicalCode := []
  deviceCapability : DeviceCapabilityClass := .unknown
  interactionReference : Option OpaqueReference := none
  continuityReference : Option OpaqueReference := none
  continuityId : Option Uuid := none
  supersedesProvenanceId : Option Uuid := none
  correctionClassification : Option CanonicalCode := none

namespace InteractionTerms

variable (terms : InteractionTerms)

def lineageObjection : Option String :=
  refuse (terms.purpose = .initiation ∧ (terms.continuityReference ≠ none ∨
      terms.continuityId ≠ none ∨ terms.supersedesProvenanceId ≠ none ∨
      terms.correctionClassification ≠ none))
    "Initiation cannot continue or correct prior evidence" <|
  refuse (terms.purpose = .continuation ∧ terms.continuityReference = none ∧
      terms.continuityId = none)
    "Continuation requires explicit continuity reference" <|
  refuse (terms.purpose = .continuation ∧ (terms.supersedesProvenanceId ≠ none ∨
      terms.correctionClassification ≠ none))
    "Continuation cannot supersede provenance" <|
  refuse (terms.purpose = .correction ∧ (terms.supersedesProvenanceId = none ∨
      terms.correctionClassification = none))
    "Correction requires superseded record and classification"
    none

def objection : Option String :=
  refuse (8 < terms.interfaceAccommodationReferences.length)
    "At most eight interface accommodations are permitted" <|
  refuse (¬ terms.interfaceAccommodationReferences.Nodup)
    "Interface accommodations must be unique" <|
  refuse (terms.interactionMethod = .delegated ∧ terms.delegatedAuthorityReference = none)
    "Delegated interaction requires authority reference" <|
  refuse (terms.interactionMethod ≠ .delegated ∧ terms.delegatedAuthorityReference ≠ none)
    "Authority reference is permitted only for delegation" <|
  refuse (terms.interactionMethod = .supportAssisted ∧
      (terms.supportAgentSubjectId = none ∨ terms.supportAgentAccountId = none))
    "Support-assisted interaction requires dual attribution" <|
  refuse (terms.interactionMethod ≠ .supportAssisted ∧
      (terms.supportAgentSubjectId ≠ none ∨ terms.supportAgentAccountId ≠ none))
    "Support identity is permitted only for assisted interaction"
    terms.lineageObjection

def SameTarget (first second : InteractionTerms) : Prop :=
  first.targetDomain = second.targetDomain ∧ first.targetType = second.targetType ∧
    first.targetId = second.targetId
deriving Decidable

end InteractionTerms

abbrev InteractionProvenanceEnvelope := { terms : InteractionTerms // terms.objection = none }

@[ext] structure InteractionProvenanceRecord extends InteractionTerms where
  provenanceId : Uuid
  schemaVersion : PositiveInt
  acceptedAt : Instant
  correlationId : Uuid
  causationId : Option Uuid
  (commandId requestId : Uuid)
  interactionIdempotencyKey : OpaqueReference
  valid : toInteractionTerms.objection = none

structure CanonicalAccount where
  (accountId subjectId : Uuid)
  state : AccountLifecycle

structure Directory where
  accounts : List CanonicalAccount
  subjects : List Uuid
  permissions : List (Uuid × String)

namespace Directory

variable (directory : Directory)

def account? (accountId : Uuid) : Option CanonicalAccount :=
  directory.accounts.find? fun account => decide (account.accountId = accountId)

def HasAccount (accountId : Uuid) : Prop :=
  (directory.account? accountId).isSome = true
deriving Decidable

def HasSubject (subjectId : Uuid) : Prop := subjectId ∈ directory.subjects
deriving Decidable

end Directory

def PositiveInt.one : PositiveInt := ⟨1, Int.le_refl 1⟩

def PositiveInt.next (version : PositiveInt) : PositiveInt :=
  ⟨version.1 + 1, by have := version.2; omega⟩

end Ayo.RequestAccess.Models
