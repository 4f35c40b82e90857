import OpenDiameter.Parser.Attributes

/-!
The requests and answers of credit control, and the records that they are read to and written
from.
-/

namespace OpenDiameter.CreditControl

open OpenDiameter.Parser

def ccApplicationId : UInt32 := 4

def ccTypeInitialRequest : UInt32 := 1
def ccTypeUpdateRequest : UInt32 := 2
def ccTypeTerminationRequest : UInt32 := 3
def ccTypeEventRequest : UInt32 := 4

def ccActionDirectDebiting : UInt32 := 0
def ccActionRefundAccount : UInt32 := 1
def ccActionCheckBalance : UInt32 := 2
def ccActionPriceEnquiry : UInt32 := 3

def aaaSuccess : UInt32 := 2001
/-- `DIAMETER_CREDIT_LIMIT_REACHED` -/
def creditLimitReached : UInt32 := 4012

/-- The kinds of requests. -/
inductive CcRequest where
  | initial
  | update
  | termination
  | directDebiting
  | refundAccount
  | checkBalance
  | priceEnquiry
  deriving DecidableEq, Repr

/-- A CC-Request, with the AVPs that are looked at. -/
structure Ccr where
  authApplicationId : Option UInt32 := some ccApplicationId
  ccRequestType : Option UInt32
  ccRequestNumber : Option UInt32
  requestedAction : Option UInt32 := none
  deriving DecidableEq, Repr

/-- A CC-Answer, with the AVPs that are looked at or set. -/
structure Cca where
  resultCode : Option UInt32
  ccRequestType : Option UInt32
  ccRequestNumber : Option UInt32
  checkBalanceResult : Option UInt32 := none
  deriving DecidableEq, Repr

/-- `CCR_Data` -/
structure CcrData where
  ccRequestType : ScholarAttribute UInt32
  ccRequestNumber : ScholarAttribute UInt32
  requestedAction : ScholarAttribute UInt32
  deriving DecidableEq, Repr

/-- `CCA_Data` -/
structure CcaData where
  resultCode : ScholarAttribute UInt32
  ccRequestType : ScholarAttribute UInt32
  ccRequestNumber : ScholarAttribute UInt32
  checkBalanceResult : ScholarAttribute UInt32
  deriving DecidableEq, Repr

/-- The kind that the type and the action stand for. -/
def kindOf (ccRequestType requestedAction : UInt32) : Option CcRequest :=
  if ccRequestType = ccTypeInitialRequest then some .initial
  else if ccRequestType = ccTypeUpdateRequest then some .update
  else if ccRequestType = ccTypeTerminationRequest then some .termination
  else if ccRequestType = ccTypeEventRequest then
    if requestedAction = ccActionDirectDebiting then some .directDebiting
    else if requestedAction = ccActionRefundAccount then some .refundAccount
    else if requestedAction = ccActionCheckBalance then some .checkBalance
    else if requestedAction = ccActionPriceEnquiry then some .priceEnquiry
    else none
  else none

namespace CcrData

/-- The constructor. -/
def initial : CcrData := ⟨.unset, .unset, .unset⟩

def clear (own : CcrData) : CcrData :=
  ⟨own.ccRequestType.clear, own.ccRequestNumber.clear, own.requestedAction.clear⟩

/-- `CCR_Parser::parseRawToApp`, and whether it succeeds. -/
def parseRawToApp (own : CcrData) (msg : Ccr) : CcrData × Bool :=
  let own := own.clear
  if msg.authApplicationId.all (· = ccApplicationId) then
    ({ ccRequestType := own.ccRequestType.copyFrom msg.ccRequestType
       ccRequestNumber := own.ccRequestNumber.copyFrom msg.ccRequestNumber
       requestedAction := own.requestedAction.copyFrom msg.requestedAction }, true)
  else (own, false)

/-- `CCR_Parser::parseAppToRaw` of a record with the application id of credit control. -/
def parseAppToRaw (own : CcrData) : Ccr where
  ccRequestType := own.ccRequestType.avp
  ccRequestNumber := own.ccRequestNumber.avp
  requestedAction := own.requestedAction.avp

end CcrData

namespace CcaData

/-- The constructor. -/
def initial : CcaData := ⟨.unset, .unset, .unset, .unset⟩

/-- `CCA_Parser::parseRawToApp` -/
def parseRawToApp (own : CcaData) (msg : Cca) : CcaData where
  resultCode := own.resultCode.clear.copyFrom msg.resultCode
  ccRequestType := own.ccRequestType.clear.copyFrom msg.ccRequestType
  ccRequestNumber := own.ccRequestNumber.clear.copyFrom msg.ccRequestNumber
  checkBalanceResult := own.checkBalanceResult.clear.copyFrom msg.checkBalanceResult

/-- `CCA_Parser::parseAppToRaw` -/
def parseAppToRaw (own : CcaData) : Cca where
  resultCode := own.resultCode.avp
  ccRequestType := own.ccRequestType.avp
  ccRequestNumber := own.ccRequestNumber.avp
  checkBalanceResult := own.checkBalanceResult.avp

end CcaData

end OpenDiameter.CreditControl
