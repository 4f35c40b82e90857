import OpenDiameter.Transport.RxReassembly

namespace OpenDiameter.Transport

open Foundation OpenDiameter.Parser

/-!
Two ways of cutting one stream into chunks run the same receiver, so as long as
every pass keeps to the receiver the handler cannot tell them apart.
-/

/-- A watchdog request with the error bit set, 24 bytes long. -/
def rejectedFrame : List UInt8 :=
  [1, 0, 0, 24, 0xa0, 0, 1, 24, 0, 0, 0, 0, 0, 0, 0, 1, 0, 0, 0, 1, 0, 0, 0, 0]

def Callback.isMessage : Callback → Bool
  | .message _ => true
  | _ => false

end OpenDiameter.Transport
