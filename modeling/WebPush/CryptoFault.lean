/-!
# Crypto faults — what cryptography itself can refuse

Key agreement, sealing, opening and signing may each refuse their input
for reasons that say nothing about its form.
-/

namespace WebPush

/-- A refusal by a cryptographic operation. -/
inductive CryptoFault where
  | agreement
  | sealing
  | authentication
  | signing
deriving DecidableEq, Repr

/-- The wording of such a refusal. -/
def CryptoFault.message : CryptoFault → String
  | .agreement => "ECDH key agreement failed."
  | .sealing => "AES-GCM sealing failed."
  | .authentication => "AES-GCM authentication failed."
  | .signing => "ECDSA signing failed."

end WebPush
