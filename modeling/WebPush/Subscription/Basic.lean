import WebPush.Key.Codec
/-!
# Subscription — where to deliver, and whom to encrypt for

A browser hands out an endpoint, its public key and a secret of sixteen
octets. The key may be on any curve here; whether it can be encrypted
for is found out when something is.
-/

namespace WebPush

/-- A browser's push subscription. -/
structure Subscription where
  endpoint : String
  publicKey : PublicKey
  auth : Octets16
deriving DecidableEq

namespace Subscription

/-- The subscription of an endpoint with keys in encoded form. The text of
the secret is decoded first and its length checked last. -/
def ofKeys (endpoint : String) (publicKey auth : Encoded) : Except KeyError Subscription := do
  let secret ← auth.toBytes
  let P ← PublicKey.load (.encoded publicKey)
  let auth ← Octets16.ofSecret secret
  return ⟨endpoint, .p256 P, auth⟩

end Subscription

end WebPush
