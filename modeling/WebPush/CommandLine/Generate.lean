import WebPush.CommandLine.Parameter
import WebPush.Key.Codec
import WebPush.Vapid.Signer
/-!
# Command line — generating keys

The program draws a key pair and prints it as lines of a settings file,
with a contact if one is given.
-/

namespace WebPush.CommandLine

/-- How a program ended, and what it wrote. -/
structure Outcome where
  status : Nat
  output : String := ""
  errors : String := ""
deriving DecidableEq, Repr

namespace Generate

/-- The one parameter of the program. -/
def parameters : List Parameter := [{ name := "--subject" }]

/-- The lines that configure a sender with a key pair. -/
def settingLines (d : P256.Scalar) (subject : Option String) : List String :=
  ["VAPIDPUSH_VAPID_PUBLIC_KEY=" ++ Base64Url.encode d.publicPoint.toBytes,
    "VAPIDPUSH_VAPID_PRIVATE_KEY=" ++ Base64Url.encode d.toBytes] ++
    (subject.map ("VAPIDPUSH_VAPID_SUBJECT=" ++ ·)).toList

/-- Lines as a program writes them. -/
def unlines (lines : List String) : String := String.join (lines.map (· ++ "\n"))

/-- The outcome for the arguments of the program, and the entropy left. -/
def run (args : List String) (entropy : Entropy) : Except Stop Outcome × Entropy :=
  match parse parameters args with
  | .error stop => (.error stop, entropy)
  | .ok parsed =>
    let subject := (parsed.value? "--subject").filter (!·.isEmpty)
    if subject.all Vapid.isContact then
      let (d, entropy) := entropy.drawScalar
      (.ok { status := 0, output := unlines (settingLines d subject) }, entropy)
    else
      (.ok { status := 1, errors := "ERROR: --subject must start with 'mailto:' or 'https:'.\n" },
        entropy)

end Generate

end WebPush.CommandLine
