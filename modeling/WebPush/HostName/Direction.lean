import WebPush.HostName.Mark
/-!
# Host names — direction of writing

A label with letters that run from right to left, or with the digits
that go with them, is one that a reader can make out only if it begins
with such a letter, ends with such a letter or a digit, holds no letter
of the other direction, and keeps to one kind of digits. Positions in a
label count from one.
-/

namespace WebPush.HostName

/-- Which way a character runs. -/
inductive Direction where
  | leftToRight
  | rightToLeft
  | europeanNumber
  | arabicNumber
  | neutral
  /-- A mark, which runs as the letter before it. -/
  | nonspacing
deriving DecidableEq, Repr

/-- First and last code point of each run of letters from right to left. -/
def rightToLeftRuns : List (Nat × Nat) :=
  [(0x5D0, 0x5EA), (0x5EF, 0x5F4), (0x620, 0x63F), (0x641, 0x64A), (0x66E, 0x66F), (0x671, 0x674),
   (0x679, 0x6D3), (0x6D5, 0x6D5), (0x6E5, 0x6E6), (0x6EE, 0x6EF), (0x6FA, 0x6FF), (0x710, 0x710),
   (0x712, 0x72F), (0x74D, 0x7A5), (0x7B1, 0x7B1), (0x7C0, 0x7EA), (0x7F4, 0x7F5), (0x800, 0x815),
   (0x81A, 0x81A), (0x824, 0x824), (0x828, 0x828), (0x840, 0x858), (0x860, 0x86A), (0x870, 0x887),
   (0x889, 0x88E), (0x8A0, 0x8C9), (0xFE73, 0xFE73), (0x10800, 0x10805), (0x10808, 0x10808),
   (0x1080A, 0x10835), (0x10837, 0x10838), (0x1083C, 0x1083C), (0x1083F, 0x10855),
   (0x10860, 0x10876), (0x10880, 0x1089E), (0x108E0, 0x108F2), (0x108F4, 0x108F5),
   (0x10900, 0x10915), (0x10920, 0x10939), (0x10980, 0x109B7), (0x109BE, 0x109BF),
   (0x10A00, 0x10A00), (0x10A10, 0x10A13), (0x10A15, 0x10A17), (0x10A19, 0x10A35),
   (0x10A60, 0x10A7C), (0x10A80, 0x10A9C), (0x10AC0, 0x10AC7), (0x10AC9, 0x10AE4),
   (0x10B00, 0x10B35), (0x10B40, 0x10B55), (0x10B60, 0x10B72), (0x10B80, 0x10B91),
   (0x10C00, 0x10C48), (0x10CC0, 0x10CF2), (0x10D00, 0x10D23), (0x10E80, 0x10EA9),
   (0x10EB0, 0x10EB1), (0x10F00, 0x10F1C), (0x10F27, 0x10F27), (0x10F30, 0x10F45),
   (0x10F70, 0x10F81), (0x10FB0, 0x10FC4), (0x10FE0, 0x10FF6), (0x1E800, 0x1E8C4),
   (0x1E922, 0x1E943), (0x1E94B, 0x1E94B), (0x1E950, 0x1E959)]

/-- First and last code point of each run of characters without direction. -/
def neutralRuns : List (Nat × Nat) :=
  [(0x2D, 0x2D), (0xB7, 0xB7), (0x2B9, 0x2BA), (0x2C6, 0x2CF), (0x2EC, 0x2EC), (0x375, 0x375),
   (0x200C, 0x200D), (0x2E2F, 0x2E2F), (0x30FB, 0x30FB), (0xA67F, 0xA67F), (0xA717, 0xA71F),
   (0xA788, 0xA788)]

/-- Nonspacing marks that run from left to right all the same. -/
def strongMarks : List Nat :=
  [0xCBF, 0xCC6, 0x11A07, 0x11A08, 0x11C3F]

/-- First and last code point of each run of letters that are too new for it
to be known which way they run. -/
def unknownRuns : List (Nat × Nat) :=
  [(0x88F, 0x88F), (0x897, 0x897), (0xC5C, 0xC5C), (0xCDC, 0xCDC), (0xCF3, 0xCF3), (0xECE, 0xECE),
   (0x1ACF, 0x1ADD), (0x1AE0, 0x1AEB), (0x1C8A, 0x1C8A), (0xA7CD, 0xA7CD), (0xA7CF, 0xA7CF),
   (0xA7DB, 0xA7DB), (0x105C0, 0x105F3), (0x10940, 0x10959), (0x10D40, 0x10D4F),
   (0x10D69, 0x10D6D), (0x10D6F, 0x10D85), (0x10EC2, 0x10EC7), (0x10EFA, 0x10EFF),
   (0x1123F, 0x11241), (0x11380, 0x11389), (0x1138B, 0x1138B), (0x1138E, 0x1138E),
   (0x11390, 0x113B5), (0x113B7, 0x113C0), (0x113C2, 0x113C2), (0x113C5, 0x113C5),
   (0x113C7, 0x113CA), (0x113CC, 0x113D3), (0x113E1, 0x113E2), (0x116D0, 0x116E3),
   (0x11B60, 0x11B67), (0x11BC0, 0x11BE0), (0x11BF0, 0x11BF9), (0x11DB0, 0x11DDB),
   (0x11DE0, 0x11DE9), (0x11F00, 0x11F10), (0x11F12, 0x11F3A), (0x11F3E, 0x11F42),
   (0x11F50, 0x11F5A), (0x1342F, 0x1342F), (0x13440, 0x13455), (0x13460, 0x143FA),
   (0x16100, 0x16139), (0x16D40, 0x16D6C), (0x16D70, 0x16D79), (0x16EBB, 0x16ED3),
   (0x16FF2, 0x16FF3), (0x187F8, 0x187FF), (0x18CFF, 0x18CFF), (0x18D09, 0x18D1E),
   (0x18D80, 0x18DF2), (0x1B132, 0x1B132), (0x1B155, 0x1B155), (0x1DF25, 0x1DF2A),
   (0x1E08F, 0x1E08F), (0x1E4D0, 0x1E4F9), (0x1E5D0, 0x1E5FA), (0x1E6C0, 0x1E6DE),
   (0x1E6E0, 0x1E6F5), (0x1E6FE, 0x1E6FF), (0x2B739, 0x2B73F), (0x2CEA2, 0x2CEAD),
   (0x2EBF0, 0x2EE5D), (0x31350, 0x33479)]

/-- It is known which way a character of a label runs. -/
def hasDirection (c : Char) : Bool := !Text.inRuns unknownRuns c

/-- Which way a character of a label runs. -/
def directionOf (c : Char) : Direction :=
  if Text.inRuns [(0x30, 0x39), (0x6F0, 0x6F9)] c then .europeanNumber
  else if Text.inRuns [(0x660, 0x669), (0x10D30, 0x10D39)] c then .arabicNumber
  else if Text.inRuns rightToLeftRuns c then .rightToLeft
  else if Text.inRuns neutralRuns c then .neutral
  else if isNonspacing c && !strongMarks.contains c.toNat then .nonspacing
  else .leftToRight

/-- A direction that makes a label one from right to left. -/
def Direction.isBackward (d : Direction) : Bool := d = .rightToLeft || d = .arabicNumber

/-- The direction of a digit. -/
def Direction.isNumber (d : Direction) : Bool := d = .europeanNumber || d = .arabicNumber

/-- Why the direction of a label cannot be made out. -/
inductive DirectionFault where
  | unknown (position : Nat)
  | start
  /-- A character runs against the label. -/
  | astray (position : Nat) (isLabelBackward : Bool)
  | mixedDigits
  | ending
deriving DecidableEq, Repr

/-- The first fault in the characters of a label from right to left. `digits`
is the kind of the digits met so far. -/
def scanBackward (digits : Option Direction) (position : Nat) :
    List Direction → Except DirectionFault Unit
  | [] => .ok ()
  | d :: rest =>
    if d = .leftToRight then .error (.astray position true)
    else if !d.isNumber then scanBackward digits (position + 1) rest
    else if digits.all (· = d) then scanBackward (some d) (position + 1) rest
    else .error .mixedDigits

/-- A label from right to left may end like this, marks apart. -/
def endsBackward (ds : List Direction) : Bool :=
  (ds.reverse.dropWhile (· = .nonspacing)).head?.any fun d => d.isBackward || d.isNumber

/-- The first place where a condition fails, counted from one. -/
def firstPosition? {α : Type} (fails : α → Bool) (xs : List α) : Option Nat :=
  (xs.findIdx? fails).map (· + 1)

/-- The first fault in the directions of a label in which some character runs backward. -/
def checkBackward (ds : List Direction) : Except DirectionFault Unit :=
  match ds.head? with
  | some .rightToLeft =>
    (scanBackward none 1 ds).bind fun _ => if endsBackward ds then .ok () else .error .ending
  | some .leftToRight => .error (.astray ((firstPosition? Direction.isBackward ds).getD 0) false)
  | _ => .error .start

/-- The direction of a label can be made out. -/
def checkDirection (cs : List Char) : Except DirectionFault Unit :=
  match firstPosition? (!hasDirection ·) cs with
  | some position => .error (.unknown position)
  | none =>
    let ds := cs.map directionOf
    if ds.any Direction.isBackward then checkBackward ds else .ok ()

end WebPush.HostName
