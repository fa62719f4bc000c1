import WebPush.Bytes
/-!
# AES-128 — the block cipher

A block is sixteen octets, column after column. Encryption adds the
first round key and then runs ten rounds of substitution, row shift,
column mixing and key addition; the last round does not mix.
-/

namespace WebPush.Aes128

/-- The substitution box: inversion in the field of 256 elements and an affine map. -/
def substitutionBox : Array UInt8 :=
  #[0x63, 0x7C, 0x77, 0x7B, 0xF2, 0x6B, 0x6F, 0xC5, 0x30, 0x01, 0x67, 0x2B, 0xFE, 0xD7, 0xAB, 0x76,
    0xCA, 0x82, 0xC9, 0x7D, 0xFA, 0x59, 0x47, 0xF0, 0xAD, 0xD4, 0xA2, 0xAF, 0x9C, 0xA4, 0x72, 0xC0,
    0xB7, 0xFD, 0x93, 0x26, 0x36, 0x3F, 0xF7, 0xCC, 0x34, 0xA5, 0xE5, 0xF1, 0x71, 0xD8, 0x31, 0x15,
    0x04, 0xC7, 0x23, 0xC3, 0x18, 0x96, 0x05, 0x9A, 0x07, 0x12, 0x80, 0xE2, 0xEB, 0x27, 0xB2, 0x75,
    0x09, 0x83, 0x2C, 0x1A, 0x1B, 0x6E, 0x5A, 0xA0, 0x52, 0x3B, 0xD6, 0xB3, 0x29, 0xE3, 0x2F, 0x84,
    0x53, 0xD1, 0x00, 0xED, 0x20, 0xFC, 0xB1, 0x5B, 0x6A, 0xCB, 0xBE, 0x39, 0x4A, 0x4C, 0x58, 0xCF,
    0xD0, 0xEF, 0xAA, 0xFB, 0x43, 0x4D, 0x33, 0x85, 0x45, 0xF9, 0x02, 0x7F, 0x50, 0x3C, 0x9F, 0xA8,
    0x51, 0xA3, 0x40, 0x8F, 0x92, 0x9D, 0x38, 0xF5, 0xBC, 0xB6, 0xDA, 0x21, 0x10, 0xFF, 0xF3, 0xD2,
    0xCD, 0x0C, 0x13, 0xEC, 0x5F, 0x97, 0x44, 0x17, 0xC4, 0xA7, 0x7E, 0x3D, 0x64, 0x5D, 0x19, 0x73,
    0x60, 0x81, 0x4F, 0xDC, 0x22, 0x2A, 0x90, 0x88, 0x46, 0xEE, 0xB8, 0x14, 0xDE, 0x5E, 0x0B, 0xDB,
    0xE0, 0x32, 0x3A, 0x0A, 0x49, 0x06, 0x24, 0x5C, 0xC2, 0xD3, 0xAC, 0x62, 0x91, 0x95, 0xE4, 0x79,
    0xE7, 0xC8, 0x37, 0x6D, 0x8D, 0xD5, 0x4E, 0xA9, 0x6C, 0x56, 0xF4, 0xEA, 0x65, 0x7A, 0xAE, 0x08,
    0xBA, 0x78, 0x25, 0x2E, 0x1C, 0xA6, 0xB4, 0xC6, 0xE8, 0xDD, 0x74, 0x1F, 0x4B, 0xBD, 0x8B, 0x8A,
    0x70, 0x3E, 0xB5, 0x66, 0x48, 0x03, 0xF6, 0x0E, 0x61, 0x35, 0x57, 0xB9, 0x86, 0xC1, 0x1D, 0x9E,
    0xE1, 0xF8, 0x98, 0x11, 0x69, 0xD9, 0x8E, 0x94, 0x9B, 0x1E, 0x87, 0xE9, 0xCE, 0x55, 0x28, 0xDF,
    0x8C, 0xA1, 0x89, 0x0D, 0xBF, 0xE6, 0x42, 0x68, 0x41, 0x99, 0x2D, 0x0F, 0xB0, 0x54, 0xBB, 0x16]

/-- The substitute of one octet. -/
def substitute (b : UInt8) : UInt8 := substitutionBox.getD b.toNat 0

/-- Twice an octet in the field. -/
def double (b : UInt8) : UInt8 := (b <<< 1) ^^^ (if b.toNat < 128 then 0 else 0x1B)

/-! ## Round keys -/

/-- The four columns of the next round key. -/
def nextColumns (constant : UInt8) : List Bytes → List Bytes
  | [c0, c1, c2, c3] =>
    let turned :=
      match c3 with
      | [p, q, r, s] => [substitute q ^^^ constant, substitute r, substitute s, substitute p]
      | _ => c3
    let d0 := Bytes.mask c0 turned
    let d1 := Bytes.mask c1 d0
    let d2 := Bytes.mask c2 d1
    [d0, d1, d2, Bytes.mask c3 d2]
  | columns => columns

/-- The round keys from a round on, given its columns and the constants that follow. -/
def roundKeysFrom (columns : List Bytes) : List UInt8 → List Bytes
  | [] => [columns.flatten]
  | constant :: rest => columns.flatten :: roundKeysFrom (nextColumns constant columns) rest

/-- The eleven round keys. -/
def roundKeys (key : Bytes) : List Bytes :=
  roundKeysFrom (Bytes.pieces 4 key) [0x01, 0x02, 0x04, 0x08, 0x10, 0x20, 0x40, 0x80, 0x1B, 0x36]

/-! ## Rounds -/

/-- Where each octet of a block comes from when row `r` turns left by `r` places. -/
def rowShift : List Nat := [0, 5, 10, 15, 4, 9, 14, 3, 8, 13, 2, 7, 12, 1, 6, 11]

/-- Rows turned, after the substitution of every octet. -/
def substituteAndShift (block : Bytes) : Bytes :=
  let octets := block.toArray
  rowShift.map fun i => substitute (octets.getD i 0)

/-- Every column multiplied by the mixing polynomial. -/
def mixColumns : Bytes → Bytes
  | p :: q :: r :: s :: rest =>
    let all := p ^^^ q ^^^ r ^^^ s
    (p ^^^ all ^^^ double (p ^^^ q)) :: (q ^^^ all ^^^ double (q ^^^ r)) ::
      (r ^^^ all ^^^ double (r ^^^ s)) :: (s ^^^ all ^^^ double (s ^^^ p)) :: mixColumns rest
  | short => short

/-- The rounds that are left, one for each key; the last does not mix. -/
def rounds (block : Bytes) : List Bytes → Bytes
  | [] => block
  | [last] => Bytes.mask (substituteAndShift block) last
  | key :: more => rounds (Bytes.mask (mixColumns (substituteAndShift block)) key) more

/-- A block under round keys. -/
def encryptWith (keys : List Bytes) (block : Bytes) : Bytes :=
  match keys with
  | [] => block
  | first :: more => rounds (Bytes.mask block first) more

end WebPush.Aes128
