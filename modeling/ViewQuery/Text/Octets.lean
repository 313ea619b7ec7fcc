set_option autoImplicit false

namespace ViewQuery.Text

structure OctetRange where
  least : UInt8
  greatest : UInt8
  deriving DecidableEq

def OctetRange.contains (r : OctetRange) (b : UInt8) : Bool := r.least ≤ b && b ≤ r.greatest

def continuation : OctetRange := ⟨0x80, 0xbf⟩

-- Overlong forms, surrogates and code points above the last one are excluded by the second octet.
def following? (a : UInt8) : Option (List OctetRange) :=
  if a < 0x80 then some []
  else if a < 0xc2 then none
  else if a < 0xe0 then some [continuation]
  else if a = 0xe0 then some [⟨0xa0, 0xbf⟩, continuation]
  else if a = 0xed then some [⟨0x80, 0x9f⟩, continuation]
  else if a < 0xf0 then some [continuation, continuation]
  else if a = 0xf0 then some [⟨0x90, 0xbf⟩, continuation, continuation]
  else if a < 0xf4 then some [continuation, continuation, continuation]
  else if a = 0xf4 then some [⟨0x80, 0x8f⟩, continuation, continuation]
  else none

def fitting : List OctetRange → List UInt8 → List UInt8
  | r :: rs, b :: bs => if r.contains b then b :: fitting rs bs else []
  | _, _ => []

def leadingBits (a : UInt8) : Nat → Nat
  | 0 => a.toNat
  | 1 => a.toNat % 32
  | 2 => a.toNat % 16
  | _ => a.toNat % 8

def assemble (a : UInt8) (more : List UInt8) : Char :=
  Char.ofNat (more.foldl (fun n b => n * 64 + b.toNat % 64) (leadingBits a more.length))

inductive Piece where
  | char (c : Char)
  | broken
  -- the octets end too early
  | unfinished
  deriving DecidableEq

def piece (a : UInt8) (rest : List UInt8) : Piece × Nat :=
  match following? a with
  | none => (.broken, 0)
  | some ranges =>
    let fit := fitting ranges rest
    if fit.length = ranges.length then (.char (assemble a fit), fit.length)
    else if fit.length = rest.length then (.unfinished, fit.length)
    else (.broken, fit.length)

def replacement : Char := '\ufffd'

def Piece.shown : Piece → Char
  | .char c => c
  | _ => replacement

def piecesAfter : Nat → List UInt8 → List Piece
  | _, [] => []
  | n + 1, _ :: rest => piecesAfter n rest
  | 0, a :: rest => (piece a rest).1 :: piecesAfter (piece a rest).2 rest

def pieces (bs : List UInt8) : List Piece := piecesAfter 0 bs

def lossy (bs : List UInt8) : List Char := (pieces bs).map Piece.shown

structure OctetFault where
  index : Nat
  octets : Option Nat
  deriving DecidableEq

def faultAfter : Nat → Nat → List UInt8 → Option OctetFault
  | _, _, [] => none
  | index, n + 1, _ :: rest => faultAfter (index + 1) n rest
  | index, 0, a :: rest =>
    match piece a rest with
    | (.char _, n) => faultAfter (index + 1) n rest
    | (.broken, n) => some ⟨index, some (n + 1)⟩
    | (.unfinished, _) => some ⟨index, none⟩

def fault? (bs : List UInt8) : Option OctetFault := faultAfter 0 0 bs

def OctetFault.message (f : OctetFault) : String :=
  match f.octets with
  | some n =>
    "invalid utf-8 sequence of " ++ toString n ++ " bytes from index " ++ toString f.index
  | none => "incomplete utf-8 byte sequence from index " ++ toString f.index

def decode? (bs : List UInt8) : Option (List Char) :=
  match fault? bs with
  | some _ => none
  | none => some (lossy bs)

end ViewQuery.Text
