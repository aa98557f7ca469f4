set_option autoImplicit false

namespace ScriptSuite.Text.Utf8

structure Lead where
  bits : Nat
  following : Nat
  low : Nat
  high : Nat
deriving DecidableEq, Repr

def lead? (byte : UInt8) : Option Lead :=
  let n := byte.toNat
  if n < 0x80 then some ⟨n, 0, 0, 0⟩
  else if n < 0xC2 then none
  else if n < 0xE0 then some ⟨n - 0xC0, 1, 0x80, 0xBF⟩
  else if n = 0xE0 then some ⟨0, 2, 0xA0, 0xBF⟩
  else if n = 0xED then some ⟨0xD, 2, 0x80, 0x9F⟩
  else if n < 0xF0 then some ⟨n - 0xE0, 2, 0x80, 0xBF⟩
  else if n = 0xF0 then some ⟨0, 3, 0x90, 0xBF⟩
  else if n < 0xF4 then some ⟨n - 0xF0, 3, 0x80, 0xBF⟩
  else if n = 0xF4 then some ⟨4, 3, 0x80, 0x8F⟩
  else none

def continueFrom (bits : Nat) : Nat → Nat → Nat → List UInt8 → Option Nat × List UInt8
  | 0, _, _, bytes => (some bits, bytes)
  | _ + 1, _, _, [] => (none, [])
  | following + 1, low, high, byte :: rest =>
      let n := byte.toNat
      if low ≤ n && n ≤ high then continueFrom (bits * 64 + (n - 0x80)) following 0x80 0xBF rest
      else (none, byte :: rest)

def next (byte : UInt8) (rest : List UInt8) : Option Char × List UInt8 :=
  match lead? byte with
  | none => (none, rest)
  | some lead =>
      let (code, rest) := continueFrom lead.bits lead.following lead.low lead.high rest
      (code.map Char.ofNat, rest)

def readFrom : Nat → List UInt8 → List (Option Char)
  | 0, _ => []
  | _, [] => []
  | fuel + 1, byte :: rest =>
      let (c, rest) := next byte rest
      c :: readFrom fuel rest

def read (bytes : List UInt8) : List (Option Char) :=
  readFrom bytes.length bytes

def decode? (bytes : List UInt8) : Option String :=
  ((read bytes).mapM id).map String.ofList

def decodeLossy (bytes : List UInt8) : String :=
  String.ofList ((read bytes).map (·.getD '\uFFFD'))

def encode (text : String) : List UInt8 :=
  text.toUTF8.data.toList

end ScriptSuite.Text.Utf8
