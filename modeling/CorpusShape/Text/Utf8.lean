/-!
# UTF-8

Texts as bytes and bytes as texts. Bytes that are no text are told apart by where the first broken sequence
starts and ends, and by what is wrong with it.
-/
namespace CorpusShape.Utf8

inductive Reason where
  | start
  | continuation
  | cutShort
deriving Repr, DecidableEq

/-- The first sequence of bytes that is no character: its bytes from `start` to `stop`. -/
structure Fault where
  byte : UInt8
  start : Nat
  stop : Nat
  reason : Reason
deriving Repr, DecidableEq

namespace Reason

def text : Reason → String
  | .start => "invalid start byte"
  | .continuation => "invalid continuation byte"
  | .cutShort => "unexpected end of data"

end Reason

namespace Fault

def hexByte (b : UInt8) : String :=
  let ds := Nat.toDigits 16 b.toNat
  String.ofList (List.replicate (2 - ds.length) '0' ++ ds)

def message (f : Fault) : String :=
  if f.stop == f.start + 1 then
    "'utf-8' codec can't decode byte 0x" ++ hexByte f.byte ++ " in position " ++ toString f.start ++ ": " ++
      f.reason.text
  else
    "'utf-8' codec can't decode bytes in position " ++ toString f.start ++ "-" ++ toString (f.stop - 1) ++ ": " ++
      f.reason.text

end Fault

def isContinuation (b : UInt8) : Bool := 0x80 ≤ b && b ≤ 0xbf

/-- Whether a byte may come second after the first: no longer form than needed, no surrogates, and nothing
above the last code point. -/
def isSecond (first second : UInt8) : Bool :=
  isContinuation second &&
    (if first == 0xe0 then 0xa0 ≤ second
    else if first == 0xed then second < 0xa0
    else if first == 0xf0 then 0x90 ≤ second
    else if first == 0xf4 then second < 0x90
    else true)

/-- The number of bytes of a sequence that starts with this byte. -/
def lengthOf? (b : UInt8) : Option Nat :=
  if b < 0x80 then some 1
  else if 0xc2 ≤ b && b < 0xe0 then some 2
  else if 0xe0 ≤ b && b < 0xf0 then some 3
  else if 0xf0 ≤ b && b ≤ 0xf4 then some 4
  else none

/-- How many of the bytes belong to the sequence that the first starts, up to the given length. -/
def validLength (first : UInt8) (length : Nat) (rest : List UInt8) : Nat :=
  match rest with
  | [] => 1
  | second :: more =>
    if isSecond first second then 2 + ((more.take (length - 2)).takeWhile isContinuation).length else 1

/-- The code point of a sequence. -/
def codePoint (first : UInt8) (length : Nat) (rest : List UInt8) : Nat :=
  let lead := match length with
    | 1 => first.toNat
    | 2 => first.toNat - 0xc0
    | 3 => first.toNat - 0xe0
    | _ => first.toNat - 0xf0
  (rest.take (length - 1)).foldl (fun n b => 64 * n + (b.toNat - 0x80)) lead

def decodeFrom : Nat → Nat → List Char → List UInt8 → Except Fault (List Char)
  | _, _, done, [] => .ok done.reverse
  | 0, _, done, _ => .ok done.reverse
  | fuel + 1, position, done, b :: rest =>
    match lengthOf? b with
    | none => .error ⟨b, position, position + 1, .start⟩
    | some 1 => decodeFrom fuel (position + 1) (Char.ofNat b.toNat :: done) rest
    | some length =>
      let valid := validLength b length rest
      if valid == length then
        decodeFrom fuel (position + length) (Char.ofNat (codePoint b length rest) :: done) (rest.drop (length - 1))
      else if rest.length + 1 == valid then .error ⟨b, position, position + valid, .cutShort⟩
      else .error ⟨b, position, position + valid, .continuation⟩

/-- The text that the bytes stand for. -/
def decode (bytes : List UInt8) : Except Fault String :=
  (decodeFrom (bytes.length + 1) 0 [] bytes).map String.ofList

/-- The bytes of a text. -/
def encode (s : String) : List UInt8 := s.toUTF8.toList

end CorpusShape.Utf8
